import Gleaner.Markup.Construct.Insert

/-! Rules for the time up to the body: the root element, the head and what may stand in it. The rules
for head content are also used wherever such elements occur later. -/
namespace Gleaner.Markup.Builder

/-- A repeated `html` tag only adds attributes to the root, and none while a template is open. -/
def mergeRoot (b : Builder) (t : Tag) : Builder :=
  if b.hasOpen "template" then b else b.mergeAttributes b.htmlElement t

def startTemplate (b : Builder) (t : Tag) : Builder :=
  { (b.pushMarker.notFramesetOk.start t) with
    mode := .inTemplate, templateModes := .inTemplate :: b.templateModes }

/-- Leaves the innermost template. -/
def leaveTemplate (b : Builder) : Builder :=
  let b := (b.popThroughName "template").clearToMarker
  let b := { b with templateModes := b.templateModes.tail }
  b.inMode b.resetMode

def endTemplate (b : Builder) : Builder :=
  if b.hasOpen "template" then (b.closeImplied Names.impliedEndThorough).leaveTemplate else b

/-- The end of the text closes one open template after the other. -/
def templateEof (b : Builder) : Outcome :=
  if b.hasOpen "template" then
    let b := b.leaveTemplate
    b.again b.mode
  else b.done

/-- The end tags that matter before the body has begun. -/
def endsEarly (name : String) : Bool :=
  ["head", "body", "html", "br"].contains name

def onInitial (b : Builder) : Token → Outcome
  | .char c =>
      if Text.isSpace c then b.done else { b with documentMode := .legacy }.again .beforeHtml
  | .comment s => (b.appendComment Tree.root s).done
  | .doctype d =>
      { b.insertDoctype d with
        documentMode := DocumentMode.ofDoctype d, mode := .beforeHtml }.done
  | _ => { b with documentMode := .legacy }.again .beforeHtml

def onBeforeHtml (b : Builder) : Token → Outcome
  | .char c => if Text.isSpace c then b.done else (b.startRoot { name := "html" }).again .beforeHead
  | .comment s => (b.appendComment Tree.root s).done
  | .startTag t =>
      if t.name = "html" then ((b.startRoot t).inMode .beforeHead).done
      else (b.startRoot { name := "html" }).again .beforeHead
  | .endTag t =>
      if endsEarly t.name then (b.startRoot { name := "html" }).again .beforeHead else b.done
  | _ => (b.startRoot { name := "html" }).again .beforeHead

def startHead (b : Builder) (t : Tag) : Builder :=
  let (b, n) := b.openElement t.element
  { b with head := some n }

def onBeforeHead (b : Builder) : Token → Outcome
  | .char c => if Text.isSpace c then b.done else (b.startHead { name := "head" }).again .inHead
  | .comment s => (b.insertComment s).done
  | .startTag t =>
      if t.name = "html" then (b.mergeRoot t).done
      else if t.name = "head" then ((b.startHead t).inMode .inHead).done
      else (b.startHead { name := "head" }).again .inHead
  | .endTag t =>
      if endsEarly t.name then (b.startHead { name := "head" }).again .inHead else b.done
  | _ => (b.startHead { name := "head" }).again .inHead

def headStart (b : Builder) (t : Tag) : Outcome :=
  let n := t.name
  if n = "html" then (b.mergeRoot t).done
  else if ["base", "basefont", "bgsound", "link", "meta"].contains n then (b.startVoid t).done
  else if n = "title" then (b.startRaw t (.raw .rcdata)).done
  else if ["noframes", "style", "noscript"].contains n then (b.startRaw t (.raw .rawtext)).done
  else if n = "script" then (b.startRaw t (.raw .script)).done
  else if n = "template" then (b.startTemplate t).done
  else if n = "head" then b.done
  else b.pop.again .afterHead

def headEnd (b : Builder) (t : Tag) : Outcome :=
  let n := t.name
  if n = "head" then (b.pop.inMode .afterHead).done
  else if n = "template" then b.endTemplate.done
  else if endsEarly n then b.pop.again .afterHead
  else b.done

def onHead (b : Builder) : Token → Outcome
  | .char c => if Text.isSpace c then (b.insertChar c).done else b.pop.again .afterHead
  | .comment s => (b.insertComment s).done
  | .startTag t => b.headStart t
  | .endTag t => b.headEnd t
  | _ => b.pop.again .afterHead

/-- Head content after the head still goes into it. -/
def lateHeadStart (b : Builder) (t : Tag) : Outcome :=
  let head := b.head.getD b.htmlElement
  let (b, v) := { b with stack := head :: b.stack }.headStart t
  (b.removeFromStack head, v)

def afterHeadStart (b : Builder) (t : Tag) : Outcome :=
  let n := t.name
  if n = "html" then (b.mergeRoot t).done
  else if n = "body" then ((b.start t).notFramesetOk.inMode .inBody).done
  else if n = "frameset" then ((b.start t).inMode .inFrameset).done
  else if Names.headContent.contains n then b.lateHeadStart t
  else if n = "head" then b.done
  else (b.startImplied "body").again .inBody

def onAfterHead (b : Builder) : Token → Outcome
  | .char c =>
      if Text.isSpace c then (b.insertChar c).done else (b.startImplied "body").again .inBody
  | .comment s => (b.insertComment s).done
  | .startTag t => b.afterHeadStart t
  | .endTag t =>
      if t.name = "template" then b.endTemplate.done
      else if t.name = "head" ∨ !endsEarly t.name then b.done
      else (b.startImplied "body").again .inBody
  | _ => (b.startImplied "body").again .inBody

end Gleaner.Markup.Builder
