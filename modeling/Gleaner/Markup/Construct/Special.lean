import Gleaner.Markup.Construct.Table

/-! The rules inside `select`, templates and frame sets, and those after the end of the body. -/
namespace Gleaner.Markup.Builder

def popIf (b : Builder) (name : String) : Builder :=
  if b.currentIs name then b.pop else b

/-- Leaves `select` and gives the token to the mode around it. -/
def leaveSelect (b : Builder) : Builder :=
  let b := b.popThroughName "select"
  b.inMode b.resetMode

/-- The end of an option group also ends the option that stands directly in it. -/
def endOptionGroup (b : Builder) : Builder :=
  let b := match b.stack with
    | _ :: n :: _ => if b.currentIs "option" && b.isHtml n "optgroup" then b.pop else b
    | _ => b
  b.popIf "optgroup"

def selectStart (b : Builder) (t : Tag) : Outcome :=
  let n := t.name
  if n = "html" then (b.mergeRoot t).done
  else if n = "option" then ((b.popIf "option").start t).done
  else if n = "optgroup" then (((b.popIf "option").popIf "optgroup").start t).done
  else if n = "hr" then (((b.popIf "option").popIf "optgroup").startVoid t).done
  else if n = "select" then (if b.inScope .select "select" then b.leaveSelect else b).done
  else if n = "input" ∨ n = "keygen" ∨ n = "textarea" then
    if b.inScope .select "select" then
      let b := b.leaveSelect
      b.again b.mode
    else b.done
  else if n = "script" ∨ n = "template" then b.headStart t
  else b.done

def selectEnd (b : Builder) (t : Tag) : Outcome :=
  let n := t.name
  if n = "optgroup" then b.endOptionGroup.done
  else if n = "option" then (b.popIf "option").done
  else if n = "select" then (if b.inScope .select "select" then b.leaveSelect else b).done
  else if n = "template" then b.endTemplate.done
  else b.done

def onSelect (b : Builder) : Token → Outcome
  | .char c => (if c = '\x00' then b else b.insertChar c).done
  | .comment s => (b.insertComment s).done
  | .startTag t => b.selectStart t
  | .endTag t => b.selectEnd t
  | .doctype _ | .nameless => b.done
  | .eof => b.onBody .eof

/-- Tags that belong to a table around the `select`. -/
def tableTags : List String :=
  ["caption", "table", "tbody", "tfoot", "thead", "tr", "td", "th"]

def onSelectInTable (b : Builder) : Token → Outcome
  | .startTag t =>
      if tableTags.contains t.name then
        let b := b.leaveSelect
        b.again b.mode
      else b.selectStart t
  | .endTag t =>
      if tableTags.contains t.name then
        if b.inScope .table t.name then
          let b := b.leaveSelect
          b.again b.mode
        else b.done
      else b.selectEnd t
  | token => b.onSelect token

/-- Reads the rest of the template in the mode `m`. -/
def templateIn (b : Builder) (m : Mode) : Outcome :=
  { b with templateModes := m :: b.templateModes.tail }.again m

def onTemplate (b : Builder) : Token → Outcome
  | .char c => (b.bodyChar c).done
  | .comment s => (b.insertComment s).done
  | .startTag t =>
      let n := t.name
      if Names.headContent.contains n then b.headStart t
      else if n = "caption" ∨ n = "colgroup" ∨ Names.tableSections.contains n then
        b.templateIn .inTable
      else if n = "col" then b.templateIn .inColumnGroup
      else if n = "tr" then b.templateIn .inTableBody
      else if n = "td" ∨ n = "th" then b.templateIn .inRow
      else b.templateIn .inBody
  | .endTag t => (if t.name = "template" then b.endTemplate else b).done
  | .doctype _ | .nameless => b.done
  | .eof => b.templateEof

def onAfterBody (b : Builder) : Token → Outcome
  | .char c => if Text.isSpace c then (b.bodyChar c).done else b.again .inBody
  | .comment s => (b.appendComment b.htmlElement s).done
  | .startTag t => if t.name = "html" then (b.mergeRoot t).done else b.again .inBody
  | .endTag t => if t.name = "html" then (b.inMode .afterAfterBody).done else b.again .inBody
  | _ => b.done

def onAfterAfterBody (b : Builder) : Token → Outcome
  | .char c => if Text.isSpace c then (b.bodyChar c).done else b.again .inBody
  | .comment s => (b.appendComment Tree.root s).done
  | .startTag t => if t.name = "html" then (b.mergeRoot t).done else b.again .inBody
  | .endTag _ => b.again .inBody
  | _ => b.done

def onFrameset (b : Builder) : Token → Outcome
  | .char c => (if Text.isSpace c then b.insertChar c else b).done
  | .comment s => (b.insertComment s).done
  | .startTag t =>
      if t.name = "html" then (b.mergeRoot t).done
      else if t.name = "frameset" then (b.start t).done
      else if t.name = "frame" then (b.startVoid t).done
      else if t.name = "noframes" then b.headStart t
      else b.done
  | .endTag t =>
      if t.name = "frameset" ∧ b.stack.length ≠ 1 then
        let b := b.pop
        (if b.currentIs "frameset" then b else b.inMode .afterFrameset).done
      else b.done
  | _ => b.done

def onAfterFrameset (b : Builder) : Token → Outcome
  | .char c => (if Text.isSpace c then b.insertChar c else b).done
  | .comment s => (b.insertComment s).done
  | .startTag t =>
      if t.name = "html" then (b.mergeRoot t).done
      else if t.name = "noframes" then b.headStart t
      else b.done
  | .endTag t => (if t.name = "html" then b.inMode .afterAfterFrameset else b).done
  | _ => b.done

def onAfterAfterFrameset (b : Builder) : Token → Outcome
  | .char c => (if Text.isSpace c then b.bodyChar c else b).done
  | .comment s => (b.appendComment Tree.root s).done
  | .startTag t =>
      if t.name = "html" then (b.mergeRoot t).done
      else if t.name = "noframes" then b.headStart t
      else b.done
  | _ => b.done

end Gleaner.Markup.Builder
