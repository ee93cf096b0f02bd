import Gleaner.Markup.Construct.Formatting
import Gleaner.Markup.Construct.Head
import Gleaner.Markup.Construct.ForeignNames

/-! The rules for the body of a document, which most other modes fall back on. -/
namespace Gleaner.Markup

/-- An input field that is not shown. -/
def Tag.isHidden (t : Tag) : Bool :=
  (t.attribute? "type").any (Text.sameAsciiCaseless · "hidden")

namespace Builder

/-- A further `body` tag only adds attributes. -/
def mergeBody (b : Builder) (t : Tag) : Builder :=
  match b.bodyElement? with
  | some n => if b.hasOpen "template" then b else b.notFramesetOk.mergeAttributes n t
  | none => b

/-- A frame set replaces a body that holds nothing visible yet. -/
def replaceBody (b : Builder) (t : Tag) : Builder :=
  match b.framesetOk, b.bodyElement? with
  | true, some n =>
      let b := { b with tree := b.tree.detach n, stack := [b.htmlElement] }
      (b.start t).inMode .inFrameset
  | _, _ => b

/-- The open item that a new list item closes: the nearest one, with only plain elements above. -/
def openItem? (b : Builder) (items : List String) : List NodeId → Option String
  | [] => none
  | n :: rest =>
      if b.isHtmlIn n items then some (b.nameOf n).2
      else if b.isSpecial n && !b.isHtmlIn n ["address", "div", "p"] then none
      else b.openItem? items rest

def startItem (b : Builder) (t : Tag) : Builder :=
  let items := if t.name = "li" then ["li"] else ["dd", "dt"]
  let b := b.notFramesetOk
  let b := match b.openItem? items b.stack with
    | some name => (b.closeImpliedExcept name).popThroughName name
    | none => b
  b.closeParagraphInScope.start t

def startForm (b : Builder) (t : Tag) : Builder :=
  let inTemplate := b.hasOpen "template"
  if b.form.isSome && !inTemplate then b
  else
    let (b, n) := b.closeParagraphInScope.openElement t.element
    if inTemplate then b else { b with form := some n }

def endForm (b : Builder) : Builder :=
  if b.hasOpen "template" then
    if b.inScope .default "form" then (b.closeImplied Names.impliedEnd).popThroughName "form" else b
  else
    match b.form with
    | none => b
    | some n =>
        let b := { b with form := none }
        if b.inScopeBy .default (· == n) then
          (b.closeImplied Names.impliedEnd).removeFromStack n
        else b

def startHeading (b : Builder) (t : Tag) : Builder :=
  let b := b.closeParagraphInScope
  (if b.currentIn Names.headings then b.pop else b).start t

def startButton (b : Builder) (t : Tag) : Builder :=
  let b :=
    if b.inScope .default "button" then
      (b.closeImplied Names.impliedEnd).popThroughName "button"
    else b
  (b.reconstruct.start t).notFramesetOk

def startNobr (b : Builder) (t : Tag) : Builder :=
  let b := b.reconstruct
  let b := if b.inScope .default "nobr" then (b.closeFormatting "nobr").reconstruct else b
  b.startFormatting t

def startSelect (b : Builder) (t : Tag) : Builder :=
  let inTable := [Mode.inTable, .inCaption, .inTableBody, .inRow, .inCell].contains b.mode
  (b.reconstruct.start t).notFramesetOk.inMode (if inTable then .inSelectInTable else .inSelect)

def startOption (b : Builder) (t : Tag) : Builder :=
  (if b.currentIs "option" then b.pop else b).reconstruct.start t

def startRuby (b : Builder) (t : Tag) (inside : List String) : Builder :=
  (if b.inScope .default "ruby" then b.closeImplied inside else b).start t

/-- Enters MathML or SVG. -/
def startForeign (b : Builder) (t : Tag) (e : Element) : Builder :=
  if t.selfClosing then (b.insertElement e).1 else (b.openElement e).1

/-- Elements without content. -/
def startBodyVoid (b : Builder) (t : Tag) : Builder :=
  let shown := !(t.name == "input" && t.isHidden)
  let b := b.reconstruct.startVoid t
  if shown then b.notFramesetOk else b

def bodyStart (b : Builder) (t : Tag) : Outcome :=
  let n := t.name
  if n = "html" then (b.mergeRoot t).done
  else if Names.headContent.contains n then b.headStart t
  else if n = "body" then (b.mergeBody t).done
  else if n = "frameset" then (b.replaceBody t).done
  else if Names.blocks.contains n then (b.closeParagraphInScope.start t).done
  else if Names.headings.contains n then (b.startHeading t).done
  else if n = "pre" ∨ n = "listing" then
    ({ b.closeParagraphInScope.start t with skipLineFeed := true }).notFramesetOk.done
  else if n = "form" then (b.startForm t).done
  else if n = "li" ∨ n = "dd" ∨ n = "dt" then (b.startItem t).done
  else if n = "plaintext" then
    ({ b.closeParagraphInScope.start t with lexerRequest := some .plaintext }).done
  else if n = "button" then (b.startButton t).done
  else if n = "a" then (b.closeOuterLink.reconstruct.startFormatting t).done
  else if Names.formatting.contains n then (b.reconstruct.startFormatting t).done
  else if n = "nobr" then (b.startNobr t).done
  else if n = "applet" ∨ n = "marquee" ∨ n = "object" then
    (b.reconstruct.start t).pushMarker.notFramesetOk.done
  else if n = "table" then
    let b := if b.documentMode = .legacy then b else b.closeParagraphInScope
    ((b.start t).notFramesetOk.inMode .inTable).done
  else if ["area", "br", "embed", "img", "keygen", "wbr", "input"].contains n then
    (b.startBodyVoid t).done
  else if n = "param" ∨ n = "source" ∨ n = "track" then (b.startVoid t).done
  else if n = "hr" then (b.closeParagraphInScope.startVoid t).notFramesetOk.done
  else if n = "image" then (b.startBodyVoid { t with name := "img" }).done
  else if n = "textarea" then
    ({ b.notFramesetOk with skipLineFeed := true }.startRaw t (.raw .rcdata)).done
  else if n = "xmp" then
    (b.closeParagraphInScope.reconstruct.notFramesetOk.startRaw t (.raw .rawtext)).done
  else if n = "iframe" then (b.notFramesetOk.startRaw t (.raw .rawtext)).done
  else if n = "noembed" ∨ n = "noscript" then (b.startRaw t (.raw .rawtext)).done
  else if n = "select" then (b.startSelect t).done
  else if n = "optgroup" ∨ n = "option" then (b.startOption t).done
  else if n = "rb" ∨ n = "rtc" then (b.startRuby t Names.impliedEnd).done
  else if n = "rp" ∨ n = "rt" then
    (b.startRuby t (Names.impliedEnd.filter (· != "rtc"))).done
  else if n = "math" then (b.startForeign t (t.foreignElement .mathml)).done
  else if n = "svg" then (b.startForeign t (t.foreignElement .svg)).done
  else if ["caption", "col", "colgroup", "frame", "head", "tbody", "td", "tfoot", "th", "thead",
      "tr"].contains n then b.done
  else (b.reconstruct.start t).done

/-- Ends the paragraph, an empty one if none is open. -/
def endParagraph (b : Builder) : Builder :=
  (if b.inScope .button "p" then b else b.startImplied "p").closeParagraph

/-- Ends a list item in its scope. -/
def endItem (b : Builder) (scope : Scope) (name : String) : Builder :=
  if b.inScope scope name then (b.closeImpliedExcept name).popThroughName name else b

def endBlock (b : Builder) (name : String) : Builder :=
  if b.inScope .default name then (b.closeImplied Names.impliedEnd).popThroughName name else b

/-- Any heading end tag closes the nearest heading. -/
def endHeading (b : Builder) : Builder :=
  if b.inScopeBy .default (b.isHtmlIn · Names.headings) then
    let b := b.closeImplied Names.impliedEnd
    b.popThrough (b.isHtmlIn · Names.headings)
  else b

def bodyEnd (b : Builder) (t : Tag) : Outcome :=
  let n := t.name
  if n = "template" then b.endTemplate.done
  else if n = "body" then (if b.inScope .default "body" then b.inMode .afterBody else b).done
  else if n = "html" then (if b.inScope .default "body" then b.again .afterBody else b.done)
  else if Names.blockEnds.contains n then (b.endBlock n).done
  else if n = "form" then b.endForm.done
  else if n = "p" then b.endParagraph.done
  else if n = "li" then (b.endItem .listItem n).done
  else if n = "dd" ∨ n = "dt" then (b.endItem .default n).done
  else if Names.headings.contains n then b.endHeading.done
  else if n = "a" ∨ n = "nobr" ∨ Names.formatting.contains n then (b.closeFormatting n).done
  else if n = "applet" ∨ n = "marquee" ∨ n = "object" then
    (if b.inScope .default n then (b.endBlock n).clearToMarker else b).done
  else if n = "br" then (b.startBodyVoid { name := "br" }).done
  else (b.closeGeneric n).done

/-- Text in the body; NUL is dropped. -/
def bodyChar (b : Builder) (c : Char) : Builder :=
  if c = '\x00' then b
  else
    let b := b.reconstruct
    let b := if Text.isSpace c then b else b.notFramesetOk
    b.insertChar c

def onBody (b : Builder) : Token → Outcome
  | .char c => (b.bodyChar c).done
  | .comment s => (b.insertComment s).done
  | .startTag t => b.bodyStart t
  | .endTag t => b.bodyEnd t
  | .doctype _ | .nameless => b.done
  | .eof => if b.templateModes.isEmpty then b.done else b.templateEof

/-- The element with raw content ends with it. -/
def onText (b : Builder) : Token → Outcome
  | .char c => (b.insertChar c).done
  | .endTag _ => (b.pop.inMode b.returnMode).done
  | .eof => b.pop.again b.returnMode
  | _ => b.done

end Builder

end Gleaner.Markup
