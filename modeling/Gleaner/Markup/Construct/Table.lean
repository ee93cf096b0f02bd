import Gleaner.Markup.Construct.Body

/-! The rules inside tables: rows and cells are opened where a tag implies them, and whatever may not
stand in a table is put in front of it. -/
namespace Gleaner.Markup.Builder

def tableContext : List String := ["html", "table", "template"]

def sectionContext : List String := ["tbody", "tfoot", "thead", "template", "html"]

def rowContext : List String := ["tr", "template", "html"]

def cells : List String := ["td", "th"]

/-- Applies the body rules with new content going in front of the table. -/
def fosterInBody (b : Builder) (t : Token) : Outcome :=
  let (b, v) := { b with fosterParenting := true }.onBody t
  ({ b with fosterParenting := false }, v)

def tableChar (b : Builder) (c : Char) : Outcome :=
  if b.currentIn Names.fosterTargets then { b with returnMode := b.mode }.again .inTableText
  else b.fosterInBody (.char c)

def tableStart (b : Builder) (t : Tag) : Outcome :=
  let n := t.name
  if n = "caption" then
    (((b.popUntilIn tableContext).pushMarker.start t).inMode .inCaption).done
  else if n = "colgroup" then (((b.popUntilIn tableContext).start t).inMode .inColumnGroup).done
  else if n = "col" then ((b.popUntilIn tableContext).startImplied "colgroup").again .inColumnGroup
  else if Names.tableSections.contains n then
    (((b.popUntilIn tableContext).start t).inMode .inTableBody).done
  else if n = "td" ∨ n = "th" ∨ n = "tr" then
    ((b.popUntilIn tableContext).startImplied "tbody").again .inTableBody
  else if n = "table" then
    if b.inScope .table "table" then
      let b := b.popThroughName "table"
      b.again b.resetMode
    else b.done
  else if n = "style" ∨ n = "script" ∨ n = "template" then b.headStart t
  else if n = "input" ∧ t.isHidden then (b.startVoid t).done
  else if n = "form" then
    if b.form.isSome || b.hasOpen "template" then b.done
    else
      let (b, form) := b.insertElement t.element
      { b with form := some form }.done
  else b.fosterInBody (.startTag t)

def tableEnd (b : Builder) (t : Tag) : Outcome :=
  let n := t.name
  if n = "table" then
    if b.inScope .table "table" then
      let b := b.popThroughName "table"
      (b.inMode b.resetMode).done
    else b.done
  else if ["body", "caption", "col", "colgroup", "html", "tbody", "td", "tfoot", "th", "thead",
      "tr"].contains n then b.done
  else if n = "template" then b.endTemplate.done
  else b.fosterInBody (.endTag t)

def onTable (b : Builder) : Token → Outcome
  | .char c => b.tableChar c
  | .comment s => (b.insertComment s).done
  | .startTag t => b.tableStart t
  | .endTag t => b.tableEnd t
  | .doctype _ | .nameless => b.done
  | .eof => b.onBody .eof

/-- Puts the collected text into the table if it is blank, in front of the table otherwise. -/
def flushTableText (b : Builder) : Builder :=
  let text := b.tableText.reverse
  let b := { b with tableText := [] }
  if text.all Text.isSpace then text.foldl insertChar b
  else text.foldl (fun b c => (b.fosterInBody (.char c)).1) b

def onTableText (b : Builder) : Token → Outcome
  | .char c => (if c = '\x00' then b else { b with tableText := c :: b.tableText }).done
  | _ => b.flushTableText.again b.returnMode

def leaveCaption (b : Builder) : Builder :=
  ((b.closeImplied Names.impliedEnd).popThroughName "caption").clearToMarker

def onCaption (b : Builder) : Token → Outcome
  | .startTag t =>
      if ["caption", "col", "colgroup", "tbody", "td", "tfoot", "th", "thead",
          "tr"].contains t.name then
        if b.inScope .table "caption" then b.leaveCaption.again .inTable else b.done
      else b.bodyStart t
  | .endTag t =>
      if t.name = "table" then
        if b.inScope .table "caption" then b.leaveCaption.again .inTable else b.done
      else if t.name = "caption" then
        (if b.inScope .table "caption" then b.leaveCaption.inMode .inTable else b).done
      else if ["body", "col", "colgroup", "html", "tbody", "td", "tfoot", "th", "thead",
          "tr"].contains t.name then b.done
      else b.bodyEnd t
  | token => b.onBody token

/-- Anything that is no column ends the column group. -/
def leaveColumnGroup (b : Builder) : Outcome :=
  if b.currentIs "colgroup" then b.pop.again .inTable else b.done

def onColumnGroup (b : Builder) : Token → Outcome
  | .char c => if Text.isSpace c then (b.insertChar c).done else b.leaveColumnGroup
  | .comment s => (b.insertComment s).done
  | .startTag t =>
      if t.name = "html" then (b.mergeRoot t).done
      else if t.name = "col" then (b.startVoid t).done
      else if t.name = "template" then b.headStart t
      else b.leaveColumnGroup
  | .endTag t =>
      if t.name = "colgroup" then
        (if b.currentIs "colgroup" then b.pop.inMode .inTable else b).done
      else if t.name = "col" then b.done
      else if t.name = "template" then b.endTemplate.done
      else b.leaveColumnGroup
  | .doctype _ | .nameless => b.done
  | .eof => b.onBody .eof

def leaveSection (b : Builder) : Builder :=
  (b.popUntilIn sectionContext).pop

/-- A new part of the table, or its end, ends the section. -/
def sectionOutcome (b : Builder) : Outcome :=
  if b.inScopeBy .table (b.isHtmlIn · ["table", "tbody", "tfoot"]) then b.leaveSection.again .inTable
  else b.done

def onTableBody (b : Builder) : Token → Outcome
  | .startTag t =>
      let n := t.name
      if n = "tr" then (((b.popUntilIn sectionContext).start t).inMode .inRow).done
      else if n = "td" ∨ n = "th" then
        ((b.popUntilIn sectionContext).startImplied "tr").again .inRow
      else if ["caption", "col", "colgroup", "tbody", "tfoot", "thead"].contains n then
        b.sectionOutcome
      else b.tableStart t
  | .endTag t =>
      let n := t.name
      if Names.tableSections.contains n then
        (if b.inScope .table n then b.leaveSection.inMode .inTable else b).done
      else if n = "table" then b.sectionOutcome
      else if ["body", "caption", "col", "colgroup", "html", "td", "th", "tr"].contains n then b.done
      else b.tableEnd t
  | token => b.onTable token

def leaveRow (b : Builder) : Builder :=
  (b.popUntilIn rowContext).pop

def rowOutcome (b : Builder) : Outcome :=
  if b.inScope .table "tr" then b.leaveRow.again .inTableBody else b.done

def onRow (b : Builder) : Token → Outcome
  | .startTag t =>
      let n := t.name
      if n = "td" ∨ n = "th" then
        (((b.popUntilIn rowContext).start t).inMode .inCell).pushMarker.done
      else if ["caption", "col", "colgroup", "tbody", "tfoot", "thead", "tr"].contains n then
        b.rowOutcome
      else b.tableStart t
  | .endTag t =>
      let n := t.name
      if n = "tr" then (if b.inScope .table "tr" then b.leaveRow.inMode .inTableBody else b).done
      else if n = "table" then b.rowOutcome
      else if Names.tableSections.contains n then
        if b.inScope .table n then b.rowOutcome else b.done
      else if ["body", "caption", "col", "colgroup", "html", "td", "th"].contains n then b.done
      else b.tableEnd t
  | token => b.onTable token

def closeCell (b : Builder) : Builder :=
  let b := b.closeImplied Names.impliedEnd
  (b.popThrough (b.isHtmlIn · cells)).clearToMarker

def onCell (b : Builder) : Token → Outcome
  | .startTag t =>
      if ["caption", "col", "colgroup", "tbody", "td", "tfoot", "th", "thead",
          "tr"].contains t.name then
        if b.inScopeBy .table (b.isHtmlIn · cells) then b.closeCell.again .inRow else b.done
      else b.bodyStart t
  | .endTag t =>
      let n := t.name
      if cells.contains n then
        if b.inScope .table n then
          (((b.closeImplied Names.impliedEnd).popThroughName n).clearToMarker.inMode .inRow).done
        else b.done
      else if ["body", "caption", "col", "colgroup", "html"].contains n then b.done
      else if n = "table" ∨ n = "tr" ∨ Names.tableSections.contains n then
        if b.inScope .table n then b.closeCell.again .inRow else b.done
      else b.bodyEnd t
  | token => b.onBody token

end Gleaner.Markup.Builder
