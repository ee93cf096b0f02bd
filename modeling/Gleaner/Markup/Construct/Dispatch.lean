import Gleaner.Markup.Construct.Special

/-! One token through the rules: those of foreign content if the current element is not HTML, else
those of the current mode, again as long as a rule passes the token on. -/
namespace Gleaner.Markup.Builder

/-- The rules of the mode. -/
def inModeRules (b : Builder) (t : Token) : Outcome :=
  match b.mode with
  | .initial => b.onInitial t
  | .beforeHtml => b.onBeforeHtml t
  | .beforeHead => b.onBeforeHead t
  | .inHead => b.onHead t
  | .afterHead => b.onAfterHead t
  | .inBody => b.onBody t
  | .text => b.onText t
  | .inTable => b.onTable t
  | .inTableText => b.onTableText t
  | .inCaption => b.onCaption t
  | .inColumnGroup => b.onColumnGroup t
  | .inTableBody => b.onTableBody t
  | .inRow => b.onRow t
  | .inCell => b.onCell t
  | .inSelect => b.onSelect t
  | .inSelectInTable => b.onSelectInTable t
  | .inTemplate => b.onTemplate t
  | .afterBody => b.onAfterBody t
  | .inFrameset => b.onFrameset t
  | .afterFrameset => b.onAfterFrameset t
  | .afterAfterBody => b.onAfterAfterBody t
  | .afterAfterFrameset => b.onAfterAfterFrameset t

/-- The rules of foreign content apply to the token. Text and tags inside an integration point are
read as HTML. -/
def isForeign (b : Builder) (t : Token) : Bool :=
  if b.stack.isEmpty then false
  else
    let (space, name) := b.nameOf b.current
    if space == .html then false
    else
      let mathText := Names.isMathText space name
      let svgHtml := Names.isSvgHtml space name
      match t with
      | .eof => false
      | .char _ => !(mathText || svgHtml)
      | .startTag tag =>
          !((mathText && tag.name != "mglyph" && tag.name != "malignmark") || svgHtml ||
            (space == .mathml && name == "annotation-xml" && tag.name == "svg"))
      | _ => true

/-- Leaves foreign content for a tag that belongs to HTML. -/
def breakOut (b : Builder) (t : Token) : Outcome :=
  let b := b.popUntil fun n =>
    let (space, name) := b.nameOf n
    space == .html || Names.isMathText space name || Names.isSvgHtml space name
  b.inModeRules t

def breaksOut (t : Tag) : Bool :=
  Names.breakout.contains t.name ||
    (t.name == "font" && t.attributes.any fun a => ["color", "face", "size"].contains a.name)

def foreignStart (b : Builder) (t : Tag) : Builder :=
  b.startForeign t (t.nestedElement (b.nameOf b.current).1)

/-- Closes the nearest foreign element of the name; an HTML element on the way takes the tag over. -/
def foreignEnd (b : Builder) (t : Tag) (first : Bool) : List NodeId → Outcome
  | [] | [_] => b.done
  | n :: rest =>
      let (space, name) := b.nameOf n
      if !first && space == .html then b.inModeRules (.endTag t)
      else if Text.sameAsciiCaseless name t.name then { b with stack := rest }.done
      else b.foreignEnd t false rest

def onForeign (b : Builder) : Token → Outcome
  | .char c =>
      if c = '\x00' then (b.insertChar '\uFFFD').done
      else ((if Text.isSpace c then b else b.notFramesetOk).insertChar c).done
  | .comment s => (b.insertComment s).done
  | .startTag t => if breaksOut t then b.breakOut (.startTag t) else (b.foreignStart t).done
  | .endTag t =>
      if t.name = "br" ∨ t.name = "p" then b.breakOut (.endTag t)
      else b.foreignEnd t true b.stack
  | _ => b.done

def rules (b : Builder) (t : Token) : Outcome :=
  if b.isForeign t then b.onForeign t else b.inModeRules t

/-- Applies the rules until the token is finished with, at most `fuel` times. -/
def settle : Nat → Builder → Token → Builder
  | 0, b, _ => b
  | fuel + 1, b, t =>
      match b.rules t with
      | (b, .done) => b
      | (b, .again) => settle fuel b t

/-- Takes in one token. A token passes through a few modes, and through one more for each element that
it closes; a document type counts only at the very beginning. -/
def take (b : Builder) (t : Token) : Builder :=
  let skip := b.skipLineFeed
  let b := { b with skipLineFeed := false }
  match t with
  | .nameless => b
  | .doctype _ => if b.mode = .initial then settle 1 b t else b
  | .char c =>
      if skip && c == '\n' then b else settle (2 * b.stack.length + 32) b t
  | t => settle (2 * b.stack.length + 32) b t

end Gleaner.Markup.Builder
