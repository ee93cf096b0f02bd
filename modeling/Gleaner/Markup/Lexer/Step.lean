import Gleaner.Markup.Lexer.State

/-! The transitions of the lexer. `Lexer.step` consumes exactly one character; `Lexer.finish` gives
what the end of the text completes. A state that gives its character back to another state calls the
function of that state. -/
namespace Gleaner.Markup.Lexer

/-- The blanks of the tag grammar; carriage returns are gone before the lexer sees the text. -/
def isGap (c : Char) : Bool :=
  c == ' ' || c == '\n' || c == '\t' || c == '\x0C'

/-- The text of the raw content kinds, where only `<` (and in RCDATA `&`) is special. -/
def onRaw (l : Lexer) (k : Raw) (c : Char) : Move :=
  match k, c with
  | .rcdata, '&' => l.goto (.reference .rcdata .start)
  | .escaped, '-' => l.say (.escapedDash .escaped) ['-']
  | .doubleEscaped, '-' => l.say (.escapedDash .doubleEscaped) ['-']
  | .doubleEscaped, '<' => l.say (.rawLess .doubleEscaped) ['<']
  | k, '<' => l.goto (.rawLess k)
  | k, c => l.say (.raw k) [shown c]

def onData (l : Lexer) (c : Char) : Move :=
  if c = '&' then l.goto (.reference .text .start)
  else if c = '<' then l.goto .tagOpen
  else l.say .data [c]

/-! Attribute values. -/

def addToValue (l : Lexer) (cs : List Char) : Lexer :=
  { l with draft := { l.draft with
      attributeValue := cs.foldl String.push l.draft.attributeValue } }

def onValue (l : Lexer) (q : Quote) (c : Char) : Move :=
  match q, c with
  | .double, '"' => l.goto .afterValue
  | .single, '\'' => l.goto .afterValue
  | .bare, '>' => l.emitTag
  | q, c =>
      if c = '&' then l.goto (.reference (.value q) .start)
      else if q = .bare ∧ isGap c then l.goto .beforeAttribute
      else (l.addToValue [shown c]).goto (.value q)

/-! Character references. -/

/-- Puts the text of a reference (or the text that turned out to be none) where it stood. -/
def deliver (l : Lexer) (site : Site) (cs : List Char) : Move :=
  match site with
  | .text => l.say .data cs
  | .rcdata => l.say (.raw .rcdata) cs
  | .value q => (l.addToValue cs).goto (.value q)

def onSite (l : Lexer) (site : Site) (c : Char) : Move :=
  match site with
  | .text => l.onData c
  | .rcdata => l.onRaw .rcdata c
  | .value q => l.onValue q c

/-- Delivers `cs` and gives `c` back to the place of the reference. -/
def deliverThen (l : Lexer) (site : Site) (cs : List Char) (c : Char) : Move :=
  let (l, tokens) := l.deliver site cs
  let (l, more) := l.onSite site c
  (l, tokens ++ more)

/-- The text that a finished name stands for. A name without its semicolon inside an attribute value
stands for itself when `=`, a letter or a digit follows. -/
def nameText (site : Site) (read : String) (best : Option (Nat × String)) (next : Option Char) :
    List Char :=
  let whole := read.toList
  match best with
  | none => '&' :: whole
  | some (length, text) =>
      let rest := whole.drop length
      let follow := rest.head? <|> next
      let inValue := match site with | .value _ => true | _ => false
      let bareName := whole[length - 1]? != some ';'
      if inValue && bareName && follow.any (fun c => c == '=' || c.isAlphanum) then '&' :: whole
      else text.toList ++ rest

/-- The text that a reference has come to when nothing more belongs to it. -/
def partText (site : Site) (p : RefPart) (next : Option Char) : List Char :=
  match p with
  | .start => ['&']
  | .hash => ['&', '#']
  | .number marker _ none => '&' :: marker
  | .number _ _ (some n) => [Reference.character n]
  | .name read best => nameText site read best next

def digit? (base : Nat) (c : Char) : Option Nat :=
  if c.isDigit then some (c.toNat - '0'.toNat)
  else if base = 16 ∧ 'a' ≤ c ∧ c ≤ 'f' then some (c.toNat - 'a'.toNat + 10)
  else if base = 16 ∧ 'A' ≤ c ∧ c ≤ 'F' then some (c.toNat - 'A'.toNat + 10)
  else none

def onNumber (l : Lexer) (site : Site) (marker : List Char) (base : Nat) (value : Option Nat)
    (c : Char) : Move :=
  match digit? base c with
  | some d =>
      l.goto (.reference site (.number marker base (some (min (value.getD 0 * base + d) 0x110000))))
  | none =>
      let text := partText site (.number marker base value) (some c)
      if c = ';' ∧ value.isSome then l.deliver site text else l.deliverThen site text c

def onName (l : Lexer) (site : Site) (read : String) (best : Option (Nat × String)) (c : Char) :
    Move :=
  let longer := read.push c
  if Reference.begins longer then
    let best := match Reference.lookup longer with
      | some text => some (longer.length, text)
      | none => best
    l.goto (.reference site (.name longer best))
  else l.deliverThen site (nameText site read best (some c)) c

def onReference (l : Lexer) (site : Site) (p : RefPart) (c : Char) : Move :=
  match p with
  | .start =>
      if c = '#' then l.goto (.reference site .hash)
      else if c.isAlphanum then l.onName site "" none c
      else l.deliverThen site ['&'] c
  | .hash =>
      if c = 'x' ∨ c = 'X' then l.goto (.reference site (.number ['#', c] 16 none))
      else l.onNumber site ['#'] 10 none c
  | .number marker base value => l.onNumber site marker base value c
  | .name read best => l.onName site read best c

/-! Comments, including what is read as one for want of a better meaning. -/

def onBogusComment (l : Lexer) (c : Char) : Move :=
  if c = '>' then l.emitComment else (l.addToComment .bogusComment (shown c).toString, [])

def onComment (l : Lexer) (c : Char) : Move :=
  if c = '<' then (l.addToComment .commentLess "<", [])
  else if c = '-' then l.goto .commentEndDash
  else (l.addToComment .comment (shown c).toString, [])

def onCommentEndDash (l : Lexer) (c : Char) : Move :=
  if c = '-' then l.goto .commentEnd else (l.addToComment .comment "-").onComment c

def onCommentEnd (l : Lexer) (c : Char) : Move :=
  if c = '>' then l.emitComment
  else if c = '!' then l.goto .commentEndBang
  else if c = '-' then (l.addToComment .commentEnd "-", [])
  else (l.addToComment .comment "--").onComment c

def onCommentEndBang (l : Lexer) (c : Char) : Move :=
  if c = '>' then l.emitComment
  else if c = '-' then (l.addToComment .commentEndDash "--!", [])
  else (l.addToComment .comment "--!").onComment c

def onCommentStart (l : Lexer) (c : Char) : Move :=
  if c = '-' then l.goto .commentStartDash
  else if c = '>' then l.emitComment
  else l.onComment c

def onCommentStartDash (l : Lexer) (c : Char) : Move :=
  if c = '-' then l.goto .commentEnd
  else if c = '>' then l.emitComment
  else (l.addToComment .comment "-").onComment c

def onCommentLess (l : Lexer) (c : Char) : Move :=
  if c = '!' then (l.addToComment .commentLessBang "!", [])
  else if c = '<' then (l.addToComment .commentLess "<", [])
  else l.onComment c

/-! Tags. -/

def onBeforeAttribute (l : Lexer) (c : Char) : Move :=
  if isGap c then l.goto .beforeAttribute
  else if c = '/' then l.goto .selfClosing
  else if c = '>' then l.emitTag
  else { l with draft := l.draft.beginAttribute (shown c).toLower }.goto .attributeName

def onAttributeName (l : Lexer) (c : Char) : Move :=
  if isGap c then l.goto .afterAttributeName
  else if c = '/' then l.goto .selfClosing
  else if c = '=' then l.goto .beforeValue
  else if c = '>' then l.emitTag
  else
    let d := l.draft
    { l with draft := { d with attributeName := d.attributeName.push (shown c).toLower } }.goto
      .attributeName

def onAfterAttributeName (l : Lexer) (c : Char) : Move :=
  if isGap c then l.goto .afterAttributeName
  else if c = '=' then l.goto .beforeValue
  else l.onBeforeAttribute c

def onBeforeValue (l : Lexer) (c : Char) : Move :=
  if isGap c then l.goto .beforeValue
  else if c = '"' then l.goto (.value .double)
  else if c = '\'' then l.goto (.value .single)
  else l.onValue .bare c

def onAfterValue (l : Lexer) (c : Char) : Move :=
  l.onBeforeAttribute c

def onSelfClosing (l : Lexer) (c : Char) : Move :=
  if c = '>' then { l with draft := { l.draft with selfClosing := true } }.emitTag
  else l.onBeforeAttribute c

def onTagName (l : Lexer) (c : Char) : Move :=
  if isGap c then l.goto .beforeAttribute
  else if c = '/' then l.goto .selfClosing
  else if c = '>' then l.emitTag
  else
    { l with draft := { l.draft with name := l.draft.name.push (shown c).toLower } }.goto .tagName

def beginTag (l : Lexer) (closing : Bool) (c : Char) : Lexer :=
  { l with draft := { closing := closing, name := c.toLower.toString } }

def onTagOpen (l : Lexer) (c : Char) : Move :=
  if c = '!' then l.goto (.declaration "")
  else if c = '/' then l.goto .closeTagOpen
  else if c = '?' then l.onBogusComment c
  else if c.isAlpha then (l.beginTag false c).goto .tagName
  else preceded ['<'] (l.onData c)

def onCloseTagOpen (l : Lexer) (c : Char) : Move :=
  if c.isAlpha then (l.beginTag true c).goto .tagName
  else if c = '>' then ({ l with state := .data }, [.nameless])
  else l.onBogusComment c

/-! Tags inside raw content: only the end tag of the element that opened it counts. -/

def onRawLess (l : Lexer) (k : Raw) (c : Char) : Move :=
  match k with
  | .doubleEscaped =>
      if c = '/' then { l with buffer := "" }.say .doubleEscapeEnd ['/'] else l.onRaw k c
  | .escaped =>
      if c = '/' then { l with buffer := "" }.goto (.rawCloseOpen k)
      else if c.isAlpha then { l with buffer := c.toLower.toString }.say .doubleEscapeStart ['<', c]
      else preceded ['<'] (l.onRaw k c)
  | .script =>
      if c = '/' then { l with buffer := "" }.goto (.rawCloseOpen k)
      else if c = '!' then l.say .escapeStart ['<', '!']
      else preceded ['<'] (l.onRaw k c)
  | k =>
      if c = '/' then { l with buffer := "" }.goto (.rawCloseOpen k)
      else preceded ['<'] (l.onRaw k c)

def onRawCloseOpen (l : Lexer) (k : Raw) (c : Char) : Move :=
  if c.isAlpha then { l.beginTag true c with buffer := l.buffer.push c }.goto (.rawCloseName k)
  else preceded ['<', '/'] (l.onRaw k c)

def onRawCloseName (l : Lexer) (k : Raw) (c : Char) : Move :=
  if l.closesRaw && isGap c then { l with buffer := "" }.goto .beforeAttribute
  else if l.closesRaw && c == '/' then { l with buffer := "" }.goto .selfClosing
  else if l.closesRaw && c == '>' then { l with buffer := "" }.emitTag
  else if c.isAlpha then
    { l with draft := { l.draft with name := l.draft.name.push c.toLower },
             buffer := l.buffer.push c }.goto (.rawCloseName k)
  else
    preceded ('<' :: '/' :: l.buffer.toList) ({ l with draft := {}, buffer := "" }.onRaw k c)

/-! The comment-like levels of a script. -/

def onEscapeStart (l : Lexer) (c : Char) : Move :=
  if c = '-' then l.say .escapeStartDash ['-'] else l.onRaw .script c

def onEscapeStartDash (l : Lexer) (c : Char) : Move :=
  if c = '-' then l.say (.escapedDashDash .escaped) ['-'] else l.onRaw .script c

def onEscapedDash (l : Lexer) (k : Raw) (c : Char) : Move :=
  if c = '-' then l.say (.escapedDashDash k) ['-'] else l.onRaw k c

def onEscapedDashDash (l : Lexer) (k : Raw) (c : Char) : Move :=
  if c = '-' then l.say (.escapedDashDash k) ['-']
  else if c = '>' then l.say (.raw .script) ['>']
  else l.onRaw k c

/-- The word `script` after `<` or `</` switches between the two levels. -/
def onDoubleEscape (l : Lexer) (here : LexState) (word other : Raw) (c : Char) : Move :=
  if isGap c || c == '/' || c == '>' then
    l.say (.raw (if l.buffer == "script" then word else other)) [c]
  else if c.isAlpha then { l with buffer := l.buffer.push c.toLower }.say here [c]
  else l.onRaw other c

/-! Declarations: comments, document types and CDATA sections. -/

def onDeclaration (l : Lexer) (foreign : Bool) (seen : String) (c : Char) : Move :=
  let longer := seen.push c
  let lower := longer.map Char.toLower
  if longer == "--" then l.goto .commentStart
  else if lower == "doctype" then l.goto .doctype
  else if foreign && longer == "[CDATA[" then l.goto .cdata
  else if longer.isPrefixOf "--" || lower.isPrefixOf "doctype" ||
      (foreign && longer.isPrefixOf "[CDATA[") then
    l.goto (.declaration longer)
  else (l.addToComment .bogusComment seen).onBogusComment c

def asFaulty (l : Lexer) : Lexer :=
  { l with doctypeDraft := { l.doctypeDraft with faulty := true } }

def onBogusDoctype (l : Lexer) (c : Char) : Move :=
  if c = '>' then l.emitDoctype else l.goto .bogusDoctype

def nameDoctype (l : Lexer) (c : Char) : Move :=
  let d := l.doctypeDraft
  { l with doctypeDraft := { d with name := some ((d.name.getD "").push (shown c).toLower) } }.goto
    .doctypeName

def onBeforeDoctypeName (l : Lexer) (c : Char) : Move :=
  if isGap c then l.goto .beforeDoctypeName
  else if c = '>' then l.asFaulty.emitDoctype
  else l.nameDoctype c

def onDoctypeName (l : Lexer) (c : Char) : Move :=
  if isGap c then l.goto (.afterDoctypeName "")
  else if c = '>' then l.emitDoctype
  else l.nameDoctype c

def onAfterDoctypeName (l : Lexer) (seen : String) (c : Char) : Move :=
  let longer := seen.push c.toLower
  if seen.isEmpty && isGap c then l.goto (.afterDoctypeName "")
  else if seen.isEmpty && c == '>' then l.emitDoctype
  else if longer == "public" then l.goto (.afterKeyword .publicId)
  else if longer == "system" then l.goto (.afterKeyword .systemId)
  else if longer.isPrefixOf "public" || longer.isPrefixOf "system" then
    l.goto (.afterDoctypeName longer)
  else l.asFaulty.onBogusDoctype c

def setId (l : Lexer) (k : IdKind) (id : Option String) : Lexer :=
  match k with
  | .publicId => { l with doctypeDraft := { l.doctypeDraft with publicId := id } }
  | .systemId => { l with doctypeDraft := { l.doctypeDraft with systemId := id } }

def id? (l : Lexer) : IdKind → Option String
  | .publicId => l.doctypeDraft.publicId
  | .systemId => l.doctypeDraft.systemId

def beginId (l : Lexer) (k : IdKind) (quote : Char) : Move :=
  (l.setId k (some "")).goto (.identifier k quote)

def onBeforeId (l : Lexer) (k : IdKind) (c : Char) : Move :=
  if isGap c then l.goto (.beforeId k)
  else if c = '"' ∨ c = '\'' then l.beginId k c
  else if c = '>' then l.asFaulty.emitDoctype
  else l.asFaulty.onBogusDoctype c

def onIdentifier (l : Lexer) (k : IdKind) (quote c : Char) : Move :=
  if c = quote then l.goto (.afterId k)
  else if c = '>' then l.asFaulty.emitDoctype
  else (l.setId k (some (((l.id? k).getD "").push (shown c)))).goto (.identifier k quote)

def onBetweenIds (l : Lexer) (c : Char) : Move :=
  if isGap c then l.goto .betweenIds
  else if c = '>' then l.emitDoctype
  else if c = '"' ∨ c = '\'' then l.beginId .systemId c
  else l.asFaulty.onBogusDoctype c

def onAfterId (l : Lexer) (k : IdKind) (c : Char) : Move :=
  match k with
  | .publicId => l.onBetweenIds c
  | .systemId => if isGap c then l.goto (.afterId k) else l.onBogusDoctype c

/-! CDATA sections keep NUL. -/

def onCdata (l : Lexer) (c : Char) : Move :=
  if c = ']' then l.goto .cdataBracket else l.say .cdata [c]

def onCdataBracket (l : Lexer) (c : Char) : Move :=
  if c = ']' then l.goto .cdataEnd else preceded [']'] (l.onCdata c)

def onCdataEnd (l : Lexer) (c : Char) : Move :=
  if c = ']' then l.say .cdataEnd [']']
  else if c = '>' then l.goto .data
  else preceded [']', ']'] (l.onCdata c)

/-- Consumes one character; `foreign` says that the current element is not an HTML one. -/
def step (l : Lexer) (foreign : Bool) (c : Char) : Move :=
  match l.state with
  | .data => l.onData c
  | .plaintext => l.say .plaintext [shown c]
  | .raw k => l.onRaw k c
  | .rawLess k => l.onRawLess k c
  | .rawCloseOpen k => l.onRawCloseOpen k c
  | .rawCloseName k => l.onRawCloseName k c
  | .escapeStart => l.onEscapeStart c
  | .escapeStartDash => l.onEscapeStartDash c
  | .escapedDash k => l.onEscapedDash k c
  | .escapedDashDash k => l.onEscapedDashDash k c
  | .doubleEscapeStart => l.onDoubleEscape .doubleEscapeStart .doubleEscaped .escaped c
  | .doubleEscapeEnd => l.onDoubleEscape .doubleEscapeEnd .escaped .doubleEscaped c
  | .tagOpen => l.onTagOpen c
  | .closeTagOpen => l.onCloseTagOpen c
  | .tagName => l.onTagName c
  | .beforeAttribute => l.onBeforeAttribute c
  | .attributeName => l.onAttributeName c
  | .afterAttributeName => l.onAfterAttributeName c
  | .beforeValue => l.onBeforeValue c
  | .value q => l.onValue q c
  | .afterValue => l.onAfterValue c
  | .selfClosing => l.onSelfClosing c
  | .declaration seen => l.onDeclaration foreign seen c
  | .bogusComment => l.onBogusComment c
  | .commentStart => l.onCommentStart c
  | .commentStartDash => l.onCommentStartDash c
  | .comment => l.onComment c
  | .commentLess => l.onCommentLess c
  | .commentLessBang => if c = '-' then l.goto .commentLessBangDash else l.onComment c
  | .commentLessBangDash =>
      if c = '-' then l.goto .commentLessBangDashDash else l.onCommentEndDash c
  | .commentLessBangDashDash => l.onCommentEnd c
  | .commentEndDash => l.onCommentEndDash c
  | .commentEnd => l.onCommentEnd c
  | .commentEndBang => l.onCommentEndBang c
  | .doctype | .beforeDoctypeName => l.onBeforeDoctypeName c
  | .doctypeName => l.onDoctypeName c
  | .afterDoctypeName seen => l.onAfterDoctypeName seen c
  | .afterKeyword k | .beforeId k => l.onBeforeId k c
  | .identifier k quote => l.onIdentifier k quote c
  | .afterId k => l.onAfterId k c
  | .betweenIds => l.onBetweenIds c
  | .bogusDoctype => l.onBogusDoctype c
  | .cdata => l.onCdata c
  | .cdataBracket => l.onCdataBracket c
  | .cdataEnd => l.onCdataEnd c
  | .reference site part => l.onReference site part c

/-- What the end of the text completes, in front of the end itself. An unfinished tag is dropped. -/
def pending (l : Lexer) : List Token :=
  let text (cs : List Char) : List Token := cs.map .char
  match l.state with
  | .tagOpen => text ['<']
  | .closeTagOpen => text ['<', '/']
  | .rawLess .doubleEscaped => []
  | .rawLess _ => text ['<']
  | .rawCloseOpen _ => text ['<', '/']
  | .rawCloseName _ => text ('<' :: '/' :: l.buffer.toList)
  | .declaration seen => [.comment seen]
  | .bogusComment | .commentStart | .commentStartDash | .comment | .commentLess
  | .commentLessBang | .commentLessBangDash | .commentLessBangDashDash
  | .commentEndDash | .commentEnd | .commentEndBang => [.comment l.commentText]
  | .doctype | .beforeDoctypeName | .doctypeName | .afterDoctypeName _ | .afterKeyword _
  | .beforeId _ | .identifier _ _ | .afterId _ | .betweenIds => l.asFaulty.emitDoctype.2
  | .bogusDoctype => l.emitDoctype.2
  | .cdataBracket => text [']']
  | .cdataEnd => text [']', ']']
  | .reference site part => (l.deliver site (partText site part none)).2
  | _ => []

def finish (l : Lexer) : List Token :=
  l.pending ++ [.eof]

end Gleaner.Markup.Lexer
