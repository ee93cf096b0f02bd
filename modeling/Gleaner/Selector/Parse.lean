import Gleaner.Selector.Basic
import Gleaner.Selector.Fault
import Gleaner.Selector.Piece

/-! Reading selectors from pieces. A reader takes pieces away from the front; a fault leaves what it has
not taken, because inside `:is` and `:where` a faulty alternative only matches nothing, as long as no
broken token follows. -/
namespace Gleaner.Selector

abbrev Parser := EStateM Fault (List Piece)

namespace Parser

def fail {α : Type} (f : Fault) : Parser α := throw f

/-- The next token, blanks included. -/
def nextRaw : Parser Token := fun ps =>
  match ps with
  | [] => .error .ended []
  | p :: rest => .ok p.token rest

def skipBlanks : Parser Unit := fun ps =>
  .ok () (ps.dropWhile Piece.isBlank)

def next : Parser Token := do
  skipBlanks
  nextRaw

def atEnd : Parser Bool := fun ps => .ok ps.isEmpty ps

/-- Nothing but blanks is left. -/
def exhausted : Parser Unit := fun ps =>
  match ps.dropWhile Piece.isBlank with
  | [] => .ok () ps
  | p :: _ => .error (.unexpected p.token) ps

/-- Reads all of `content` with `r`, whatever is left outside of it. -/
def inside {α : Type} (content : List Piece) (r : Parser α) : Parser α := fun rest =>
  match (do
    let a ← r
    exhausted
    pure a : Parser α) content with
  | .ok a _ => .ok a rest
  | .error f _ => .error f rest

/-- The same letters A to Z up to case. -/
def sameWord (s word : String) : Bool := s.map Char.toLower == word

/-! Names with a namespace. Only the empty prefix and the star are known. -/

/-- The local name after a bar; none for a star. -/
def afterBar : Parser (Option String) := do
  match ← nextRaw with
  | .delim '*' => pure none
  | .ident n => pure (some n)
  | t => fail (.afterNamespace t)

def nameCondition : Option String → Simple
  | some n => .named n
  | none => .any

/-- The type of the element, if the compound begins with one. -/
def typeConditions : Parser (Option (List Simple)) := fun ps =>
  let qualified (before : List Simple) (rest : List Piece) :
      EStateM.Result Fault (List Piece) (Option (List Simple)) :=
    match afterBar rest with
    | .ok n rest => .ok (some (before ++ [nameCondition n])) rest
    | .error .ended rest => .ok none rest
    | .error f rest => .error f rest
  match ps with
  | .plain (.ident n) :: .plain (.delim '|') :: rest => .error (.unknownNamespace n) rest
  | .plain (.ident n) :: rest => .ok (some [.named n]) rest
  | .plain (.delim '*') :: .plain (.delim '|') :: rest => qualified [] rest
  | .plain (.delim '*') :: rest => .ok (some [.any]) rest
  | .plain (.delim '|') :: rest => qualified [.inNoNamespace] rest
  | ps => .ok none ps

/-! Conditions on attributes. -/

def attributeLocalName : Parser String := do
  match ← nextRaw with
  | .ident n => pure n
  | t => fail (.attributeLocalName t)

/-- The name of an attribute, and whether it may be in any namespace. -/
def attributeName : Parser (Bool × String) := fun ps =>
  match ps with
  | .plain (.ident n) :: .plain (.delim '|') :: rest => .error (.unknownNamespace n) rest
  | .plain (.ident n) :: rest => .ok (false, n) rest
  | .plain (.delim '*') :: .plain (.delim '|') :: rest =>
      (Prod.mk true <$> attributeLocalName) rest
  | [.plain (.delim '*')] => .error .ended []
  | .plain (.delim '*') :: p :: rest => .error (.attributeBar p.token) rest
  | .plain (.delim '|') :: rest => (Prod.mk false <$> attributeLocalName) rest
  | [] => .error .ended []
  | p :: rest => .error (.attributeName p.token) (p :: rest)

def attributeTest : Token → Option AttributeTest
  | .delim '=' => some .equals
  | .includes => some .includes
  | .dashes => some .dashes
  | .starts => some .starts
  | .ends => some .ends
  | .contains => some .contains
  | _ => none

/-- The letter after the value that says how case counts. -/
def caseRule (anySpace : Bool) (name : String) : Parser CaseRule := do
  skipBlanks
  if ← atEnd then
    pure (if !anySpace && caselessAttributes.contains (name.map Char.toLower) then .ignoredInHtml
      else .exact)
  else
    match ← next with
    | .ident n =>
        if sameWord n "i" then pure .ignored
        else if sameWord n "s" then pure .exact
        else fail (.unexpected (.ident n))
    | t => fail (.unexpected t)

def attributeValue : Parser String := do
  match ← next with
  | .ident s | .string s => pure s
  | t => fail (.attributeValue t)

/-- The inside of square brackets. -/
def attribute_ : Parser Simple := do
  skipBlanks
  let (anySpace, name) ← attributeName
  skipBlanks
  if ← atEnd then pure (.attribute ⟨anySpace, name, none⟩)
  else
    let t ← next
    match attributeTest t with
    | none => fail (.attributeOperator t)
    | some test =>
        let value ← attributeValue
        let rule ← caseRule anySpace name
        pure (.attribute ⟨anySpace, name, some (test, value, rule)⟩)

/-! Positions: `a * n + b` in its many spellings. -/

/-- A number without a sign, after a sign of its own. -/
def signlessOffset (a sign : Int) : Parser (Int × Int) := do
  let t ← next
  match t with
  | .number n =>
      match n.signed, n.int? with
      | false, some b => pure (a, sign * b)
      | _, _ => fail (.unexpected t)
  | t => fail (.unexpected t)

/-- The offset after `n`, zero if there is none. -/
def offset (a : Int) : Parser (Int × Int) := fun ps =>
  match ps.dropWhile Piece.isBlank with
  | .plain (.delim '+') :: rest => signlessOffset a 1 rest
  | .plain (.delim '-') :: rest => signlessOffset a (-1) rest
  | .plain (.number n) :: rest =>
      match n.signed, n.int? with
      | true, some b => .ok (a, b) rest
      | _, _ => .ok (a, 0) ps
  | _ => .ok (a, 0) ps

/-- The offset inside a name such as `n-3`. -/
def nameOffset? (name : List Char) : Option Int :=
  match name with
  | n :: '-' :: d :: rest =>
      if (n = 'n' ∨ n = 'N') ∧ (d :: rest).all Char.isDigit then
        ({ sign := some true, whole := (Lexer.digitsOf (d :: rest)).1 } : Numeral).int?
      else none
  | _ => none

/-- A name that begins with `n`, after the factor `a`. -/
def factored (a : Int) (name : String) (t : Token) : Parser (Int × Int) :=
  if sameWord name "n" then offset a
  else if sameWord name "n-" then signlessOffset a (-1)
  else
    match nameOffset? name.toList with
    | some b => pure (a, b)
    | none => fail (.unexpected t)

def position : Parser (Int × Int) := do
  let t ← next
  match t with
  | .number n =>
      match n.int? with
      | some b => pure (0, b)
      | none => fail (.unexpected t)
  | .dimension n unit =>
      match n.int? with
      | some a => factored a unit (.ident unit)
      | none => fail (.unexpected t)
  | .ident name =>
      if sameWord name "even" then pure (2, 0)
      else if sameWord name "odd" then pure (2, 1)
      else
        match name.toList with
        | '-' :: rest => factored (-1) (String.ofList rest) t
        | _ => factored 1 name t
  | .delim '+' =>
      let t ← nextRaw
      match t with
      | .ident name => factored 1 name t
      | t => fail (.unexpected t)
  | t => fail (.unexpected t)

def nth (fromEnd sameName : Bool) : Parser Simple := do
  let (a, b) ← position
  pure (.nth ⟨fromEnd, sameName, a, b⟩)

/-! Pseudo-classes. -/

def first (sameName : Bool) : Simple := .nth ⟨false, sameName, 0, 1⟩

def last (sameName : Bool) : Simple := .nth ⟨true, sameName, 0, 1⟩

/-- Pseudo-classes without arguments, as conditions. -/
def plainClass (name : String) : Option (List Simple) :=
  match name.map Char.toLower with
  | "first-child" => some [first false]
  | "last-child" => some [last false]
  | "only-child" => some [first false, last false]
  | "first-of-type" => some [first true]
  | "last-of-type" => some [last true]
  | "only-of-type" => some [first true, last true]
  | "root" => some [.root]
  | "empty" => some [.empty]
  | "scope" => some [.scope]
  | _ => none

/-- Names that are pseudo-elements even after a single colon. -/
def isElementName (name : String) : Bool :=
  ["before", "after", "first-line", "first-letter"].contains (name.map Char.toLower)

/-- Where a selector stands. -/
structure Place where
  /-- Inside another selector, where no pseudo-element may stand. -/
  nested : Bool := false
  /-- Inside a relative selector, where no other may stand. -/
  relative : Bool := false
  deriving DecidableEq, Repr

/-- The pieces between commas. -/
def splitCommas : List Piece → List (List Piece)
  | [] => [[]]
  | .plain .comma :: rest => [] :: splitCommas rest
  | p :: rest =>
      match splitCommas rest with
      | [] => [[p]]
      | part :: parts => (p :: part) :: parts

/-- Reads each alternative with `r`. If `forgiving`, a faulty one matches nothing. -/
def alternatives (forgiving : Bool) (r : Parser Complex) : List (List Piece) → Except Fault (List Complex)
  | [] => .ok []
  | part :: parts =>
      match (do
        let c ← r
        exhausted
        pure c : Parser Complex) part with
      | .ok c _ => do
          let rest ← alternatives forgiving r parts
          pure (c :: rest)
      | .error f left =>
          if forgiving then
            match Piece.brokenIn left with
            | some t => .error (.unexpected t)
            | none => alternatives forgiving r parts
          else .error f

/-- A combinator, if one follows. -/
def combinator? : Parser (Option Combinator) := fun ps =>
  let blank := (ps.head?.map Piece.isBlank).getD false
  match ps.dropWhile Piece.isBlank with
  | [] => .ok none []
  | .plain (.delim '>') :: rest => .ok (some .child) rest
  | .plain (.delim '+') :: rest => .ok (some .nextSibling) rest
  | .plain (.delim '~') :: rest => .ok (some .laterSibling) rest
  | rest => .ok (if blank then some .descendant else none) rest

/-- A reader of selector lists inside a selector: where they stand, whether they are forgiving, and
whether they are relative. -/
abbrev ListReader := Place → Bool → Bool → List Piece → Except Fault (List Complex)

def innerList (content : List Piece) (r : List Piece → Except Fault (List Complex)) :
    Parser (List Complex) := fun rest =>
  match r content with
  | .ok l => .ok l rest
  | .error f => .error f rest

/-- A pseudo-class with arguments. -/
def functionClass (list : ListReader) (place : Place) (name : String) (content : List Piece) : Parser (List Simple) := do
  let inner : Place := { place with nested := true }
  match name.map Char.toLower with
  | "nth-child" => List.singleton <$> inside content (nth false false)
  | "nth-of-type" => List.singleton <$> inside content (nth false true)
  | "nth-last-child" => List.singleton <$> inside content (nth true false)
  | "nth-last-of-type" => List.singleton <$> inside content (nth true true)
  | "is" | "where" => do
      let l ← innerList content (list inner true false)
      pure [.matchesAny l]
  | "not" => do
      let l ← innerList content (list inner false false)
      pure [.matchesNone l]
  | "has" =>
      if place.relative then fail .notHere
      else do
        let l ← innerList content (list { nested := true, relative := true } false true)
        pure [.leadsTo l]
  | _ => fail (.unsupported name)

/-- A pseudo-class, after its colon. -/
def pseudo (list : ListReader) (place : Place) : Parser (List Simple) := fun ps =>
  let element (name : String) (rest : List Piece) :
      EStateM.Result Fault (List Piece) (List Simple) :=
    .error (if place.nested then .notHere else .unsupported name) rest
  match ps with
  | .plain .colon :: .plain (.ident name) :: rest => element name rest
  | .plain .colon :: .block (.function name) _ :: rest => element name rest
  | .plain .colon :: p :: rest => .error (.pseudoName p.token) rest
  | [.plain .colon] => .error .ended []
  | .plain (.ident name) :: rest =>
      if isElementName name then element name rest
      else
        match plainClass name with
        | some l => .ok l rest
        | none => .error (.unsupported name) rest
  | .block (.function name) content :: rest =>
      if isElementName name then element name rest
      else functionClass list place name content rest
  | p :: rest => .error (.pseudoName p.token) rest
  | [] => .error .ended []

/-- One condition that is not a type, if one follows. -/
def condition? (list : ListReader) (place : Place) : Parser (Option (List Simple)) := fun ps =>
  match ps with
  | .plain (.idHash n) :: rest => .ok (some [.id n]) rest
  | .plain (.delim '.') :: rest =>
      match rest with
      | .plain (.ident n) :: rest => .ok (some [.hasClass n]) rest
      | p :: rest => .error (.className p.token) rest
      | [] => .error .ended []
  | .block .square content :: rest => ((fun s => some [s]) <$> inside content attribute_) rest
  | .plain .colon :: rest => (some <$> pseudo list place) rest
  | ps => .ok none ps

/-- Conditions without a type, as many as follow. -/
def conditions (list : ListReader) (place : Place) : Nat → Parser (List Simple)
  | 0 => pure []
  | fuel + 1 => do
      match ← condition? list place with
      | none => pure []
      | some l =>
          let more ← conditions list place fuel
          pure (l ++ more)

/-- The conditions on one element; none if nothing of that kind stands here. -/
def compound (list : ListReader) (place : Place) : Parser (List Simple) := do
  skipBlanks
  let type ← typeConditions
  let n ← (fun ps => .ok ps.length ps : Parser Nat)
  let more ← conditions list place n
  pure (type.getD [] ++ more)

/-- The rest of a selector after the conditions and combinators in `before`, the last first. -/
def complexFrom (list : ListReader) (place : Place) (before : List (Combinator × List Simple)) (dangling : Bool) :
    Nat → Parser Complex
  | 0 => fail .noSelector
  | fuel + 1 => do
      let subject ← compound list place
      if subject.isEmpty then fail (if dangling then .danglingCombinator else .noSelector)
      else
        match ← combinator? with
        | none => pure (.mk subject before)
        | some c => complexFrom list place ((c, subject) :: before) true fuel

/-- A selector; a relative one begins at its anchor, by default with any descendant of it. -/
def complex (list : ListReader) (place : Place) (relative : Bool) : Parser Complex := do
  skipBlanks
  let n ← (fun ps => .ok ps.length ps : Parser Nat)
  if relative then
    let c ← combinator?
    complexFrom list place [(c.getD .descendant, [.anchor])] true (n + 1)
  else complexFrom list place [] false (n + 1)

/-- A list of selectors; `depth` bounds the nesting. -/
def listWith : Nat → Place → Bool → Bool → List Piece → Except Fault (List Complex)
  | 0, _, _, _, _ => .ok []
  | depth + 1, place, forgiving, relative, ps =>
      alternatives forgiving (complex (listWith depth) place relative) (splitCommas ps)

end Parser

/-- The alternatives of a selector. -/
def parse (s : String) : Except Fault (List Complex) :=
  let ps := Piece.ofText s
  Parser.listWith (Piece.depthAll ps + 1) {} false false ps

end Gleaner.Selector
