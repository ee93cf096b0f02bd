import Gleaner.Json.Read

/-! Reading values of a known shape. A text that is well formed but of another shape is refused with
the place where this was noticed; members that the shape does not know are passed over. -/
namespace Gleaner.Json.Reader

/-! Passing over a value. Its grammar is checked, but texts need not be UTF-8, numbers have no bounds
and the nesting has no limit. -/

def skipEscape : Reader Unit := do
  let b ← nextInString
  match b.toNat with
  | 0x22 | 0x5C | 0x2F | 0x62 | 0x66 | 0x6E | 0x72 | 0x74 => pure ()
  | 0x75 => discard fourHex
  | _ => fail .badEscape

def skipStringLoop : Nat → Reader Unit
  | 0 => fail .endInString
  | fuel + 1 => do
      match ← peek with
      | none => fail .endInString
      | some b =>
          if b = 0x22 then advance
          else if b = 0x5C then
            advance
            skipEscape
            skipStringLoop fuel
          else if b < 0x20 then fail .controlCharacter
          else
            advance
            skipStringLoop fuel

def skipString : Reader Unit := do
  skipStringLoop ((← remaining) + 1)

def skipExponent : Reader Unit := do
  advance
  let sign ← peek
  if sign == some 0x2B || sign == some 0x2D then advance
  if (digit? (← next)).isSome then skipDigits (← remaining) else fail .badNumber

def skipFraction : Reader Unit := do
  advance
  if (digit? (← peek)).isNone then failNext .badNumber
  skipDigits (← remaining)
  if isExponent (← peek) then skipExponent

/-- A number whose sign is taken. -/
def skipNumber : Reader Unit := do
  match digit? (← next) with
  | none => fail .badNumber
  | some 0 => if (digit? (← peek)).isSome then failNext .badNumber
  | some _ => skipDigits (← remaining)
  let b ← peek
  if b == some 0x2E then skipFraction
  else if isExponent b then skipExponent

/-- A list or an object that is open. -/
inductive Frame
  | list | object
  deriving DecidableEq, Repr

/-- Something that has no parts; none if it is the beginning of a list or an object, which is taken. -/
def skipScalar (b : UInt8) : Reader (Option Frame) := do
  match b.toNat with
  | 0x6E => advance; wordNull; pure none
  | 0x74 => advance; wordTrue; pure none
  | 0x66 => advance; wordFalse; pure none
  | 0x22 => advance; skipString; pure none
  | 0x2D => advance; skipNumber; pure none
  | 0x5B => advance; pure (some .list)
  | 0x7B => advance; pure (some .object)
  | _ => if (digit? (some b)).isSome then (do skipNumber; pure none) else failNext .expectedValue

/-- Closes frames until another value follows; the open frames are then returned. -/
def skipEnds (afterValue : Bool) : List Frame → Nat → Reader (List Frame)
  | [], _ | _, 0 => pure []
  | frame :: outer, fuel + 1 => do
      match ← token with
      | none => failNext (if frame = .list then .endInList else .endInObject)
      | some b =>
          if (frame = .list ∧ b = 0x5D) ∨ (frame = .object ∧ b = 0x7D) then
            advance
            skipEnds true outer fuel
          else if !afterValue then pure (frame :: outer)
          else if b = 0x2C then
            advance
            pure (frame :: outer)
          else failNext (if frame = .list then .expectedListEnd else .expectedObjectEnd)

def skipKey : Reader Unit := do
  match ← token with
  | some 0x22 =>
      advance
      skipString
      colon
  | some _ => failNext .keyNotString
  | none => failNext .endInObject

/-- Passes over values until no frame is open. -/
def skipValues (frames : List Frame) : Nat → Reader Unit
  | 0 => fail .endInValue
  | fuel + 1 => do
      match ← token with
      | none => failNext .endInValue
      | some b =>
          let opened ← skipScalar b
          let frames ← match opened with
            | some frame => skipEnds false (frame :: frames) (fuel + 1)
            | none => skipEnds true frames (fuel + 1)
          match frames with
          | [] => pure ()
          | .object :: _ =>
              skipKey
              skipValues frames fuel
          | .list :: _ => skipValues frames fuel

def skipValue : Reader Unit := do
  skipValues [] ((← remaining) + 1)

/-! Values of a known shape. -/

/-- What a number is in a message. -/
def foundNumber : Number → Found
  | .natural n => .natural n
  | .negative n => .negative n
  | .float bits => .float bits

/-- Refuses the next value because `expected` should stand there. Only a value without parts is read
for that. -/
def refuseValue {α : Type} (expected : String) : Reader α := do
  let wrong (f : Found) : Reader α := refuse (.wrongType f expected)
  match ← peek with
  | none => failNext .expectedValue
  | some b =>
      match b.toNat with
      | 0x6E => advance; wordNull; wrong .null
      | 0x74 => advance; wordTrue; wrong (.bool true)
      | 0x66 => advance; wordFalse; wrong (.bool false)
      | 0x22 => advance; wrong (.string (← stringRest))
      | 0x2D => advance; wrong (foundNumber (← number false))
      | 0x5B => wrong .sequence
      | 0x7B => wrong .map
      | _ =>
          if (digit? (some b)).isSome then wrong (foundNumber (← number true))
          else failNext .expectedValue

/-- The first byte of a value, which must not be missing. -/
def valueStart : Reader UInt8 := do
  match ← token with
  | none => failNext .endInValue
  | some b => pure b

/-- A text; `expected` says what it should be. -/
def stringAs (expected : String) : Reader String := placed do
  if (← valueStart) = 0x22 then
    advance
    stringRest
  else refuseValue expected

def string : Reader String := stringAs "a string"

def bool : Reader Bool := placed do
  match (← valueStart).toNat with
  | 0x74 => advance; wordTrue; pure true
  | 0x66 => advance; wordFalse; pure false
  | _ => refuseValue "a boolean"

/-- A natural number below 65536. -/
def word16 : Reader Nat := placed do
  let b ← valueStart
  let n ←
    if b = 0x2D then
      advance
      number false
    else if (digit? (some b)).isSome then number true
    else refuseValue "u16"
  match n with
  | .natural n => if n < 0x10000 then pure n else refuse (.wrongValue (.natural n) "u16")
  | .negative n => refuse (.wrongValue (.negative n) "u16")
  | .float bits => refuse (.wrongType (.float bits) "u16")

def unit : Reader Unit := placed do
  if (← valueStart) = 0x6E then
    advance
    wordNull
  else refuseValue "unit"

/-- Null for an absent value. -/
def option {α : Type} (r : Reader α) : Reader (Option α) := do
  match ← token with
  | some 0x6E =>
      advance
      wordNull
      pure none
  | _ => some <$> r

/-- One of two words, or an object with one of them as its only member and null as the value. -/
def variant {α : Type} (first second : String × α) : Reader α := do
  let choose (text : Reader String) : Reader (String × α) := placed do
    let name ← text
    if name = first.1 then pure first
    else if name = second.1 then pure second
    else refuse (.unknownVariant name first.1 second.1)
  match ← token with
  | none => failNext .endInValue
  | some 0x22 => Prod.snd <$> choose string
  | some 0x7B =>
      nested maxDepth fun _ => do
        let (name, a) ← choose (stringAs "variant identifier")
        colon
        under (.member name) unit
        match ← token with
        | some 0x7D =>
            advance
            pure a
        | some _ => fail .expectedValue
        | none => fail .endInObject
  | some _ => failNext .expectedValue

/-! Records: objects with known members, or lists of them in order. -/

/-- Takes in the members one by one; `member` decides by the name what to do with the value. -/
def membersLoop {σ : Type} (member : σ → String → Reader σ) (s : σ) (first : Bool) :
    Nat → Reader σ
  | 0 => fail .endInObject
  | fuel + 1 => do
      match ← under .unknown (nextKey first) with
      | none => pure s
      | some k =>
          let s ← member s k
          membersLoop member s false fuel

/-- The value of the member `name`, after its colon. -/
def memberValue {α : Type} (name : String) (r : Reader α) : Reader α :=
  under (.member name) (do
    colon
    r)

/-- Fills a slot, which must not be taken. -/
def fill {α σ : Type} (name : String) (slot : Option α) (r : Reader α) (set : α → σ) : Reader σ :=
  match slot with
  | some _ => refuse (.duplicate name)
  | none => set <$> memberValue name r

/-- A member that must be there. -/
def require {α : Type} (name : String) (slot : Option α) : Reader α :=
  match slot with
  | some a => pure a
  | none => refuse (.missing name)

/-- The item `index` of a list that stands for a record, if the list is that long. -/
def itemValue? {α : Type} (index : Nat) (r : Reader α) : Reader (Option α) := do
  if ← under (.item index) (hasItem (index == 0)) then some <$> under (.item index) r else pure none

/-- The item `index`, which must be there. -/
def itemValue {α : Type} (index : Nat) (r : Reader α) (expected : String) : Reader α := do
  match ← itemValue? index r with
  | some a => pure a
  | none => refuse (.wrongLength index expected)

/-- A record: `members` reads the inside of an object, `items` that of a list. -/
def record {α : Type} (expected : String) (depth : Nat) (members items : Nat → Reader α) :
    Reader α := placed do
  match (← valueStart).toNat with
  | 0x5B => nested depth fun d => closedBy (items d) endList
  | 0x7B => nested depth fun d => closedBy (members d) endObject
  | _ => refuseValue expected

/-- An object with members of one kind, the last of each name. -/
def mapOf {α : Type} (depth : Nat) (r : Nat → Reader α) : Reader (SortedMap α) := placed do
  if (← valueStart) = 0x7B then
    nested depth fun d =>
      closedBy (do
        let n ← remaining
        membersLoop (fun m k => m.insert k <$> memberValue k (r d)) .empty true (n + 1)) endObject
  else refuseValue "a map"

end Gleaner.Json.Reader
