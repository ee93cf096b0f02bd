import Gleaner.Charset.Label
import Gleaner.Text.Utf8
import Gleaner.Text.Word

/-! Declarations of an encoding: in a content type and in the tags at the top of a document. -/
namespace Gleaner.Charset

/-- The rest of a text that begins with `word`, in any case. The long s is a case of the letter s. -/
def afterWord? : List Char → List Char → Option (List Char)
  | [], s => some s
  | _ :: _, [] => none
  | w :: word, c :: s =>
      if c.toLower = w ∨ (w = 's' ∧ c = 'ſ') then afterWord? word s else none

def isLabelChar (c : Char) : Bool :=
  Text.isWord c || c == '.' || c == ':' || c == '-'

/-- The label, if the text begins with a declaration such as one of `charset = "utf-8"`. -/
def labelHere? (s : List Char) : Option (List Char) := do
  let s ← afterWord? "charset".toList s
  match s.dropWhile Text.isBlank with
  | '=' :: s =>
      let s := s.dropWhile Text.isBlank
      let s := match s with
        | '"' :: s | '\'' :: s => s
        | s => s
      let label := s.takeWhile isLabelChar
      if label.isEmpty then none else some label
  | _ => none

/-- The label of the first declaration. It begins no earlier than at the start of a word; `inWord` says
whether the text before `s` ends with a character of a word. -/
def labelFrom? (inWord : Bool) : List Char → Option (List Char)
  | [] => none
  | c :: s =>
      match (if inWord then none else labelHere? (c :: s)) with
      | some label => some label
      | none => labelFrom? (Text.isWord c) s

/-- The encoding that the first declaration of a text names. -/
def declaredIn? (s : List Char) : Option Encoding :=
  (labelFrom? false s).bind Encoding.ofLabel?

/-- The rest after the letters of a meta tag. -/
def afterMeta? (s : List Char) : Option (List Char) := do
  let rest ← afterWord? "<meta".toList s
  match rest with
  | [] => none
  | c :: _ => if Text.isWord c then none else some rest

/-- The complete meta tags in order, each without its opening letters and its end; `inside` says whether
the text begins within a tag that is already counted. -/
def tagsFrom (inside : Bool) : List Char → List (List Char)
  | [] => []
  | c :: s =>
      if inside then tagsFrom (c ≠ '>') s
      else match afterMeta? (c :: s) with
        | some rest =>
            if rest.contains '>' then rest.takeWhile (· ≠ '>') :: tagsFrom true s else []
        | none => tagsFrom false s

/-- How many bytes at the top of a document are searched for a declaration. -/
def declarationReach : Nat := 4096

/-- The encoding that a document declares at its top: the first tag that names one decides. -/
def declaredAtTop? (bytes : List UInt8) : Option Encoding :=
  let top := Text.Utf8.decodeLenient (bytes.take declarationReach)
  ((tagsFrom false top).findSome? declaredIn?).map Encoding.declared

end Gleaner.Charset
