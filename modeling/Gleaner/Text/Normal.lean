import Gleaner.Text.Blank

/-! The normal form of extracted text: a line break and the indentation after it vanish, and so do
the blanks at either end. Spaces inside a line are kept as they are. -/
namespace Gleaner.Text

/-- A line break (with or without a carriage return) starts at `c` and at least one blank follows it. -/
def breaksLine (c : Char) (rest : List Char) : Bool :=
  match c, rest with
  | '\n', b :: _ => isBlank b
  | '\r', '\n' :: b :: _ => isBlank b
  | _, _ => false

/-- One pass from the left; inside a dropped break (`skip`) every blank is dropped too. -/
def joinLinesFrom (skip : Bool) : List Char → List Char
  | [] => []
  | c :: rest =>
      if skip && isBlank c then joinLinesFrom true rest
      else if breaksLine c rest then joinLinesFrom true rest
      else c :: joinLinesFrom false rest

/-- The text without its line breaks that are followed by blanks, and without those blanks. -/
def joinLines (s : List Char) : List Char :=
  joinLinesFrom false s

/-- The normal form of a text. -/
def normal (s : String) : String :=
  String.ofList (trim (joinLines s.toList))

end Gleaner.Text
