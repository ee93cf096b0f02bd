import Gleaner.Markup.Construct.Dispatch
import Gleaner.Markup.Lexer.Step

/-! Reading a whole document: the lexer is fed one character at a time and the tree construction takes
in its tokens at once, because a start tag decides how the text after it is to be read. -/
namespace Gleaner.Markup

structure Reading where
  lexer : Lexer := {}
  builder : Builder := {}

namespace Reading

/-- The current element is not an HTML one, so CDATA sections may occur. -/
def inForeign (r : Reading) : Bool :=
  !r.builder.stack.isEmpty && (r.builder.nameOf r.builder.current).1 != .html

/-- Takes in the tokens and gives the lexer the state that a tag asked for. -/
def takeAll (l : Lexer) (b : Builder) (tokens : List Token) : Reading :=
  let b := tokens.foldl Builder.take b
  match b.lexerRequest with
  | some s => ⟨{ l with state := s }, { b with lexerRequest := none }⟩
  | none => ⟨l, b⟩

def feed (r : Reading) (c : Char) : Reading :=
  let foreign := r.inForeign
  let (l, tokens) := r.lexer.step foreign c
  match tokens with
  | [] => ⟨l, r.builder⟩
  | tokens => takeAll l r.builder tokens

def close (r : Reading) : Builder :=
  r.lexer.finish.foldl Builder.take r.builder

end Reading

/-- Every line break as one line feed. -/
def unixLines : List Char → List Char
  | [] => []
  | '\r' :: '\n' :: rest => '\n' :: unixLines rest
  | '\r' :: rest => '\n' :: unixLines rest
  | c :: rest => c :: unixLines rest

/-- The characters that the lexer sees: a byte order mark at the beginning is not one of them. -/
def sourceChars (text : List Char) : List Char :=
  unixLines (match text with
    | '\uFEFF' :: rest => rest
    | text => text)

/-- The tree of a document. -/
def Tree.ofText (text : String) : Tree :=
  ((sourceChars text.toList).foldl Reading.feed {}).close.tree

end Gleaner.Markup
