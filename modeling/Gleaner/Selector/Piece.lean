import Gleaner.Selector.Lexer

/-! Tokens with their brackets matched: a piece is a token or a whole block. A closing bracket of the
wrong kind is an ordinary token; a block that is not closed ends with the text. -/
namespace Gleaner.Selector

inductive Piece
  | plain (t : Token)
  | block (opening : Token) (content : List Piece)
  deriving Repr, Inhabited

/-- The token that a piece begins with. -/
def Piece.token : Piece → Token
  | .plain t => t
  | .block t _ => t

def Piece.isBlank (p : Piece) : Bool :=
  match p.token with
  | .blank _ => true
  | _ => false

/-- The token that closes a block, if `t` opens one. -/
def Token.closing? : Token → Option Token
  | .function _ | .parenthesis => some .closeParenthesis
  | .square => some .closeSquare
  | .curly => some .closeCurly
  | _ => none

namespace Piece

/-- A block that is open: its opening token, and the pieces before it at its own level, the last first. -/
structure Open where
  opening : Token
  before : List Piece

/-- Closes all blocks that are open; `inner` holds the pieces of the innermost one, the last first. -/
def closeAll (inner : List Piece) : List Open → List Piece
  | [] => inner.reverse
  | o :: outer => closeAll (.block o.opening inner.reverse :: o.before) outer

/-- Takes the tokens one by one. -/
def ofTokensFrom (inner : List Piece) (stack : List Open) : List Token → List Piece
  | [] => closeAll inner stack
  | t :: rest =>
      match t.closing?, stack with
      | some _, _ => ofTokensFrom [] (⟨t, inner⟩ :: stack) rest
      | none, [] => ofTokensFrom (.plain t :: inner) [] rest
      | none, o :: outer =>
          if o.opening.closing? = some t then
            ofTokensFrom (.block o.opening inner.reverse :: o.before) outer rest
          else ofTokensFrom (.plain t :: inner) (o :: outer) rest

def ofTokens (ts : List Token) : List Piece := ofTokensFrom [] [] ts

/-- The pieces of a text. -/
def ofText (s : String) : List Piece := ofTokens (Lexer.tokens s)

mutual

/-- How deep the blocks are nested. -/
def depth : Piece → Nat
  | .plain _ => 0
  | .block _ content => depthAll content + 1

def depthAll : List Piece → Nat
  | [] => 0
  | p :: rest => max p.depth (depthAll rest)

end

mutual

/-- The first broken token. -/
def broken? : Piece → Option Token
  | .plain t => if t.isBroken then some t else none
  | .block _ content => brokenIn content

def brokenIn : List Piece → Option Token
  | [] => none
  | p :: rest => p.broken?.or (brokenIn rest)

end

end Piece

end Gleaner.Selector
