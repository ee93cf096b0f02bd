import Gleaner.Selector.Token

/-! Splitting a selector into tokens. Comments separate tokens and vanish. What is not closed at the end
is closed there. -/
namespace Gleaner.Selector.Lexer

def isNewline (c : Char) : Bool := c == '\n' || c == '\x0C' || c == '\r'

def isBlank (c : Char) : Bool := c == ' ' || c == '\t' || isNewline c

/-- Letters, the underscore, every character above U+007F, and NUL, which stands for U+FFFD. -/
def beginsName (c : Char) : Bool := c.isAlpha || c == '_' || c == '\x00' || 0x80 ≤ c.toNat

def continuesName (c : Char) : Bool := beginsName c || c.isDigit || c == '-'

def isHex (c : Char) : Bool := c.isDigit || ('a' ≤ c && c ≤ 'f') || ('A' ≤ c && c ≤ 'F')

def hexValue (c : Char) : Nat :=
  if c.isDigit then c.toNat - '0'.toNat else c.toLower.toNat - 'a'.toNat + 10

/-- Drops one line break. -/
def dropNewline : List Char → List Char
  | '\r' :: '\n' :: rest => rest
  | c :: rest => if isNewline c then rest else c :: rest
  | [] => []

/-- The character of an escape whose backslash is gone, and what follows it. -/
def escape : List Char → Char × List Char
  | [] => ('\uFFFD', [])
  | c :: rest =>
      if isHex c then
        let digits := ((c :: rest).take 6).takeWhile isHex
        let rest := (c :: rest).drop digits.length
        let n := digits.foldl (fun v d => v * 16 + hexValue d) 0
        let rest := match rest with
          | d :: after => if d = ' ' ∨ d = '\t' then after else dropNewline rest
          | [] => []
        (if n = 0 ∨ 0x10FFFF < n ∨ (0xD800 ≤ n ∧ n ≤ 0xDFFF) then '\uFFFD' else Char.ofNat n, rest)
      else (if c = '\x00' then '\uFFFD' else c, rest)

/-- A backslash here begins an escape. -/
def escapes : List Char → Bool
  | '\\' :: c :: _ => !isNewline c
  | ['\\'] => true
  | _ => false

/-- The rest of a name; `fuel` bounds the number of its characters. -/
def name : Nat → List Char → List Char × List Char
  | 0, s => ([], s)
  | _, [] => ([], [])
  | fuel + 1, c :: rest =>
      if c = '\\' then
        if escapes (c :: rest) then
          let (x, rest) := escape rest
          let (more, rest) := name fuel rest
          (x :: more, rest)
        else ([], c :: rest)
      else if continuesName c then
        let (more, rest) := name fuel rest
        ((if c = '\x00' then '\uFFFD' else c) :: more, rest)
      else ([], c :: rest)

def nameText (s : List Char) : String × List Char :=
  let (cs, rest) := name s.length s
  (String.ofList cs, rest)

/-- A name begins here. -/
def startsName : List Char → Bool
  | '-' :: c :: _ => beginsName c || c == '-' || c == '\\'
  | '\\' :: rest => escapes ('\\' :: rest)
  | c :: _ => beginsName c
  | [] => false

/-- A number begins here. -/
def startsNumber : List Char → Bool
  | '+' :: rest | '-' :: rest => unsigned rest
  | s => unsigned s
where
  unsigned : List Char → Bool
    | '.' :: d :: _ => d.isDigit
    | d :: _ => d.isDigit
    | [] => false

def digitsOf (s : List Char) : List Nat × List Char :=
  ((s.takeWhile Char.isDigit).map fun d => d.toNat - '0'.toNat, s.dropWhile Char.isDigit)

/-- The exponent of a number, if one stands here. -/
def exponent? (s : List Char) : Option (Bool × List Nat) × List Char :=
  match s with
  | e :: rest =>
      if e = 'e' ∨ e = 'E' then
        let (negative, digits) := match rest with
          | '-' :: rest => (true, rest)
          | '+' :: rest => (false, rest)
          | rest => (false, rest)
        if (digits.head?.map Char.isDigit).getD false then
          let (digits, rest) := digitsOf digits
          (some (negative, digits), rest)
        else (none, s)
      else (none, s)
  | [] => (none, s)

/-- A number, a percentage or a number with a unit. -/
def numeric (s : List Char) : Token × List Char :=
  let (sign, s) := match s with
    | '-' :: rest => (some true, rest)
    | '+' :: rest => (some false, rest)
    | rest => (none, rest)
  let (whole, s) := digitsOf s
  let (fraction, s) := match s with
    | '.' :: d :: rest => if d.isDigit then digitsOf (d :: rest) else ([], s)
    | s => ([], s)
  let (exponent, s) := exponent? s
  let n : Numeral := ⟨sign, whole, fraction, exponent⟩
  match s with
  | '%' :: rest => (.percentage n, rest)
  | s =>
      if startsName s then
        let (unit, rest) := nameText s
        (.dimension n unit, rest)
      else (.number n, s)

/-- The rest of a quoted text, whether it is closed properly, and what follows. -/
def quotedFrom (quote : Char) : Nat → List Char → List Char × Bool × List Char
  | 0, s => ([], true, s)
  | _, [] => ([], true, [])
  | fuel + 1, c :: rest =>
      if c = quote then ([], true, rest)
      else if isNewline c then ([], false, c :: rest)
      else if c = '\\' then
        match rest with
        | [] => ([], true, [])
        | d :: _ =>
            if isNewline d then quotedFrom quote fuel (dropNewline rest)
            else
              let (x, rest) := escape rest
              let (more, ok, rest) := quotedFrom quote fuel rest
              (x :: more, ok, rest)
      else
        let (more, ok, rest) := quotedFrom quote fuel rest
        ((if c = '\x00' then '\uFFFD' else c) :: more, ok, rest)

def quotedText (quote : Char) (s : List Char) : Token × List Char :=
  let (cs, ok, rest) := quotedFrom quote (s.length + 1) s
  (if ok then .string (String.ofList cs) else .badString (String.ofList cs), rest)

/-- Skips to the end of a broken address; true if it is closed, which costs one character more. -/
def badUrlEnd : List Char → Bool × List Char
  | [] => (false, [])
  | ')' :: rest => (true, rest)
  | '\\' :: ')' :: rest | '\\' :: '\\' :: rest => badUrlEnd rest
  | _ :: rest => badUrlEnd rest

/-- Characters that an address without quotes must not hold. -/
def breaksUrl (c : Char) : Bool :=
  let n := c.toNat
  (1 ≤ n && n ≤ 8) || n == 0x0B || (0x0E ≤ n && n ≤ 0x1F) || n == 0x7F ||
    c == '"' || c == '\'' || c == '('

/-- The characters of an address, or none if it is broken, and what follows. -/
def urlFrom : Nat → List Char → Option (List Char) × List Char
  | 0, s => (some [], s)
  | _, [] => (some [], [])
  | fuel + 1, c :: rest =>
      if c = ')' then (some [], rest)
      else if isBlank c then
        match rest.dropWhile isBlank with
        | [] => (some [], [])
        | ')' :: rest => (some [], rest)
        | _ :: rest => (none, rest)
      else if breaksUrl c then (none, rest)
      else if c = '\\' then
        if escapes (c :: rest) then
          let (x, rest) := escape rest
          let (more, rest) := urlFrom fuel rest
          (more.map (x :: ·), rest)
        else (none, rest)
      else
        let (more, rest) := urlFrom fuel rest
        (more.map ((if c = '\x00' then '\uFFFD' else c) :: ·), rest)

/-- An address without quotes, after `url(`; none if a quoted text follows instead. -/
def url? (s : List Char) : Option (Token × List Char) :=
  match s.dropWhile isBlank with
  | '"' :: _ | '\'' :: _ => none
  | s =>
      match urlFrom (s.length + 1) s with
      | (some cs, rest) => some (.url (String.ofList cs), rest)
      | (none, rest) =>
          let (closed, after) := badUrlEnd rest
          let skipped := s.take (s.length - after.length)
          some (.badUrl (String.ofList (if closed then skipped.dropLast else skipped)), after)

/-- A name, a function or an address. -/
def word (s : List Char) : Token × List Char :=
  match nameText s with
  | (n, '(' :: rest) =>
      if n.map Char.toLower = "url" then (url? rest).getD (.function n, rest)
      else (.function n, rest)
  | (n, rest) => (.ident n, rest)

/-- What follows a comment whose beginning is gone. -/
def commentEnd : List Char → List Char
  | [] => []
  | '*' :: '/' :: rest => rest
  | _ :: rest => commentEnd rest

/-- One of two tokens, by whether an equals sign follows. -/
def orEquals (c : Char) (t : Token) (rest : List Char) : Token × List Char :=
  match rest with
  | '=' :: rest => (t, rest)
  | rest => (.delim c, rest)

/-- The token at the beginning of `c :: rest`. -/
def token (c : Char) (rest : List Char) : Token × List Char :=
  let s := c :: rest
  if isBlank c then (.blank (String.ofList (s.takeWhile isBlank)), s.dropWhile isBlank)
  else if startsNumber s then numeric s
  else match c with
    | '"' => quotedText '"' rest
    | '\'' => quotedText '\'' rest
    | '#' =>
        if startsName rest then
          let (n, rest) := nameText rest
          (.idHash n, rest)
        else if (rest.head?.map fun d => d.isDigit || d == '-').getD false then
          let (n, rest) := nameText rest
          (.hash n, rest)
        else (.delim '#', rest)
    | '@' =>
        if startsName rest then
          let (n, rest) := nameText rest
          (.atKeyword n, rest)
        else (.delim '@', rest)
    | '$' => orEquals c .ends rest
    | '*' => orEquals c .contains rest
    | '^' => orEquals c .starts rest
    | '|' => orEquals c .dashes rest
    | '~' => orEquals c .includes rest
    | '(' => (.parenthesis, rest)
    | ')' => (.closeParenthesis, rest)
    | '[' => (.square, rest)
    | ']' => (.closeSquare, rest)
    | '\x7b' => (.curly, rest)
    | '\x7d' => (.closeCurly, rest)
    | ',' => (.comma, rest)
    | ':' => (.colon, rest)
    | ';' => (.semicolon, rest)
    | '<' =>
        match rest with
        | '!' :: '-' :: '-' :: rest => (.commentOpen, rest)
        | rest => (.delim '<', rest)
    | c =>
        match c, rest with
        | '-', '-' :: '>' :: rest => (.commentClose, rest)
        | c, rest => if startsName (c :: rest) then word (c :: rest) else (.delim c, rest)

/-- The tokens of a text; `fuel` bounds their number. -/
def tokensFrom : Nat → List Char → List Token
  | 0, _ => []
  | _, [] => []
  | fuel + 1, '/' :: '*' :: rest => tokensFrom fuel (commentEnd rest)
  | fuel + 1, c :: rest =>
      let (t, rest) := token c rest
      t :: tokensFrom fuel rest

def tokens (s : String) : List Token := tokensFrom s.toList.length s.toList

end Gleaner.Selector.Lexer
