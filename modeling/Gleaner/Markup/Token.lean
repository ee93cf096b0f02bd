/-! Tokens of a markup text: what the lexer hands to the tree construction. -/
namespace Gleaner.Markup

/-- An attribute as written in a tag; its name is in lower case. -/
structure Attribute where
  name : String
  value : String
  deriving DecidableEq, Repr, Inhabited

/-- A start or end tag. Attributes stand in source order, the first of each name only. -/
structure Tag where
  name : String
  attributes : List Attribute := []
  selfClosing : Bool := false
  deriving DecidableEq, Repr, Inhabited

/-- A document type declaration. -/
structure Doctype where
  name : Option String := none
  publicId : Option String := none
  systemId : Option String := none
  /-- The declaration is broken off or not in its proper form. -/
  faulty : Bool := false
  deriving DecidableEq, Repr, Inhabited

inductive Token
  | doctype (d : Doctype)
  | startTag (t : Tag)
  | endTag (t : Tag)
  | comment (text : String)
  | char (c : Char)
  /-- An end tag without a name. It adds nothing, but parts what stands on either side of it. -/
  | nameless
  | eof
  deriving DecidableEq, Repr, Inhabited

/-- The value of the attribute `name`, if the tag has one. -/
def Tag.attribute? (t : Tag) (name : String) : Option String :=
  (t.attributes.find? (·.name == name)).map (·.value)

end Gleaner.Markup
