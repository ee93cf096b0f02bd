import Gleaner.Selector.Token

/-! Why a selector is refused. -/
namespace Gleaner.Selector

inductive Fault
  | unexpected (t : Token)
  | ended
  | pseudoName (t : Token)
  | noSelector
  | danglingCombinator
  | notHere
  | unsupported (name : String)
  | unknownNamespace (name : String)
  | afterNamespace (t : Token)
  | className (t : Token)
  | attributeName (t : Token)
  | attributeBar (t : Token)
  | attributeLocalName (t : Token)
  | attributeOperator (t : Token)
  | attributeValue (t : Token)
  deriving DecidableEq, Repr

namespace Fault

def aboutToken (name : String) (t : Token) : List String := Token.wrapped name t.inspected

def aboutName (name argument : String) : List String := Token.ofText name argument

/-- The faults that are shown by their structure, line by line. -/
def inspected : Fault → List String
  | .noSelector => ["EmptySelector"]
  | .danglingCombinator => ["DanglingCombinator"]
  | .notHere => ["InvalidState"]
  | .unsupported name => aboutName "UnsupportedPseudoClassOrElement" name
  | .unknownNamespace name => aboutName "ExpectedNamespace" name
  | .afterNamespace t => aboutToken "ExplicitNamespaceUnexpectedToken" t
  | .className t => aboutToken "ClassNeedsIdent" t
  | .attributeName t => aboutToken "NoQualifiedNameInAttributeSelector" t
  | .attributeBar t => aboutToken "ExpectedBarInAttr" t
  | .attributeLocalName t => aboutToken "InvalidQualNameInAttr" t
  | .attributeOperator t => aboutToken "UnexpectedTokenInAttributeSelector" t
  | .attributeValue t => aboutToken "BadValueInAttr" t
  | .unexpected t => aboutToken "UnexpectedToken" t
  | .ended => ["EndOfInput"]
  | .pseudoName t => aboutToken "PseudoElementExpectedIdent" t

def message : Fault → String
  | .unexpected t => "Token " ++ Text.quoted t.shown ++ " was not expected"
  | .ended => "Unexpected EOL"
  | .pseudoName t =>
      "Expected identity for pseudoelement, got " ++ Text.quoted t.shown ++ " instead"
  | f =>
      "Unexpected error occurred. Please report this to the developer\n" ++
        "\n".intercalate f.inspected

end Fault

end Gleaner.Selector
