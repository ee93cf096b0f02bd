/-! Tokens: the words of headers. -/
namespace Gleaner.Http

/-- The characters of a token. -/
def isTokenChar (c : Char) : Bool :=
  c.isAlphanum || "!#$%&'*+-.^_`|~".toList.contains c

end Gleaner.Http
