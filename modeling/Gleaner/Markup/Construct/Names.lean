import Gleaner.Markup.Tree

/-! Classes of element names that the tree construction distinguishes. -/
namespace Gleaner.Markup

/-- Elements that end the search for an open element. -/
inductive Scope
  | default | listItem | button | table | select
  deriving DecidableEq, Repr

namespace Names

def headings : List String := ["h1", "h2", "h3", "h4", "h5", "h6"]

/-- Elements that a tag may imply the end of. -/
def impliedEnd : List String :=
  ["dd", "dt", "li", "option", "optgroup", "p", "rb", "rp", "rt", "rtc"]

/-- The same for the end of a template. -/
def impliedEndThorough : List String :=
  impliedEnd ++ ["caption", "colgroup", "tbody", "td", "tfoot", "th", "thead", "tr"]

def special : List String :=
  ["address", "applet", "area", "article", "aside", "base", "basefont", "bgsound", "blockquote",
   "body", "br", "button", "caption", "center", "col", "colgroup", "dd", "details", "dir", "div",
   "dl", "dt", "embed", "fieldset", "figcaption", "figure", "footer", "form", "frame", "frameset",
   "h1", "h2", "h3", "h4", "h5", "h6", "head", "header", "hgroup", "hr", "html", "iframe", "img",
   "input", "isindex", "li", "link", "listing", "main", "marquee", "menu", "meta", "nav",
   "noembed", "noframes", "noscript", "object", "ol", "p", "param", "plaintext", "pre", "script",
   "search", "section", "select", "source", "style", "summary", "table", "tbody", "td", "template",
   "textarea", "tfoot", "th", "thead", "title", "tr", "track", "ul", "wbr", "xmp"]

/-- Blocks that close an open paragraph. -/
def blocks : List String :=
  ["address", "article", "aside", "blockquote", "center", "details", "dialog", "dir", "div", "dl",
   "fieldset", "figcaption", "figure", "footer", "header", "hgroup", "main", "menu", "nav", "ol",
   "p", "search", "section", "summary", "ul"]

/-- End tags that close their element in the default scope and nothing else. -/
def blockEnds : List String :=
  ["address", "article", "aside", "blockquote", "button", "center", "details", "dialog", "dir",
   "div", "dl", "fieldset", "figcaption", "figure", "footer", "header", "hgroup", "listing",
   "main", "menu", "nav", "ol", "pre", "search", "section", "summary", "ul"]

/-- Elements that are opened again after a misplaced end. -/
def formatting : List String :=
  ["b", "big", "code", "em", "font", "i", "s", "small", "strike", "strong", "tt", "u"]

/-- Elements of the head that may also stand elsewhere. -/
def headContent : List String :=
  ["base", "basefont", "bgsound", "link", "meta", "noframes", "script", "style", "template",
   "title"]

def tableSections : List String := ["tbody", "tfoot", "thead"]

/-- Where misplaced content is moved in front of the table. -/
def fosterTargets : List String := ["table", "tbody", "tfoot", "thead", "tr"]

/-- Start tags that leave foreign content. -/
def breakout : List String :=
  ["b", "big", "blockquote", "body", "br", "center", "code", "dd", "div", "dl", "dt", "em",
   "embed", "h1", "h2", "h3", "h4", "h5", "h6", "head", "hr", "i", "img", "li", "listing", "menu",
   "meta", "nobr", "ol", "p", "pre", "ruby", "s", "small", "span", "strong", "strike", "sub",
   "sup", "table", "tt", "u", "ul", "var"]

def isMathText (s : Namespace) (n : String) : Bool :=
  s == .mathml && ["mi", "mo", "mn", "ms", "mtext"].contains n

def isSvgHtml (s : Namespace) (n : String) : Bool :=
  s == .svg && ["foreignObject", "desc", "title"].contains n

end Names

/-- The element is where the search in this scope stops. -/
def Scope.stopsAt (scope : Scope) (s : Namespace) (n : String) : Bool :=
  let base : Bool :=
    (s == .html && ["applet", "caption", "html", "table", "td", "th", "marquee", "object",
      "template"].contains n) ||
    Names.isMathText s n || (s == .mathml && n == "annotation-xml") || Names.isSvgHtml s n
  match scope with
  | .default => base
  | .listItem => base || (s == .html && (n == "ol" || n == "ul"))
  | .button => base || (s == .html && n == "button")
  | .table => s == .html && (n == "html" || n == "table" || n == "template")
  | .select => !(s == .html && (n == "optgroup" || n == "option"))

end Gleaner.Markup
