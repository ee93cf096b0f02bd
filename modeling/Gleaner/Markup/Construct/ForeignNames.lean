import Gleaner.Markup.Tree

/-! Names inside MathML and SVG. The lexer gives every name in lower case; some names of these
vocabularies have capitals, and some attributes belong to a namespace. -/
namespace Gleaner.Markup

namespace ForeignNames

def svgElements : List String :=
  ["altGlyph", "altGlyphDef", "altGlyphItem", "animateColor", "animateMotion", "animateTransform",
   "clipPath", "feBlend", "feColorMatrix", "feComponentTransfer", "feComposite",
   "feConvolveMatrix", "feDiffuseLighting", "feDisplacementMap", "feDistantLight", "feDropShadow",
   "feFlood", "feFuncA", "feFuncB", "feFuncG", "feFuncR", "feGaussianBlur", "feImage", "feMerge",
   "feMergeNode", "feMorphology", "feOffset", "fePointLight", "feSpecularLighting", "feSpotLight",
   "feTile", "feTurbulence", "foreignObject", "glyphRef", "linearGradient", "radialGradient",
   "textPath"]

def svgAttributes : List String :=
  ["attributeName", "attributeType", "baseFrequency", "baseProfile", "calcMode", "clipPathUnits",
   "diffuseConstant", "edgeMode", "filterUnits", "glyphRef", "gradientTransform", "gradientUnits",
   "kernelMatrix", "kernelUnitLength", "keyPoints", "keySplines", "keyTimes", "lengthAdjust",
   "limitingConeAngle", "markerHeight", "markerUnits", "markerWidth", "maskContentUnits",
   "maskUnits", "numOctaves", "pathLength", "patternContentUnits", "patternTransform",
   "patternUnits", "pointsAtX", "pointsAtY", "pointsAtZ", "preserveAlpha", "preserveAspectRatio",
   "primitiveUnits", "refX", "refY", "repeatCount", "repeatDur", "requiredExtensions",
   "requiredFeatures", "specularConstant", "specularExponent", "spreadMethod", "startOffset",
   "stdDeviation", "stitchTiles", "surfaceScale", "systemLanguage", "tableValues", "targetX",
   "targetY", "textLength", "viewBox", "viewTarget", "xChannelSelector", "yChannelSelector",
   "zoomAndPan"]

/-- The spelling in `names` of a name in lower case. -/
def spelled (names : List String) (lower : String) : String :=
  (names.find? fun n => n.map Char.toLower == lower).getD lower

/-- The namespace and local name of an attribute. -/
def splitAttribute (name : String) : AttrSpace × String :=
  if ["xlink:actuate", "xlink:arcrole", "xlink:href", "xlink:role", "xlink:show", "xlink:title",
      "xlink:type"].contains name then (.xlink, String.ofList (name.toList.drop 6))
  else if name = "xml:lang" ∨ name = "xml:space" then (.xml, String.ofList (name.toList.drop 4))
  else if name = "xmlns" then (.xmlns, "xmlns")
  else if name = "xmlns:xlink" then (.xmlns, "xlink")
  else (.none, name)

end ForeignNames

/-- The attributes of a tag in the spelling of the namespace. -/
def Tag.foreignAttrs (t : Tag) (s : Namespace) : List Attr :=
  t.attributes.map fun a =>
    let name := match s with
      | .svg => ForeignNames.spelled ForeignNames.svgAttributes a.name
      | .mathml => if a.name = "definitionurl" then "definitionURL" else a.name
      | .html => a.name
    let (space, name) := ForeignNames.splitAttribute name
    ⟨space, name, a.value⟩

/-- The element of a tag that enters MathML or SVG. -/
def Tag.foreignElement (t : Tag) (s : Namespace) : Element :=
  ⟨s, t.name, t.foreignAttrs s⟩

/-- The element of a tag inside MathML or SVG. -/
def Tag.nestedElement (t : Tag) (s : Namespace) : Element :=
  let name := match s with
    | .svg => ForeignNames.spelled ForeignNames.svgElements t.name
    | _ => t.name
  ⟨s, name, t.foreignAttrs s⟩

end Gleaner.Markup
