import IconCompiler.Markup.Value
import IconCompiler.Text.Ascii

namespace IconCompiler.Markup

open IconCompiler.Text

/-- A source spelling, in lower case, with the canonical spelling of the same name. -/
structure Spelling where
  source : String
  canonical : String
  deriving DecidableEq, Repr

def spellings : List Spelling := [
  ⟨"viewbox", "viewBox"⟩,
  ⟨"preserveaspectratio", "preserveAspectRatio"⟩,
  ⟨"stroke-width", "strokeWidth"⟩,
  ⟨"stroke-linecap", "strokeLinecap"⟩,
  ⟨"stroke-linejoin", "strokeLinejoin"⟩,
  ⟨"stroke-dasharray", "strokeDasharray"⟩,
  ⟨"stroke-dashoffset", "strokeDashoffset"⟩,
  ⟨"stroke-miterlimit", "strokeMiterlimit"⟩,
  ⟨"stroke-opacity", "strokeOpacity"⟩,
  ⟨"fill-rule", "fillRule"⟩,
  ⟨"fill-opacity", "fillOpacity"⟩,
  ⟨"clip-rule", "clipRule"⟩,
  ⟨"clip-path", "clipPath"⟩,
  ⟨"stop-color", "stopColor"⟩,
  ⟨"stop-opacity", "stopOpacity"⟩,
  ⟨"font-size", "fontSize"⟩,
  ⟨"font-family", "fontFamily"⟩,
  ⟨"font-weight", "fontWeight"⟩,
  ⟨"text-anchor", "textAnchor"⟩,
  ⟨"xlink:href", "xlinkHref"⟩]

def canonicalName (name : String) : String :=
  match spellings.find? fun s => s.source == asciiLower name with
  | some s => s.canonical
  | none => name

def Spelling.isMarkup (s : Spelling) : Bool := s.source.toList.any fun c => c == '-' || c == ':'

def markupName (canonical : String) : String :=
  match spellings.find? fun s => s.isMarkup && s.canonical == canonical with
  | some s => s.source
  | none => canonical

def numericAttributes : List String :=
  ["width", "height", "x", "y", "cx", "cy", "r", "rx", "ry", "strokeWidth", "strokeDashoffset",
    "opacity", "fillOpacity", "strokeOpacity"]

def flagAttributes : List String := ["hidden", "disabled"]

def kindOf (canonical : String) : Kind :=
  if numericAttributes.contains canonical then .number
  else if flagAttributes.contains canonical then .flag
  else .text

def isPaint (name : String) : Bool := name == "fill" || name == "stroke"

def voidElements : List String :=
  ["circle", "ellipse", "line", "path", "polygon", "polyline", "rect", "use", "area", "base", "br",
    "col", "embed", "hr", "img", "input", "link", "meta", "param", "source", "track", "wbr"]

def isVoid (tag : String) : Bool := voidElements.contains tag

def recognizedElements : List String :=
  ["svg", "g", "defs", "symbol", "use", "switch", "a", "view", "foreignObject", "title", "desc",
    "metadata", "style", "path", "circle", "ellipse", "line", "polygon", "polyline", "rect", "image",
    "linearGradient", "radialGradient", "stop", "pattern", "clipPath", "mask", "marker", "filter",
    "feBlend", "feColorMatrix", "feComposite", "feDropShadow", "feFlood", "feGaussianBlur", "feMerge",
    "feMergeNode", "feMorphology", "feOffset", "feTurbulence", "feDisplacementMap", "animate",
    "animateMotion", "animateTransform", "set", "mpath", "text", "tspan", "textPath"]

def isRecognized (tag : String) : Bool := recognizedElements.contains tag

end IconCompiler.Markup
