import IconCompiler.Config
import IconCompiler.Markup.Element

namespace IconCompiler

open IconCompiler.Markup

def defaultViewBox : String := "0 0 24 24"

def svgNamespace : String := "http://www.w3.org/2000/svg"

structure ComponentFeatures where
  animation : Bool
  theming : Bool
  customClass : Bool
  customStyle : Bool
  rtl : Bool
  deriving DecidableEq, Repr

def ComponentFeatures.none : ComponentFeatures := ⟨false, false, false, false, false⟩

structure Component where
  name : String
  viewBox : String
  features : ComponentFeatures
  typescript : Bool
  defaultSize : String
  defaultColor : String
  baseClass : String
  deriving DecidableEq, Repr

namespace Component

def ofName (name : String) : Component :=
  ⟨name, defaultViewBox, .none, true, Defaults.standard.size, Defaults.standard.color,
    Config.standard.baseClass⟩

def ofIcon (config : Config) (icon : String) (doc : Document) :
    Except GenerationError Component :=
  (config.naming.componentName icon).map fun name =>
    { name := name
      viewBox := doc.viewBox?.getD defaultViewBox
      features := ⟨config.features.animation, config.features.theming, config.defaults.customClass,
        config.defaults.customStyle, config.features.rtl⟩
      typescript := config.typescript
      defaultSize := config.defaults.size
      defaultColor := config.defaults.color
      baseClass := config.baseClass }

def sizeExpression (c : Component) : String :=
  match Number.Binary64.read? c.defaultSize.toList with
  | some x => if x.isFinite then c.defaultSize else Script.quoted c.defaultSize
  | none => Script.quoted c.defaultSize

def customTag (c : Component) : String :=
  let tag := Text.kebabCase c.name
  if tag.toList.contains '-' then tag else tag ++ "-icon"

def modifierClass (c : Component) (modifier : String) : String := c.baseClass ++ "-" ++ modifier

def fixedClasses (c : Component) : List String :=
  c.baseClass :: (if c.features.rtl then [c.modifierClass "rtl"] else [])

end Component

inductive Paint where
  | fill
  | stroke
  deriving DecidableEq, Repr

def Markup.Document.paint (d : Document) : Paint :=
  match (d.attribute? "fill").bind Value.text? with
  | some fill => if Text.trimmed fill = "none" then .stroke else .fill
  | none => .fill

def wrapperAttributes : List String :=
  ["xmlns", "viewBox", "width", "height", "fill", "stroke", "class", "className", "style"]

def isNamespaceDeclaration (name : String) : Bool := "xmlns:".toList.isPrefixOf name.toList

def Markup.Document.keptAttributes (d : Document) : Attributes :=
  d.attributes.filter fun name => !wrapperAttributes.contains name && !isNamespaceDeclaration name

end IconCompiler
