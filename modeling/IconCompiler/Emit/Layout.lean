import IconCompiler.Component
import IconCompiler.Markup.Entity

namespace IconCompiler.Emit

open IconCompiler.Markup

inductive Body where
  | empty
  | text (s : String)
  | children (cs : List String)
  deriving DecidableEq, Repr

def lines (ls : List String) : String := "\n".intercalate ls

def indent (depth : Nat) : String := String.ofList (List.replicate (2 * depth) ' ')

def onlyIf (condition : Bool) (items : List String) : List String := if condition then items else []

def markupElement (escape : String → String) (tag attributes : String) (body : Body) (depth : Nat) :
    String :=
  let pad := indent depth
  let start := if attributes = "" then "<" ++ tag else "<" ++ tag ++ " " ++ attributes
  match body with
  | .empty => pad ++ start ++ " />"
  | .text s => pad ++ start ++ ">" ++ escape s ++ "</" ++ tag ++ ">"
  | .children cs => pad ++ start ++ ">\n" ++ lines cs ++ "\n" ++ pad ++ "</" ++ tag ++ ">"

def markupAttribute (name : String) (value : Value) : String :=
  markupName name ++ "=\"" ++ escapeAttribute value.display ++ "\""

def markupAttributes (as : List (String × Value)) : String :=
  " ".intercalate (as.map fun a => markupAttribute a.1 a.2)

/-- Script expressions for the classes of the root, falsy ones to be left out; `property` is the
expression that reads a property. -/
def classExpressions (c : Component) (property : String → String) : List String :=
  c.fixedClasses.map Script.quoted ++
    onlyIf c.features.animation [
      property "spin" ++ " && " ++ Script.quoted (c.modifierClass "spin"),
      property "pulse" ++ " && " ++ Script.quoted (c.modifierClass "pulse")] ++
    onlyIf c.features.theming [
      property "theme" ++ " && `" ++ c.modifierClass "theme" ++ "-$\x7b" ++ property "theme" ++
        "\x7d`"]

def joinedClasses (parts : List String) : String :=
  "[" ++ ", ".intercalate parts ++ "].filter(Boolean).join(' ')"

def propertySignatures (c : Component) : List String :=
  ["size?: number | string;", "color?: string;"] ++
    onlyIf c.features.animation ["spin?: boolean;", "pulse?: boolean;"] ++
    onlyIf c.features.theming ["theme?: IconTheme;"]

def themeModule : String := "./theme"

def colorImport (c : Component) : List String :=
  onlyIf c.features.theming [
    if c.typescript then
      "import \x7b resolveIconColor, type IconTheme \x7d from '" ++ themeModule ++ "';"
    else "import \x7b resolveIconColor \x7d from '" ++ themeModule ++ "';"]

def typeImport (c : Component) : List String :=
  onlyIf c.features.theming ["import type \x7b IconTheme \x7d from '" ++ themeModule ++ "';"]

def paintExpression (c : Component) (color theme : String) : String :=
  if c.features.theming then "resolveIconColor(" ++ color ++ ", " ++ theme ++ ")" else color

def defaultExport (c : Component) : String := "export default " ++ c.name ++ ";"

end IconCompiler.Emit
