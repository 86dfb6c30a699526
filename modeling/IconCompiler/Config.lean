import IconCompiler.Json.Value
import IconCompiler.Script.Literal
import IconCompiler.Target
import IconCompiler.Text.Words

namespace IconCompiler

structure Features where
  animation : Bool
  theming : Bool
  /-- Icons are flipped in text that runs from right to left. -/
  rtl : Bool
  preview : Bool
  /-- Script without types gets separate declarations. -/
  dts : Bool
  treeshaking : Bool
  deriving DecidableEq, Repr

structure Defaults where
  size : String
  color : String
  customClass : Bool
  customStyle : Bool
  deriving DecidableEq, Repr

structure Naming where
  lead : String
  trail : String
  deriving DecidableEq, Repr

structure Config where
  targets : List Target
  typescript : Bool
  features : Features
  defaults : Defaults
  naming : Naming
  baseClass : String
  deriving DecidableEq, Repr

def Features.none : Features := ⟨false, false, false, false, false, false⟩

def Defaults.standard : Defaults := ⟨"24", "currentColor", false, false⟩

def Naming.plain : Naming := ⟨"", ""⟩

def Config.standard : Config := ⟨[.react], true, .none, .standard, .plain, "icon"⟩

def Naming.componentName (n : Naming) (icon : String) : Except GenerationError String :=
  let name := n.lead ++ Text.pascalCase icon ++ n.trail
  if Script.isIdentifier name then .ok name else .error (.invalidName icon name)

def Config.needsGlue (c : Config) : Bool :=
  c.features.animation || c.features.theming || c.features.rtl

def Config.separateDeclarations (c : Config) : Bool := c.features.dts && !c.typescript

namespace Target

def toJson (t : Target) : Json := .string t.name

def ofJson? : Json → Option Target
  | .string s => ofName? s
  | .object [(s, .null)] => ofName? s
  | _ => none

end Target

namespace Features

def toJson (f : Features) : Json :=
  .object [("animation", .bool f.animation), ("theming", .bool f.theming), ("rtl", .bool f.rtl),
    ("preview", .bool f.preview), ("dts", .bool f.dts), ("treeshaking", .bool f.treeshaking)]

def ofJson? (j : Json) : Option Features :=
  match j.record? ["animation", "theming", "rtl", "preview", "dts", "treeshaking"] with
  | some [animation, theming, rtl, preview, dts, treeshaking] => do
    let animation ← Json.fieldOr Json.bool? none.animation animation
    let theming ← Json.fieldOr Json.bool? none.theming theming
    let rtl ← Json.fieldOr Json.bool? none.rtl rtl
    let preview ← Json.fieldOr Json.bool? none.preview preview
    let dts ← Json.fieldOr Json.bool? none.dts dts
    let treeshaking ← Json.fieldOr Json.bool? none.treeshaking treeshaking
    return ⟨animation, theming, rtl, preview, dts, treeshaking⟩
  | _ => Option.none

end Features

namespace Defaults

def toJson (d : Defaults) : Json :=
  .object [("defaultSize", .string d.size), ("defaultColor", .string d.color),
    ("customClass", .bool d.customClass), ("customStyle", .bool d.customStyle)]

def ofJson? (j : Json) : Option Defaults :=
  match j.record? ["defaultSize", "defaultColor", "customClass", "customStyle"] with
  | some [size, color, customClass, customStyle] => do
    let size ← Json.fieldOr Json.string? standard.size size
    let color ← Json.fieldOr Json.string? standard.color color
    let customClass ← Json.fieldOr Json.bool? standard.customClass customClass
    let customStyle ← Json.fieldOr Json.bool? standard.customStyle customStyle
    return ⟨size, color, customClass, customStyle⟩
  | _ => none

end Defaults

namespace Naming

def toJson (n : Naming) : Json := .object [("prefix", .string n.lead), ("suffix", .string n.trail)]

def ofJson? (j : Json) : Option Naming :=
  match j.record? ["prefix", "suffix"] with
  | some [lead, trail] => do
    let lead ← Json.fieldOr Json.string? plain.lead lead
    let trail ← Json.fieldOr Json.string? plain.trail trail
    return ⟨lead, trail⟩
  | _ => none

end Naming

namespace Config

def toJson (c : Config) : Json :=
  .object [("targets", .array (c.targets.map Target.toJson)), ("typescript", .bool c.typescript),
    ("features", c.features.toJson), ("defaults", c.defaults.toJson), ("naming", c.naming.toJson),
    ("classPrefix", .string c.baseClass)]

def targetsOfJson? (j : Json) : Option (List Target) := j.array?.bind fun js => js.mapM Target.ofJson?

def ofJson? (j : Json) : Option Config :=
  match j.record? ["targets", "typescript", "features", "defaults", "naming", "classPrefix"] with
  | some [targets, typescript, features, defaults, naming, baseClass] => do
    let targets ← Json.fieldOr targetsOfJson? standard.targets targets
    let typescript ← Json.fieldOr Json.bool? standard.typescript typescript
    let features ← Json.fieldOr Features.ofJson? standard.features features
    let defaults ← Json.fieldOr Defaults.ofJson? standard.defaults defaults
    let naming ← Json.fieldOr Naming.ofJson? standard.naming naming
    let baseClass ← Json.fieldOr Json.string? standard.baseClass baseClass
    return ⟨targets, typescript, features, defaults, naming, baseClass⟩
  | _ => none

end Config

end IconCompiler
