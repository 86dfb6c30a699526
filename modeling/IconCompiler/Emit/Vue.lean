import IconCompiler.Emit.Layout

namespace IconCompiler.Emit.Vue

open IconCompiler.Markup

def entry (name : String) (value : Value) : String :=
  Script.objectKey (markupName name) ++ ": " ++
    (match value with
      | .text s => Script.quoted s
      | .number _ => value.display
      | .flag _ => value.display)

def attributes (as : List (String × Value)) : String :=
  match as with
  | [] => ""
  | _ => "\x7b " ++ ", ".intercalate (as.map fun a => entry a.1 a.2) ++ " \x7d"

def node (tag attributes : String) (body : Body) (depth : Nat) : String :=
  let pad := indent depth
  let object := if attributes = "" then "null" else attributes
  let call := pad ++ "h(" ++ Script.quoted tag
  match body with
  | .empty => if attributes = "" then call ++ ")" else call ++ ", " ++ object ++ ")"
  | .text s => call ++ ", " ++ object ++ ", " ++ Script.quoted s ++ ")"
  | .children cs =>
    call ++ ", " ++ object ++ ", [\n" ++ ",\n".intercalate cs ++ ",\n" ++ pad ++ "])"

def properties (c : Component) : List String :=
  ["    size: \x7b type: [Number, String], default: " ++ c.sizeExpression ++ " \x7d,",
    "    color: \x7b type: String, default: " ++ Script.quoted c.defaultColor ++ " \x7d,"] ++
    onlyIf c.features.animation [
      "    spin: \x7b type: Boolean, default: false \x7d,",
      "    pulse: \x7b type: Boolean, default: false \x7d,"] ++
    onlyIf c.features.theming [
      if c.typescript then
        "    theme: \x7b type: String as PropType<IconTheme>, default: undefined \x7d,"
      else "    theme: \x7b type: String, default: undefined \x7d,"]

def rootEntries (doc : Document) (c : Component) : List String :=
  let color := paintExpression c "props.color" "props.theme"
  ["xmlns: " ++ Script.quoted svgNamespace, "width: props.size", "height: props.size",
    "viewBox: " ++ Script.quoted c.viewBox] ++
    (match doc.paint with
      | .fill => ["fill: " ++ color]
      | .stroke => ["fill: 'none'", "stroke: " ++ color]) ++
    doc.keptAttributes.entries.map (fun a => entry a.1 a.2) ++
    ["class: classes"] ++
    onlyIf c.features.customStyle ["style: attrs.style"]

def enclose (doc : Document) (c : Component) (children : List String) : String :=
  lines (
    [if c.typescript && c.features.theming then
        "import \x7b defineComponent, h, type PropType \x7d from 'vue';"
      else "import \x7b defineComponent, h \x7d from 'vue';"] ++
    colorImport c ++
    ["", "export const " ++ c.name ++ " = defineComponent(\x7b",
      "  name: " ++ Script.quoted c.name ++ ",",
      "  inheritAttrs: false,",
      "  props: \x7b"] ++
    properties c ++
    ["  \x7d,",
      if c.features.customClass || c.features.customStyle then
        "  setup(props, \x7b attrs \x7d) \x7b"
      else "  setup(props) \x7b",
      "    return () => \x7b",
      "      const classes = " ++
        joinedClasses (classExpressions c (fun p => "props." ++ p) ++
          onlyIf c.features.customClass ["attrs.class"]) ++ ";",
      "      return h(", "        'svg',", "        \x7b"] ++
    (rootEntries doc c).map (fun e => "          " ++ e ++ ",") ++
    ["        \x7d,"] ++
    (if children.isEmpty then ["        [],"]
      else ["        ["] ++ children.map (fun s => s ++ ",") ++ ["        ],"]) ++
    ["      );", "    \x7d;", "  \x7d,", "\x7d);", "", defaultExport c, ""])

def declarations (c : Component) : String :=
  lines (
    ["import type \x7b DefineComponent \x7d from 'vue';"] ++ typeImport c ++
    ["", "export interface " ++ c.name ++ "Props \x7b"] ++
    (propertySignatures c).map (fun p => "  " ++ p) ++
    ["\x7d", "", "export declare const " ++ c.name ++ ": DefineComponent<" ++ c.name ++ "Props>;",
      defaultExport c, ""])

end IconCompiler.Emit.Vue
