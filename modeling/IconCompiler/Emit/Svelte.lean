import IconCompiler.Emit.Layout

namespace IconCompiler.Emit.Svelte

open IconCompiler.Markup

def node (tag attributes : String) (body : Body) (depth : Nat) : String :=
  markupElement escapeText tag attributes body depth

def properties (c : Component) : List String :=
  (if c.typescript then
      ["  export let size: number | string = " ++ c.sizeExpression ++ ";",
        "  export let color: string = " ++ Script.quoted c.defaultColor ++ ";"]
    else
      ["  export let size = " ++ c.sizeExpression ++ ";",
        "  export let color = " ++ Script.quoted c.defaultColor ++ ";"]) ++
    onlyIf c.features.animation ["  export let spin = false;", "  export let pulse = false;"] ++
    onlyIf c.features.theming [
      if c.typescript then "  export let theme: IconTheme | undefined = undefined;"
      else "  export let theme = undefined;"] ++
    onlyIf c.features.customClass ["  let className = '';", "  export \x7b className as class \x7d;"] ++
    onlyIf c.features.customStyle ["  export let style = '';"]

def script (c : Component) : List String :=
  [if c.typescript then "<script lang=\"ts\">" else "<script>"] ++
    (colorImport c).flatMap (fun i => ["  " ++ i, ""]) ++
    properties c ++
    ["", "  $: classes = " ++
        joinedClasses (classExpressions c id ++ onlyIf c.features.customClass ["className"]) ++ ";",
      "  $: paint = " ++ paintExpression c "color" "theme" ++ ";",
      "</script>"]

def rootAttributes (doc : Document) (c : Component) : List String :=
  ["xmlns=\"" ++ svgNamespace ++ "\"", "width=\x7bsize\x7d", "height=\x7bsize\x7d",
    "viewBox=\"" ++ escapeAttribute c.viewBox ++ "\""] ++
    (match doc.paint with
      | .fill => ["fill=\x7bpaint\x7d"]
      | .stroke => ["fill=\"none\"", "stroke=\x7bpaint\x7d"]) ++
    doc.keptAttributes.entries.map (fun a => markupAttribute a.1 a.2) ++
    ["class=\x7bclasses\x7d"] ++
    onlyIf c.features.customStyle ["\x7bstyle\x7d"]

def markup (doc : Document) (c : Component) (children : List String) : List String :=
  ["<svg"] ++ (rootAttributes doc c).map (fun a => "  " ++ a) ++ [">"] ++ children ++ ["</svg>", ""]

def enclose (doc : Document) (c : Component) (children : List String) : String :=
  lines (script c ++ [""] ++ markup doc c children)

end IconCompiler.Emit.Svelte
