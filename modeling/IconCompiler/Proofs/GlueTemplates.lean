import IconCompiler.Glue
import IconCompiler.Template.Reader

namespace IconCompiler

open IconCompiler.Template

namespace Template

@[simp]
theorem Node.render_text (scope : Scope) (s : String) : (Node.text s).render scope = s := by
  rw [Node.render]

@[simp]
theorem Node.render_call (scope : Scope) (h : Helper) (as : List Argument) :
    (Node.call h as).render scope = h.apply scope as := by
  rw [Node.render]

section

variable {scope : Scope} {r : Reference}

theorem Node.render_value {s : String} (h : r.resolve? scope = some (.string s)) : (Node.value r).render scope = s := by
  rw [Node.render, h, Option.map_some, Option.getD_some, display]

theorem Node.render_cond {b : Bool} (h : r.resolve? scope = some (.bool b)) (first second : List Node) :
    (Node.block .cond (.reference r) first second).render scope =
      if b then renderList scope first else renderList scope second := by
  cases b <;> simp [Node.render, Argument.resolve?, h, Block.scopes, holds]

theorem Node.render_each {items : List Json} (h : r.resolve? scope = some (.array items)) (part : List Node) :
    (Node.block .each (.reference r) part []).render scope =
      String.join (items.map fun item => renderList (item :: scope) part) := by
  cases items with
  | nil => simp [Node.render, Argument.resolve?, h, Block.scopes, Json.array?, renderList]
  | cons item items =>
    simp only [Node.render, Argument.resolve?, h, Block.scopes, Json.array?, Option.bind_some, Option.getD_some,
      List.map_cons, List.map_map]
    rfl

end

theorem renderList_append (scope : Scope) (ms ns : List Node) :
    renderList scope (ms ++ ns) = renderList scope ms ++ renderList scope ns := by
  induction ms with
  | nil => rw [List.nil_append, renderList, String.empty_append]
  | cons m ms ih => rw [List.cons_append, renderList, renderList, ih, String.append_assoc]

end Template

theorem kebabCase_name : ∀ t ∈ themes, Text.kebabCase t.name = t.name := by decide +kernel

def Theme.data (t : Theme) (base : String) : Json :=
  .object [("name", .string t.name), ("color", .string t.fallback), ("value", .string (t.color base))]

def Config.glueData (c : Config) : Json :=
  .object [("prefix", .string c.baseClass), ("animation", .bool c.features.animation),
    ("theming", .bool c.features.theming), ("rtl", .bool c.features.rtl), ("typescript", .bool c.typescript),
    ("themes", .array (themes.map fun t => t.data c.baseClass)),
    ("theme_literals", .array (themes.map fun t => .string (Script.quoted t.name)))]

def Template.atHand (name : String) : Reference := ⟨0, [name]⟩

theorem Template.resolve_atHand (name : String) (fields : List (String × Json)) (outer : Scope) :
    (atHand name).resolve? (.object fields :: outer) = fields.lookup name := by
  simp [Reference.resolve?, Reference.start?, atHand, Json.member?, Json.field?]

theorem Config.resolve_baseClass (c : Config) :
    (atHand "prefix").resolve? [c.glueData] = some (.string c.baseClass) :=
  resolve_atHand _ _ _

theorem Config.resolve_themes (c : Config) :
    (atHand "themes").resolve? [c.glueData] = some (.array (themes.map fun t => t.data c.baseClass)) :=
  resolve_atHand _ _ _

namespace Stylesheet

def template : String :=
  ".\x7b\x7bprefix\x7d\x7d \x7b\n" ++
    "  display: inline-block;\n" ++
    "  vertical-align: middle;\n" ++
    "  flex-shrink: 0;\n" ++
    "\x7d\n" ++
    "\x7b\x7b#if animation\x7d\x7d\n" ++
    "\n@keyframes \x7b\x7bprefix\x7d\x7d-spin \x7b\n" ++
    "  from \x7b transform: rotate(0deg); \x7d\n" ++
    "  to \x7b transform: rotate(360deg); \x7d\n" ++
    "\x7d\n" ++
    "\n@keyframes \x7b\x7bprefix\x7d\x7d-pulse \x7b\n" ++
    "  0%, 100% \x7b opacity: 1; \x7d\n" ++
    "  50% \x7b opacity: 0.5; \x7d\n" ++
    "\x7d\n" ++
    "\n.\x7b\x7bprefix\x7d\x7d-spin \x7b\n" ++
    "  animation: \x7b\x7bprefix\x7d\x7d-spin 1s linear infinite;\n" ++
    "\x7d\n" ++
    "\n.\x7b\x7bprefix\x7d\x7d-pulse \x7b\n" ++
    "  animation: \x7b\x7bprefix\x7d\x7d-pulse 2s ease-in-out infinite;\n" ++
    "\x7d\n" ++
    "\x7b\x7b/if\x7d\x7d\n" ++
    "\x7b\x7b#if theming\x7d\x7d\n" ++
    "\x7b\x7b#each themes\x7d\x7d\n" ++
    "\n.\x7b\x7b../prefix\x7d\x7d-theme-\x7b\x7bkebab_case name\x7d\x7d \x7b\n" ++
    "  color: var(--\x7b\x7b../prefix\x7d\x7d-\x7b\x7bkebab_case name\x7d\x7d, \x7b\x7bcolor\x7d\x7d);\n" ++
    "\x7d\n" ++
    "\x7b\x7b/each\x7d\x7d\n" ++
    "\x7b\x7b/if\x7d\x7d\n" ++
    "\x7b\x7b#if rtl\x7d\x7d\n" ++
    "\n[dir=\"rtl\"] .\x7b\x7bprefix\x7d\x7d-rtl \x7b\n" ++
    "  transform: scaleX(-1);\n" ++
    "\x7d\n" ++
    "\x7b\x7b/if\x7d\x7d\n"

-- The texts of the nodes are cut as the rules are, so that a rule and what its nodes render are one sum of strings.
def baseNodes : List Node :=
  [.text ".", .value (atHand "prefix"),
    .text (" \x7b\n" ++ "  display: inline-block;\n" ++ "  vertical-align: middle;\n" ++ "  flex-shrink: 0;\n" ++
      "\x7d\n")]

def animationNodes : List Node :=
  [.text "\n@keyframes ", .value (atHand "prefix"),
    .text ("-spin \x7b\n" ++ "  from \x7b transform: rotate(0deg); \x7d\n" ++
      "  to \x7b transform: rotate(360deg); \x7d\n" ++ "\x7d\n" ++ "\n@keyframes "),
    .value (atHand "prefix"),
    .text ("-pulse \x7b\n" ++ "  0%, 100% \x7b opacity: 1; \x7d\n" ++ "  50% \x7b opacity: 0.5; \x7d\n" ++ "\x7d\n" ++
      "\n."),
    .value (atHand "prefix"), .text ("-spin \x7b\n" ++ "  animation: "), .value (atHand "prefix"),
    .text ("-spin 1s linear infinite;\n" ++ "\x7d\n" ++ "\n."), .value (atHand "prefix"),
    .text ("-pulse \x7b\n" ++ "  animation: "), .value (atHand "prefix"),
    .text ("-pulse 2s ease-in-out infinite;\n" ++ "\x7d\n")]

def themeNodes : List Node :=
  [.text "\n.", .value ⟨1, ["prefix"]⟩, .text "-theme-", .call .kebabCase [.reference (atHand "name")],
    .text (" \x7b\n" ++ "  color: " ++ "var(--"), .value ⟨1, ["prefix"]⟩, .text "-",
    .call .kebabCase [.reference (atHand "name")], .text ", ", .value (atHand "color"),
    .text (")" ++ ";\n" ++ "\x7d\n")]

def rtlNodes : List Node :=
  [.text "\n[dir=\"rtl\"] .", .value (atHand "prefix"),
    .text ("-rtl \x7b\n" ++ "  transform: scaleX(-1);\n" ++ "\x7d\n")]

def nodes : List Node :=
  baseNodes ++
    [.block .cond (.reference (atHand "animation")) animationNodes [], .text "",
      .block .cond (.reference (atHand "theming"))
        [.text "", .block .each (.reference (atHand "themes")) themeNodes [], .text ""] [],
      .text "", .block .cond (.reference (atHand "rtl")) rtlNodes [], .text ""]

set_option maxRecDepth 10000 in
theorem read?_template : Template.read? template = some ⟨nodes⟩ := by
  unfold Template.read? template
  simp only [String.toList_append]
  repeat rw [String.toList_ofList]
  rfl

section

variable (c : Config)

-- `delta`, since the equations of the rules are slow to come by.
theorem render_baseNodes : renderList [c.glueData] baseNodes = baseRule c.baseClass := by
  delta baseRule
  simp only [-String.reduceAppend, baseNodes, renderList, Node.render_text, Node.render_value c.resolve_baseClass,
    String.append_assoc, String.append_empty]

theorem render_animationNodes : renderList [c.glueData] animationNodes = animationRules c.baseClass := by
  delta animationRules
  simp only [-String.reduceAppend, animationNodes, renderList, Node.render_text, Node.render_value c.resolve_baseClass,
    String.append_assoc, String.append_empty]

theorem render_rtlNodes : renderList [c.glueData] rtlNodes = rtlRule c.baseClass := by
  delta rtlRule
  simp only [-String.reduceAppend, rtlNodes, renderList, Node.render_text, Node.render_value c.resolve_baseClass,
    String.append_assoc, String.append_empty]

theorem render_themeNodes {t : Theme} (h : Text.kebabCase t.name = t.name) :
    renderList [t.data c.baseClass, c.glueData] themeNodes = themeRule c.baseClass t := by
  have hprefix : Reference.resolve? ⟨1, ["prefix"]⟩ [t.data c.baseClass, c.glueData] = some (.string c.baseClass) :=
    c.resolve_baseClass
  have hcolor : (atHand "color").resolve? [t.data c.baseClass, c.glueData] = some (.string t.fallback) :=
    resolve_atHand _ _ _
  have hname : Helper.apply [t.data c.baseClass, c.glueData] [.reference (atHand "name")] .kebabCase = t.name := by
    have hn : (atHand "name").resolve? [t.data c.baseClass, c.glueData] = some (.string t.name) :=
      resolve_atHand _ _ _
    simp [Helper.apply, stringArgument, Argument.resolve?, hn, Json.string?, h]
  delta themeRule Theme.color
  simp only [-String.reduceAppend, themeNodes, renderList, Node.render_text, Node.render_value hprefix,
    Node.render_value hcolor, Node.render_call, hname, String.append_assoc, String.append_empty]

theorem render_nodes : Template.render ⟨nodes⟩ c.glueData = text c := by
  have hanimation : (atHand "animation").resolve? [c.glueData] = some (.bool c.features.animation) :=
    resolve_atHand _ _ _
  have htheming : (atHand "theming").resolve? [c.glueData] = some (.bool c.features.theming) :=
    resolve_atHand _ _ _
  have hrtl : (atHand "rtl").resolve? [c.glueData] = some (.bool c.features.rtl) := resolve_atHand _ _ _
  have hrules : String.join ((themes.map fun t => t.data c.baseClass).map fun item =>
      renderList [item, c.glueData] themeNodes) = String.join (themes.map (themeRule c.baseClass)) := by
    rw [List.map_map]
    exact congrArg String.join (List.map_congr_left fun t ht => render_themeNodes c (kebabCase_name t ht))
  delta text
  simp only [-String.reduceAppend, Template.render, nodes, renderList_append, renderList, Node.render_cond hanimation,
    Node.render_cond htheming, Node.render_cond hrtl, Node.render_each c.resolve_themes, hrules, render_baseNodes,
    render_animationNodes, render_rtlNodes, Node.render_text, String.append_assoc, String.append_empty,
    String.empty_append]

end

end Stylesheet

namespace ThemeModule

def template : String :=
  "\x7b\x7b#if typescript\x7d\x7d\n" ++
    "export type IconTheme = \x7b\x7bjoin theme_literals \" | \"\x7d\x7d;\n" ++
    "\n" ++
    "export const ICON_THEME_COLORS: Record<IconTheme, string> = \x7b\n" ++
    "\x7b\x7belse\x7d\x7d\n" ++
    "export const ICON_THEME_COLORS = \x7b\n" ++
    "\x7b\x7b/if\x7d\x7d\n" ++
    "\x7b\x7b#each themes\x7d\x7d\n" ++
    "  \x7b\x7bname\x7d\x7d: \x7b\x7bjs_string value\x7d\x7d,\n" ++
    "\x7b\x7b/each\x7d\x7d\n" ++
    "\x7d;\n" ++
    "\n" ++
    "\x7b\x7b#if typescript\x7d\x7d\n" ++
    "export function resolveIconColor(color: string, theme?: IconTheme): string \x7b\n" ++
    "\x7b\x7belse\x7d\x7d\n" ++
    "export function resolveIconColor(color, theme) \x7b\n" ++
    "\x7b\x7b/if\x7d\x7d\n" ++
    "  return theme && theme in ICON_THEME_COLORS ? ICON_THEME_COLORS[theme] : color;\n" ++
    "\x7d\n"

def entryNodes : List Node :=
  [.text "  ", .value (atHand "name"), .text ": ", .call .quoted [.reference (atHand "value")], .text ",\n"]

def nodes : List Node :=
  [.text "",
    .block .cond (.reference (atHand "typescript"))
      [.text "export type IconTheme = ",
        .call .join [.reference (atHand "theme_literals"), .literal (.string " | ")],
        .text ";\n\nexport const ICON_THEME_COLORS: Record<IconTheme, string> = \x7b\n"]
      [.text "export const ICON_THEME_COLORS = \x7b\n"],
    .text "", .block .each (.reference (atHand "themes")) entryNodes [], .text "\x7d;\n\n",
    .block .cond (.reference (atHand "typescript"))
      [.text "export function resolveIconColor(color: string, theme?: IconTheme): string \x7b\n"]
      [.text "export function resolveIconColor(color, theme) \x7b\n"],
    .text ("  return theme && theme in ICON_THEME_COLORS ? ICON_THEME_COLORS[theme] : color;\n" ++ "\x7d\n")]

set_option maxRecDepth 10000 in
theorem read?_template : Template.read? template = some ⟨nodes⟩ := by
  unfold Template.read? template
  simp only [String.toList_append]
  repeat rw [String.toList_ofList]
  rfl

section

variable (c : Config)

theorem render_entryNodes (t : Theme) :
    renderList [t.data c.baseClass, c.glueData] entryNodes = entry c.baseClass t := by
  have hname : (atHand "name").resolve? [t.data c.baseClass, c.glueData] = some (.string t.name) :=
    resolve_atHand _ _ _
  have hcolor : Helper.apply [t.data c.baseClass, c.glueData] [.reference (atHand "value")] .quoted =
      Script.quoted (t.color c.baseClass) := by
    have hv : (atHand "value").resolve? [t.data c.baseClass, c.glueData] = some (.string (t.color c.baseClass)) :=
      resolve_atHand _ _ _
    simp [Helper.apply, stringArgument, Argument.resolve?, hv, Json.string?]
  delta entry
  simp only [-String.reduceAppend, entryNodes, renderList, Node.render_text, Node.render_value hname,
    Node.render_call, hcolor, String.append_assoc, String.append_empty]

theorem apply_join :
    Helper.apply [c.glueData] [.reference (atHand "theme_literals"), .literal (.string " | ")] .join =
      " | ".intercalate (themes.map fun t => Script.quoted t.name) := by
  have hliterals : (atHand "theme_literals").resolve? [c.glueData] =
      some (.array (themes.map fun t => .string (Script.quoted t.name))) := resolve_atHand _ _ _
  have hstrings : (themes.map fun t => Json.string (Script.quoted t.name)).filterMap Json.string? =
      themes.map fun t => Script.quoted t.name := by
    rw [List.filterMap_map, ← List.filterMap_eq_map]
    rfl
  simp [Helper.apply, joinArguments, Argument.resolve?, hliterals, Json.string?, Json.array?, hstrings]

theorem render_nodes : Template.render ⟨nodes⟩ c.glueData = text c := by
  have htypescript : (atHand "typescript").resolve? [c.glueData] = some (.bool c.typescript) :=
    resolve_atHand _ _ _
  have hentries : String.join ((themes.map fun t => t.data c.baseClass).map fun item =>
      renderList [item, c.glueData] entryNodes) = String.join (themes.map (entry c.baseClass)) := by
    rw [List.map_map]
    exact congrArg String.join (List.map_congr_left fun t _ => render_entryNodes c t)
  delta text
  simp only [-String.reduceAppend, Template.render, nodes, renderList, Node.render_cond htypescript,
    Node.render_each c.resolve_themes, hentries, Node.render_text, Node.render_call, apply_join, String.append_assoc,
    String.append_empty, String.empty_append]

end

end ThemeModule

theorem TemplateSet.register_of_read? (s : TemplateSet) (name : String) {text : String} {t : Template}
    (h : Template.read? text = some t) : s.register name text = .ok ⟨(name, t) :: s.entries⟩ := by
  rw [register, h]

def glueTemplates : Except TemplateError TemplateSet :=
  (TemplateSet.empty.register "stylesheet" Stylesheet.template).bind fun set =>
    set.register "theme" ThemeModule.template

theorem exists_glueTemplates : ∃ set, glueTemplates = .ok set ∧ ∀ c : Config,
    set.render "stylesheet" c.glueData = .ok (Stylesheet.text c) ∧
      set.render "theme" c.glueData = .ok (ThemeModule.text c) := by
  refine ⟨⟨[("theme", ⟨ThemeModule.nodes⟩), ("stylesheet", ⟨Stylesheet.nodes⟩)]⟩, ?_, fun c => ⟨?_, ?_⟩⟩
  · rw [glueTemplates, TemplateSet.register_of_read? _ _ Stylesheet.read?_template, Except.bind,
      TemplateSet.register_of_read? _ _ ThemeModule.read?_template]
    rfl
  · rw [← Stylesheet.render_nodes]
    rfl
  · rw [← ThemeModule.render_nodes]
    rfl

end IconCompiler
