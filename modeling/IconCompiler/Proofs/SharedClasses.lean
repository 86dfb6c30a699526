import IconCompiler.Proofs.ClassExpressions
import IconCompiler.Proofs.GlueTemplates
import IconCompiler.Proofs.ThemeImports

namespace IconCompiler

open IconCompiler.Emit IconCompiler.Markup IconCompiler.Script IconCompiler.Text

def Component.rootClasses (c : Component) : List String :=
  c.fixedClasses ++ onlyIf c.features.animation [c.modifierClass "spin", c.modifierClass "pulse"] ++
    onlyIf c.features.theming (themes.map fun t => c.modifierClass "theme" ++ "-" ++ t.name)

/-- These are the classes that the expressions of the component can give, whatever its properties are worth. -/
theorem Component.mem_rootClasses_iff (c : Component) {property : String → String}
    (h : ∀ name ∈ ["spin", "pulse", "theme"], isReference (property name) = true)
    (hb : c.features.theming = true → Verbatim c.baseClass.toList) {name : String} (hn : name ≠ "") :
    name ∈ c.rootClasses ↔ ∃ v : String → Worth,
      ((v (property "theme")).truthy = true → ∃ t ∈ themes, v (property "theme") = .text t.name) ∧
        ∃ names, appliedClasses? v (classExpressions c property) = some names ∧ name ∈ names := by
  simp only [List.forall_mem_cons] at h
  obtain ⟨hs, hp, ht, -⟩ := h
  simp only [c.appliedClasses?_of_verbatim hs hp ht hb, Option.some.injEq, exists_eq_left']
  have htruthy : ∀ t ∈ themes, (Worth.text t.name).truthy = true := by decide
  have hprimary : (⟨"primary", "#3b82f6"⟩ : Theme) ∈ themes := by decide
  simp only [rootClasses, classesFor, onlyIf, List.mem_append, List.mem_filter, List.mem_ite_nil_right, List.mem_cons,
    List.not_mem_nil, or_false, Bool.and_eq_true, decide_eq_true_eq]
  constructor
  · -- Properties that are all worth the name of one theme ask for every class but those of the other themes.
    rintro ((hfixed | ⟨ha, hname⟩) | ⟨htheming, hname⟩)
    · exact ⟨fun _ => .text "primary", fun _ => ⟨_, hprimary, rfl⟩, .inl (.inl (.inl ⟨hfixed, hn⟩))⟩
    · refine ⟨fun _ => .text "primary", fun _ => ⟨_, hprimary, rfl⟩, .inl ?_⟩
      rcases hname with rfl | rfl
      · exact .inl (.inr ⟨⟨ha, rfl⟩, rfl⟩)
      · exact .inr ⟨⟨ha, rfl⟩, rfl⟩
    · obtain ⟨t, hmem, rfl⟩ := List.mem_map.mp hname
      exact ⟨fun _ => .text t.name, fun _ => ⟨t, hmem, rfl⟩, .inr ⟨⟨htheming, htruthy t hmem⟩, rfl⟩⟩
  · rintro ⟨v, hv, ((⟨hfixed, -⟩ | ⟨⟨ha, -⟩, rfl⟩) | ⟨⟨ha, -⟩, rfl⟩) | ⟨⟨htheming, htheme⟩, rfl⟩⟩
    · exact .inl (.inl hfixed)
    · exact .inl (.inr ⟨ha, .inl rfl⟩)
    · exact .inl (.inr ⟨ha, .inr rfl⟩)
    · obtain ⟨t, hmem, hworth⟩ := hv htheme
      rw [hworth]
      exact .inr ⟨htheming, List.mem_map.mpr ⟨t, hmem, rfl⟩⟩

namespace Stylesheet

def head (name : String) : String := "." ++ name ++ " \x7b"

section

variable (base : String)

theorem head_isInfix (before name : String) :
    (head name).toList <:+: (before ++ "." ++ name ++ " \x7b\n").toList := by
  refine ⟨before.toList, ['\n'], ?_⟩
  rw [head, show " \x7b\n" = " \x7b" ++ "\n" from rfl]
  simp only [-String.reduceAppend, String.toList_append, List.append_assoc]
  rfl

theorem modifierHead_isInfix {modifier closing before dot : String} (hd : dot = before ++ ".")
    (hc : closing = "-" ++ modifier ++ " \x7b\n") (start : String) :
    (head (base ++ "-" ++ modifier)).toList <:+: (start ++ dot ++ base ++ closing).toList := by
  rw [hd, hc]
  simpa only [String.append_assoc] using head_isInfix (start ++ before) (base ++ "-" ++ modifier)

theorem isInfix_append_left {part s : String} (h : part.toList <:+: s.toList) (t : String) :
    part.toList <:+: (s ++ t).toList := by
  rw [String.toList_append]
  exact List.infix_append_of_infix_left h

theorem isInfix_append_right {part t : String} (h : part.toList <:+: t.toList) (s : String) :
    part.toList <:+: (s ++ t).toList := by
  rw [String.toList_append]
  exact List.infix_append_of_infix_right h

theorem baseHead_isInfix : (head base).toList <:+: (baseRule base).toList := by
  delta baseRule
  iterate 4 apply isInfix_append_left
  simpa only [String.empty_append] using head_isInfix "" base

theorem spinHead_isInfix : (head (base ++ "-" ++ "spin")).toList <:+: (animationRules base).toList := by
  have hd : "\n." = "\n" ++ "." := rfl
  have hc : "-spin \x7b\n" = "-" ++ "spin" ++ " \x7b\n" := rfl
  delta animationRules
  -- the rest of the rule for a spin and the rule for a pulse follow the head
  iterate 11 apply isInfix_append_left
  exact modifierHead_isInfix base hd hc _

theorem pulseHead_isInfix : (head (base ++ "-" ++ "pulse")).toList <:+: (animationRules base).toList := by
  have hd : "\n." = "\n" ++ "." := rfl
  have hc : "-pulse \x7b\n" = "-" ++ "pulse" ++ " \x7b\n" := rfl
  delta animationRules
  iterate 4 apply isInfix_append_left
  exact modifierHead_isInfix base hd hc _

theorem rtlHead_isInfix : (head (base ++ "-" ++ "rtl")).toList <:+: (rtlRule base).toList := by
  have hd : "\n[dir=\"rtl\"] ." = "\n[dir=\"rtl\"] " ++ "." := rfl
  have hc : "-rtl \x7b\n" = "-" ++ "rtl" ++ " \x7b\n" := rfl
  delta rtlRule
  iterate 2 apply isInfix_append_left
  simpa only [String.empty_append] using modifierHead_isInfix base hd hc ""

theorem themeClass_eq (name : String) : base ++ "-" ++ "theme" ++ "-" ++ name = base ++ "-theme-" ++ name := by
  rw [show "-theme-" = "-" ++ "theme" ++ "-" from rfl]
  simp only [-String.reduceAppend, String.append_assoc]

theorem themeRule_eq (t : Theme) : themeRule base t =
    "\n" ++ (head (base ++ "-theme-" ++ t.name) ++ ("\n  color: " ++ t.color base ++ ";\n\x7d\n")) := by
  delta themeRule head
  rw [show "\n." = "\n" ++ "." from rfl, show " \x7b\n" = " \x7b" ++ "\n" from rfl,
    show "\n  color: " = "\n" ++ "  color: " from rfl, show ";\n\x7d\n" = ";\n" ++ "\x7d\n" from rfl]
  simp only [-String.reduceAppend, String.append_assoc]

end

section

variable {c : Config}

theorem baseRule_isInfix : (baseRule c.baseClass).toList <:+: (text c).toList := by
  unfold text
  iterate 3 apply isInfix_append_left
  exact List.infix_rfl

theorem animationRules_isInfix (h : c.features.animation = true) :
    (animationRules c.baseClass).toList <:+: (text c).toList := by
  rw [text, if_pos h]
  iterate 2 apply isInfix_append_left
  exact isInfix_append_right List.infix_rfl _

theorem themeRule_isInfix (h : c.features.theming = true) {t : Theme} (ht : t ∈ themes) :
    (head (c.baseClass ++ "-theme-" ++ t.name) ++
      ("\n  color: " ++ t.color c.baseClass ++ ";\n\x7d\n")).toList <:+: (text c).toList := by
  have hrules : (themeRule c.baseClass t).toList <:+:
      (String.join (themes.map (themeRule c.baseClass))).toList := by
    rw [String.toList_join, List.flatMap_map]
    exact List.infix_of_mem_flatten (List.mem_map_of_mem ht)
  rw [themeRule_eq] at hrules
  rw [text, if_pos h]
  apply isInfix_append_left
  apply isInfix_append_right
  exact (isInfix_append_right List.infix_rfl "\n").trans hrules

theorem rtlRule_isInfix (h : c.features.rtl = true) : (rtlRule c.baseClass).toList <:+: (text c).toList := by
  rw [text, if_pos h]
  exact isInfix_append_right List.infix_rfl _

theorem head_isInfix_text {icon : String} {doc : Document} {name : String}
    (h : name ∈ (c.component icon doc).rootClasses) : (head name).toList <:+: (text c).toList := by
  rw [Component.rootClasses, List.mem_append, List.mem_append] at h
  obtain (hfixed | hanimation) | htheme := h
  · obtain rfl | hrtl := List.mem_cons.mp hfixed
    · exact (baseHead_isInfix _).trans baseRule_isInfix
    · obtain ⟨hr, hname⟩ := List.mem_ite_nil_right.mp hrtl
      obtain rfl := List.mem_singleton.mp hname
      exact (rtlHead_isInfix _).trans (rtlRule_isInfix hr)
  · obtain ⟨ha, hname⟩ := List.mem_ite_nil_right.mp hanimation
    refine List.IsInfix.trans ?_ (animationRules_isInfix ha)
    rcases List.mem_pair.mp hname with rfl | rfl
    · exact spinHead_isInfix _
    · exact pulseHead_isInfix _
  · obtain ⟨ht, hname⟩ := List.mem_ite_nil_right.mp htheme
    obtain ⟨t, hmem, rfl⟩ := List.mem_map.mp hname
    refine List.IsInfix.trans ?_ (themeRule_isInfix ht hmem)
    apply isInfix_append_left
    have hclass := themeClass_eq c.baseClass t.name
    exact hclass ▸ List.infix_rfl

end

end Stylesheet

namespace ThemeModule

def storedIn? (key : String) (line : List Char) : Option String :=
  (line.dropPrefix? ("  " ++ key ++ ": ").toList).bind fun rest =>
    match readQuoted? rest with
    | some (s, [',']) => some s
    | _ => none

def storedTexts (key s : String) : List String := (linesOf s).filterMap (storedIn? key)

theorem storedIn?_nil (key : String) : storedIn? key [] = none := by
  simp only [storedIn?, String.toList_append, List.append_assoc]
  rfl

theorem storedIn?_entryLine (base : String) {key : String} (hk : ':' ∉ key.toList) {t : Theme}
    (ht : ':' ∉ t.name.toList) :
    storedIn? key (entryLine base t).toList = if t.name = key then some (t.color base) else none := by
  have hl : (entryLine base t).toList =
      ("  " ++ t.name ++ ": ").toList ++ ((quoted (t.color base)).toList ++ [',']) := by
    rw [entryLine, String.toList_append, String.toList_append, List.append_assoc]
    rfl
  split
  case isTrue h =>
    subst h
    rw [storedIn?, hl, List.dropPrefix?_append_of_beq _ (beq_self_eq_true _), Option.bind_some,
      readQuoted?_append]
    rfl
  case isFalse h =>
    rw [storedIn?, Option.bind_eq_none_iff]
    intro rest hrest
    obtain ⟨start, hstart, hbeq⟩ := List.dropPrefix?_eq_some_iff.mp hrest
    rw [hl, eq_of_beq hbeq] at hstart
    simp only [String.toList_append, List.append_assoc] at hstart
    -- the key and the name both end at the first colon
    obtain ⟨hname, -⟩ := append_inj_of_all (p := fun c => c ≠ ':')
      (by simpa using List.forall_mem_ne'.mpr ht) (by simpa using List.forall_mem_ne'.mpr hk) (by simp) (by simp)
      (List.append_cancel_left hstart)
    exact absurd (String.toList_inj.mp hname) h

theorem storedTexts_entry (base : String) {t u : Theme} (ht : t ∈ themes) (hu : u ∈ themes) :
    storedTexts t.name (entry base u) = if u = t then [u.color base] else [] := by
  have hc : ∀ t ∈ themes, ':' ∉ t.name.toList := by decide
  have hn : ∀ t ∈ themes, ∀ u ∈ themes, u.name = t.name ↔ u = t := by decide
  have hline := storedIn?_entryLine base (hc t ht) (hc u hu)
  rw [storedTexts, linesOf_entry base (newline_not_mem_name u hu)]
  by_cases h : u = t
  · subst h
    rw [if_pos rfl] at hline
    rw [if_pos rfl, List.filterMap_cons_some hline, List.filterMap_cons_none (storedIn?_nil _)]
    rfl
  · rw [if_neg (mt (hn t ht u hu).mp h)] at hline
    rw [if_neg h, List.filterMap_cons_none hline, List.filterMap_cons_none (storedIn?_nil _)]
    rfl

theorem exists_text_eq (c : Config) :
    ∃ top bottom, text c = top ++ (String.join (themes.map (entry c.baseClass)) ++ bottom) ∧
      top.toList.getLast? = some '\n' ∧
      ∀ t ∈ themes, storedTexts t.name top = [] ∧ storedTexts t.name bottom = [] := by
  unfold text
  simp only [String.append_assoc]
  cases c.typescript with
  | false =>
    simp only [Bool.false_eq_true, if_false]
    refine ⟨_, _, rfl, ?_, ?_⟩
    · rw [String.toList_ofList]
      decide
    · simp only [storedTexts, linesOf, String.toList_append]
      repeat rw [String.toList_ofList]
      decide
  | true =>
    simp only [if_true, typedHeader_eq]
    refine ⟨_, _, rfl, ?_, ?_⟩
    · rw [String.toList_append, String.toList_ofList, String.toList_ofList]
      decide
    · simp only [storedTexts, linesOf, String.toList_append]
      repeat rw [String.toList_ofList]
      decide

theorem storedTexts_text (c : Config) {t : Theme} (ht : t ∈ themes) :
    storedTexts t.name (text c) = [t.color c.baseClass] := by
  obtain ⟨top, bottom, htext, htop, hnone⟩ := exists_text_eq c
  have hends : ∀ l ∈ themes.map (entry c.baseClass), l.toList.getLast? = some '\n' :=
    List.forall_mem_map.mpr fun u _ => getLast?_entry c.baseClass u
  have hn : themes.Nodup := by decide
  rw [htext, storedTexts, filterMap_linesOf_append (storedIn?_nil _) htop,
    filterMap_linesOf_join_append (storedIn?_nil _) hends]
  change storedTexts t.name top ++ (_ ++ storedTexts t.name bottom) = _
  rw [(hnone t ht).1, (hnone t ht).2, List.nil_append, List.append_nil, List.flatMap_map]
  refine (List.flatMap_congr fun u hu => storedTexts_entry c.baseClass ht hu).trans ?_
  rw [flatMap_ite_of_nodup hn, if_pos ht]

end ThemeModule

/-- Where a feature needs the shared files, they are what their templates render. The style sheet then has a rule
for every class that a component of the batch can put on its root, and for each theme the theme stores the very
color of the rule. -/
theorem glue_classes_and_colors {c : Config} (h : c.features.animation ∨ c.features.theming ∨ c.features.rtl) :
    ∃ set glue, glueTemplates = .ok set ∧ c.glue? = some glue ∧
      set.render "stylesheet" c.glueData = .ok glue.stylesheet ∧
      set.render "theme" c.glueData = .ok glue.theme ∧
      (∀ icon doc component, Component.ofIcon c icon doc = .ok component →
        ∀ name ∈ component.rootClasses, (Stylesheet.head name).toList <:+: glue.stylesheet.toList) ∧
      ∀ t ∈ themes,
        let color := "var(--" ++ c.baseClass ++ "-" ++ t.name ++ ", " ++ t.fallback ++ ")"
        ThemeModule.storedTexts t.name glue.theme = [color] ∧
          (c.features.theming → (Stylesheet.head (c.baseClass ++ "-theme-" ++ t.name) ++
            ("\n  color: " ++ color ++ ";\n\x7d\n")).toList <:+: glue.stylesheet.toList) := by
  obtain ⟨set, hset, hrender⟩ := exists_glueTemplates
  have hneeds : c.needsGlue = true := by simpa [Config.needsGlue, or_assoc] using h
  refine ⟨set, _, hset, if_pos hneeds, (hrender c).1, (hrender c).2, ?_, ?_⟩
  · intro icon doc component hc name hname
    rw [Component.ofIcon_eq] at hc
    split at hc
    case isTrue =>
      obtain rfl := Except.ok.inj hc
      exact Stylesheet.head_isInfix_text hname
    case isFalse => cases hc
  · intro t ht
    exact ⟨ThemeModule.storedTexts_text c ht, fun htheming => Stylesheet.themeRule_isInfix htheming ht⟩

theorem glue_classes_and_colors_hostile :
    let c : Config := { Config.standard with
      baseClass := "a'\\", features := { Features.none with animation := true, theming := true } }
    ∃ glue, c.glue? = some glue ∧
      (∃ component, Component.ofIcon c "x" ⟨.empty, [], ""⟩ = .ok component ∧
        "a'\\-spin" ∈ component.rootClasses) ∧
      (Stylesheet.head "a'\\-spin").toList <:+: glue.stylesheet.toList ∧
      ThemeModule.storedTexts "danger" glue.theme = ["var(--a'\\-danger, #ef4444)"] := by
  intro c
  have hx : Script.isIdentifier (c.naming.resolved "x") = true := by decide +kernel
  obtain ⟨-, glue, -, hglue, -, -, hclasses, hcolors⟩ := glue_classes_and_colors (c := c) (.inl rfl)
  have hc : Component.ofIcon c "x" ⟨.empty, [], ""⟩ = .ok (c.component "x" ⟨.empty, [], ""⟩) := by
    rw [Component.ofIcon_eq, if_pos hx]
  have hmem : "a'\\-spin" ∈ (c.component "x" ⟨.empty, [], ""⟩).rootClasses := by decide
  exact ⟨glue, hglue, ⟨_, hc, hmem⟩, hclasses _ _ _ hc _ hmem, (hcolors ⟨"danger", "#ef4444"⟩ (by decide)).1⟩

end IconCompiler
