import IconCompiler.Proofs.MarkupCharacters
import IconCompiler.Proofs.ScriptModules

namespace IconCompiler

open IconCompiler.Markup IconCompiler.Emit IconCompiler.Text

theorem Text.mem_of_mem_splitParts {p : Char → Bool} {cs w : List Char} {c : Char} (hw : w ∈ splitParts p cs)
    (hc : c ∈ w) : c ∈ cs := by
  induction cs generalizing w with
  | nil =>
    rw [splitParts, List.mem_singleton] at hw
    rwa [hw] at hc
  | cons d cs ih =>
    obtain ⟨v, vs, hv⟩ := List.exists_cons_of_ne_nil (splitParts_ne_nil p cs)
    simp only [splitParts, hv] at hw ih
    split_ifs at hw
    · rcases List.mem_cons.mp hw with rfl | hw
      · cases hc
      · exact List.mem_cons_of_mem d (ih hw hc)
    · rcases List.mem_cons.mp hw with rfl | hw
      · rcases List.mem_cons.mp hc with rfl | hc
        · exact List.mem_cons_self
        · exact List.mem_cons_of_mem d (ih List.mem_cons_self hc)
      · exact List.mem_cons_of_mem d (ih (List.mem_cons_of_mem v hw) hc)

namespace Markup

def braces : List Char := ['\x7b', '\x7d']

theorem forall_mem_braces {p : Char → Prop} : (∀ x ∈ braces, p x) ↔ p '\x7b' ∧ p '\x7d' := by
  rw [braces, List.forall_mem_cons, List.forall_mem_singleton]

def Braceless (s : String) : Prop := ∀ x ∈ braces, x ∉ s.toList

instance (s : String) : Decidable (Braceless s) := decidable_of_iff _ forall_mem_braces.symm

theorem Braceless.append {s t : String} (hs : Braceless s) (ht : Braceless t) : Braceless (s ++ t) := by
  intro x hx
  rw [String.toList_append, List.mem_append, not_or]
  exact ⟨hs x hx, ht x hx⟩

def bracedWords (s : String) : List String :=
  ((splitParts isBlank s.toList).filter fun w => braces.any w.contains).map String.ofList

theorem bracedWords_eq_nil {s : String} (h : Braceless s) : bracedWords s = [] := by
  rw [bracedWords, List.map_eq_nil_iff, List.filter_eq_nil_iff]
  intro w hw hb
  obtain ⟨x, hx, hc⟩ := List.any_eq_true.mp hb
  exact h x hx (mem_of_mem_splitParts hw (List.contains_iff_mem.mp hc))

theorem bracedWords_append (s t : String) : bracedWords (s ++ "\n" ++ t) = bracedWords s ++ bracedWords t := by
  have hs : splitParts isBlank (s ++ "\n" ++ t).toList =
      splitParts isBlank s.toList ++ splitParts isBlank t.toList := by
    rw [String.append_assoc, String.toList_append, String.toList_append]
    exact splitParts_append_cons rfl _ _
  rw [bracedWords, hs, List.filter_append, List.map_append, ← bracedWords, ← bracedWords]

theorem bracedWords_lines (ls : List String) : bracedWords (lines ls) = ls.flatMap bracedWords := by
  induction ls with
  | nil => rfl
  | cons l ls ih =>
    cases ls with
    | nil => simp [lines]
    | cons m ls =>
      rw [List.flatMap_cons, ← ih, lines, String.intercalate_cons_of_ne_nil (by simp), bracedWords_append]
      rfl

theorem bracedWords_indented (s : String) : bracedWords ("  " ++ s) = bracedWords s := by
  rw [bracedWords, String.toList_append]
  rfl

theorem Escapes.braceless {es : List Entity} (h : Escapes es)
    (hb : ∀ x ∈ braces, (∃ e ∈ es, e.char = x) ∧ ∀ e ∈ es, x ∉ e.reference.toList) (s : String) :
    Braceless (replaceEntities es s) := by
  intro x hx
  exact h.disjoint_replaceEntities hb s hx

theorem braceless_escapeAttribute (s : String) : Braceless (escapeAttribute s) :=
  escapes_attributeEntities.braceless (forall_mem_braces.mpr (by decide)) s

theorem braceless_escapeText (s : String) : Braceless (escapeText s) :=
  escapes_textEntities.braceless (forall_mem_braces.mpr (by decide)) s

theorem braces_outside : ∀ x ∈ braces, x ∉ layoutChars ∧ isNamePart x = false :=
  forall_mem_braces.mpr (by decide)

theorem Braceless.markupName {name : String} (h : Braceless name) : Braceless (markupName name) := by
  intro x hx
  exact not_mem_markupName (braces_outside x hx).2 (h x hx)

theorem Braceless.markupAttribute {name : String} (h : Braceless name) (value : Value) :
    Braceless (markupAttribute name value) := by
  intro x hx
  exact not_mem_markupAttribute (braces_outside x hx).1 (h.markupName x hx) (braceless_escapeAttribute _ x hx)

theorem Element.mem_preorder_trans {c d e : Element} (hd : d ∈ e.preorder) (hc : c ∈ d.preorder) :
    c ∈ e.preorder := by
  induction e using Element.induction with
  | h e ih =>
    rw [Element.preorder_eq, List.mem_cons, Element.mem_preorderList] at hd
    obtain rfl | ⟨b, hb, hd⟩ := hd
    · exact hc
    · rw [Element.preorder_eq]
      exact List.mem_cons_of_mem _ (Element.mem_preorderList.mpr ⟨b, hb, ih b hb hd⟩)

theorem Element.mem_preorderList_trans {c d : Element} {es : List Element} (hd : d ∈ Element.preorderList es)
    (hc : c ∈ d.preorder) : c ∈ Element.preorderList es := by
  obtain ⟨e, he, hd⟩ := Element.mem_preorderList.mp hd
  exact Element.mem_preorderList.mpr ⟨e, he, Element.mem_preorder_trans hd hc⟩

def Element.names (e : Element) : List String := e.tag :: e.attributes.names

def Document.names (doc : Document) : List String :=
  doc.attributes.names ++ (Element.preorderList doc.children).flatMap Element.names

theorem Element.braceless_writtenTexts {e : Element} (h : ∀ s ∈ e.names, Braceless s) :
    ∀ s ∈ e.writtenTexts, Braceless s := by
  intro s hs
  simp only [writtenTexts, List.mem_append, List.mem_cons, List.mem_flatMap, List.mem_map] at hs
  rcases hs with (rfl | ⟨a, ha, hs⟩) | ⟨r, -, rfl⟩
  · exact h _ List.mem_cons_self
  · rcases hs with rfl | rfl | hs
    · exact (h a.1 (List.mem_cons_of_mem _ (List.mem_map_of_mem ha))).markupName
    · exact braceless_escapeAttribute _
    · cases hs
  · exact braceless_escapeText r

theorem Element.braceless_svelte {e : Element} (h : ∀ d ∈ e.preorder, ∀ s ∈ d.names, Braceless s) (depth : Nat) :
    Braceless (Target.svelte.element depth e) := by
  intro x hx
  exact not_mem_element (braces_outside x hx).1 (.inl rfl) e
    (fun d hd s hs => Element.braceless_writtenTexts (h d hd) s hs x hx) depth

end Markup

namespace Emit.Svelte

def rootExpressions (doc : Document) (c : Component) : List String :=
  ["width=\x7bsize\x7d", "height=\x7bsize\x7d",
    if doc.paint = .fill then "fill=\x7bpaint\x7d" else "stroke=\x7bpaint\x7d",
    "class=\x7bclasses\x7d"] ++ onlyIf c.features.customStyle ["\x7bstyle\x7d"]

theorem flatMap_bracedWords_eq_nil {ls : List String} (h : ∀ l ∈ ls, Braceless l) : ls.flatMap bracedWords = [] :=
  List.flatMap_eq_nil_iff.mpr fun l hl => bracedWords_eq_nil (h l hl)

theorem bracedWords_rootAttributes {doc : Document} (h : ∀ s ∈ doc.attributes.names, Braceless s)
    (c : Component) : (rootAttributes doc c).flatMap bracedWords = rootExpressions doc c := by
  have hview : bracedWords ("viewBox=\"" ++ escapeAttribute c.viewBox ++ "\"") = [] :=
    bracedWords_eq_nil ((Braceless.append (by decide) (braceless_escapeAttribute _)).append (by decide))
  have hkept : (doc.keptAttributes.entries.map fun a => markupAttribute a.1 a.2).flatMap bracedWords = [] := by
    apply flatMap_bracedWords_eq_nil
    intro l hl
    obtain ⟨a, ha, rfl⟩ := List.mem_map.mp hl
    exact (h a.1 (List.mem_map_of_mem (List.mem_of_mem_filter ha))).markupAttribute a.2
  unfold rootAttributes rootExpressions
  simp only [List.flatMap_append, hkept, List.flatMap_cons, hview]
  cases doc.paint <;> cases c.features.customStyle <;> rfl

theorem bracedWords_markup {doc : Document} (h : ∀ s ∈ doc.attributes.names, Braceless s) (c : Component)
    {children : List String} (hc : ∀ s ∈ children, Braceless s) :
    bracedWords (lines (markup doc c children)) = rootExpressions doc c := by
  have hroot : ((rootAttributes doc c).map fun a => "  " ++ a).flatMap bracedWords = rootExpressions doc c := by
    simp only [List.flatMap_map, bracedWords_indented]
    exact bracedWords_rootAttributes h c
  have hopen : ∀ l ∈ ["<svg"], Braceless l := by decide
  have hend : ∀ l ∈ [">"], Braceless l := by decide
  have hclose : ∀ l ∈ ["</svg>", ""], Braceless l := by decide
  rw [bracedWords_lines, markup]
  simp only [List.flatMap_append, hroot, flatMap_bracedWords_eq_nil hc, flatMap_bracedWords_eq_nil hopen,
    flatMap_bracedWords_eq_nil hend, flatMap_bracedWords_eq_nil hclose, List.nil_append, List.append_nil]

theorem exists_lines_markup (doc : Document) (c : Component) (children : List String) :
    ∃ rest, lines (markup doc c children) = "<svg\n" ++ rest := by
  unfold markup lines
  rw [List.append_assoc, List.append_assoc, List.append_assoc, List.singleton_append,
    String.intercalate_cons_of_ne_nil (by simp)]
  exact ⟨_, rfl⟩

theorem exists_enclose_eq (c : Component) : ∃ script : String, ∀ doc view children,
    enclose doc { c with viewBox := view } children =
      script ++ "</script>\n\n" ++ lines (markup doc { c with viewBox := view } children) := by
  obtain ⟨before, hb, hs⟩ : ∃ before, before ≠ [] ∧ script c = before ++ ["</script>"] := by
    unfold script
    exact ⟨_, by simp, (List.append_assoc _ [_, _, _] _).symm⟩
  refine ⟨lines before ++ "\n", fun doc view children => ?_⟩
  change lines (script c ++ [""] ++ markup doc { c with viewBox := view } children) = _
  have hm : markup doc { c with viewBox := view } children ≠ [] := by simp [markup]
  generalize markup doc { c with viewBox := view } children = ls at hm
  have hlines : lines (before ++ "</script>" :: "" :: ls) =
      lines before ++ "\n" ++ ("</script>" ++ "\n" ++ ("" ++ "\n" ++ lines ls)) := by
    unfold lines
    rw [String.intercalate_append_of_ne_nil hb (by simp), String.intercalate_cons_cons,
      String.intercalate_cons_of_ne_nil hm]
  rw [hs, List.append_assoc, List.append_assoc, List.singleton_append, List.singleton_append, hlines,
    ← String.toList_inj]
  simp

end Emit.Svelte

open Emit.Svelte

/-- A Svelte component is a script without anything of the icon, followed by the markup. Whatever the values, the
texts and the view box are, braces stand in the markup only around the size, the color, the classes and, if the
component takes one, the style; the elements have none. -/
theorem sourceText_bracedWords (c : Component) : ∃ script : String, ∀ (doc : Document) (view : String),
    (∀ s ∈ doc.names, Braceless s) → ∃ rest : String,
      Target.svelte.sourceText doc { c with viewBox := view } = script ++ "</script>\n\n" ++ ("<svg\n" ++ rest) ∧
      bracedWords ("<svg\n" ++ rest) = rootExpressions doc c ∧
      ∀ e ∈ Element.preorderList doc.children, ∀ depth, Braceless (Target.svelte.element depth e) := by
  obtain ⟨script, hscript⟩ := exists_enclose_eq c
  refine ⟨script, fun doc view h => ?_⟩
  have helement : ∀ e ∈ Element.preorderList doc.children, ∀ depth, Braceless (Target.svelte.element depth e) := by
    intro e he
    apply Element.braceless_svelte
    intro d hd s hs
    exact h s (List.mem_append_right _ (List.mem_flatMap.mpr ⟨d, Element.mem_preorderList_trans he hd, hs⟩))
  have hchildren : ∀ s ∈ Target.svelte.elements Target.svelte.contentDepth doc.children, Braceless s := by
    intro s hs
    rw [Target.elements_eq_map] at hs
    obtain ⟨e, he, rfl⟩ := List.mem_map.mp hs
    exact helement e (Element.mem_preorderList.mpr ⟨e, he, e.mem_preorder_self⟩) _
  have hmarkup := bracedWords_markup (fun s hs => h s (List.mem_append_left _ hs)) { c with viewBox := view } hchildren
  obtain ⟨rest, hrest⟩ := exists_lines_markup doc { c with viewBox := view }
    (Target.svelte.elements Target.svelte.contentDepth doc.children)
  rw [hrest] at hmarkup
  refine ⟨rest, ?_, hmarkup, helement⟩
  rw [← hrest]
  exact hscript doc view _

theorem sourceText_bracedWords_hostile :
    let doc : Document := ⟨⟨[("fill", .text "none"), ("id", .text "\x7bevil()\x7d")]⟩,
      [⟨"g", ⟨[("d", .text "\x7b@html x\x7d")]⟩, [⟨"text", .empty, [], some "\x7b#if y\x7d"⟩], some "\x7b"⟩], ""⟩
    let c : Component := { Component.ofName "X" with
      viewBox := "\x7d \x7bz", features := { ComponentFeatures.none with customStyle := true } }
    (∀ s ∈ doc.names, Braceless s) ∧ ∃ script rest : String,
      Target.svelte.sourceText doc c = script ++ "</script>\n\n" ++ ("<svg\n" ++ rest) ∧
      bracedWords ("<svg\n" ++ rest) = ["width=\x7bsize\x7d", "height=\x7bsize\x7d", "stroke=\x7bpaint\x7d",
        "class=\x7bclasses\x7d", "\x7bstyle\x7d"] ∧
      ∀ e ∈ Element.preorderList doc.children, ∀ depth, Braceless (Target.svelte.element depth e) := by
  intro doc c
  have h : ∀ s ∈ doc.names, Braceless s := by decide +kernel
  obtain ⟨script, hscript⟩ := sourceText_bracedWords c
  obtain ⟨rest, hsource, hwords, helements⟩ := hscript doc c.viewBox h
  exact ⟨h, script, rest, hsource, hwords, helements⟩

end IconCompiler
