import IconCompiler.Proofs.EmittedMarkup

namespace IconCompiler

namespace Markup

theorem not_mem_markupName {x : Char} (hx : isNamePart x = false) {name : String} (h : x ∉ name.toList) :
    x ∉ (markupName name).toList := by
  rcases markupName_cases name with hm | ⟨s, hs, -, hm⟩
  · rwa [hm]
  · intro hs'
    rw [hm] at hs'
    have hp := isNamePart_of_isName (spellings_valid s hs).1 x hs'
    rw [hx] at hp
    cases hp

theorem NameText.not_mem {x : Char} (hx : isNamePart x = false) {s : String} (h : NameText s) : x ∉ s.toList := by
  intro hm
  have hp := h x hm
  rw [hx] at hp
  cases hp

theorem not_mem_display {x : Char} (hx : isNamePart x = false) {v : Value} (h : ∀ s ∈ v.text?, x ∉ s.toList) :
    x ∉ v.display.toList := by
  cases v with
  | text s => exact h s rfl
  | number n => exact (nameText_number n).not_mem hx
  | flag b => exact (nameText_flagText b).not_mem hx

def Element.writtenTexts (e : Element) : List String :=
  e.tag :: (e.attributes.entries.flatMap fun a => [markupName a.1, escapeAttribute a.2.display]) ++
    e.content.toList.map escapeText

end Markup

namespace Emit

open IconCompiler.Markup

def layoutChars : List Char := [' ', '\n', '<', '>', '/', '=', '"']

theorem not_mem_intercalate {x : Char} {separator : String} (hs : x ∉ separator.toList) {ss : List String}
    (h : ∀ s ∈ ss, x ∉ s.toList) : x ∉ (separator.intercalate ss).toList := by
  by_cases hn : ss = []
  · subst hn
    simp
  · intro hx
    have hm : x ∈ separator.toList ++ (separator.intercalate ss).toList := List.mem_append_right _ hx
    rw [toList_intercalate separator hn, List.mem_flatMap] at hm
    obtain ⟨s, hm, hx⟩ := hm
    exact (List.mem_append.mp hx).elim hs (h s hm)

def Body.texts : Body → List String
  | .empty => []
  | .text s => [escapeText s]
  | .children cs => cs

theorem mem_texts_bodyOf {cs : List String} {content : Option String} {s : String}
    (h : s ∈ (Target.bodyOf cs content).texts) : s ∈ cs ∨ s ∈ content.toList.map escapeText := by
  fun_cases Target.bodyOf cs content with
  | case1 => cases h
  | case2 => cases h
  | case3 r hr =>
    right
    simpa [Target.bodyOf, hr, Body.texts] using h
  | case4 c cs content => exact .inl h

variable {x : Char} (hx : x ∉ layoutChars)

include hx

theorem not_mem_markupAttribute {name : String} {value : Value} (hn : x ∉ (markupName name).toList)
    (hv : x ∉ (escapeAttribute value.display).toList) : x ∉ (markupAttribute name value).toList := by
  simp only [layoutChars, List.mem_cons, List.not_mem_nil, not_or] at hx
  simp [markupAttribute, hn, hv, hx]

theorem not_mem_markupElement {tag attributes : String} {body : Body} (ht : x ∉ tag.toList)
    (ha : x ∉ attributes.toList) (hb : ∀ s ∈ body.texts, x ∉ s.toList) (depth : Nat) :
    x ∉ (markupElement escapeText tag attributes body depth).toList := by
  have hp : x ∉ (indent depth).toList := by
    intro hm
    rw [indent, String.toList_ofList] at hm
    exact hx (by simp [layoutChars, List.eq_of_mem_replicate hm])
  have hl : ∀ cs : List String, (∀ s ∈ cs, x ∉ s.toList) → x ∉ (lines cs).toList :=
    fun cs => not_mem_intercalate fun hm => hx (by simp_all [layoutChars])
  simp only [layoutChars, List.mem_cons, List.not_mem_nil, not_or] at hx
  unfold markupElement
  split_ifs
  · cases body with
    | empty => simp [hp, ht, hx]
    | text s => simp [hp, ht, hx, hb (escapeText s) List.mem_cons_self]
    | children cs => simp [hp, ht, hx, hl cs hb]
  · cases body with
    | empty => simp [hp, ht, ha, hx]
    | text s => simp [hp, ht, ha, hx, hb (escapeText s) List.mem_cons_self]
    | children cs => simp [hp, ht, ha, hx, hl cs hb]

theorem not_mem_element {t : Target} (ht : t.IsMarkup) (e : Element)
    (h : ∀ d ∈ e.preorder, ∀ s ∈ d.writtenTexts, x ∉ s.toList) (depth : Nat) :
    x ∉ (t.element depth e).toList := by
  induction e using Element.induction generalizing depth with
  | h e ih =>
    have he := h e e.mem_preorder_self
    rw [Target.element_eq ht]
    refine not_mem_markupElement hx (he _ (by simp [Element.writtenTexts])) ?_ ?_ depth
    · apply not_mem_intercalate
      · intro hm
        exact hx (by simp_all [layoutChars])
      · intro s hs
        obtain ⟨a, ha, rfl⟩ := List.mem_map.mp hs
        have hmem : ∀ s ∈ [markupName a.1, escapeAttribute a.2.display], x ∉ s.toList := by
          intro s hs
          exact he s (List.mem_append_left _ (List.mem_cons_of_mem _
            (List.mem_flatMap.mpr ⟨a, List.mem_of_mem_filter ha, hs⟩)))
        exact not_mem_markupAttribute hx (hmem _ (by simp)) (hmem _ (by simp))
    · intro s hs
      rcases mem_texts_bodyOf hs with hs | hs
      · rw [Target.elements_eq_map] at hs
        obtain ⟨c, hc, rfl⟩ := List.mem_map.mp hs
        refine ih c hc (fun d hd => h d ?_) (depth + 1)
        rw [Element.preorder_eq]
        exact List.mem_cons_of_mem _ (Element.mem_preorderList.mpr ⟨c, hc, hd⟩)
      · exact he s (List.mem_append_right _ hs)

end Emit

end IconCompiler
