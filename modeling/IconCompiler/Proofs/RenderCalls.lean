import IconCompiler.Proofs.CallArguments
import IconCompiler.Proofs.Visibility

namespace IconCompiler

open IconCompiler.Emit IconCompiler.Markup

namespace Markup.Element

def written (e : Element) : List (String × Value) := (e.attributes.filter fun name => !isPaint name).entries

def shownText (e : Element) : Option String := if e.children.isEmpty then e.text? else none

theorem visible_eq (e : Element) :
    e.visible = ⟨e.tag, ⟨e.written⟩, visibleList e.children, e.shownText⟩ := by
  cases e
  rfl

def Canonical (e : Element) : Prop :=
  ∀ d ∈ e.preorder, ∀ name ∈ d.attributes.names, canonicalName name = name

instance (e : Element) : Decidable e.Canonical := inferInstanceAs (Decidable (∀ d ∈ e.preorder, _))

theorem Canonical.of_mem {e c : Element} (h : e.Canonical) (hc : c ∈ e.children) : c.Canonical := by
  intro d hd
  apply h
  rw [preorder_eq]
  exact .tail _ (mem_preorderList.mpr ⟨c, hc, hd⟩)

theorem Canonical.written {e : Element} (h : e.Canonical) : Vue.Canonical e.written := by
  intro a ha
  apply h e (mem_preorder_self e)
  exact List.mem_map_of_mem (List.mem_of_mem_filter ha)

end Markup.Element

namespace Target

inductive Shows (depth : Nat) (e : Element) : Body → Prop
  | nothing (hc : e.children = []) (ht : e.text? = none) : Shows depth e .empty
  | text {s : String} (hc : e.children = []) (ht : e.text? = some s) : Shows depth e (.text s)
  | children (hc : e.children ≠ []) :
    Shows depth e (.children (e.children.map (Target.vue.element (depth + 1))))

theorem shows_bodyOf (depth : Nat) (e : Element) :
    Shows depth e (bodyOf (Target.vue.elements (depth + 1) e.children) e.content) := by
  rw [elements_eq_map]
  cases hc : e.children with
  | nil =>
    cases ht : e.content with
    | none => exact .nothing hc (by rw [Element.text?, ht]; rfl)
    | some s =>
      by_cases hs : s = ""
      · simpa [bodyOf, hs] using Shows.nothing hc (by simp [Element.text?, ht, hs])
      · simpa [bodyOf, hs] using Shows.text hc (by simp [Element.text?, ht, hs])
  | cons c cs =>
    have h : Shows depth e _ := .children (by simp [hc])
    rw [hc] at h
    exact h

theorem Shows.ne_children_nil {depth : Nat} {e : Element} {body : Body} (h : Shows depth e body) :
    body ≠ .children [] := by
  cases h with
  | nothing hc ht => simp
  | text hc ht => simp
  | children hc => simpa using hc

theorem toList_vue_element (depth : Nat) (e : Element) : ∃ body, Shows depth e body ∧
    (Target.vue.element depth e).toList = (indent depth).toList ++ 'h' :: '(' ::
      ((Script.quoted e.tag).toList ++ Vue.argumentsChars depth e.written body) := by
  have hs := shows_bodyOf depth e
  refine ⟨_, hs, ?_⟩
  rw [← Vue.toList_node _ _ hs.ne_children_nil]
  cases e
  rfl

theorem toList_indent_succ (depth : Nat) :
    (indent (depth + 1)).toList = (indent depth).toList ++ [' ', ' '] := by
  rw [indent, indent, String.toList_ofList, String.toList_ofList, Nat.mul_succ]
  exact List.replicate_add ..

/-- Whatever follows it, the call for the element is the call for no element that looks different. -/
def Readable (e : Element) : Prop :=
  ∀ (e' : Element) (depth : Nat) (r r' : List Char), e.Canonical → e'.Canonical →
    (Target.vue.element depth e).toList ++ r = (Target.vue.element depth e').toList ++ r' →
      e.visible = e'.visible ∧ r = r'

def callLines (depth : Nat) (es : List Element) : List Char :=
  es.flatMap fun e => (Target.vue.element depth e).toList ++ [',', '\n']

theorem bracket_ne_callLines (depth : Nat) (e : Element) (es : List Element) (r r' : List Char) :
    (indent depth).toList ++ ']' :: r ≠ callLines (depth + 1) (e :: es) ++ r' := by
  intro h
  obtain ⟨body, -, he⟩ := toList_vue_element (depth + 1) e
  rw [callLines, List.flatMap_cons, he, toList_indent_succ] at h
  simp at h

theorem callLines_append_inj {es fs : List Element} (hr : ∀ e ∈ es, Readable e)
    (he : ∀ e ∈ es, e.Canonical) (hf : ∀ e ∈ fs, e.Canonical) {depth : Nat} {r r' : List Char}
    (h : callLines (depth + 1) es ++ ((indent depth).toList ++ ']' :: r) =
      callLines (depth + 1) fs ++ ((indent depth).toList ++ ']' :: r')) :
    Element.visibleList es = Element.visibleList fs ∧ r = r' := by
  induction es generalizing fs with
  | nil =>
    cases fs with
    | nil => exact ⟨rfl, (List.cons.inj (List.append_cancel_left h)).2⟩
    | cons f fs => exact absurd h (bracket_ne_callLines depth f fs r _)
  | cons e es ih =>
    cases fs with
    | nil => exact absurd h.symm (bracket_ne_callLines depth e es r' _)
    | cons f fs =>
      simp only [List.forall_mem_cons] at hr he hf
      simp only [callLines, List.flatMap_cons, List.append_assoc] at h
      obtain ⟨hv, ht⟩ := hr.1 f _ _ _ he.1 hf.1 h
      obtain ⟨hvs, hr⟩ := ih hr.2 he.2 hf.2 (List.append_cancel_left ht)
      exact ⟨by rw [Element.visibleList, Element.visibleList, hv, hvs], hr⟩

theorem bodyChars_children (depth : Nat) (es : List Element) (r : List Char) :
    Vue.bodyChars depth (.children (es.map (Target.vue.element (depth + 1)))) ++ r =
      ',' :: ' ' :: '[' :: '\n' :: (callLines (depth + 1) es ++ ((indent depth).toList ++ ']' :: ')' :: r)) := by
  simp [Vue.bodyChars, callLines, List.flatMap_map]

theorem Shows.append_inj {depth : Nat} {e f : Element} {body body' : Body} (hs : Shows depth e body)
    (hs' : Shows depth f body') (hr : ∀ c ∈ e.children, Readable c) (he : e.Canonical) (hf : f.Canonical)
    {r r' : List Char} (h : Vue.bodyChars depth body ++ r = Vue.bodyChars depth body' ++ r') :
    Element.visibleList e.children = Element.visibleList f.children ∧ e.shownText = f.shownText ∧ r = r' := by
  simp only [Element.shownText]
  cases hs with
  | nothing hc ht =>
    cases hs' with
    | nothing hc' ht' =>
      rw [hc, hc', ht, ht']
      exact ⟨rfl, rfl, (List.cons.inj h).2⟩
    | text hc' ht' => cases h
    | children hc' => cases h
  | text hc ht =>
    cases hs' with
    | nothing hc' ht' => cases h
    | text hc' ht' =>
      simp only [Vue.bodyChars, List.cons_append, List.append_assoc, List.cons.injEq, true_and] at h
      obtain ⟨rfl, hrest⟩ := Script.quoted_append_inj h
      rw [hc, hc', ht, ht']
      exact ⟨rfl, rfl, (List.cons.inj hrest).2⟩
    | children hc' => exact absurd h.symm (Vue.bodyChars_children_ne_text depth _ _ _ _)
  | children hc =>
    cases hs' with
    | nothing hc' ht' => cases h
    | text hc' ht' => exact absurd h (Vue.bodyChars_children_ne_text depth _ _ _ _)
    | children hc' =>
      simp only [bodyChars_children, List.cons.injEq, true_and] at h
      obtain ⟨hv, hrest⟩ :=
        callLines_append_inj hr (fun c hc => he.of_mem hc) (fun c hc => hf.of_mem hc) h
      exact ⟨hv, by simp [hc, hc'], (List.cons.inj hrest).2⟩

theorem readable (e : Element) : Readable e := by
  -- a call inside another one is followed by the rest of the outer call, so the rests are arbitrary here
  induction e using Element.induction with
  | h e ih =>
    intro f depth r r' he hf h
    obtain ⟨body, hs, ht⟩ := toList_vue_element depth e
    obtain ⟨body', hs', ht'⟩ := toList_vue_element depth f
    simp only [ht, ht', List.append_assoc, List.cons_append, List.append_cancel_left_eq, List.cons.injEq,
      true_and] at h
    obtain ⟨htag, hargs⟩ := Script.quoted_append_inj h
    obtain ⟨hwritten, hbody⟩ := Vue.argumentsChars_append_inj he.written hf.written hargs
    obtain ⟨hchildren, htext, hrest⟩ := hs.append_inj hs' ih he hf hbody
    rw [Element.visible_eq, Element.visible_eq, htag, hwritten, hchildren, htext]
    exact ⟨rfl, hrest⟩

/-- Two trees have the same calls exactly when the same is visible of them: the tags, the nesting, the
attributes other than paint in their order and with the kinds of their values, and the text of elements
without children. -/
theorem vue_element_eq_iff {e f : Element} (he : e.Canonical) (hf : f.Canonical) (depth : Nat) :
    Target.vue.element depth e = Target.vue.element depth f ↔ e.visible = f.visible := by
  constructor
  · intro h
    exact (readable e f depth [] [] he hf (by rw [h])).1
  · intro h
    rw [← element_visible, h, element_visible]

theorem vue_element_eq_iff_kinds :
    let two : Value := .number (.finite false ⟨0x4000000000000000, by decide⟩)
    let note : Element := ⟨"title", .empty, [], some "it's, 'x' \x7d)"⟩
    let e : Element := ⟨"g", ⟨[("fill", .text "red"), ("strokeWidth", two)]⟩, [note], some "hidden"⟩
    let same : Element := ⟨"g", ⟨[("strokeWidth", two), ("stroke", .text "blue")]⟩, [note], none⟩
    let other : Element := ⟨"g", ⟨[("strokeWidth", .text "2")]⟩, [note], none⟩
    e.Canonical ∧ same.Canonical ∧ other.Canonical ∧
      Target.vue.element 5 e = Target.vue.element 5 same ∧ Target.vue.element 5 e ≠ Target.vue.element 5 other := by
  intro two note e same other
  have he : e.Canonical := by decide +kernel
  have hs : same.Canonical := by decide +kernel
  have ho : other.Canonical := by decide +kernel
  refine ⟨he, hs, ho, (vue_element_eq_iff he hs 5).mpr (by decide +kernel), ?_⟩
  rw [Ne, vue_element_eq_iff he ho 5]
  decide +kernel

end Target

end IconCompiler
