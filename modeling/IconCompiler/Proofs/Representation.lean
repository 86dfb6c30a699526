import IconCompiler.Proofs.Preorder
import IconCompiler.Proofs.StackRuns
import IconCompiler.Proofs.ValidTokens

namespace IconCompiler.Markup

open IconCompiler.Text

structure Element.Valid (e : Element) : Prop where
  tag : ValidTag e.tag
  attributes : e.attributes.Valid
  void : e.isVoid = true → e.children = [] ∧ e.content = none
  content : ∀ s, e.content = some s → ValidText s

structure Frame.Valid (f : Frame) : Prop where
  tag : ValidTag f.tag
  attributes : f.attributes.Valid
  notVoid : isVoid f.tag = false
  children : ∀ d ∈ Element.preorderList f.content.children, d.Valid
  runs : ∀ s ∈ f.content.runs, ValidText s

def Stack.Valid : Stack → Prop
  | .filling top below => ∀ f ∈ top :: below, f.Valid
  | .closed root => ∀ d ∈ root.preorder, d.Valid

theorem ValidText.append_space {s t : String} (hs : ValidText s) (ht : ValidText t) :
    ValidText (s ++ " " ++ t) := by
  have hl : (s ++ " " ++ t).toList = s.toList ++ ' ' :: t.toList := by simp
  refine ⟨?_, ?_, ?_⟩
  · intro he
    rw [he] at hl
    simp at hl
  · rw [hl]
    simp [hs.plain, ht.plain]
  · rw [hl]
    exact hs.spaced.append_space (by simpa using hs.nonempty) ht.spaced (by simpa using ht.nonempty)

theorem validText_intercalate {runs : List String} (hn : runs ≠ []) (h : ∀ s ∈ runs, ValidText s) :
    ValidText (" ".intercalate runs) := by
  induction runs with
  | nil => exact absurd rfl hn
  | cons s runs ih =>
    have hs := h s (by simp)
    cases runs with
    | nil => simpa using hs
    | cons t runs =>
      rw [String.intercalate_cons_of_ne_nil (by simp)]
      exact hs.append_space (ih (by simp) fun s hm => h s (List.mem_cons_of_mem _ hm))

theorem Element.valid_leaf {tag : String} {attributes : Attributes} (ht : ValidTag tag)
    (ha : attributes.Valid) : ∀ d ∈ Element.preorder ⟨tag, attributes, [], none⟩, d.Valid := by
  intro d hd
  simp only [preorder, preorderList, List.mem_singleton] at hd
  subst hd
  exact ⟨ht, ha, fun _ => ⟨rfl, rfl⟩, by simp⟩

namespace Frame

theorem valid_ofTag {tag : String} {attributes : Attributes} (ht : ValidTag tag)
    (ha : attributes.Valid) (hv : isVoid tag = false) : (ofTag tag attributes).Valid :=
  ⟨ht, ha, hv, by simp [ofTag, Content.empty, Element.preorderList], by simp [ofTag, Content.empty]⟩

theorem Valid.addRun {f : Frame} (h : f.Valid) {s : String} (hs : ValidText s) :
    (f.addRun s).Valid := by
  refine ⟨h.tag, h.attributes, h.notVoid, h.children, ?_⟩
  intro t ht
  rcases List.mem_append.mp ht with ht | ht
  · exact h.runs t ht
  · exact List.mem_singleton.mp ht ▸ hs

theorem Valid.addChild {f : Frame} (h : f.Valid) {e : Element} (he : ∀ d ∈ e.preorder, d.Valid) :
    (f.addChild e).Valid := by
  refine ⟨h.tag, h.attributes, h.notVoid, ?_, h.runs⟩
  intro d hd
  simp only [Frame.addChild, Content.addChild, Element.preorderList_append, Element.preorderList,
    List.append_nil, List.mem_append] at hd
  rcases hd with hd | hd
  · exact h.children d hd
  · exact he d hd

theorem Valid.toElement {f : Frame} (h : f.Valid) : ∀ d ∈ f.toElement.preorder, d.Valid := by
  intro d hd
  rw [Element.preorder_eq] at hd
  rcases List.mem_cons.mp hd with rfl | hd
  · refine ⟨h.tag, h.attributes, fun hv => ?_, ?_⟩
    · exact absurd (hv.symm.trans h.notVoid) (by decide)
    · intro s hs
      simp only [Frame.toElement] at hs
      split at hs
      · cases hs
      · next hn =>
        cases hs
        exact validText_intercalate hn h.runs
  · exact h.children d hd

end Frame

namespace Stack

theorem valid_pop {top : Frame} {below : List Frame} (h : Valid (.filling top below)) :
    (pop top below).Valid := by
  have ht := (h top (by simp)).toElement
  cases below with
  | nil => exact ht
  | cons next below =>
    intro f hf
    rcases List.mem_cons.mp hf with rfl | hf
    · exact (h next (by simp)).addChild ht
    · exact h f (by simp [hf])

theorem Valid.replace {top next : Frame} {below : List Frame} (h : Valid (.filling top below))
    (hn : next.Valid) : Valid (.filling next below) := by
  intro f hf
  rcases List.mem_cons.mp hf with rfl | hf
  · exact hn
  · exact h f (List.mem_cons_of_mem _ hf)

theorem Valid.step {cap : Option Nat} {s s' : Stack} {token : Token} (h : s.Valid)
    (ht : token.Valid) (hs : Step cap s token s') : s'.Valid := by
  cases hs with
  | closed root => exact h
  | text top below x position => exact h.replace ((h top (by simp)).addRun ht)
  | stray top below name position hn => exact h
  | pop top below position => exact valid_pop h
  | leaf top below tag attributes selfClosing position hl =>
    exact h.replace ((h top (by simp)).addChild (Element.valid_leaf ht.1 ht.2))
  | push top below tag attributes position hl hv =>
    intro f hf
    rcases List.mem_cons.mp hf with rfl | hf
    · exact Frame.valid_ofTag ht.1 ht.2 hv
    · exact h f hf

theorem Valid.finish {s : Stack} (h : s.Valid) : ∀ d ∈ s.finish.preorder, d.Valid := by
  cases s with
  | closed root => exact h
  | filling top below =>
    induction below generalizing top with
    | nil => exact valid_pop h
    | cons next below ih => exact ih _ (valid_pop h)

end Stack

theorem valid_ofTokens {tokens : List Token} (ht : ∀ token ∈ tokens, token.Valid) {root : Element}
    (h : Element.ofTokens tokens = .ok root) : ∀ d ∈ root.preorder, d.Valid := by
  obtain ⟨attributes, position, rest, ⟨rfl, rfl⟩ | ⟨rfl, hr⟩⟩ := ofTokens_ok h
  · have hf := ht _ List.mem_cons_self
    exact Element.valid_leaf hf.1 hf.2
  · have hf := ht _ List.mem_cons_self
    have hs : Stack.Valid (.filling (.ofTag "svg" attributes) []) := by
      intro f hm
      rw [List.mem_singleton.mp hm]
      exact Frame.valid_ofTag hf.1 hf.2 (by decide)
    obtain ⟨s, hv, rfl⟩ := Stack.run_invariant (fun _ _ _ hv ht hs => hv.step ht hs) hs
      (fun token hm => ht token (List.mem_cons_of_mem _ hm)) hr
    exact hv.finish

theorem valid_of_read {source : String} {doc : Document} (h : Document.read source = .ok doc) :
    doc.attributes.Valid ∧ (∀ e ∈ Element.preorderList doc.children, e.Valid) ∧
      doc.source = source := by
  obtain ⟨tokens, root, ht, hr, rfl⟩ := read_ok h
  have hv := valid_ofTokens (valid_tokenize ht) hr
  rw [Element.preorder_eq] at hv
  exact ⟨(hv root (by simp)).attributes, fun e he => hv e (List.mem_cons_of_mem _ he), rfl⟩

theorem valid_of_read_group : ∃ doc,
    Document.read "<svg><g hidden=x> a\n b <path d='0 1'></g></svg>" = .ok doc ∧
      doc.attributes.Valid ∧ (∀ e ∈ Element.preorderList doc.children, e.Valid) ∧
        doc.source = "<svg><g hidden=x> a\n b <path d='0 1'></g></svg>" := by
  have h : Document.read "<svg><g hidden=x> a\n b <path d='0 1'></g></svg>" =
      .ok ⟨.empty, [⟨"g", ⟨[("hidden", .flag true)]⟩,
        [⟨"path", ⟨[("d", .text "0 1")]⟩, [], none⟩], some "a b"⟩],
        "<svg><g hidden=x> a\n b <path d='0 1'></g></svg>"⟩ := by
    decide +kernel
  exact ⟨_, h, valid_of_read h⟩

end IconCompiler.Markup
