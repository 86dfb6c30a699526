import IconCompiler.Markup.Entity
import IconCompiler.Proofs.Spacing

/-!
Escaping replaces every character on its own: the order of the replacements matters only in that no
reference brings in a character that is replaced later.
-/

namespace IconCompiler.Markup

open IconCompiler.Text

def escapeChar (es : List Entity) (c : Char) : List Char :=
  match es.find? fun e => e.char == c with
  | some e => e.reference.toList
  | none => [c]

theorem escapeChar_cases (es : List Entity) (c : Char) :
    (∃ e ∈ es, e.char = c ∧ escapeChar es c = e.reference.toList) ∨
      ((∀ e ∈ es, e.char ≠ c) ∧ escapeChar es c = [c]) := by
  unfold escapeChar
  split
  · next e he =>
    exact .inl ⟨e, List.mem_of_find?_eq_some he, by simpa using List.find?_some he, rfl⟩
  · next hn => exact .inr ⟨by simpa using hn, rfl⟩

theorem flatMap_escapeChar_eq_self {es : List Entity} {cs : List Char}
    (h : ∀ e ∈ es, e.char ∉ cs) : cs.flatMap (escapeChar es) = cs := by
  induction cs with
  | nil => rfl
  | cons c cs ih =>
    rw [List.flatMap_cons, ih fun e he hm => h e he (List.mem_cons_of_mem _ hm)]
    rcases escapeChar_cases es c with ⟨e, he, rfl, -⟩ | ⟨-, hc⟩
    · exact absurd List.mem_cons_self (h e he)
    · rw [hc, List.singleton_append]

theorem escapeChar_cons (e : Entity) (es : List Entity) (c : Char) :
    escapeChar (e :: es) c = if c = e.char then e.reference.toList else escapeChar es c := by
  unfold escapeChar
  by_cases h : c = e.char
  · simp [h]
  · have hn : (e.char == c) = false := by simpa using Ne.symm h
    rw [List.find?_cons, hn, if_neg h]

theorem foldl_replace {es : List Entity} (h : es.Pairwise fun e f => f.char ∉ e.reference.toList)
    (cs : List Char) : es.foldl (fun cs e => e.replace cs) cs = cs.flatMap (escapeChar es) := by
  induction es generalizing cs with
  | nil => exact (flatMap_escapeChar_eq_self (by simp)).symm
  | cons e es ih =>
    obtain ⟨he, hs⟩ := List.pairwise_cons.mp h
    rw [List.foldl_cons, ih hs, Entity.replace, List.flatMap_assoc]
    congr 1
    funext c
    rw [escapeChar_cons]
    split
    -- Nothing that is replaced later stands in the reference.
    · exact flatMap_escapeChar_eq_self he
    · simp

/-- Reserved characters are no white space, and their references hold an ampersand but neither white
space nor anything that ends a tag, a run or a value. -/
structure Escapes (es : List Entity) : Prop where
  later : es.Pairwise fun e f => f.char ∉ e.reference.toList
  char : ∀ e ∈ es, isBlank e.char = false
  ampersand : ∀ e ∈ es, '&' ∈ e.reference.toList
  reference : ∀ e ∈ es, ∀ c ∈ e.reference.toList, isBlank c = false ∧ c ≠ '<' ∧ c ≠ '>' ∧ c ≠ '"'

theorem escapes_textEntities : Escapes textEntities :=
  ⟨by decide, by decide, by decide, by simp [textEntities, isBlank]⟩

theorem escapes_attributeEntities : Escapes attributeEntities :=
  ⟨by decide, by decide, by decide, by simp [attributeEntities, isBlank]⟩

namespace Escapes

variable {es : List Entity} (h : Escapes es)

include h

theorem toList_replaceEntities (s : String) :
    (replaceEntities es s).toList = s.toList.flatMap (escapeChar es) := by
  rw [replaceEntities, String.toList_ofList, foldl_replace h.later]

theorem escapeChar_of_blank {c : Char} (hc : isBlank c = true) : escapeChar es c = [c] := by
  rcases escapeChar_cases es c with ⟨e, he, rfl, -⟩ | ⟨-, hs⟩
  · rw [h.char e he] at hc
    cases hc
  · exact hs

theorem escapeChar_ne_nil (c : Char) : escapeChar es c ≠ [] := by
  rcases escapeChar_cases es c with ⟨e, he, -, hr⟩ | ⟨-, hs⟩
  · rw [hr]
    exact List.ne_nil_of_mem (h.ampersand e he)
  · rw [hs]
    exact List.cons_ne_nil c []

theorem replaceEntities_ne_empty {s : String} (hs : s ≠ "") : replaceEntities es s ≠ "" := by
  intro he
  obtain ⟨c, cs, hc⟩ := List.exists_cons_of_ne_nil (show s.toList ≠ [] by simpa using hs)
  have hn := h.toList_replaceEntities s
  rw [he, hc, List.flatMap_cons] at hn
  exact h.escapeChar_ne_nil c (List.append_eq_nil_iff.mp hn.symm).1

theorem isBlank_of_mem_escapeChar {c d : Char} (hc : isBlank c = false) (hd : d ∈ escapeChar es c) :
    isBlank d = false := by
  rcases escapeChar_cases es c with ⟨e, he, -, hr⟩ | ⟨-, hs⟩
  · rw [hr] at hd
    exact (h.reference e he d hd).1
  · rw [hs] at hd
    rw [List.mem_singleton.mp hd]
    exact hc

theorem mem_replaceEntities {c : Char} {s : String} (hc : c ∈ (replaceEntities es s).toList) :
    (∃ e ∈ es, c ∈ e.reference.toList) ∨ (c ∈ s.toList ∧ ∀ e ∈ es, e.char ≠ c) := by
  rw [h.toList_replaceEntities, List.mem_flatMap] at hc
  obtain ⟨d, hd, hm⟩ := hc
  rcases escapeChar_cases es d with ⟨e, he, -, hr⟩ | ⟨hn, hr⟩
  · rw [hr] at hm
    exact .inl ⟨e, he, hm⟩
  · rw [hr] at hm
    obtain rfl := List.mem_singleton.mp hm
    exact .inr ⟨hd, hn⟩

theorem not_mem_replaceEntities {c : Char} (hc : c = '<' ∨ c = '>' ∨ c = '"') {s : String}
    (hs : c ∉ s.toList ∨ ∃ e ∈ es, e.char = c) : c ∉ (replaceEntities es s).toList := by
  intro hm
  rcases h.mem_replaceEntities hm with ⟨e, he, hr⟩ | ⟨hd, hn⟩
  · obtain ⟨-, hl, hg, hq⟩ := h.reference e he c hr
    rcases hc with hc | hc | hc
    · exact hl hc
    · exact hg hc
    · exact hq hc
  · rcases hs with hs | ⟨e, he, hs⟩
    · exact hs hd
    · exact hn e he hs

theorem disjoint_replaceEntities {cs : List Char}
    (hc : ∀ c ∈ cs, (∃ e ∈ es, e.char = c) ∧ ∀ e ∈ es, c ∉ e.reference.toList) (s : String) :
    List.Disjoint cs (replaceEntities es s).toList := by
  intro c hm hs
  obtain ⟨⟨e, he, hc⟩, hr⟩ := hc c hm
  rcases h.mem_replaceEntities hs with ⟨f, hf, hm⟩ | ⟨-, hn⟩
  · exact hr f hf hm
  · exact hn e he hc

theorem replaceEntities_append (s t : String) :
    replaceEntities es (s ++ t) = replaceEntities es s ++ replaceEntities es t := by
  rw [← String.toList_inj, String.toList_append, h.toList_replaceEntities, h.toList_replaceEntities,
    h.toList_replaceEntities, String.toList_append, List.flatMap_append]

theorem not_mem_replaceEntities_of_blank {c : Char} (hc : isBlank c = true) {s : String} (hs : c ∉ s.toList) :
    c ∉ (replaceEntities es s).toList := by
  intro hm
  rcases h.mem_replaceEntities hm with ⟨e, he, hr⟩ | ⟨hd, -⟩
  · rw [(h.reference e he c hr).1] at hc
    cases hc
  · exact hs hd

theorem replaceEntities_eq_self {s : String} (hs : ∀ e ∈ es, e.char ∉ s.toList) :
    replaceEntities es s = s := by
  rw [← String.toList_inj, h.toList_replaceEntities, flatMap_escapeChar_eq_self hs]

theorem replaceEntities_cases (s : String) :
    replaceEntities es s = s ∨ '&' ∈ (replaceEntities es s).toList := by
  by_cases hs : ∀ e ∈ es, e.char ∉ s.toList
  · exact .inl (h.replaceEntities_eq_self hs)
  · right
    push Not at hs
    obtain ⟨e, he, hm⟩ := hs
    rw [h.toList_replaceEntities, List.mem_flatMap]
    refine ⟨e.char, hm, ?_⟩
    rcases escapeChar_cases es e.char with ⟨f, hf, -, hr⟩ | ⟨hn, -⟩
    · rw [hr]
      exact h.ampersand f hf
    · exact absurd rfl (hn e he)

theorem collapseFrom_flatMap (afterBlank : Bool) (cs : List Char) :
    collapseFrom afterBlank (cs.flatMap (escapeChar es)) =
      (collapseFrom afterBlank cs).flatMap (escapeChar es) := by
  induction cs generalizing afterBlank with
  | nil => rfl
  | cons c cs ih =>
    rw [List.flatMap_cons, collapseFrom]
    cases hc : isBlank c with
    | true =>
      rw [h.escapeChar_of_blank hc, List.singleton_append, collapseFrom, hc, ih]
      cases afterBlank with
      | true => rfl
      | false =>
        have hs := h.escapeChar_of_blank (show isBlank ' ' = true by decide)
        simp [hs]
    | false =>
      rw [collapseFrom_append_of_not_blank (h.escapeChar_ne_nil c)
        (fun d hd => h.isBlank_of_mem_escapeChar hc hd), collapse, ih]
      rfl

theorem spaced_replaceEntities {s : String} (hs : Spaced s.toList) :
    Spaced (replaceEntities es s).toList := by
  rw [h.toList_replaceEntities, ← hs.collapse_eq, collapse, ← h.collapseFrom_flatMap]
  exact spaced_collapseFrom false _

theorem singleSpaced_replaceEntities {s : String} (hs : SingleSpaced s.toList) :
    SingleSpaced (replaceEntities es s).toList := by
  refine ⟨h.spaced_replaceEntities hs.toSpaced, ?_, ?_⟩
  · rw [h.toList_replaceEntities]
    cases hl : s.toList with
    | nil => simp
    | cons c cs =>
      have hc := hs.head c (by simp [hl])
      rw [List.flatMap_cons, List.head?_append_of_ne_nil _ (h.escapeChar_ne_nil c)]
      exact fun d hd => h.isBlank_of_mem_escapeChar hc (List.mem_of_mem_head? hd)
  · rw [h.toList_replaceEntities]
    rcases List.eq_nil_or_concat s.toList with hl | ⟨cs, c, hl⟩
    · simp [hl]
    · have hc := hs.last c (by simp [hl])
      rw [hl, List.concat_eq_append, List.flatMap_append, List.flatMap_singleton,
        List.getLast?_append_of_ne_nil _ (h.escapeChar_ne_nil c)]
      exact fun d hd => h.isBlank_of_mem_escapeChar hc (List.mem_of_mem_getLast? hd)

end Escapes

end IconCompiler.Markup
