import IconCompiler.Proofs.Scanning
import IconCompiler.Text.Blank
import Mathlib.Data.List.Chain

namespace IconCompiler.Text

theorem trimLeft_isSuffix (cs : List Char) : trimLeft cs <:+ cs := List.dropWhile_suffix _

theorem trimRight_isPrefix (cs : List Char) : trimRight cs <+: cs := by
  rw [← List.reverse_suffix, trimRight, List.reverse_reverse]
  exact List.dropWhile_suffix _

theorem trim_isInfix (cs : List Char) : trim cs <:+: cs :=
  (trimRight_isPrefix _).isInfix.trans (trimLeft_isSuffix cs).isInfix

theorem isBlank_of_mem_head?_trimLeft {cs : List Char} {c : Char} (h : c ∈ (trimLeft cs).head?) :
    isBlank c = false := by
  have hn := List.head?_dropWhile_not isBlank cs
  rw [trimLeft, Option.mem_def] at h
  rw [h] at hn
  exact hn

theorem isBlank_of_mem_getLast?_trimRight {cs : List Char} {c : Char}
    (h : c ∈ (trimRight cs).getLast?) : isBlank c = false := by
  rw [trimRight, List.getLast?_reverse] at h
  exact isBlank_of_mem_head?_trimLeft h

theorem trimLeft_eq_self {cs : List Char} (h : ∀ c ∈ cs.head?, isBlank c = false) :
    trimLeft cs = cs := by
  cases cs with
  | nil => rfl
  | cons c cs => simp [trimLeft, h c rfl]

theorem trimRight_eq_self {cs : List Char} (h : ∀ c ∈ cs.getLast?, isBlank c = false) :
    trimRight cs = cs := by
  have hr : trimLeft cs.reverse = cs.reverse := trimLeft_eq_self (by simpa using h)
  rw [trimRight, ← trimLeft, hr, List.reverse_reverse]

theorem trimLeft_append {ws cs : List Char} (hw : ∀ c ∈ ws, isBlank c = true)
    (h : ∀ c ∈ cs.head?, isBlank c = false) : trimLeft (ws ++ cs) = cs := by
  rw [trimLeft, List.dropWhile_append_of_pos hw]
  exact trimLeft_eq_self h

theorem trimRight_append {cs ws : List Char} (hw : ∀ c ∈ ws, isBlank c = true)
    (h : ∀ c ∈ cs.getLast?, isBlank c = false) : trimRight (cs ++ ws) = cs := by
  have hr : trimLeft (ws.reverse ++ cs.reverse) = cs.reverse :=
    trimLeft_append (by simpa using hw) (by simpa using h)
  rw [trimRight, List.reverse_append, ← trimLeft, hr, List.reverse_reverse]

theorem trim_eq_nil {ws : List Char} (hw : ∀ c ∈ ws, isBlank c = true) : trim ws = [] := by
  have hl : trimLeft ws = [] := by
    rw [← List.append_nil ws]
    exact trimLeft_append hw (by simp)
  rw [trim, hl]
  rfl

structure Gap (ws : List Char) : Prop where
  ne_nil : ws ≠ []
  blank : ∀ c ∈ ws, isBlank c = true

theorem gap_singleton {c : Char} (hc : isBlank c = true) : Gap [c] := ⟨by simp, by simpa using hc⟩

theorem Gap.append_singleton {ws : List Char} (h : Gap ws) {c : Char} (hc : isBlank c = true) : Gap (ws ++ [c]) := by
  refine ⟨by simp, ?_⟩
  intro d hd
  rcases List.mem_append.mp hd with hd | hd
  · exact h.blank d hd
  · rw [List.mem_singleton.mp hd]
    exact hc

theorem mem_trim {cs : List Char} {c : Char} (hc : isBlank c = false) (h : c ∈ cs) : c ∈ trim cs := by
  rw [trim, trimRight, List.mem_reverse]
  exact mem_dropWhile hc (List.mem_reverse.mpr (mem_dropWhile hc h))

structure Spaced (cs : List Char) : Prop where
  space : ∀ c ∈ cs, isBlank c = true → c = ' '
  apart : cs.IsChain fun c d => isBlank c = false ∨ isBlank d = false

structure SingleSpaced (cs : List Char) : Prop extends Spaced cs where
  head : ∀ c ∈ cs.head?, isBlank c = false
  last : ∀ c ∈ cs.getLast?, isBlank c = false

theorem SingleSpaced.trim {cs : List Char} (h : SingleSpaced cs) : trim cs = cs := by
  rw [Text.trim, trimLeft_eq_self h.head, trimRight_eq_self h.last]

namespace Spaced

theorem nil : Spaced [] := ⟨by simp, .nil⟩

theorem of_isInfix {cs ds : List Char} (h : Spaced cs) (hd : ds <:+: cs) : Spaced ds :=
  ⟨fun c hc => h.space c (hd.subset hc), h.apart.infix hd⟩

theorem of_not_blank {cs : List Char} (h : ∀ c ∈ cs, isBlank c = false) : Spaced cs := by
  refine ⟨fun c hc hb => ?_, ?_⟩
  · rw [h c hc] at hb
    cases hb
  · exact List.Pairwise.isChain (List.pairwise_of_forall_mem_list fun c hc _ _ => .inl (h c hc))

theorem append_cons {cs ds : List Char} {c : Char} (h₁ : Spaced cs) (hc : isBlank c = false)
    (h₂ : Spaced ds) : Spaced (cs ++ c :: ds) := by
  refine ⟨?_, ?_⟩
  · intro d hd hb
    simp only [List.mem_append, List.mem_cons] at hd
    rcases hd with hd | rfl | hd
    · exact h₁.space d hd hb
    · rw [hc] at hb
      cases hb
    · exact h₂.space d hd hb
  · refine h₁.apart.append (h₂.apart.cons fun d _ => .inl hc) ?_
    intro a _ d hd
    simp only [List.head?_cons, Option.mem_def, Option.some.injEq] at hd
    exact .inr (hd ▸ hc)

theorem trim {cs : List Char} (h : Spaced cs) : SingleSpaced (trim cs) where
  toSpaced := h.of_isInfix (trim_isInfix cs)
  head := by
    intro c hc
    obtain ⟨ds, hd⟩ := trimRight_isPrefix (trimLeft cs)
    have hm : c ∈ (trimLeft cs).head? := by
      rw [← hd]
      exact List.mem_head?_append_of_mem_head? hc
    exact isBlank_of_mem_head?_trimLeft hm
  last := fun c hc => isBlank_of_mem_getLast?_trimRight hc

end Spaced

theorem SingleSpaced.append_space {cs ds : List Char} (h₁ : SingleSpaced cs) (hc : cs ≠ [])
    (h₂ : SingleSpaced ds) (hd : ds ≠ []) : SingleSpaced (cs ++ ' ' :: ds) where
  space := by
    intro c hm hb
    simp only [List.mem_append, List.mem_cons] at hm
    rcases hm with hm | hm | hm
    · exact h₁.space c hm hb
    · exact hm
    · exact h₂.space c hm hb
  apart := h₁.apart.append (h₂.apart.cons fun d hm => .inr (h₂.head d hm))
    (fun c hm _ _ => .inl (h₁.last c hm))
  head := by
    rw [List.head?_append_of_ne_nil _ hc]
    exact h₁.head
  last := by
    obtain ⟨d, ds, rfl⟩ := List.exists_cons_of_ne_nil hd
    rw [List.getLast?_append, List.getLast?_cons_cons]
    simpa using h₂.last

theorem isBlank_of_mem_head?_collapseFrom {cs : List Char} {c : Char}
    (h : c ∈ (collapseFrom true cs).head?) : isBlank c = false := by
  induction cs with
  | nil => simp [collapseFrom] at h
  | cons d cs ih =>
    by_cases hd : isBlank d = true
    · simp only [collapseFrom, hd, if_true] at h
      exact ih h
    · simp only [collapseFrom, hd, Bool.false_eq_true, if_false, List.head?_cons, Option.mem_def,
        Option.some.injEq] at h
      rw [← h]
      simpa using hd

theorem spaced_collapseFrom (afterBlank : Bool) (cs : List Char) :
    Spaced (collapseFrom afterBlank cs) := by
  induction cs generalizing afterBlank with
  | nil => exact .nil
  | cons c cs ih =>
    by_cases hc : isBlank c = true
    · cases afterBlank with
      | true => simpa [collapseFrom, hc] using ih true
      | false =>
        simp only [collapseFrom, hc, if_true, Bool.false_eq_true, if_false]
        refine ⟨?_, (ih true).apart.cons fun d hd => .inr (isBlank_of_mem_head?_collapseFrom hd)⟩
        intro d hd hb
        rcases List.mem_cons.mp hd with rfl | hd
        · rfl
        · exact (ih true).space d hd hb
    · simp only [collapseFrom, hc, Bool.false_eq_true, if_false]
      exact Spaced.nil.append_cons (by simpa using hc) (ih false)

theorem spaced_collapse (cs : List Char) : Spaced (collapse cs) := spaced_collapseFrom false cs

theorem collapseFrom_append_cons (afterBlank : Bool) (cs ds : List Char) {c : Char}
    (hc : isBlank c = false) :
    collapseFrom afterBlank (cs ++ c :: ds) = collapseFrom afterBlank cs ++ c :: collapse ds := by
  induction cs generalizing afterBlank with
  | nil => simp [collapseFrom, hc, collapse]
  | cons d cs ih =>
    simp only [List.cons_append, collapseFrom]
    split
    · split
      · exact ih true
      · rw [ih true]
        rfl
    · rw [ih false]
      rfl

theorem collapseFrom_append_of_not_blank {cs : List Char} (hn : cs ≠ [])
    (h : ∀ c ∈ cs, isBlank c = false) (afterBlank : Bool) (ds : List Char) :
    collapseFrom afterBlank (cs ++ ds) = cs ++ collapse ds := by
  induction cs generalizing afterBlank with
  | nil => exact absurd rfl hn
  | cons c cs ih =>
    rw [List.cons_append, collapseFrom, h c (by simp)]
    cases cs with
    | nil => simp [collapse]
    | cons d cs => simpa using ih (by simp) (fun e he => h e (List.mem_cons_of_mem _ he)) false

theorem Spaced.collapseFrom_eq {cs : List Char} (h : Spaced cs) {afterBlank : Bool}
    (hb : afterBlank = true → ∀ c ∈ cs.head?, isBlank c = false) :
    collapseFrom afterBlank cs = cs := by
  induction cs generalizing afterBlank with
  | nil => rfl
  | cons c cs ih =>
    have ht : Spaced cs := h.of_isInfix ⟨[c], [], by simp⟩
    cases hc : isBlank c with
    | true =>
      have hn : afterBlank = false := by
        by_contra hn
        rw [hb (by simpa using hn) c rfl] at hc
        cases hc
      have hs : ∀ d ∈ cs.head?, isBlank d = false := fun d hd =>
        ((List.isChain_cons.mp h.apart).1 d hd).resolve_left (by simp [hc])
      have he : c = ' ' := h.space c (by simp) hc
      simp only [collapseFrom, hc, hn, if_true, Bool.false_eq_true, if_false]
      rw [ih ht fun _ => hs, he]
    | false =>
      simp only [collapseFrom, hc, Bool.false_eq_true, if_false]
      rw [ih ht (by simp)]

theorem Spaced.collapse_eq {cs : List Char} (h : Spaced cs) : collapse cs = cs :=
  h.collapseFrom_eq (by simp)

theorem mem_of_mem_collapseFrom {cs : List Char} {afterBlank : Bool} {c : Char}
    (hc : c ∈ collapseFrom afterBlank cs) : isBlank c = true ∨ c ∈ cs := by
  induction cs generalizing afterBlank with
  | nil => cases hc
  | cons d cs ih =>
    have hi {b : Bool} (hm : c ∈ collapseFrom b cs) : isBlank c = true ∨ c ∈ d :: cs :=
      (ih hm).imp id (List.mem_cons_of_mem _)
    rw [collapseFrom] at hc
    split at hc
    · split at hc
      · exact hi hc
      · rcases List.mem_cons.mp hc with rfl | hm
        · exact .inl rfl
        · exact hi hm
    · rcases List.mem_cons.mp hc with rfl | hm
      · exact .inr List.mem_cons_self
      · exact hi hm

def nonBlankRuns (cs : List Char) : List (List Char) := (splitParts isBlank cs).filter fun r => !r.isEmpty

theorem trimRight_cons_of_not_blank {c : Char} (hc : isBlank c = false) (cs : List Char) :
    trimRight (c :: cs) = c :: trimRight cs := by
  rw [trimRight, List.reverse_cons, List.dropWhile_append, trimRight]
  split
  · next h => simp [hc, List.isEmpty_iff.mp h]
  · simp

theorem trimRight_cons_of_blank {c : Char} (hc : isBlank c = true) (cs : List Char) :
    trimRight (c :: cs) = if trimRight cs = [] then [] else c :: trimRight cs := by
  rw [trimRight, List.reverse_cons, List.dropWhile_append, trimRight]
  split
  · next h => simp [hc, List.isEmpty_iff.mp h]
  · next h => simp [show cs.reverse.dropWhile isBlank ≠ [] from fun he => h (by rw [he]; rfl)]

theorem trimLeft_collapse (cs : List Char) : trimLeft (collapse cs) = collapseFrom true cs := by
  have hs := trimLeft_eq_self fun c (h : c ∈ (collapseFrom true cs).head?) =>
    isBlank_of_mem_head?_collapseFrom h
  cases cs with
  | nil => rfl
  | cons c cs =>
    by_cases hc : isBlank c = true
    · have hs' := trimLeft_eq_self fun c (h : c ∈ (collapseFrom true cs).head?) =>
        isBlank_of_mem_head?_collapseFrom h
      simp only [collapse, collapseFrom, hc, if_true, Bool.false_eq_true, if_false]
      exact hs'
    · simp only [collapse, collapseFrom, hc, Bool.false_eq_true, if_false] at hs ⊢
      exact hs

theorem trimRight_collapseFrom (cs : List Char) :
    trimRight (' ' :: collapseFrom true cs) = (nonBlankRuns cs).flatMap (' ' :: ·) ∧
      ∃ r rs, splitParts isBlank cs = r :: rs ∧
        trimRight (collapseFrom false cs) = r ++ (rs.filter fun r => !r.isEmpty).flatMap (' ' :: ·) := by
  induction cs with
  | nil => exact ⟨rfl, [], [], rfl, rfl⟩
  | cons c cs ih =>
    obtain ⟨hb, r, rs, hs, hr⟩ := ih
    cases hc : isBlank c with
    | true =>
      have hsplit : splitParts isBlank (c :: cs) = [] :: splitParts isBlank cs := by simp [splitParts, hc]
      have hruns : nonBlankRuns (c :: cs) = nonBlankRuns cs := by simp [nonBlankRuns, hsplit]
      refine ⟨?_, [], splitParts isBlank cs, hsplit, ?_⟩
      · rw [hruns, collapseFrom, hc]
        exact hb
      · rw [collapseFrom, hc]
        exact hb
    | false =>
      have hsplit : splitParts isBlank (c :: cs) = (c :: r) :: rs := by simp [splitParts, hc, hs]
      have hruns : nonBlankRuns (c :: cs) = (c :: r) :: rs.filter fun r => !r.isEmpty := by
        simp [nonBlankRuns, hsplit]
      have hstep (b : Bool) : trimRight (collapseFrom b (c :: cs)) =
          c :: (r ++ (rs.filter fun r => !r.isEmpty).flatMap (' ' :: ·)) := by
        rw [collapseFrom, hc, ← hr]
        exact trimRight_cons_of_not_blank hc _
      refine ⟨?_, c :: r, rs, hsplit, hstep false⟩
      rw [trimRight_cons_of_blank rfl, hstep, if_neg (List.cons_ne_nil _ _), hruns]
      rfl

theorem space_cons_intercalate {rs : List (List Char)} (h : rs ≠ []) :
    ' ' :: [' '].intercalate rs = rs.flatMap (' ' :: ·) := by
  induction rs with
  | nil => exact absurd rfl h
  | cons r rs ih =>
    cases rs with
    | nil => simp
    | cons q rs =>
      rw [List.intercalate_cons_cons, List.flatMap_cons, ← ih (List.cons_ne_nil q rs)]
      simp

theorem trim_collapse (cs : List Char) : trim (collapse cs) = [' '].intercalate (nonBlankRuns cs) := by
  obtain ⟨h, -⟩ := trimRight_collapseFrom cs
  rw [trimRight_cons_of_blank rfl] at h
  rw [trim, trimLeft_collapse]
  cases hr : nonBlankRuns cs with
  | nil =>
    rw [hr] at h
    show trimRight (collapseFrom true cs) = []
    by_contra hn
    rw [if_neg hn] at h
    cases h
  | cons r rs =>
    rw [hr, ← space_cons_intercalate (List.cons_ne_nil r rs)] at h
    split at h
    · cases h
    · exact (List.cons.inj h).2

end IconCompiler.Text
