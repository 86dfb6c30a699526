import IconCompiler.Markup.Attribute

namespace IconCompiler.Markup

open IconCompiler.Text

def isName (s : String) : Bool :=
  match s.toList with
  | [] => false
  | c :: cs => isNameStart c && cs.all isNamePart

theorem isName_iff {s : String} :
    isName s = true ↔ ∃ c cs, s.toList = c :: cs ∧ isNameStart c = true ∧ ∀ d ∈ cs, isNamePart d = true := by
  unfold isName
  cases h : s.toList with
  | nil => simp
  | cons c cs =>
    simp only [Bool.and_eq_true, List.all_eq_true, List.cons.injEq]
    constructor
    · intro hn
      exact ⟨c, cs, ⟨rfl, rfl⟩, hn⟩
    · rintro ⟨_, _, ⟨rfl, rfl⟩, hn⟩
      exact hn

theorem isNamePart_of_isNameStart {c : Char} (h : isNameStart c = true) : isNamePart c = true := by
  simp only [isNameStart, isNamePart, Char.isAlphanum, Bool.or_eq_true] at *
  rcases h with (h | h) | h <;> simp [h]

theorem isAlphanum_bounds {c : Char} (h : c.isAlphanum = true) :
    (65 ≤ c.toNat ∧ c.toNat ≤ 90) ∨ (97 ≤ c.toNat ∧ c.toNat ≤ 122) ∨ (48 ≤ c.toNat ∧ c.toNat ≤ 57) := by
  change (c.isAlpha || decide (c.val ≥ 48) && decide (c.val ≤ 57)) = true at h
  rw [Bool.or_eq_true, isAlpha_iff, Bool.and_eq_true, decide_eq_true_eq, decide_eq_true_eq] at h
  change _ ∨ (48 ≤ c.toNat ∧ c.toNat ≤ 57) at h
  omega

theorem isNamePart_bounds {c : Char} (h : isNamePart c = true) :
    45 ≤ c.toNat ∧ c.toNat ≤ 122 ∧ c.toNat ≠ 47 ∧ ¬ (59 ≤ c.toNat ∧ c.toNat ≤ 64) := by
  simp only [isNamePart, Bool.or_eq_true, beq_iff_eq] at h
  rcases h with (((h | rfl) | rfl) | rfl) | rfl
  · have := isAlphanum_bounds h
    omega
  all_goals decide

theorem isBlank_of_isNamePart {c : Char} (h : isNamePart c = true) : isBlank c = false := by
  have hb := isNamePart_bounds h
  simp [isBlank]
  omega

theorem ne_of_isNamePart {c : Char} (h : isNamePart c = true) : c ≠ '<' ∧ c ≠ '>' := by
  constructor <;> rintro rfl <;> exact absurd h (by decide)

theorem isNamePart_of_isName {s : String} (h : isName s = true) : ∀ c ∈ s.toList, isNamePart c = true := by
  obtain ⟨c, cs, hs, hc, hd⟩ := isName_iff.mp h
  intro d hm
  rw [hs] at hm
  rcases List.mem_cons.mp hm with rfl | hm
  · exact isNamePart_of_isNameStart hc
  · exact hd d hm

theorem spellings_valid : ∀ s ∈ spellings, isName s.source = true ∧ isName s.canonical = true ∧
    canonicalName s.source = s.canonical ∧ canonicalName s.canonical = s.canonical := by
  decide +kernel

theorem canonicalName_cases (name : String) :
    canonicalName name = name ∨ ∃ s ∈ spellings, canonicalName name = s.canonical := by
  unfold canonicalName
  split
  · next s hs => exact .inr ⟨s, List.mem_of_find?_eq_some hs, rfl⟩
  · exact .inl rfl

theorem canonicalName_canonicalName (name : String) :
    canonicalName (canonicalName name) = canonicalName name := by
  rcases canonicalName_cases name with h | ⟨s, hs, h⟩
  · rw [h, h]
  · rw [h]
    exact (spellings_valid s hs).2.2.2

theorem isName_canonicalName {name : String} (h : isName name = true) :
    isName (canonicalName name) = true := by
  rcases canonicalName_cases name with hc | ⟨s, hs, hc⟩
  · rw [hc]
    exact h
  · rw [hc]
    exact (spellings_valid s hs).2.1

theorem markupName_cases (name : String) :
    markupName name = name ∨ ∃ s ∈ spellings, s.canonical = name ∧ markupName name = s.source := by
  unfold markupName
  split
  · next s hs =>
    have hc := List.find?_some hs
    simp only [Bool.and_eq_true, beq_iff_eq] at hc
    exact .inr ⟨s, List.mem_of_find?_eq_some hs, hc.2, rfl⟩
  · exact .inl rfl

theorem canonicalName_markupName {name : String} (h : canonicalName name = name) :
    canonicalName (markupName name) = name := by
  rcases markupName_cases name with hm | ⟨s, hs, hc, hm⟩
  · rw [hm, h]
  · rw [hm, ← hc]
    exact (spellings_valid s hs).2.2.1

theorem markupName_inj {m n : String} (hm : canonicalName m = m) (hn : canonicalName n = n)
    (h : markupName m = markupName n) : m = n := by
  rw [← canonicalName_markupName hm, h, canonicalName_markupName hn]

theorem isName_markupName {name : String} (h : isName name = true) :
    isName (markupName name) = true := by
  rcases markupName_cases name with hm | ⟨s, hs, -, hm⟩
  · rw [hm]
    exact h
  · rw [hm]
    exact (spellings_valid s hs).1

end IconCompiler.Markup
