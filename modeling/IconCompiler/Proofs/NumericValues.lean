import IconCompiler.Proofs.NearestNumbers
import IconCompiler.Proofs.NumeralGrammar
import IconCompiler.Proofs.ReadAttributes

namespace IconCompiler

open IconCompiler.Number IconCompiler.Text

namespace Text

inductive Padded (core : List Char) : List Char → Prop
  | intro {lead trail : List Char} (hl : ∀ c ∈ lead, isBlank c = true) (ht : ∀ c ∈ trail, isBlank c = true) :
      Padded core (lead ++ (core ++ trail))

theorem padded_trim (cs : List Char) : Padded (trim cs) cs := by
  have hleft : cs.takeWhile isBlank ++ trimLeft cs = cs := List.takeWhile_append_dropWhile
  have hright : trim cs ++ ((trimLeft cs).reverse.takeWhile isBlank).reverse = trimLeft cs := by
    rw [trim, trimRight, ← List.reverse_append, List.takeWhile_append_dropWhile, List.reverse_reverse]
  have h : Padded (trim cs) (cs.takeWhile isBlank ++ (trim cs ++ ((trimLeft cs).reverse.takeWhile isBlank).reverse)) :=
    .intro (fun c hc => List.mem_takeWhile_imp hc) (fun c hc => List.mem_takeWhile_imp (List.mem_reverse.mp hc))
  rwa [hright, hleft] at h

theorem Padded.trim_eq {core cs : List Char} (h : Padded core cs) (hn : core ≠ [])
    (hc : ∀ c ∈ core, isBlank c = false) : trim cs = core := by
  cases h with
  | @intro lead trail hl ht =>
    have hhead : ∀ c ∈ (core ++ trail).head?, isBlank c = false := by
      rw [List.head?_append_of_ne_nil core hn]
      exact fun c hm => hc c (List.mem_of_mem_head? hm)
    rw [trim, trimLeft_append hl hhead, trimRight_append ht fun c hm => hc c (List.mem_of_getLast? hm)]

end Text

namespace Number

theorem IsSign.not_blank {cs : List Char} (h : IsSign cs) : ∀ c ∈ cs, isBlank c = false := by
  cases h <;> simp <;> decide

theorem IsDigits.not_blank {cs : List Char} (h : IsDigits cs) : ∀ c ∈ cs, isBlank c = false := by
  intro c hc
  apply Markup.isBlank_of_isNamePart
  simp [Markup.isNamePart, Char.isAlphanum, h c hc]

theorem IsExponent.not_blank {cs : List Char} (h : IsExponent cs) : ∀ c ∈ cs, isBlank c = false := by
  cases h with
  | none => simp
  | power hm hs hd hn =>
    rw [List.forall_mem_cons, List.forall_mem_append]
    refine ⟨?_, hs.not_blank, hd.not_blank⟩
    rcases hm with rfl | rfl <;> decide

theorem IsNumeral.not_blank {cs : List Char} (h : IsNumeral cs) : ∀ c ∈ cs, isBlank c = false := by
  cases h with
  | whole hs hw hn he =>
    rw [List.forall_mem_append, List.forall_mem_append]
    exact ⟨hs.not_blank, hw.not_blank, he.not_blank⟩
  | point hs hw hf hn he =>
    rw [List.forall_mem_append, List.forall_mem_append, List.forall_mem_cons, List.forall_mem_append]
    exact ⟨hs.not_blank, hw.not_blank, by decide, hf.not_blank, he.not_blank⟩

theorem IsNumeral.ne_nil {cs : List Char} (h : IsNumeral cs) : cs ≠ [] := by
  cases h with
  | whole hs hw hn he => simp [hn]
  | point hs hw hf hn he => simp

end Number

namespace Markup

def IsNumberText (raw : String) (x : Binary64) : Prop :=
  ∃ core d, Padded core raw.toList ∧ Denotes core d ∧ d.RoundsTo x ∧ x.isFinite = true

theorem number?_eq_some_iff {raw : String} {x : Binary64} : number? raw = some x ↔ IsNumberText raw x := by
  unfold number?
  rw [Option.filter_eq_some_iff, Option.map_eq_some_iff]
  constructor
  · rintro ⟨⟨d, hd, hx⟩, hfinite⟩
    exact ⟨_, d, padded_trim raw.toList, read?_eq_some_iff.mp hd, Decimal.toBinary64_eq_iff.mp hx, hfinite⟩
  · rintro ⟨core, d, hpad, hd, hx, hfinite⟩
    rw [hpad.trim_eq hd.isNumeral.ne_nil hd.isNumeral.not_blank]
    exact ⟨⟨d, read?_eq_some_iff.mpr hd, Decimal.toBinary64_eq_iff.mpr hx⟩, hfinite⟩

theorem readValue_numeric {name : String} (hname : name ∈ numericAttributes) (raw : String) :
    (∀ x, readValue name raw = .number x ↔ IsNumberText raw x) ∧
      ((∀ x, ¬ IsNumberText raw x) → readValue name raw = .text raw) := by
  have hkind : kindOf name = .number := if_pos (List.contains_iff_mem.mpr hname)
  simp only [readValue, hkind, ← number?_eq_some_iff]
  cases number? raw with
  | none => simp
  | some y => simp

theorem readValue_numeric_five :
    "strokeWidth" ∈ numericAttributes ∧
      IsNumberText "\u00a0+.5e1\n" (.finite false ⟨0x4014000000000000, by decide⟩) ∧
      (∀ x, ¬ IsNumberText " 5e " x) ∧ readValue "strokeWidth" " 5e " = .text " 5e " := by
  have hname : "strokeWidth" ∈ numericAttributes := by decide
  have hfive := (readValue_numeric hname "\u00a0+.5e1\n").1 (.finite false ⟨0x4014000000000000, by decide⟩)
  have hnone (x : Binary64) : ¬ IsNumberText " 5e " x := by
    rw [← (readValue_numeric hname " 5e ").1 x]
    have htext : readValue "strokeWidth" " 5e " = .text " 5e " := by decide +kernel
    rw [htext]
    exact nofun
  exact ⟨hname, hfive.mp (by decide +kernel), hnone, (readValue_numeric hname " 5e ").2 hnone⟩

end Markup

end IconCompiler
