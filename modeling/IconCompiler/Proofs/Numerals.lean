import IconCompiler.Proofs.Scanning
import IconCompiler.Proofs.ShortestDecimal

namespace IconCompiler.Number

open IconCompiler.Text

theorem natOfDigits_eq (cs : List Char) : natOfDigits cs = Nat.ofDigitChars 10 cs 0 := rfl

theorem natOfDigits_toDigits (n : ℕ) : natOfDigits (Nat.toDigits 10 n) = n :=
  Nat.ofDigitChars_ten_toDigits

theorem natOfDigits_append_zeros (cs : List Char) (k : ℕ) :
    natOfDigits (cs ++ List.replicate k '0') = natOfDigits cs * 10 ^ k := by
  rw [natOfDigits_eq, Nat.ofDigitChars_append, Nat.ofDigitChars_replicate_zero, ← natOfDigits_eq,
    mul_comm]

theorem natOfDigits_zeros_append (k : ℕ) (cs : List Char) :
    natOfDigits (List.replicate k '0' ++ cs) = natOfDigits cs := by
  rw [natOfDigits_eq, Nat.ofDigitChars_append, Nat.ofDigitChars_replicate_zero, mul_zero, natOfDigits_eq]

theorem isDigit_of_mem_zeros {k : ℕ} {c : Char} (h : c ∈ List.replicate k '0') : c.isDigit = true := by
  rw [List.eq_of_mem_replicate h]
  rfl

theorem isDigit_of_mem_toDigits {n : ℕ} {c : Char} (h : c ∈ Nat.toDigits 10 n) : c.isDigit = true :=
  Nat.isDigit_of_mem_toDigits (by norm_num) le_rfl h

theorem readSign_signText (negative : Bool) {c : Char} (cs : List Char) (h : c.isDigit = true) :
    readSign (signText negative ++ c :: cs) = (negative, c :: cs) := by
  cases negative with
  | true => rfl
  | false =>
    show readSign (c :: cs) = (false, c :: cs)
    unfold readSign
    split
    · next he =>
      cases he
      cases h
    · next he =>
      cases he
      cases h
    · rfl

theorem read?_whole (negative : Bool) {whole : List Char} (hn : whole ≠ [])
    (hd : ∀ c ∈ whole, c.isDigit = true) :
    Decimal.read? (signText negative ++ whole) = some ⟨negative, natOfDigits whole, 0⟩ := by
  cases whole with
  | nil => contradiction
  | cons c cs =>
    simp only [Decimal.read?, readSign_signText negative cs (hd c (by simp)), span_eq_self hd,
      readFraction, readExponent]
    simp

theorem read?_point (negative : Bool) {whole fraction : List Char} (hn : whole ≠ [])
    (hd : ∀ c ∈ whole, c.isDigit = true) (hf : ∀ c ∈ fraction, c.isDigit = true) :
    Decimal.read? (signText negative ++ (whole ++ '.' :: fraction)) =
      some ⟨negative, natOfDigits (whole ++ fraction), -fraction.length⟩ := by
  cases whole with
  | nil => contradiction
  | cons c cs =>
    have hs : (c :: (cs ++ '.' :: fraction)).span Char.isDigit = (c :: cs, '.' :: fraction) :=
      span_append hd (by simp)
    rw [List.cons_append]
    simp only [Decimal.read?, readSign_signText negative _ (hd c (by simp)), hs, readFraction,
      span_eq_self hf, readExponent]
    simp

theorem read?_layout (negative : Bool) (n : ℕ) (p : ℤ) :
    ∃ d, Decimal.read? (signText negative ++ layout n p) = some d ∧ d.negative = negative ∧
      (d.digits : ℚ) * 10 ^ d.exponent = n * 10 ^ p := by
  have hne : Nat.toDigits 10 n ≠ [] := Nat.toDigits_ne_nil
  have hdig : ∀ c ∈ Nat.toDigits 10 n, c.isDigit = true := fun c => isDigit_of_mem_toDigits
  simp only [layout]
  split
  · next hp =>
    refine ⟨_, read?_whole negative (by simp [hne]) ?_, rfl, ?_⟩
    · intro c hc
      exact (List.mem_append.mp hc).elim (hdig c) isDigit_of_mem_zeros
    · have hten : (10 : ℚ) ^ p = 10 ^ p.toNat := by rw [← zpow_natCast, Int.toNat_of_nonneg hp]
      rw [natOfDigits_append_zeros, natOfDigits_toDigits, hten]
      simp
  · next hp =>
    have hpl : -((-p).toNat : ℤ) = p := by omega
    split
    · next hl =>
      refine ⟨_, read?_point negative (show ['0'] ≠ [] by simp) (by simp) ?_, rfl, ?_⟩
      · intro c hc
        exact (List.mem_append.mp hc).elim isDigit_of_mem_zeros (hdig c)
      · have hz : ['0'] ++ (List.replicate ((-p).toNat - (Nat.toDigits 10 n).length) '0' ++ Nat.toDigits 10 n)
            = List.replicate ((-p).toNat - (Nat.toDigits 10 n).length + 1) '0' ++ Nat.toDigits 10 n := by
          rw [List.replicate_succ]
          rfl
        rw [hz, natOfDigits_zeros_append, natOfDigits_toDigits, List.length_append, List.length_replicate,
          Nat.sub_add_cancel hl, hpl]
    · next hl =>
      have hk : 0 < (Nat.toDigits 10 n).length - (-p).toNat := by omega
      refine ⟨_, read?_point negative ?_ (fun c hc => hdig c (List.mem_of_mem_take hc))
        (fun c hc => hdig c (List.mem_of_mem_drop hc)), rfl, ?_⟩
      · rw [← List.length_pos_iff, List.length_take]
        omega
      · rw [List.take_append_drop, natOfDigits_toDigits, List.length_drop, Nat.sub_sub_self (by omega), hpl]

theorem of_mem_layout {n : ℕ} {p : ℤ} {c : Char} (h : c ∈ layout n p) : c.isDigit = true ∨ c = '.' := by
  have hdig : ∀ c ∈ Nat.toDigits 10 n, c.isDigit = true := fun c => isDigit_of_mem_toDigits
  simp only [layout] at h
  split at h
  · rcases List.mem_append.mp h with h | h
    · exact .inl (hdig c h)
    · exact .inl (isDigit_of_mem_zeros h)
  · split at h
    · rcases List.mem_cons.mp h with rfl | h
      · exact .inl rfl
      · rcases List.mem_cons.mp h with rfl | h
        · exact .inr rfl
        · exact .inl ((List.mem_append.mp h).elim isDigit_of_mem_zeros (hdig c))
    · rcases List.mem_append.mp h with h | h
      · exact .inl (hdig c (List.mem_of_mem_take h))
      · rcases List.mem_cons.mp h with rfl | h
        · exact .inr rfl
        · exact .inl (hdig c (List.mem_of_mem_drop h))

theorem chars_finite (negative : Bool) (rank : Fin rankLimit) :
    (Binary64.finite negative rank).chars = signText negative ++
      if rank.val = 0 then ['0'] else layout (shortest rank.val).1 (shortest rank.val).2 := by
  unfold Binary64.chars
  dsimp only
  split <;> rfl

theorem of_mem_chars {x : Binary64} (h : x.isFinite = true) {c : Char} (hc : c ∈ x.chars) :
    c.isDigit = true ∨ c = '.' ∨ c = '-' := by
  cases x with
  | nan => cases h
  | infinite negative => cases h
  | finite negative rank =>
    rw [chars_finite] at hc
    rcases List.mem_append.mp hc with hs | hl
    · cases negative with
      | true => exact .inr (.inr (List.mem_singleton.mp hs))
      | false => cases hs
    · split at hl
      · rw [List.mem_singleton.mp hl]
        exact .inl rfl
      · exact (of_mem_layout hl).imp id .inl

theorem mem_readSign {cs : List Char} (h : '&' ∈ cs) : '&' ∈ (readSign cs).2 := by
  unfold readSign
  split
  · simpa using h
  · simpa using h
  · exact h

theorem mem_readFraction {cs : List Char} (h : '&' ∈ cs) : '&' ∈ (readFraction cs).2 := by
  unfold readFraction
  split
  · exact mem_span_snd (by decide) (by simpa using h)
  · exact h

theorem readExponent_eq_none {cs : List Char} (h : '&' ∈ cs) : readExponent cs = none := by
  unfold readExponent
  split
  · cases h
  · next c cs =>
    split
    · next hc =>
      have hm : '&' ∈ cs := by
        rcases hc with rfl | rfl <;> simpa using h
      have hn : (readSign cs).2.all Char.isDigit = false := by
        rw [List.all_eq_false]
        exact ⟨'&', mem_readSign hm, by decide⟩
      simp [hn]
    · rfl

theorem read?_eq_none {cs : List Char} (h : '&' ∈ cs) : Decimal.read? cs = none := by
  have hw := mem_span_snd (p := Char.isDigit) (by decide) (mem_readSign h)
  simp only [Decimal.read?, readExponent_eq_none (mem_readFraction hw)]
  simp

end IconCompiler.Number
