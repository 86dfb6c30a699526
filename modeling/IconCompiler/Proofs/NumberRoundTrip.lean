import IconCompiler.Proofs.Numerals

namespace IconCompiler.Number

theorem Decimal.ratio_eq (d : Decimal) :
    d.ratio = (d.digits * 10 ^ d.exponent.toNat, 10 ^ (-d.exponent).toNat) := by
  simp only [ratio, Nat.pow_eq]
  split
  · have hn : (-d.exponent).toNat = 0 := by omega
    rw [hn, pow_zero]
  · have hn : d.exponent.toNat = 0 := by omega
    rw [hn, pow_zero, mul_one]

theorem Decimal.ratio_div (d : Decimal) :
    (d.ratio.1 : ℚ) / d.ratio.2 = d.digits * 10 ^ d.exponent := by
  rw [ratio_eq, ten_zpow, ← mul_div_assoc]
  push_cast
  rfl

theorem lt_ten_pow_decimalLength (n : ℕ) : n < 10 ^ decimalLength n :=
  (Nat.length_toDigits_le_iff (by norm_num) Nat.length_toDigits_pos).mp le_rfl

theorem ten_pow_le_of_decimalLength {n : ℕ} (hn : 0 < n) : 10 ^ (decimalLength n - 1) ≤ n := by
  rcases Nat.eq_zero_or_pos (decimalLength n - 1) with hz | hp
  · rw [hz, pow_zero]
    exact hn
  · by_contra hlt
    have hle := (Nat.length_toDigits_le_iff (by norm_num) hp).mpr (not_le.mp hlt)
    unfold decimalLength at hle hp
    omega

theorem Decimal.size_bounds {d : Decimal} (hd : 0 < d.digits) :
    (10 : ℚ) ^ (decimalLength d.digits + d.exponent - 1) ≤ d.digits * 10 ^ d.exponent ∧
      d.digits * 10 ^ d.exponent < (10 : ℚ) ^ (decimalLength d.digits + d.exponent) := by
  have hten : (0 : ℚ) < 10 ^ d.exponent := by positivity
  have hlen : 0 < decimalLength d.digits := Nat.length_toDigits_pos
  have hle : (10 : ℚ) ^ (decimalLength d.digits - 1) ≤ d.digits := by
    exact_mod_cast ten_pow_le_of_decimalLength hd
  have hlt : (d.digits : ℚ) < 10 ^ decimalLength d.digits := by
    exact_mod_cast lt_ten_pow_decimalLength d.digits
  have hsize : (decimalLength d.digits : ℤ) + d.exponent - 1 =
      ((decimalLength d.digits - 1 : ℕ) : ℤ) + d.exponent := by omega
  constructor
  · rw [hsize, zpow_add₀ (by norm_num), zpow_natCast]
    exact mul_le_mul_of_nonneg_right hle hten.le
  · rw [zpow_add₀ (by norm_num), zpow_natCast]
    exact mul_lt_mul_of_pos_right hlt hten

theorem exponent_lt {rank : ℕ} (h : rank < rankLimit) : exponent rank < 972 := by
  rw [exponent_eq]
  unfold rankLimit at h
  split
  · norm_num
  · omega

theorem two_pow_lt_ten_pow : (2 : ℚ) ^ 1024 < 10 ^ 309 := by
  have h : (2 ^ 93 : ℚ) ^ 11 ≤ (10 ^ 28) ^ 11 := pow_le_pow_left₀ (by norm_num) (by norm_num) 11
  rw [← pow_mul, ← pow_mul] at h
  calc (2 : ℚ) ^ 1024 = 2 * 2 ^ (93 * 11) := by rw [← pow_succ']
    _ ≤ 2 * 10 ^ (28 * 11) := mul_le_mul_of_nonneg_left h (by norm_num)
    _ < 10 * 10 ^ (28 * 11) := mul_lt_mul_of_pos_right (by norm_num) (by positivity)
    _ = 10 ^ 309 := by rw [← pow_succ']

theorem Interval.Covers.lt_ten_zpow {rank : ℕ} {x : ℚ} (hr : rank < rankLimit)
    (h : (interval rank).Covers x) : x < 10 ^ (309 : ℤ) := by
  have hhigh := h.high
  rw [interval_high] at hhigh
  have hm : (significand rank : ℚ) + 1 ≤ 2 ^ 53 := by exact_mod_cast significand_lt rank
  have he := exponent_lt hr
  calc x ≤ (4 * significand rank + 2) * 2 ^ (exponent rank - 2) := hhigh
    _ ≤ 2 ^ 55 * 2 ^ (969 : ℤ) := by
      gcongr
      · linarith
      · norm_num
      · omega
    _ = 2 ^ 1024 := by
      rw [← zpow_natCast, ← zpow_add₀ (by norm_num)]
      rfl
    _ < 10 ^ 309 := two_pow_lt_ten_pow

theorem Decimal.toBinary64_of_covers {d : Decimal} {rank : Fin rankLimit} (hr : 0 < rank.val)
    (h : (interval rank.val).Covers (d.digits * 10 ^ d.exponent)) :
    d.toBinary64 = .finite d.negative rank := by
  have hten : (0 : ℚ) < 10 ^ d.exponent := by positivity
  have hd : 0 < d.digits := by
    have hpos := h.pos hr
    rw [mul_pos_iff_of_pos_right hten] at hpos
    exact_mod_cast hpos
  obtain ⟨hlow, hhigh⟩ := d.size_bounds hd
  have hmax : ¬ (decimalLength d.digits + d.exponent > 310) := by
    have := (zpow_lt_zpow_iff_right₀ (by norm_num)).mp (hlow.trans_lt (h.lt_ten_zpow rank.isLt))
    omega
  have hmin : ¬ (decimalLength d.digits + d.exponent < -330) := by
    have hle := (ten_zpow_le_unit le_rfl rank.val).trans (h.unit_le hr)
    have := (zpow_lt_zpow_iff_right₀ (by norm_num)).mp (hle.trans_lt hhigh)
    omega
  have hnum : d.ratio.1 ≠ 0 := by
    rw [ratio_eq]
    positivity
  have hden : 0 < d.ratio.2 := by
    rw [ratio_eq]
    positivity
  rw [← d.ratio_div] at h
  have hrank := nearestRank_of_covers hr hden h
  simp only [toBinary64, if_neg hd.ne', if_neg hmax, if_neg hmin, Binary64.ofRatio, if_neg hnum, hrank]
  rw [dif_pos rank.isLt]

theorem read?_chars {x : Binary64} (h : x.isFinite = true) :
    (Decimal.read? x.chars).map Decimal.toBinary64 = some x := by
  cases x with
  | nan => cases h
  | infinite negative => cases h
  | finite negative rank =>
    rw [chars_finite]
    split
    · next hz =>
      have hrank : rank = ⟨0, by decide⟩ := Fin.ext hz
      rw [read?_whole negative (by simp) (by simp), hrank]
      cases negative <;> rfl
    · next hz =>
      have hr : 0 < rank.val := Nat.pos_of_ne_zero hz
      obtain ⟨d, hd, hneg, hval⟩ :=
        read?_layout negative (shortest rank.val).1 (shortest rank.val).2
      have hcov := covers_shortest hr
      rw [← hval] at hcov
      rw [hd, Option.map_some, d.toBinary64_of_covers hr hcov, hneg]

theorem isFinite_of_chars_eq {x y : Binary64} (hx : x.isFinite = true) (h : x.chars = y.chars) :
    y.isFinite = true := by
  cases y with
  | finite negative rank => rfl
  | nan => exact absurd (of_mem_chars (c := 'N') hx (by rw [h]; decide)) (by decide)
  | infinite negative =>
    exact absurd (of_mem_chars (c := 'i') hx (by rw [h]; cases negative <;> decide)) (by decide)

theorem chars_injective : Function.Injective Binary64.chars := by
  intro x y h
  cases hx : x.isFinite with
  | true =>
    have hy := read?_chars (isFinite_of_chars_eq hx h)
    rw [← h, read?_chars hx] at hy
    exact Option.some.inj hy
  | false =>
    have hy : y.isFinite = false := by
      by_contra hn
      rw [isFinite_of_chars_eq (by simpa using hn) h.symm] at hx
      cases hx
    cases x with
    | finite negative rank => cases hx
    | nan =>
      cases y with
      | finite negative rank => cases hy
      | nan => rfl
      | infinite negative =>
        revert negative
        decide
    | infinite negative =>
      cases y with
      | finite negative' rank => cases hy
      | nan =>
        revert negative
        decide
      | infinite negative' =>
        revert negative negative'
        decide

end IconCompiler.Number
