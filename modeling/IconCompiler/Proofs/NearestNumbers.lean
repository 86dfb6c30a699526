import IconCompiler.Proofs.NumberRoundTrip
import Mathlib.Algebra.Order.Archimedean.Basic

/-!
A decimal is read as the nearest double-precision number. Numbers are compared by their distance from the decimal as if
exponents had no greatest value; a number with a greater exponent than there is becomes infinite.
-/

namespace IconCompiler.Number

/-- The number of this rank. Ranks from `rankLimit` on are the numbers that exponents without a bound would give. -/
def magnitude (rank : ℕ) : ℚ := significand rank * 2 ^ exponent rank

/-- No number is nearer to `x` than the one of this rank; if another is equally near, its significand is even. -/
structure IsNearest (x : ℚ) (rank : ℕ) : Prop where
  nearest : ∀ r, |x - magnitude rank| ≤ |x - magnitude r|
  even : ∀ r, r ≠ rank → |x - magnitude r| = |x - magnitude rank| → significand rank % 2 = 0

theorem magnitude_zero : magnitude 0 = 0 := by
  simp [magnitude, significand_eq]

theorem succ_cases (rank : ℕ) :
    (significand (rank + 1) = significand rank + 1 ∧ exponent (rank + 1) = exponent rank ∧ reachBelow (rank + 1) = 2) ∨
      (significand rank + 1 = 2 ^ 53 ∧ significand (rank + 1) = 2 ^ 52 ∧ exponent (rank + 1) = exponent rank + 1 ∧
        reachBelow (rank + 1) = 1) := by
  have hbelow := reachBelow_cases (rank + 1)
  simp only [significand_eq, exponent_eq] at hbelow ⊢
  split_ifs at hbelow ⊢ <;> omega

theorem magnitude_succ (rank : ℕ) : magnitude (rank + 1) = magnitude rank + 2 ^ exponent rank := by
  unfold magnitude
  rcases succ_cases rank with ⟨hs, he, -⟩ | ⟨hs, hn, he, -⟩
  · rw [hs, he]
    push_cast
    ring
  · have hs' : (significand rank : ℚ) = 2 ^ 53 - 1 := by
      rw [eq_sub_iff_add_eq]
      exact_mod_cast hs
    rw [hn, he, hs', zpow_add_one₀ (by norm_num)]
    push_cast
    ring

theorem strictMono_magnitude : StrictMono magnitude := by
  refine strictMono_nat_of_lt_succ fun rank => ?_
  rw [magnitude_succ]
  exact lt_add_of_pos_right _ (by positivity)

theorem significand_mod_two (rank : ℕ) : significand rank % 2 = rank % 2 := by
  have h := rank_eq rank
  omega

theorem two_zpow_eq (e : ℤ) : (2 : ℚ) ^ e = 4 * 2 ^ (e - 2) := by
  have h := two_zpow_add e 0
  push_cast at h
  rw [add_zero] at h
  rw [h]
  norm_num

theorem midpoint_above (rank : ℕ) :
    2 * (((interval rank).high : ℚ) / (interval rank).scale) = magnitude rank + magnitude (rank + 1) := by
  rw [interval_high, magnitude_succ, magnitude, two_zpow_eq (exponent rank)]
  ring

theorem midpoint_below (rank : ℕ) :
    2 * (((interval (rank + 1)).low : ℚ) / (interval (rank + 1)).scale) = magnitude rank + magnitude (rank + 1) := by
  -- The step down to the number before is the step up from it.
  have hstep : (reachBelow (rank + 1) : ℚ) * (2 * 2 ^ (exponent (rank + 1) - 2)) = 2 ^ exponent rank := by
    rcases succ_cases rank with ⟨-, he, hb⟩ | ⟨-, -, he, hb⟩
    · rw [hb, he, two_zpow_eq (exponent rank)]
      push_cast
      ring
    · rw [hb, he, show exponent rank + 1 - 2 = exponent rank - 1 by ring, zpow_sub_one₀ (by norm_num)]
      push_cast
      ring
  have hsucc := magnitude_succ rank
  have hvalue : magnitude (rank + 1) = significand (rank + 1) * (4 * 2 ^ (exponent (rank + 1) - 2)) := by
    rw [magnitude, two_zpow_eq (exponent (rank + 1))]
  rw [interval_low (Nat.succ_pos rank)]
  linarith

theorem abs_sub_le_abs_sub_iff {a b x : ℚ} (h : a < b) : |x - b| ≤ |x - a| ↔ a + b ≤ 2 * x := by
  rw [← sq_le_sq]
  constructor <;> intro hle <;> nlinarith

theorem abs_sub_le_abs_sub_iff' {a b x : ℚ} (h : a < b) : |x - a| ≤ |x - b| ↔ 2 * x ≤ a + b := by
  rw [← sq_le_sq]
  constructor <;> intro hle <;> nlinarith

namespace IsNearest

variable {x : ℚ} {rank : ℕ}

theorem le_middle (h : IsNearest x rank) : 2 * x ≤ magnitude rank + magnitude (rank + 1) :=
  (abs_sub_le_abs_sub_iff' (strictMono_magnitude (Nat.lt_succ_self rank))).mp (h.nearest (rank + 1))

theorem middle_le (h : IsNearest x (rank + 1)) : magnitude rank + magnitude (rank + 1) ≤ 2 * x :=
  (abs_sub_le_abs_sub_iff (strictMono_magnitude (Nat.lt_succ_self rank))).mp (h.nearest rank)

theorem even_of_le (h : IsNearest x rank) {r : ℕ} (hr : r ≠ rank) (hle : |x - magnitude r| ≤ |x - magnitude rank|) :
    significand rank % 2 = 0 :=
  h.even r hr (le_antisymm hle (h.nearest r))

theorem covers (h : IsNearest x (rank + 1)) : (interval (rank + 1)).Covers x := by
  have hlow := h.middle_le
  have hhigh := h.le_middle
  have hbelow := midpoint_below rank
  have habove := midpoint_above (rank + 1)
  refine ⟨by linarith, by linarith, fun hopen => ?_⟩
  have hodd : significand (rank + 1) % 2 ≠ 0 := of_decide_eq_false hopen
  constructor
  · refine lt_of_not_ge fun hge => hodd (h.even_of_le (Nat.lt_succ_self rank).ne ?_)
    rw [abs_sub_le_abs_sub_iff' (strictMono_magnitude (Nat.lt_succ_self rank))]
    linarith
  · refine lt_of_not_ge fun hge => hodd (h.even_of_le (Nat.lt_succ_self (rank + 1)).ne' ?_)
    rw [abs_sub_le_abs_sub_iff (strictMono_magnitude (Nat.lt_succ_self (rank + 1)))]
    linarith

end IsNearest

theorem magnitude_one : magnitude 1 = 4 * 2 ^ (exponent 0 - 2) := by
  rw [magnitude_succ 0, magnitude_zero, zero_add, two_zpow_eq]

theorem nearestRank_of_isNearest {n d rank : ℕ} (hn : 0 < n) (hd : 0 < d) (h : IsNearest ((n : ℚ) / d) rank) :
    nearestRank n d = rank := by
  cases rank with
  | succ rank => exact nearestRank_of_covers (Nat.succ_pos rank) hd h.covers
  | zero =>
    have hle := h.le_middle
    rw [magnitude_zero, zero_add, zero_add, magnitude_one] at hle
    have hpos : (0 : ℚ) ≤ n / d := by positivity
    have hunit : (0 : ℚ) < 2 ^ (exponent 0 - 2) := by positivity
    obtain ⟨hu, hx⟩ := near_of_even_reach (x := (n : ℚ) / d) (m := 0) (e := exponent 0) (exponent_ge 0) (by norm_num)
      (.inl rfl) (by push_cast; linarith) (by push_cast; linarith) (by norm_num)
    rw [nearestRank_eq hn hd hu hx]
    rfl

theorem isNearest_of_between {x : ℚ} {rank c o : ℕ} (hlow : magnitude rank ≤ x) (hhigh : x < magnitude (rank + 1))
    (hc : (c = rank ∧ o = rank + 1) ∨ (c = rank + 1 ∧ o = rank)) (hle : |x - magnitude c| ≤ |x - magnitude o|)
    (heven : |x - magnitude o| = |x - magnitude c| → significand c % 2 = 0) : IsNearest x c := by
  -- Numbers outside the two are farther from `x` than the one of the two on their side.
  have hfar {r : ℕ} (hrc : r ≠ c) (hro : r ≠ o) : |x - magnitude c| < |x - magnitude r| := by
    rcases (show r < rank ∨ rank + 1 < r by omega) with hr | hr
    · have hlt : |x - magnitude rank| < |x - magnitude r| := by
        have hm := strictMono_magnitude hr
        rw [← not_le, abs_sub_le_abs_sub_iff' hm]
        linarith
      rcases hc with ⟨rfl, rfl⟩ | ⟨rfl, rfl⟩
      · exact hlt
      · exact hle.trans_lt hlt
    · have hlt : |x - magnitude (rank + 1)| < |x - magnitude r| := by
        have hm := strictMono_magnitude hr
        rw [← not_le, abs_sub_le_abs_sub_iff hm]
        linarith
      rcases hc with ⟨rfl, rfl⟩ | ⟨rfl, rfl⟩
      · exact hle.trans_lt hlt
      · exact hlt
  constructor
  · intro r
    by_cases hrc : r = c
    · rw [hrc]
    · by_cases hro : r = o
      · rw [hro]
        exact hle
      · exact (hfar hrc hro).le
  · intro r hrc htie
    by_cases hro : r = o
    · rw [hro] at htie
      exact heven htie
    · exact absurd htie (hfar hrc hro).ne'

theorem mul_le_magnitude (rank : ℕ) : (rank : ℚ) * 2 ^ (-1074 : ℤ) ≤ magnitude rank := by
  induction rank with
  | zero => rw [magnitude_zero, Nat.cast_zero, zero_mul]
  | succ rank ih =>
    have hstep : (2 : ℚ) ^ (-1074 : ℤ) ≤ 2 ^ exponent rank := zpow_le_zpow_right₀ (by norm_num) (exponent_ge rank)
    rw [magnitude_succ, Nat.cast_succ, add_mul, one_mul]
    exact add_le_add ih hstep

theorem exists_between {x : ℚ} (hx : 0 ≤ x) : ∃ rank, magnitude rank ≤ x ∧ x < magnitude (rank + 1) := by
  have hunit : (0 : ℚ) < 2 ^ (-1074 : ℤ) := by positivity
  have hex : ∃ rank, x < magnitude rank := by
    obtain ⟨rank, hrank⟩ := exists_nat_gt (x / 2 ^ (-1074 : ℤ))
    exact ⟨rank, ((div_lt_iff₀ hunit).mp hrank).trans_le (mul_le_magnitude rank)⟩
  -- The least number above `x` is not zero, and the one before it is not above `x`.
  obtain ⟨rank, hrank⟩ := Nat.exists_eq_succ_of_ne_zero (n := Nat.find hex) fun hz => by
    have h := Nat.find_spec hex
    rw [hz, magnitude_zero] at h
    exact absurd h (not_lt.mpr hx)
  refine ⟨rank, not_lt.mp (Nat.find_min hex (hrank ▸ Nat.lt_succ_self rank)), ?_⟩
  have h := Nat.find_spec hex
  rwa [hrank] at h

theorem exists_isNearest {x : ℚ} (hx : 0 ≤ x) : ∃ rank, IsNearest x rank := by
  obtain ⟨rank, hlow, hhigh⟩ := exists_between hx
  rcases lt_trichotomy |x - magnitude rank| |x - magnitude (rank + 1)| with hlt | heq | hgt
  · exact ⟨rank, isNearest_of_between hlow hhigh (.inl ⟨rfl, rfl⟩) hlt.le fun h => absurd h hlt.ne'⟩
  · have hs := significand_mod_two rank
    have hn := significand_mod_two (rank + 1)
    rcases Nat.mod_two_eq_zero_or_one rank with hp | hp
    · exact ⟨rank, isNearest_of_between hlow hhigh (.inl ⟨rfl, rfl⟩) heq.le fun _ => by omega⟩
    · exact ⟨rank + 1, isNearest_of_between hlow hhigh (.inr ⟨rfl, rfl⟩) heq.ge fun _ => by omega⟩
  · exact ⟨rank + 1, isNearest_of_between hlow hhigh (.inr ⟨rfl, rfl⟩) hgt.le fun h => absurd h hgt.ne'⟩

namespace IsNearest

variable {x : ℚ} {rank r : ℕ}

theorem le_of_magnitude_le (h : IsNearest x rank) (hx : magnitude r ≤ x) : r ≤ rank := by
  by_contra hlt
  have hm := strictMono_magnitude (not_le.mp hlt)
  have hle := (abs_sub_le_abs_sub_iff' hm).mp (h.nearest r)
  linarith

theorem eq_zero (h : IsNearest x rank) (hx : 2 * x < magnitude 1) : rank = 0 := by
  cases rank with
  | zero => rfl
  | succ rank =>
    have hle := h.middle_le
    have hzero := strictMono_magnitude.monotone (Nat.zero_le rank)
    have hone := strictMono_magnitude.monotone (Nat.succ_le_succ (Nat.zero_le rank))
    rw [magnitude_zero] at hzero
    linarith

end IsNearest

theorem magnitude_rankLimit : magnitude rankLimit = 2 ^ 1024 := by
  have hs : significand rankLimit = 2 ^ 52 := by decide
  have he : exponent rankLimit = 972 := by decide
  rw [magnitude, hs, he, Nat.cast_pow, Nat.cast_ofNat, ← zpow_natCast, ← zpow_add₀ (by norm_num)]
  rfl

def Binary64.ofRank (negative : Bool) (rank : ℕ) : Binary64 :=
  if h : rank < rankLimit then .finite negative ⟨rank, h⟩ else .infinite negative

def Decimal.value (d : Decimal) : ℚ := d.digits * 10 ^ d.exponent

theorem Decimal.toBinary64_of_isNearest {d : Decimal} {rank : ℕ} (h : IsNearest d.value rank) :
    d.toBinary64 = .ofRank d.negative rank := by
  have hsmall (hx : 2 * d.value < magnitude 1) : Binary64.ofRatio d.negative 0 1 = .ofRank d.negative rank := by
    rw [h.eq_zero hx]
    rfl
  unfold toBinary64
  dsimp only
  split_ifs with hdigits hlarge htiny
  · apply hsmall
    rw [value, hdigits, Nat.cast_zero, zero_mul, mul_zero, magnitude_one]
    positivity
  · obtain ⟨hlow, -⟩ := d.size_bounds (Nat.pos_of_ne_zero hdigits)
    have hle : magnitude rankLimit ≤ d.value := by
      rw [magnitude_rankLimit]
      calc (2 : ℚ) ^ 1024 ≤ 10 ^ 309 := two_pow_lt_ten_pow.le
        _ ≤ 10 ^ (decimalLength d.digits + d.exponent - 1) := by
          rw [← zpow_natCast]
          exact zpow_le_zpow_right₀ (by norm_num) (by push_cast; omega)
        _ ≤ d.value := hlow
    rw [Binary64.ofRank, dif_neg (not_lt.mpr (h.le_of_magnitude_le hle))]
  · obtain ⟨-, hhigh⟩ := d.size_bounds (Nat.pos_of_ne_zero hdigits)
    apply hsmall
    have hvalue : d.value < 2 ^ (Number.exponent 0 - 2) := hhigh.trans_le (ten_zpow_le_unit (by omega) 0)
    have hunit : (0 : ℚ) < 2 ^ (Number.exponent 0 - 2) := by positivity
    rw [magnitude_one]
    linarith
  · have hpos : 0 < d.digits := Nat.pos_of_ne_zero hdigits
    have hnum : 0 < d.ratio.1 := by
      rw [ratio_eq]
      positivity
    have hden : 0 < d.ratio.2 := by
      rw [ratio_eq]
      positivity
    rw [value, ← d.ratio_div] at h
    rw [Binary64.ofRatio, if_neg hnum.ne', nearestRank_of_isNearest hnum hden h]
    rfl

def Decimal.RoundsTo (d : Decimal) (x : Binary64) : Prop := ∃ rank, IsNearest d.value rank ∧ x = .ofRank d.negative rank

theorem Decimal.toBinary64_eq_iff {d : Decimal} {x : Binary64} : d.toBinary64 = x ↔ d.RoundsTo x := by
  constructor
  · rintro rfl
    have hvalue : 0 ≤ d.value := by
      unfold value
      positivity
    obtain ⟨rank, h⟩ := exists_isNearest hvalue
    exact ⟨rank, h, toBinary64_of_isNearest h⟩
  · rintro ⟨rank, h, rfl⟩
    exact toBinary64_of_isNearest h

end IconCompiler.Number
