import IconCompiler.Number.Shortest
import IconCompiler.Proofs.Rounding

namespace IconCompiler.Number

theorem significand_eq (rank : ℕ) :
    significand rank = if rank < 2 ^ 52 then rank else 2 ^ 52 + rank % 2 ^ 52 := rfl

theorem exponent_eq (rank : ℕ) :
    exponent rank = if rank < 2 ^ 52 then -1074 else ((rank / 2 ^ 52 : ℕ) : ℤ) - 1075 := rfl

theorem exponent_ge (rank : ℕ) : -1074 ≤ exponent rank := by
  rw [exponent_eq]
  split
  · exact le_rfl
  · next h =>
    have : 1 ≤ rank / 2 ^ 52 := (Nat.one_le_div_iff (by norm_num)).mpr (not_lt.mp h)
    omega

theorem significand_lt (rank : ℕ) : significand rank < 2 ^ 53 := by
  rw [significand_eq]
  split
  · omega
  · have := Nat.mod_lt rank (show 0 < 2 ^ 52 by norm_num)
    omega

theorem significand_pos {rank : ℕ} (h : 0 < rank) : 0 < significand rank := by
  rw [significand_eq]
  split
  · exact h
  · positivity

theorem rank_eq (rank : ℕ) : rank = (exponent rank + 1074).toNat * 2 ^ 52 + significand rank := by
  rw [exponent_eq, significand_eq]
  split
  · simp
  · next h =>
    have : 1 ≤ rank / 2 ^ 52 := (Nat.one_le_div_iff (by norm_num)).mpr (not_lt.mp h)
    have := Nat.div_add_mod rank (2 ^ 52)
    omega

def reachBelow (rank : ℕ) : ℕ := if rank % 2 ^ 52 = 0 && 2 ^ 52 < rank then 1 else 2

theorem reachBelow_cases (rank : ℕ) :
    (reachBelow rank = 1 ∧ significand rank = 2 ^ 52 ∧ -1074 < exponent rank) ∨
      (reachBelow rank = 2 ∧ (exponent rank = -1074 ∨ 2 ^ 52 < significand rank)) := by
  by_cases h : rank % 2 ^ 52 = 0 ∧ 2 ^ 52 < rank
  · have hd : 2 ≤ rank / 2 ^ 52 := by omega
    refine .inl ⟨?_, ?_, ?_⟩
    · rw [reachBelow, if_pos (by simpa only [Bool.and_eq_true, decide_eq_true_eq] using h)]
    · rw [significand_eq, if_neg (by omega), h.1, add_zero]
    · rw [exponent_eq, if_neg (by omega)]
      omega
  · refine .inr ⟨?_, ?_⟩
    · rw [reachBelow, if_neg (by simpa only [Bool.and_eq_true, decide_eq_true_eq] using h)]
    · rw [exponent_eq, significand_eq]
      split
      · exact .inl rfl
      · by_cases hm : rank % 2 ^ 52 = 0
        · left
          have hr : rank = 2 ^ 52 := by omega
          rw [hr]
          norm_num
        · right
          omega

structure Interval.Covers (i : Interval) (x : ℚ) : Prop where
  low : (i.low : ℚ) / i.scale ≤ x
  high : x ≤ i.high / i.scale
  inside : i.closed = false → (i.low : ℚ) / i.scale < x ∧ x < i.high / i.scale

theorem interval_scale_pos (rank : ℕ) : 0 < (interval rank).scale := by
  simp only [interval, Nat.pow_eq]
  positivity

theorem interval_unit (q : ℤ) (k : ℕ) :
    ((k * 2 ^ q.toNat : ℕ) : ℚ) / (2 ^ (-q).toNat : ℕ) = k * 2 ^ q := by
  rcases le_total 0 q with h | h
  · have hn : (-q).toNat = 0 := by omega
    have hq : (2 : ℚ) ^ q = 2 ^ q.toNat := by rw [← zpow_natCast, Int.toNat_of_nonneg h]
    rw [hn, hq]
    push_cast
    simp
  · have hn : q.toNat = 0 := by omega
    have hq : (2 : ℚ) ^ q = (2 ^ (-q).toNat)⁻¹ := by
      rw [← zpow_natCast, Int.toNat_of_nonneg (by omega), zpow_neg, inv_inv]
    rw [hn, hq]
    push_cast
    ring

theorem interval_value (rank : ℕ) : ((interval rank).value : ℚ) / (interval rank).scale =
    4 * significand rank * 2 ^ (exponent rank - 2) := by
  simp only [interval, Nat.pow_eq]
  rw [interval_unit]
  push_cast
  ring

theorem interval_high (rank : ℕ) : ((interval rank).high : ℚ) / (interval rank).scale =
    (4 * significand rank + 2) * 2 ^ (exponent rank - 2) := by
  simp only [interval, Nat.pow_eq]
  rw [interval_unit]
  push_cast
  ring

theorem interval_low {rank : ℕ} (h : 0 < rank) : ((interval rank).low : ℚ) / (interval rank).scale =
    (4 * significand rank - reachBelow rank) * 2 ^ (exponent rank - 2) := by
  have hm := significand_pos h
  have hb : reachBelow rank ≤ 4 * significand rank := by
    rcases reachBelow_cases rank with ⟨hb, -⟩ | ⟨hb, -⟩ <;> omega
  have hi : (interval rank).low =
      (4 * significand rank - reachBelow rank) * 2 ^ (exponent rank - 2).toNat := rfl
  have hs : (interval rank).scale = 2 ^ (-(exponent rank - 2)).toNat := rfl
  rw [hi, hs, interval_unit]
  push_cast [Nat.cast_sub hb]
  ring

theorem two_zpow_add (e : ℤ) (k : ℕ) : (2 : ℚ) ^ (e + k) = 2 ^ (k + 2) * 2 ^ (e - 2) := by
  rw [← zpow_natCast, ← zpow_add₀ (by norm_num)]
  congr 1
  push_cast
  ring

theorem near_of_even_reach {x : ℚ} {m : ℕ} {e : ℤ} (he : -1074 ≤ e) (hm : m < 2 ^ 53)
    (hn : e = -1074 ∨ 2 ^ 52 < m) (hl : (4 * m - 2) * 2 ^ (e - 2) ≤ x)
    (hh : x ≤ (4 * m + 2) * 2 ^ (e - 2))
    (ho : m % 2 = 1 → (4 * m - 2) * 2 ^ (e - 2) < x ∧ x < (4 * m + 2) * 2 ^ (e - 2)) :
    HasUnit x e ∧ Near x m e := by
  have hu : (0 : ℚ) < 2 ^ (e - 2) := by positivity
  have h0 := two_zpow_add e 0
  have h52 := two_zpow_add e 52
  have h53 := two_zpow_add e 53
  have hm' : (m : ℚ) + 1 ≤ 2 ^ 53 := by exact_mod_cast hm
  push_cast at h0 h52 h53
  rw [add_zero] at h0
  refine ⟨⟨he, ?_, ?_⟩, ⟨?_, ?_, ?_⟩⟩
  · rw [h53]
    nlinarith
  · refine hn.imp id fun hn => ?_
    have hn' : (2 : ℚ) ^ 52 + 1 ≤ m := by exact_mod_cast hn
    rw [h52]
    nlinarith
  · rw [h0]
    linarith
  · rw [h0]
    linarith
  · intro hp
    obtain ⟨hl, hh⟩ := ho hp
    rw [h0]
    constructor <;> linarith

theorem near_of_short_reach {x : ℚ} {e : ℤ} (he : -1074 < e)
    (hl : (4 * 2 ^ 52 - 1) * 2 ^ (e - 2) ≤ x) (hh : x ≤ (4 * 2 ^ 52 + 2) * 2 ^ (e - 2)) :
    (HasUnit x e ∧ Near x (2 ^ 52) e) ∨ (HasUnit x (e - 1) ∧ Near x (2 ^ 53) (e - 1)) := by
  have hu : (0 : ℚ) < 2 ^ (e - 2) := by positivity
  have h0 := two_zpow_add e 0
  have h52 := two_zpow_add e 52
  have h53 := two_zpow_add e 53
  have hp : (2 : ℚ) ^ (e - 1) = 2 * 2 ^ (e - 2) := by
    rw [← zpow_one_add₀ (by norm_num)]
    congr 1
    ring
  push_cast at h0 h52 h53
  rw [add_zero] at h0
  -- From `2 ^ (e + 52)` down the unit is half as large, and `2 ^ 53` of these are the same number.
  rcases le_or_gt ((2 : ℚ) ^ (e + 52)) x with h | h
  · refine .inl ⟨⟨he.le, ?_, .inr h⟩, ⟨?_, ?_, by norm_num⟩⟩
    · rw [h53]
      linarith
    · rw [h0]
      push_cast
      rw [h52] at h
      linarith
    · rw [h0]
      push_cast
      linarith
  · refine .inr ⟨⟨by omega, ?_, .inr ?_⟩, ⟨?_, ?_, by norm_num⟩⟩
    · rw [show e - 1 + 53 = e + 52 by ring]
      exact h
    · rw [show e - 1 + 52 = (e - 2) + 53 by ring, zpow_add₀ (by norm_num)]
      norm_num
      linarith
    · rw [hp]
      push_cast
      linarith
    · rw [hp]
      push_cast
      rw [h52] at h
      linarith

theorem Interval.Covers.unit_le {rank : ℕ} {x : ℚ} (hr : 0 < rank) (h : (interval rank).Covers x) :
    2 ^ (exponent rank - 2) ≤ x := by
  have hlow := h.low
  rw [interval_low hr] at hlow
  have hu : (0 : ℚ) < 2 ^ (exponent rank - 2) := by positivity
  have hm : (1 : ℚ) ≤ significand rank := by exact_mod_cast significand_pos hr
  have hb : (reachBelow rank : ℚ) ≤ 2 := by
    rcases reachBelow_cases rank with ⟨hb, -⟩ | ⟨hb, -⟩ <;> norm_num [hb]
  have hd : 1 * 2 ^ (exponent rank - 2) ≤
      (4 * (significand rank : ℚ) - reachBelow rank) * 2 ^ (exponent rank - 2) :=
    mul_le_mul_of_nonneg_right (by linarith) hu.le
  linarith

theorem Interval.Covers.pos {rank : ℕ} {x : ℚ} (hr : 0 < rank) (h : (interval rank).Covers x) : 0 < x :=
  lt_of_lt_of_le (by positivity) (h.unit_le hr)

theorem nearestRank_of_covers {rank n d : ℕ} (hr : 0 < rank) (hd : 0 < d)
    (h : (interval rank).Covers ((n : ℚ) / d)) : nearestRank n d = rank := by
  have hlow := h.low
  have hhigh := h.high
  have hin := h.inside
  rw [interval_low hr] at hlow hin
  rw [interval_high] at hhigh hin
  have hrank := rank_eq rank
  have hn : 0 < n := by
    have hpos := h.pos hr
    rw [div_pos_iff_of_pos_right (by exact_mod_cast hd)] at hpos
    exact_mod_cast hpos
  rcases reachBelow_cases rank with ⟨hb, hm, he⟩ | ⟨hb, he⟩
  · rw [hb, hm] at hlow
    rw [hm] at hhigh hrank
    push_cast at hlow hhigh
    rcases near_of_short_reach he hlow hhigh with ⟨hu, hx⟩ | ⟨hu, hx⟩
    · rw [nearestRank_eq hn hd hu hx]
      omega
    · rw [nearestRank_eq hn hd hu hx]
      omega
  · rw [hb] at hlow hin
    have ho : significand rank % 2 = 1 → (interval rank).closed = false := by
      intro ho
      simp only [interval, ho]
      rfl
    obtain ⟨hu, hx⟩ := near_of_even_reach (exponent_ge rank) (significand_lt rank) he hlow hhigh
      (fun hp => hin (ho hp))
    rw [nearestRank_eq hn hd hu hx]
    omega

end IconCompiler.Number
