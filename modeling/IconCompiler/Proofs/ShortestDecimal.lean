import IconCompiler.Proofs.RoundingInterval

namespace IconCompiler.Number

theorem ten_zpow (p : ℤ) : (10 : ℚ) ^ p = (10 ^ p.toNat : ℕ) / (10 ^ (-p).toNat : ℕ) := by
  rcases le_total 0 p with h | h
  · have hn : (-p).toNat = 0 := by omega
    have hp : (10 : ℚ) ^ p = 10 ^ p.toNat := by rw [← zpow_natCast, Int.toNat_of_nonneg h]
    rw [hn, hp]
    simp
  · have hn : p.toNat = 0 := by omega
    have hp : (10 : ℚ) ^ p = (10 ^ (-p).toNat)⁻¹ := by
      rw [← zpow_natCast, Int.toNat_of_nonneg (by omega), zpow_neg, inv_inv]
    rw [hn, hp]
    simp

namespace Interval

theorem ratioOf_eq (i : Interval) (n : ℕ) (p : ℤ) :
    i.ratioOf n p = (n * 10 ^ p.toNat * i.scale, 10 ^ (-p).toNat) := by
  simp only [ratioOf, Nat.pow_eq]
  split
  · have hn : (-p).toNat = 0 := by omega
    rw [hn, pow_zero]
  · have hn : p.toNat = 0 := by omega
    rw [hn, pow_zero, mul_one]

theorem floorAt_eq (i : Interval) (p : ℤ) :
    i.floorAt p = i.value * 10 ^ (-p).toNat / (10 ^ p.toNat * i.scale) := by
  simp only [floorAt, Nat.pow_eq]
  split
  · have hn : (-p).toNat = 0 := by omega
    rw [hn, pow_zero, mul_one]
  · have hn : p.toNat = 0 := by omega
    rw [hn, pow_zero, one_mul]

theorem mul_le_ratioOf_iff {i : Interval} (hs : 0 < i.scale) (k n : ℕ) (p : ℤ) :
    k * 10 ^ (-p).toNat ≤ n * 10 ^ p.toNat * i.scale ↔ (k : ℚ) / i.scale ≤ n * 10 ^ p := by
  have hs' : (0 : ℚ) < i.scale := by exact_mod_cast hs
  rw [ten_zpow, ← mul_div_assoc, div_le_div_iff₀ hs' (by positivity)]
  exact_mod_cast Iff.rfl

theorem ratioOf_le_mul_iff {i : Interval} (hs : 0 < i.scale) (k n : ℕ) (p : ℤ) :
    n * 10 ^ p.toNat * i.scale ≤ k * 10 ^ (-p).toNat ↔ (n : ℚ) * 10 ^ p ≤ k / i.scale := by
  have hs' : (0 : ℚ) < i.scale := by exact_mod_cast hs
  rw [ten_zpow, ← mul_div_assoc, div_le_div_iff₀ (by positivity) hs']
  exact_mod_cast Iff.rfl

theorem holds_iff {i : Interval} (hs : 0 < i.scale) (n : ℕ) (p : ℤ) :
    i.holds n p = true ↔ i.Covers (n * 10 ^ p) := by
  have hl := mul_le_ratioOf_iff hs i.low n p
  have hh := ratioOf_le_mul_iff hs i.high n p
  have hl' := (ratioOf_le_mul_iff hs i.low n p).not
  have hh' := (mul_le_ratioOf_iff hs i.high n p).not
  rw [not_le, not_le] at hl' hh'
  simp only [holds, ratioOf_eq]
  cases hc : i.closed with
  | true =>
    simp only [if_true, Bool.and_eq_true, decide_eq_true_eq, hl, hh]
    exact ⟨fun h => ⟨h.1, h.2, by simp [hc]⟩, fun h => ⟨h.low, h.high⟩⟩
  | false =>
    simp only [Bool.false_eq_true, if_false, Bool.and_eq_true, decide_eq_true_eq, hl', hh']
    exact ⟨fun h => ⟨h.1.le, h.2.le, fun _ => h⟩, fun h => h.inside hc⟩

theorem holds_of_pick? {i : Interval} {p : ℤ} {n : ℕ} (h : i.pick? p = some n) : i.holds n p = true := by
  simp only [pick?] at h
  split at h
  · next h₁ h₂ =>
    split at h <;> cases h
    · exact h₁
    · exact h₂
  · next h₁ _ =>
    cases h
    exact h₁
  · next _ h₂ =>
    cases h
    exact h₂
  · cases h

theorem floorAt_le {i : Interval} (hs : 0 < i.scale) (p : ℤ) :
    (i.floorAt p : ℚ) * 10 ^ p ≤ i.value / i.scale := by
  rw [← ratioOf_le_mul_iff hs, floorAt_eq, mul_assoc]
  exact Nat.div_mul_le_self _ _

theorem lt_floorAt_succ {i : Interval} (hs : 0 < i.scale) (p : ℤ) :
    (i.value : ℚ) / i.scale < (i.floorAt p + 1) * 10 ^ p := by
  have h := (ratioOf_le_mul_iff hs i.value (i.floorAt p + 1) p).not
  rw [not_le, not_le] at h
  push_cast at h
  rw [← h, floorAt_eq, mul_assoc]
  have hd : 0 < 10 ^ p.toNat * i.scale := by positivity
  exact Nat.lt_mul_of_div_lt (Nat.lt_succ_self _) hd

theorem holds_search {i : Interval} {q : ℤ} (h : ∀ p ≤ q, i.holds (i.floorAt p) p = true)
    (fuel : ℕ) (p : ℤ) (hp : p - fuel ≤ q) :
    i.holds (i.search fuel p).1 (i.search fuel p).2 = true := by
  induction fuel generalizing p with
  | zero => exact h p (by omega)
  | succ fuel ih =>
    unfold search
    split
    · next n hn => exact holds_of_pick? hn
    · exact ih (p - 1) (by omega)

end Interval

theorem ten_zpow_le_unit {p : ℤ} (hp : p ≤ -330) (rank : ℕ) :
    (10 : ℚ) ^ p ≤ 2 ^ (exponent rank - 2) := by
  have hn : (2 ^ 33 : ℚ) ^ 33 ≤ (10 ^ 10) ^ 33 := pow_le_pow_left₀ (by norm_num) (by norm_num) 33
  rw [← pow_mul, ← pow_mul] at hn
  calc (10 : ℚ) ^ p ≤ 10 ^ (-330 : ℤ) := zpow_le_zpow_right₀ (by norm_num) hp
    _ = ((10 : ℚ) ^ (10 * 33))⁻¹ := by rw [zpow_neg]; rfl
    _ ≤ ((2 : ℚ) ^ (33 * 33))⁻¹ := inv_anti₀ (by positivity) hn
    _ = 2 ^ (-1089 : ℤ) := by rw [zpow_neg]; rfl
    _ ≤ 2 ^ (exponent rank - 2) := by
      have := exponent_ge rank
      exact zpow_le_zpow_right₀ (by norm_num) (by omega)

theorem covers_floorAt {rank : ℕ} (hr : 0 < rank) {p : ℤ} (hp : p ≤ -330) :
    (interval rank).Covers ((interval rank).floorAt p * 10 ^ p) := by
  have hs := interval_scale_pos rank
  have hu : (0 : ℚ) < 2 ^ (exponent rank - 2) := by positivity
  have hle := Interval.floorAt_le hs p
  have hlt := Interval.lt_floorAt_succ hs p
  have hten := ten_zpow_le_unit hp rank
  have hb : (1 : ℚ) ≤ reachBelow rank := by
    rcases reachBelow_cases rank with ⟨hb, -⟩ | ⟨hb, -⟩ <;> norm_num [hb]
  have hreach := mul_le_mul_of_nonneg_right hb hu.le
  rw [interval_value] at hle hlt
  have hlow : ((interval rank).low : ℚ) / (interval rank).scale < (interval rank).floorAt p * 10 ^ p := by
    rw [interval_low hr]
    linarith
  have hhigh : (interval rank).floorAt p * 10 ^ p < ((interval rank).high : ℚ) / (interval rank).scale := by
    rw [interval_high]
    linarith
  exact ⟨hlow.le, hhigh.le, fun _ => ⟨hlow, hhigh⟩⟩

theorem covers_shortest {rank : ℕ} (hr : 0 < rank) :
    (interval rank).Covers ((shortest rank).1 * 10 ^ (shortest rank).2) := by
  have hs := interval_scale_pos rank
  rw [← Interval.holds_iff hs]
  refine Interval.holds_search (q := -330) (fun p hp => ?_) _ _ (by omega)
  rw [Interval.holds_iff hs]
  exact covers_floorAt hr hp

end IconCompiler.Number
