import IconCompiler.Number.Binary64
import Mathlib.Algebra.Order.Field.Power
import Mathlib.Data.Rat.Cast.Order
import Mathlib.Tactic.FieldSimp
import Mathlib.Tactic.Linarith
import Mathlib.Tactic.NormNum
import Mathlib.Tactic.Positivity
import Mathlib.Tactic.Ring

namespace IconCompiler.Number

theorem roundDiv_eq {a b m : ℕ} (hb : 0 < b) (hl : 2 * m * b ≤ 2 * a + b) (hu : 2 * a ≤ (2 * m + 1) * b)
    (ho : m % 2 = 1 → 2 * m * b < 2 * a + b ∧ 2 * a < (2 * m + 1) * b) : roundDiv a b = m := by
  have ha := Nat.div_add_mod a b
  have hr := Nat.mod_lt a hb
  unfold roundDiv
  generalize a / b = k at *
  generalize a % b = r at *
  subst ha
  have hk : k ≤ m := by
    by_contra hk
    have := Nat.mul_le_mul_right b (show m + 1 ≤ k by omega)
    nlinarith
  have hm : m ≤ k + 1 := by
    by_contra hm
    have := Nat.mul_le_mul_right b (show k + 2 ≤ m by omega)
    nlinarith
  rcases (show m = k ∨ m = k + 1 by omega) with rfl | rfl
  · rw [if_pos]
    rcases Nat.lt_or_ge (2 * r) b with h | h
    · exact .inl h
    · have h2 : 2 * r = b := by nlinarith
      refine .inr ⟨h2, ?_⟩
      by_contra h1
      have := (ho (by omega)).2
      nlinarith
  · rw [if_neg]
    rintro (h | ⟨h, h1⟩)
    · nlinarith
    · have := (ho (by omega)).1
      nlinarith

theorem inUnits_div (n d : ℕ) (q : ℤ) :
    ((inUnits n d q).1 : ℚ) / (inUnits n d q).2 = (n : ℚ) / d / 2 ^ q := by
  simp only [inUnits, Nat.pow_eq]
  split
  · next h =>
    have hq : (2 : ℚ) ^ q = 2 ^ q.toNat := by
      rw [← zpow_natCast, Int.toNat_of_nonneg h]
    simp only [hq]
    push_cast
    rw [div_div]
  · next h =>
    have hq : (2 : ℚ) ^ q = (2 ^ (-q).toNat)⁻¹ := by
      rw [← zpow_natCast, Int.toNat_of_nonneg (by omega), zpow_neg, inv_inv]
    simp only [hq]
    push_cast
    rw [div_inv_eq_mul]
    ring

theorem inUnits_pos {d : ℕ} (hd : 0 < d) (n : ℕ) (q : ℤ) : 0 < (inUnits n d q).2 := by
  simp only [inUnits, Nat.pow_eq]
  split
  · exact Nat.mul_pos hd (by positivity)
  · exact hd

theorem ratio_bounds {n d : ℕ} (hn : 0 < n) (hd : 0 < d) :
    (2 : ℚ) ^ ((n.log2 : ℤ) - d.log2 - 1) < n / d ∧ (n : ℚ) / d < 2 ^ ((n.log2 : ℤ) - d.log2 + 1) := by
  have hn1 : (2 : ℚ) ^ n.log2 ≤ n := by exact_mod_cast Nat.log2_self_le hn.ne'
  have hn2 : (n : ℚ) < 2 ^ (n.log2 + 1) := by exact_mod_cast Nat.lt_log2_self
  have hd1 : (2 : ℚ) ^ d.log2 ≤ d := by exact_mod_cast Nat.log2_self_le hd.ne'
  have hd2 : (d : ℚ) < 2 ^ (d.log2 + 1) := by exact_mod_cast Nat.lt_log2_self
  have hd0 : (0 : ℚ) < d := by exact_mod_cast hd
  have h2 : (2 : ℚ) ≠ 0 := by norm_num
  constructor
  · rw [lt_div_iff₀ hd0]
    calc (2 : ℚ) ^ ((n.log2 : ℤ) - d.log2 - 1) * d
        < 2 ^ ((n.log2 : ℤ) - d.log2 - 1) * 2 ^ (d.log2 + 1) := by gcongr
      _ = 2 ^ n.log2 := by
        rw [← zpow_natCast, ← zpow_natCast, ← zpow_add₀ h2]
        congr 1
        push_cast
        ring
      _ ≤ n := hn1
  · rw [div_lt_iff₀ hd0]
    calc (n : ℚ) < 2 ^ (n.log2 + 1) := hn2
      _ = 2 ^ ((n.log2 : ℤ) - d.log2 + 1) * 2 ^ d.log2 := by
        rw [← zpow_natCast, ← zpow_natCast, ← zpow_add₀ h2]
        congr 1
        push_cast
        ring
      _ ≤ 2 ^ ((n.log2 : ℤ) - d.log2 + 1) * d := by gcongr

theorem two_zpow_lt {a b : ℤ} : (2 : ℚ) ^ a < 2 ^ b ↔ a < b :=
  zpow_lt_zpow_iff_right₀ (by norm_num)

theorem inUnits_div_lt_iff {n d : ℕ} (hd : 0 < d) (q : ℤ) :
    (inUnits n d q).1 / (inUnits n d q).2 < 2 ^ 52 ↔ (n : ℚ) / d < 2 ^ (q + 52) := by
  have hb := inUnits_pos hd n q
  have hq : (2 : ℚ) ^ (q + 52) = 2 ^ 52 * 2 ^ q := by
    rw [add_comm, zpow_add₀ (by norm_num)]
    norm_cast
  rw [hq, ← div_lt_iff₀ (by positivity), ← inUnits_div, div_lt_iff₀ (by exact_mod_cast hb),
    Nat.div_lt_iff_lt_mul hb]
  norm_cast

/-- The significand in units of `2 ^ q` has at most 53 bits, and fewer only for the least exponent. -/
def HasUnit (x : ℚ) (q : ℤ) : Prop :=
  -1074 ≤ q ∧ x < 2 ^ (q + 53) ∧ (q = -1074 ∨ 2 ^ (q + 52) ≤ x)

theorem HasUnit.unique {x : ℚ} {q r : ℤ} (hq : HasUnit x q) (hr : HasUnit x r) : q = r := by
  have key : ∀ {q r : ℤ}, HasUnit x q → HasUnit x r → q ≤ r := by
    rintro q r ⟨-, -, hq⟩ ⟨hr, hx, -⟩
    rcases hq with rfl | hq
    · exact hr
    · have := two_zpow_lt.mp (hq.trans_lt hx)
      omega
  exact le_antisymm (key hq hr) (key hr hq)

theorem hasUnit_unitExponent {n d : ℕ} (hn : 0 < n) (hd : 0 < d) :
    HasUnit ((n : ℚ) / d) (unitExponent n d) := by
  obtain ⟨hlo, hhi⟩ := ratio_bounds hn hd
  -- Without the bound from below the exponent is the first or the second guess.
  obtain ⟨r, hr, hlt, hle⟩ : ∃ r : ℤ, unitExponent n d = max r (-1074) ∧
      (n : ℚ) / d < 2 ^ (r + 53) ∧ 2 ^ (r + 52) ≤ (n : ℚ) / d := by
    set q : ℤ := (n.log2 : ℤ) - d.log2 - 52 with hq
    have hc := inUnits_div_lt_iff (n := n) hd q
    by_cases h : (inUnits n d q).1 / (inUnits n d q).2 < 2 ^ 52
    · refine ⟨q - 1, by simp only [unitExponent, Nat.pow_eq, ← hq, h, if_true], ?_, ?_⟩
      · rw [show q - 1 + 53 = q + 52 by ring]
        exact hc.mp h
      · rw [show q - 1 + 52 = (n.log2 : ℤ) - d.log2 - 1 by rw [hq]; ring]
        exact hlo.le
    · refine ⟨q, by simp only [unitExponent, Nat.pow_eq, ← hq, h, if_false], ?_, ?_⟩
      · rw [show q + 53 = (n.log2 : ℤ) - d.log2 + 1 by rw [hq]; ring]
        exact hhi
      · exact not_lt.mp fun hx => h (hc.mpr hx)
  rw [hr]
  rcases le_total r (-1074) with h | h
  · rw [max_eq_right h]
    exact ⟨le_rfl, hlt.trans_le (zpow_le_zpow_right₀ (by norm_num) (by omega)), .inl rfl⟩
  · rw [max_eq_left h]
    exact ⟨h, hlt, .inr hle⟩

/-- No multiple of `2 ^ q` is nearer to `x` than the one by `m`, and a tie goes to `m` if it is
even. -/
structure Near (x : ℚ) (m : ℕ) (q : ℤ) : Prop where
  low : (2 * m - 1) * 2 ^ q ≤ 2 * x
  high : 2 * x ≤ (2 * m + 1) * 2 ^ q
  odd : m % 2 = 1 → (2 * m - 1) * 2 ^ q < 2 * x ∧ 2 * x < (2 * m + 1) * 2 ^ q

theorem roundDiv_inUnits {n d m : ℕ} {q : ℤ} (hd : 0 < d) (h : Near ((n : ℚ) / d) m q) :
    roundDiv (inUnits n d q).1 (inUnits n d q).2 = m := by
  have hb := inUnits_pos hd n q
  have hx := inUnits_div n d q
  generalize inUnits n d q = r at *
  obtain ⟨a, b⟩ := r
  have hb' : (0 : ℚ) < b := by exact_mod_cast hb
  have hq : (0 : ℚ) < 2 ^ q := by positivity
  have ha : (n : ℚ) / d = a / b * 2 ^ q := by
    rw [hx]
    field_simp
  have hscale : ∀ y : ℚ, y * b * 2 ^ q = y * 2 ^ q * b := fun y => by ring
  have ha' : 2 * (a : ℚ) * 2 ^ q = 2 * ((n : ℚ) / d) * b := by
    rw [ha]
    field_simp
  have hl := mul_le_mul_of_nonneg_right h.low hb'.le
  have hu := mul_le_mul_of_nonneg_right h.high hb'.le
  rw [← ha', ← hscale, mul_le_mul_iff_left₀ hq] at hl hu
  refine roundDiv_eq hb ?_ ?_ ?_
  · have : (2 * m * b : ℚ) ≤ 2 * a + b := by linarith
    exact_mod_cast this
  · exact_mod_cast hu
  · intro ho
    obtain ⟨hl, hu⟩ := h.odd ho
    have hl := mul_lt_mul_of_pos_right hl hb'
    have hu := mul_lt_mul_of_pos_right hu hb'
    rw [← ha', ← hscale, mul_lt_mul_iff_left₀ hq] at hl hu
    refine ⟨?_, by exact_mod_cast hu⟩
    have : (2 * m * b : ℚ) < 2 * a + b := by linarith
    exact_mod_cast this

theorem nearestRank_eq {n d m : ℕ} {q : ℤ} (hn : 0 < n) (hd : 0 < d) (hu : HasUnit ((n : ℚ) / d) q)
    (h : Near ((n : ℚ) / d) m q) : nearestRank n d = (q + 1074).toNat * 2 ^ 52 + m := by
  have hq : unitExponent n d = q := (hasUnit_unitExponent hn hd).unique hu
  simp only [nearestRank, Nat.pow_eq, hq, roundDiv_inUnits hd h]

end IconCompiler.Number
