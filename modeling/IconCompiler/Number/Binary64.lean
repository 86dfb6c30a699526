/-!
Double-precision numbers in exact arithmetic. The non-negative finite numbers, in increasing order,
are numbered from zero; this rank is also the bit pattern of the number, so that rounding up past the
largest significand is only a step to the next rank.
-/

namespace IconCompiler.Number

def rankLimit : Nat := 0x7FF0000000000000

inductive Binary64 where
  | nan
  | infinite (negative : Bool)
  | finite (negative : Bool) (rank : Fin rankLimit)
  deriving DecidableEq, Repr

def Binary64.isFinite : Binary64 → Bool
  | .finite _ _ => true
  | _ => false

/-- The number of this rank is `significand rank * 2 ^ exponent rank`. -/
def significand (rank : Nat) : Nat :=
  if rank < Nat.pow 2 52 then rank else Nat.pow 2 52 + rank % Nat.pow 2 52

def exponent (rank : Nat) : Int :=
  if rank < Nat.pow 2 52 then -1074 else (rank / Nat.pow 2 52 : Nat) - 1075

def roundDiv (n d : Nat) : Nat :=
  if 2 * (n % d) < d ∨ (2 * (n % d) = d ∧ n / d % 2 = 0) then n / d else n / d + 1

def inUnits (n d : Nat) (q : Int) : Nat × Nat :=
  if 0 ≤ q then (n, d * Nat.pow 2 q.toNat) else (n * Nat.pow 2 (-q).toNat, d)

def unitExponent (n d : Nat) : Int :=
  let q : Int := (n.log2 : Int) - d.log2 - 52
  let (a, b) := inUnits n d q
  max (if a / b < Nat.pow 2 52 then q - 1 else q) (-1074)

/-- The rank nearest to `n / d`; it reaches `rankLimit` when the ratio is too large for a finite
number. -/
def nearestRank (n d : Nat) : Nat :=
  let q := unitExponent n d
  let (a, b) := inUnits n d q
  (q + 1074).toNat * Nat.pow 2 52 + roundDiv a b

def Binary64.ofRatio (negative : Bool) (n d : Nat) : Binary64 :=
  let rank := if n = 0 then 0 else nearestRank n d
  if h : rank < rankLimit then .finite negative ⟨rank, h⟩ else .infinite negative

end IconCompiler.Number
