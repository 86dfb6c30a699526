import IconCompiler.Number.Decimal

/-!
Writing a number with the fewest decimal digits that read back to it. Of two decimals with equally
many digits the nearer is written, and the larger if both are equally near. Numbers are written out
in full, never with an exponent.
-/

namespace IconCompiler.Number

/-- The reals that round to a number: the number itself and the two ends in units of `1 / scale`;
the ends belong to the interval when the significand is even. -/
structure Interval where
  value : Nat
  low : Nat
  high : Nat
  scale : Nat
  closed : Bool
  deriving DecidableEq, Repr

/-- The step down from the least significand of 53 bits is half the step up. -/
def interval (rank : Nat) : Interval :=
  let m := significand rank
  let q := exponent rank - 2
  let below := if rank % Nat.pow 2 52 = 0 && Nat.pow 2 52 < rank then 1 else 2
  let unit := Nat.pow 2 q.toNat
  ⟨4 * m * unit, (4 * m - below) * unit, (4 * m + 2) * unit, Nat.pow 2 (-q).toNat, m % 2 = 0⟩

def Interval.ratioOf (i : Interval) (n : Nat) (p : Int) : Nat × Nat :=
  if 0 ≤ p then (n * Nat.pow 10 p.toNat * i.scale, 1) else (n * i.scale, Nat.pow 10 (-p).toNat)

def Interval.holds (i : Interval) (n : Nat) (p : Int) : Bool :=
  let (a, b) := i.ratioOf n p
  if i.closed then i.low * b ≤ a && a ≤ i.high * b else i.low * b < a && a < i.high * b

def Interval.floorAt (i : Interval) (p : Int) : Nat :=
  if 0 ≤ p then i.value / (Nat.pow 10 p.toNat * i.scale) else i.value * Nat.pow 10 (-p).toNat / i.scale

def Interval.nearerBelow (i : Interval) (n : Nat) (p : Int) : Bool :=
  let (a, b) := i.ratioOf (2 * n + 1) p
  2 * i.value * b < a

def Interval.pick? (i : Interval) (p : Int) : Option Nat :=
  let n := i.floorAt p
  match i.holds n p, i.holds (n + 1) p with
  | true, true => some (if i.nearerBelow n p then n else n + 1)
  | true, false => some n
  | false, true => some (n + 1)
  | false, false => none

def Interval.search (i : Interval) : Nat → Int → Nat × Int
  | 0, p => (i.floorAt p, p)
  | fuel + 1, p =>
    match i.pick? p with
    | some n => (n, p)
    | none => i.search fuel (p - 1)

def shortest (rank : Nat) : Nat × Int :=
  let i := interval rank
  let size := decimalLength (i.value / i.scale)
  i.search (size + 400) size

def layout (n : Nat) (p : Int) : List Char :=
  let digits := Nat.toDigits 10 n
  if 0 ≤ p then digits ++ List.replicate p.toNat '0'
  else
    let places := (-p).toNat
    if digits.length ≤ places then
      '0' :: '.' :: (List.replicate (places - digits.length) '0' ++ digits)
    else digits.take (digits.length - places) ++ '.' :: digits.drop (digits.length - places)

def signText (negative : Bool) : List Char := if negative then ['-'] else []

def Binary64.chars : Binary64 → List Char
  | .nan => ['N', 'a', 'N']
  | .infinite negative => signText negative ++ ['i', 'n', 'f']
  | .finite negative rank =>
    if rank.val = 0 then signText negative ++ ['0']
    else
      let (n, p) := shortest rank.val
      signText negative ++ layout n p

def Binary64.text (x : Binary64) : String := String.ofList x.chars

end IconCompiler.Number
