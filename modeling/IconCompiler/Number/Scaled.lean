import IconCompiler.Number.Decimal

/-!
Reading a decimal by scaling: the digits are rounded to a number first, which is then multiplied or
divided by a power of ten, with a rounding of its own. Of a long numeral only as many digits count
as fit into 64 bits. The result can differ from the nearest number in its last place.
-/

namespace IconCompiler.Number

def ratioOfRank (rank : Nat) : Nat × Nat :=
  (significand rank * Nat.pow 2 (exponent rank).toNat, Nat.pow 2 (-exponent rank).toNat)

def mulRank (a b : Nat) : Nat :=
  let (n, d) := ratioOfRank a
  let (m, e) := ratioOfRank b
  if n * m = 0 then 0 else nearestRank (n * m) (d * e)

def divRank (a b : Nat) : Nat :=
  let (n, d) := ratioOfRank a
  let (m, e) := ratioOfRank b
  if n * e = 0 then 0 else nearestRank (n * e) (d * m)

def powerRank (k : Nat) : Nat := nearestRank (Nat.pow 10 k) 1

def greatestPower : Nat := 308

def scaleRank (rank : Nat) (e : Int) : Nat :=
  let k := e.natAbs
  if 0 ≤ e then
    if rank = 0 then 0
    else if k ≤ greatestPower then mulRank rank (powerRank k) else rankLimit
  else if k ≤ greatestPower then divRank rank (powerRank k)
  else if k ≤ 2 * greatestPower then
    divRank (divRank rank (powerRank greatestPower)) (powerRank (k - greatestPower))
  else 0

def scale? (negative : Bool) (digits : Nat) (e : Int) : Option Binary64 :=
  let rank := scaleRank (if digits = 0 then 0 else nearestRank digits 1) e
  if h : rank < rankLimit then some (.finite negative ⟨rank, h⟩) else none

def takeDigits (n : Nat) : List Char → Nat × List Char
  | [] => (n, [])
  | c :: cs =>
    let m := 10 * n + digitValue c
    if m < Nat.pow 2 64 then takeDigits m cs else (n, c :: cs)

def scaleNumeral? (negative : Bool) (whole fraction : List Char) (e : Int) : Option Binary64 :=
  let (n, left) := takeDigits 0 whole
  let (n, unread) := takeDigits n fraction
  scale? negative n (e + left.length - (fraction.length - unread.length : Nat))

end IconCompiler.Number
