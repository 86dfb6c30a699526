import IconCompiler.Number.Binary64
import IconCompiler.Text.Ascii

namespace IconCompiler.Number

structure Decimal where
  negative : Bool
  digits : Nat
  exponent : Int
  deriving DecidableEq, Repr

def decimalLength (n : Nat) : Nat := (Nat.toDigits 10 n).length

def Decimal.ratio (d : Decimal) : Nat × Nat :=
  if 0 ≤ d.exponent then (d.digits * Nat.pow 10 d.exponent.toNat, 1)
  else (d.digits, Nat.pow 10 (-d.exponent).toNat)

/-- The nearest number. Beyond `10 ^ 310` every decimal is infinite and below `10 ^ (-330)` every one
is zero, so that no power of ten of an arbitrary exponent has to be formed. -/
def Decimal.toBinary64 (d : Decimal) : Binary64 :=
  let size : Int := decimalLength d.digits + d.exponent
  if d.digits = 0 then .ofRatio d.negative 0 1
  else if size > 310 then .infinite d.negative
  else if size < -330 then .ofRatio d.negative 0 1
  else .ofRatio d.negative d.ratio.1 d.ratio.2

def digitValue (c : Char) : Nat := c.toNat - '0'.toNat

def natOfDigits (cs : List Char) : Nat :=
  cs.foldl (fun n c => 10 * n + digitValue c) 0

def readSign : List Char → Bool × List Char
  | '-' :: cs => (true, cs)
  | '+' :: cs => (false, cs)
  | cs => (false, cs)

def readFraction : List Char → List Char × List Char
  | '.' :: cs => cs.span Char.isDigit
  | cs => ([], cs)

def readExponent : List Char → Option Int
  | [] => some 0
  | c :: cs =>
    if c = 'e' ∨ c = 'E' then
      let (negative, ds) := readSign cs
      if ds.isEmpty || !ds.all Char.isDigit then none
      else some (if negative then -(natOfDigits ds : Int) else natOfDigits ds)
    else none

def Decimal.read? (cs : List Char) : Option Decimal :=
  let (negative, cs) := readSign cs
  let (whole, cs) := cs.span Char.isDigit
  let (fraction, cs) := readFraction cs
  if whole.isEmpty && fraction.isEmpty then none
  else
    (readExponent cs).map fun e =>
      ⟨negative, natOfDigits (whole ++ fraction), e - fraction.length⟩

def Binary64.read? (cs : List Char) : Option Binary64 :=
  let (negative, name) := readSign cs
  match String.ofList (Text.lowerAscii name) with
  | "nan" => some .nan
  | "inf" => some (.infinite negative)
  | "infinity" => some (.infinite negative)
  | _ => (Decimal.read? cs).map Decimal.toBinary64

end IconCompiler.Number
