import IconCompiler.Json.Value

namespace IconCompiler.Json

inductive StringUnit where
  | char (c : Char)
  | code (n : Nat)
  deriving DecidableEq, Repr

def hexValue? (c : Char) : Option Nat :=
  if c.isDigit then some (c.toNat - '0'.toNat)
  else if 'a' ≤ c ∧ c ≤ 'f' then some (c.toNat - 'a'.toNat + 10)
  else if 'A' ≤ c ∧ c ≤ 'F' then some (c.toNat - 'A'.toNat + 10)
  else none

def hexCode? (a b c d : Char) : Option Nat := do
  let a ← hexValue? a
  let b ← hexValue? b
  let c ← hexValue? c
  let d ← hexValue? d
  return ((a * 16 + b) * 16 + c) * 16 + d

def simpleEscape? (c : Char) : Option Char :=
  match c with
  | '\x22' => some '\x22'
  | '\\' => some '\\'
  | '/' => some '/'
  | 'b' => some '\x08'
  | 'f' => some '\x0c'
  | 'n' => some '\n'
  | 'r' => some '\r'
  | 't' => some '\t'
  | _ => none

def readUnits : List Char → Option (List StringUnit × List Char)
  | [] => none
  | '\x22' :: cs => some ([], cs)
  | '\\' :: 'u' :: a :: b :: c :: d :: cs => do
    let n ← hexCode? a b c d
    let (units, rest) ← readUnits cs
    return (.code n :: units, rest)
  | '\\' :: c :: cs => do
    let c ← simpleEscape? c
    let (units, rest) ← readUnits cs
    return (.char c :: units, rest)
  | c :: cs =>
    if c.toNat < 0x20 || c = '\\' then none
    else do
      let (units, rest) ← readUnits cs
      return (.char c :: units, rest)

def isLeading (n : Nat) : Bool := 0xD800 ≤ n && n ≤ 0xDBFF

def isTrailing (n : Nat) : Bool := 0xDC00 ≤ n && n ≤ 0xDFFF

def joinUnits : List StringUnit → Option (List Char)
  | [] => some []
  | .char c :: us => (joinUnits us).map fun cs => c :: cs
  | .code n :: .code m :: us =>
    if isLeading n then
      if isTrailing m then
        (joinUnits us).map fun cs => Char.ofNat (0x10000 + (n - 0xD800) * 0x400 + (m - 0xDC00)) :: cs
      else none
    else if isTrailing n then none
    else (joinUnits (.code m :: us)).map fun cs => Char.ofNat n :: cs
  | .code n :: us =>
    if isLeading n || isTrailing n then none
    else (joinUnits us).map fun cs => Char.ofNat n :: cs

def unitsText? (units : List StringUnit) : Option String := (joinUnits units).map String.ofList

def readWhole (cs : List Char) : Option (List Char × List Char) :=
  match cs.span Char.isDigit with
  | ([], _) => none
  | ('0' :: _ :: _, _) => none
  | r => some r

def readPlaces : List Char → Option (List Char × List Char)
  | '.' :: cs =>
    match cs.span Char.isDigit with
    | ([], _) => none
    | r => some r
  | cs => some ([], cs)

def readPower : List Char → Option (Int × List Char)
  | [] => some (0, [])
  | c :: cs =>
    if c = 'e' ∨ c = 'E' then
      let (negative, cs) := Number.readSign cs
      match cs.span Char.isDigit with
      | ([], _) => none
      | (ds, rest) =>
        let n : Int := Number.natOfDigits ds
        some (if negative then -n else n, rest)
    else some (0, c :: cs)

def readNumeral (cs : List Char) : Option (Numeral × List Char) := do
  let (negative, cs) :=
    match cs with
    | '-' :: cs => (true, cs)
    | cs => (false, cs)
  let (whole, cs) ← readWhole cs
  let (fraction, cs) ← readPlaces cs
  let (exponent, cs) ← readPower cs
  return (⟨negative, whole, fraction, exponent⟩, cs)

def readWord (word : List Char) (j : Json) (cs : List Char) : Option (Json × List Char) :=
  if word.isPrefixOf cs then some (j, cs.drop word.length) else none

inductive Token where
  | openArray
  | closeArray
  | openObject
  | closeObject
  | comma
  | colon
  | string (text : Option String)
  | scalar (j : Json)
  deriving Repr

def scalar? (c : Char) (cs : List Char) : Option (Json × List Char) :=
  match c with
  | 't' => readWord ['r', 'u', 'e'] (.bool true) cs
  | 'f' => readWord ['a', 'l', 's', 'e'] (.bool false) cs
  | 'n' => readWord ['u', 'l', 'l'] .null cs
  | _ => (readNumeral (c :: cs)).map fun r => (.number r.1, r.2)

def Token.read? : List Char → Option (Token × List Char)
  | [] => none
  | c :: cs =>
    match c with
    | '[' => some (.openArray, cs)
    | ']' => some (.closeArray, cs)
    | '\x7b' => some (.openObject, cs)
    | '\x7d' => some (.closeObject, cs)
    | ',' => some (.comma, cs)
    | ':' => some (.colon, cs)
    | '\x22' => (readUnits cs).map fun r => (.string (unitsText? r.1), r.2)
    | _ => (scalar? c cs).map fun r => (.scalar r.1, r.2)

end IconCompiler.Json
