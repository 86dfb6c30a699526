import IconCompiler.Number.Scaled

namespace IconCompiler

open IconCompiler.Number

structure Numeral where
  negative : Bool
  whole : List Char
  fraction : List Char
  exponent : Int
  deriving DecidableEq, Repr

def Numeral.toBinary64? (n : Numeral) : Option Binary64 :=
  scaleNumeral? n.negative n.whole n.fraction n.exponent

def Numeral.isZero (n : Numeral) : Bool := (n.whole ++ n.fraction).all fun c => c == '0'

/-- An ill-formed value can only be passed over: a string in which half of a character stands alone, or
an object with such a name. -/
inductive Json where
  | null
  | bool (b : Bool)
  | number (n : Numeral)
  | string (s : String)
  | array (items : List Json)
  | object (fields : List (String × Json))
  | illFormed
  deriving Repr

namespace Json

instance : Inhabited Json := ⟨.null⟩

def string? : Json → Option String
  | .string s => some s
  | _ => none

def bool? : Json → Option Bool
  | .bool b => some b
  | _ => none

def array? : Json → Option (List Json)
  | .array items => some items
  | _ => none

def field? (j : Json) (name : String) : Option Json :=
  match j with
  | .object fields => fields.lookup name
  | _ => none

def member? (j : Json) (name : String) : Option Json :=
  match j with
  | .array items =>
    if name.toList.all Char.isDigit then items[natOfDigits name.toList]? else none
  | _ => j.field? name

/-- The values of a record's fields, in the order of `names`. A record is an object, in which none of
the fields may come twice, or the list of its fields from the first on; a field may be missing. -/
def record? (names : List String) : Json → Option (List (Option Json))
  | .object fields =>
    if names.all fun name => fields.countP (fun f => f.1 == name) ≤ 1 then
      some (names.map fun name => fields.lookup name)
    else none
  | .array items =>
    if items.length ≤ names.length then
      some (items.map some ++ List.replicate (names.length - items.length) none)
    else none
  | _ => none

def fieldOr {α : Type} (read? : Json → Option α) (default : α) : Option Json → Option α
  | none => some default
  | some j => read? j

end Json

end IconCompiler
