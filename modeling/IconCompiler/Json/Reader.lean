import IconCompiler.Json.Token
import IconCompiler.Text.Ascii

/-!
Reading JSON text. The arrays and objects under way are kept on a stack, so that they may lie
arbitrarily deep inside each other.
-/

namespace IconCompiler.Json

inductive Frame where
  | array (items : List Json)
  | object (fields : List (Option String × Json))
  | field (fields : List (Option String × Json)) (name : Option String)
  deriving Repr

inductive Expected where
  | value
  | itemOrEnd
  | nameOrEnd
  | name
  | colon
  | commaOrEnd
  deriving DecidableEq, Repr

inductive State where
  | over (j : Json)
  | inside (stack : List Frame) (expected : Expected)
  deriving Repr

namespace State

def start : State := .inside [] .value

def put (j : Json) : List Frame → Option State
  | [] => some (.over j)
  | .array items :: stack => some (.inside (.array (j :: items) :: stack) .commaOrEnd)
  | .field fields name :: stack =>
    some (.inside (.object ((name, j) :: fields) :: stack) .commaOrEnd)
  | .object _ :: _ => none

end State

def ofString : Option String → Json
  | some s => .string s
  | none => .illFormed

def ofFields (fields : List (Option String × Json)) : Json :=
  match fields.mapM fun f => f.1.map fun name => (name, f.2) with
  | some fields => .object fields
  | none => .illFormed

def beginValue (stack : List Frame) : Token → Option State
  | .openArray => some (.inside (.array [] :: stack) .itemOrEnd)
  | .openObject => some (.inside (.object [] :: stack) .nameOrEnd)
  | .string s => State.put (ofString s) stack
  | .scalar j => State.put j stack
  | _ => none

def endValue : List Frame → Token → Option State
  | .array items :: stack, .closeArray => State.put (.array items.reverse) stack
  | .object fields :: stack, .closeObject => State.put (ofFields fields.reverse) stack
  | _, _ => none

def readName : List Frame → Token → Option State
  | .object fields :: stack, .string name => some (.inside (.field fields name :: stack) .colon)
  | _, _ => none

def readComma : List Frame → Token → Option State
  | .array items :: stack, .comma => some (.inside (.array items :: stack) .value)
  | .object fields :: stack, .comma => some (.inside (.object fields :: stack) .name)
  | _, _ => none

def State.step : State → Token → Option State
  | .over _, _ => none
  | .inside stack expected, t =>
    match expected with
    | .value => beginValue stack t
    | .itemOrEnd => (endValue stack t).orElse fun _ => beginValue stack t
    | .nameOrEnd => (endValue stack t).orElse fun _ => readName stack t
    | .name => readName stack t
    | .colon =>
      match t with
      | .colon => some (.inside stack .value)
      | _ => none
    | .commaOrEnd => (endValue stack t).orElse fun _ => readComma stack t

def State.result? : State → Option Json
  | .over j => some j
  | .inside _ _ => none

/-- Every token takes a character, so that `fuel` need not exceed the length of the text by more than
one. -/
def State.run : (fuel : Nat) → State → List Char → Option Json
  | 0, _, _ => none
  | fuel + 1, s, cs =>
    match Text.skipSpace cs with
    | [] => s.result?
    | cs =>
      match Token.read? cs with
      | some (t, rest) =>
        match s.step t with
        | some s => s.run fuel rest
        | none => none
      | none => none

def read? (text : String) : Option Json := State.start.run (text.toList.length + 1) text.toList

end IconCompiler.Json
