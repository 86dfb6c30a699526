import IconCompiler.Number.Shortest

namespace IconCompiler.Markup

open IconCompiler.Number

inductive Kind where
  | text
  | number
  | flag
  deriving DecidableEq, Repr

inductive Value where
  | text (s : String)
  | number (x : Binary64)
  | flag (b : Bool)
  deriving DecidableEq, Repr

namespace Value

def kind : Value → Kind
  | .text _ => .text
  | .number _ => .number
  | .flag _ => .flag

def flagText (b : Bool) : String := if b then "true" else "false"

def display : Value → String
  | .text s => s
  | .number x => x.text
  | .flag b => flagText b

def text? : Value → Option String
  | .text s => some s
  | _ => none

def number? : Value → Option Binary64
  | .number x => some x
  | _ => none

def flag? : Value → Option Bool
  | .flag b => some b
  | _ => none

end Value

/-- Attributes in the order in which their names first came. -/
structure Attributes where
  entries : List (String × Value)
  deriving DecidableEq, Repr

namespace Attributes

def empty : Attributes := ⟨[]⟩

instance : Inhabited Attributes := ⟨empty⟩

def get? (as : Attributes) (name : String) : Option Value := as.entries.lookup name

def insertEntry (name : String) (value : Value) : List (String × Value) → List (String × Value)
  | [] => [(name, value)]
  | e :: es => if e.1 = name then (name, value) :: es else e :: insertEntry name value es

def insert (as : Attributes) (name : String) (value : Value) : Attributes :=
  ⟨insertEntry name value as.entries⟩

def ofList (es : List (String × Value)) : Attributes :=
  es.foldl (fun as e => as.insert e.1 e.2) empty

def filter (as : Attributes) (p : String → Bool) : Attributes :=
  ⟨as.entries.filter fun e => p e.1⟩

def names (as : Attributes) : List String := as.entries.map Prod.fst

theorem insertEntry_names (name : String) (value : Value) (es : List (String × Value)) :
    (insertEntry name value es).map Prod.fst =
      if name ∈ es.map Prod.fst then es.map Prod.fst else es.map Prod.fst ++ [name] := by
  induction es with
  | nil => simp [insertEntry]
  | cons e es ih =>
    by_cases h : e.1 = name
    · simp [insertEntry, h]
    · have h' : ¬ name = e.1 := fun hn => h hn.symm
      simp only [insertEntry, h, if_false, List.map_cons, ih, List.mem_cons, h', false_or]
      split <;> simp

theorem names_insert (as : Attributes) (name : String) (value : Value) :
    (as.insert name value).names = if name ∈ as.names then as.names else as.names ++ [name] :=
  insertEntry_names name value as.entries

theorem nodup_names_insert {as : Attributes} (h : as.names.Nodup) (name : String) (value : Value) :
    (as.insert name value).names.Nodup := by
  rw [names_insert]
  split
  · exact h
  · next hn =>
    rw [List.nodup_append]
    refine ⟨h, by simp, ?_⟩
    intro a ha b hb
    rw [List.mem_singleton.mp hb]
    rintro rfl
    exact hn ha

end Attributes

end IconCompiler.Markup
