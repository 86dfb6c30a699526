/-!
Reading a text from the left: wherever an item begins it is taken, the earliest first, and the
characters in between are taken one by one. Items do not overlap.
-/

namespace IconCompiler.Text

inductive Piece (α : Type) where
  | plain (c : Char)
  | item (a : α)
  deriving DecidableEq, Repr

def Piece.item? {α : Type} : Piece α → Option α
  | .plain _ => none
  | .item a => some a

/-- The first `skip` characters belong to the item taken last. -/
def scanFrom {α : Type} (read? : List Char → Option (α × List Char)) :
    Nat → List Char → List (Piece α)
  | _, [] => []
  | skip + 1, _ :: cs => scanFrom read? skip cs
  | 0, c :: cs =>
    match read? (c :: cs) with
    | some (a, rest) => .item a :: scanFrom read? (cs.length - rest.length) cs
    | none => .plain c :: scanFrom read? 0 cs

/-- `read?` gives the item that begins a text together with what follows it. -/
def scan {α : Type} (read? : List Char → Option (α × List Char)) (cs : List Char) :
    List (Piece α) :=
  scanFrom read? 0 cs

theorem scanFrom_eq_scan_drop {α : Type} (read? : List Char → Option (α × List Char))
    (skip : Nat) (cs : List Char) : scanFrom read? skip cs = scan read? (cs.drop skip) := by
  induction skip generalizing cs with
  | zero => rfl
  | succ skip ih =>
    cases cs with
    | nil => simp [scan, scanFrom]
    | cons c cs => simp [scanFrom, ih]

@[simp]
theorem scan_nil {α : Type} (read? : List Char → Option (α × List Char)) : scan read? [] = [] := rfl

theorem scan_cons_of_none {α : Type} {read? : List Char → Option (α × List Char)} {c : Char}
    {cs : List Char} (h : read? (c :: cs) = none) :
    scan read? (c :: cs) = .plain c :: scan read? cs := by
  simp [scan, scanFrom, h]

theorem scan_cons_of_some {α : Type} {read? : List Char → Option (α × List Char)} {c : Char}
    {cs rest : List Char} {a : α} (h : read? (c :: cs) = some (a, rest)) (hr : rest <:+ cs) :
    scan read? (c :: cs) = .item a :: scan read? rest := by
  obtain ⟨before, rfl⟩ := hr
  rw [scan, scanFrom, h]
  simp [scanFrom_eq_scan_drop]

def splitAt? (mark : List Char) : List Char → Option (List Char × List Char)
  | [] => if mark.isEmpty then some ([], []) else none
  | c :: cs =>
    if mark.isPrefixOf (c :: cs) then some ([], (c :: cs).drop mark.length)
    else (splitAt? mark cs).map fun r => (c :: r.1, r.2)

def splitParts (isSeparator : Char → Bool) : List Char → List (List Char)
  | [] => [[]]
  | c :: cs =>
    if isSeparator c then [] :: splitParts isSeparator cs
    else
      match splitParts isSeparator cs with
      | [] => [[c]]
      | d :: ds => (c :: d) :: ds

end IconCompiler.Text
