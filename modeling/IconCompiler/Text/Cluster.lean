import IconCompiler.Text.Case
import IconCompiler.Text.ClusterTable

namespace IconCompiler.Text

inductive BreakClass where
  | carriageReturn
  | lineFeed
  | control
  | extend
  | linker
  | nonJoiner
  | joiner
  | spacingMark
  | prepend
  | regional
  | leadingJamo
  | vowelJamo
  | trailingJamo
  | openSyllable
  | closedSyllable
  | pictograph
  | consonant
  | other
  deriving DecidableEq, Repr

def jamoClass? (n : Nat) : Option BreakClass :=
  if (0x1100 ≤ n && n ≤ 0x115F) || (0xA960 ≤ n && n ≤ 0xA97C) then some .leadingJamo
  else if (0x1160 ≤ n && n ≤ 0x11A7) || (0xD7B0 ≤ n && n ≤ 0xD7C6) || n == 0x16D63 ||
      (0x16D67 ≤ n && n ≤ 0x16D6A) then some .vowelJamo
  else if (0x11A8 ≤ n && n ≤ 0x11FF) || (0xD7CB ≤ n && n ≤ 0xD7FB) then some .trailingJamo
  else if 0xAC00 ≤ n && n ≤ 0xD7A3 then
    some (if (n - 0xAC00) % 28 = 0 then .openSyllable else .closedSyllable)
  else none

def breakClass (c : Char) : BreakClass :=
  let n := c.toNat
  if n = 0xD then .carriageReturn
  else if n = 0xA then .lineFeed
  else if n = 0x200C then .nonJoiner
  else if n = 0x200D then .joiner
  else if 0x1F1E6 ≤ n && n ≤ 0x1F1FF then .regional
  else if inRanges controlRanges c then .control
  else if inRanges linkerRanges c then .linker
  else if inRanges extendRanges c then .extend
  else if inRanges spacingMarkRanges c then .spacingMark
  else if inRanges prependRanges c then .prepend
  else if inRanges pictographRanges c then .pictograph
  else if inRanges consonantRanges c then .consonant
  else (jamoClass? n).getD .other

/-- What the cluster read so far says about the next boundary: its last class, whether it ends in a
pictograph with its marks, whether a joiner follows those, whether it ends in an unpaired regional
indicator, whether it ends in a consonant with its marks, and whether one of those is a linker. -/
structure ClusterEnd where
  last : BreakClass
  marked : Bool
  joined : Bool
  unpaired : Bool
  consonant : Bool
  linked : Bool
  deriving DecidableEq, Repr

def ClusterEnd.start (k : BreakClass) : ClusterEnd :=
  ⟨k, k == .pictograph, false, k == .regional, k == .consonant, false⟩

def ClusterEnd.next (e : ClusterEnd) (k : BreakClass) : ClusterEnd :=
  match k with
  | .extend => ⟨k, e.marked, false, false, e.consonant, e.linked⟩
  | .linker => ⟨k, e.marked, false, false, e.consonant, e.consonant⟩
  | .nonJoiner => ⟨k, e.marked, false, false, false, false⟩
  | .joiner => ⟨k, false, e.marked, false, e.consonant, e.linked⟩
  | .regional => ⟨k, false, false, !e.unpaired, false, false⟩
  | _ => ClusterEnd.start k

def isLineOrControl : BreakClass → Bool
  | .carriageReturn | .lineFeed | .control => true
  | _ => false

def ClusterEnd.joins (e : ClusterEnd) (k : BreakClass) : Bool :=
  if e.last = .carriageReturn && k = .lineFeed then true
  else if isLineOrControl e.last || isLineOrControl k then false
  else
    match e.last, k with
    | _, .extend | _, .linker | _, .nonJoiner | _, .joiner | _, .spacingMark => true
    | .prepend, _ => true
    | .leadingJamo, .leadingJamo | .leadingJamo, .vowelJamo | .leadingJamo, .openSyllable
    | .leadingJamo, .closedSyllable => true
    | .openSyllable, .vowelJamo | .openSyllable, .trailingJamo | .vowelJamo, .vowelJamo
    | .vowelJamo, .trailingJamo => true
    | .closedSyllable, .trailingJamo | .trailingJamo, .trailingJamo => true
    | _, .consonant => e.linked
    | .joiner, .pictograph => e.joined
    | .regional, .regional => e.unpaired
    | _, _ => false

def clustersFrom (e : ClusterEnd) (current : List Char) : List Char → List (List Char)
  | [] => [current.reverse]
  | c :: cs =>
    let k := breakClass c
    if e.joins k then clustersFrom (e.next k) (c :: current) cs
    else current.reverse :: clustersFrom (ClusterEnd.start k) [c] cs

def clusters : List Char → List (List Char)
  | [] => []
  | c :: cs => clustersFrom (ClusterEnd.start (breakClass c)) [c] cs

theorem clustersFrom_flatten (e : ClusterEnd) (current cs : List Char) :
    (clustersFrom e current cs).flatten = current.reverse ++ cs := by
  induction cs generalizing e current with
  | nil => simp [clustersFrom]
  | cons c cs ih =>
    rw [clustersFrom]
    split <;> simp [ih]

theorem clusters_flatten (cs : List Char) : (clusters cs).flatten = cs := by
  cases cs with
  | nil => rfl
  | cons c cs => simp [clusters, clustersFrom_flatten]

end IconCompiler.Text
