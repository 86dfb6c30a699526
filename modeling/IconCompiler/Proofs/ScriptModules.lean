import IconCompiler.Emit.Layout
import IconCompiler.Proofs.QuotedLiterals
import IconCompiler.Proofs.Spacing
import Mathlib.Data.List.Forall2

namespace IconCompiler

open IconCompiler.Text

namespace Text

theorem splitParts_ne_nil (p : Char → Bool) (cs : List Char) : splitParts p cs ≠ [] := by
  cases cs with
  | nil => simp [splitParts]
  | cons c cs =>
    unfold splitParts
    split
    · simp
    · split <;> simp

theorem splitParts_append_cons {p : Char → Bool} {d : Char} (hd : p d = true) (cs ds : List Char) :
    splitParts p (cs ++ d :: ds) = splitParts p cs ++ splitParts p ds := by
  induction cs with
  | nil => simp [splitParts, hd]
  | cons c cs ih =>
    obtain ⟨l, ls, hl⟩ := List.exists_cons_of_ne_nil (splitParts_ne_nil p cs)
    by_cases hc : p c = true
    · simp [splitParts, hc, ih]
    · simp [splitParts, hc, ih, hl]

theorem splitParts_eq_self {p : Char → Bool} {cs : List Char} (h : ∀ c ∈ cs, p c = false) :
    splitParts p cs = [cs] := by
  induction cs with
  | nil => rfl
  | cons c cs ih =>
    rw [List.forall_mem_cons] at h
    simp [splitParts, h.1, ih h.2]

end Text

namespace Script

def linesOf (s : String) : List (List Char) := splitParts (fun c => c == '\n') s.toList

structure Import where
  names : List String
  origin : String
  deriving DecidableEq, Repr

def withoutType (cs : List Char) : List Char := (cs.dropPrefix? "type ".toList).getD cs

def importedNames (clause : List Char) : List String :=
  match withoutType clause with
  | '\x7b' :: rest =>
    (splitParts (fun c => c == ',') (rest.takeWhile fun c => c ≠ '\x7d')).map fun part =>
      String.ofList (withoutType (trim part))
  | name => [String.ofList name]

def readImport? (line : List Char) : Option Import :=
  ((trimLeft line).dropPrefix? "import ".toList).bind fun rest =>
    (splitAt? " from ".toList rest).bind fun parts =>
      (readQuoted? parts.2).map fun origin => ⟨importedNames parts.1, origin.1⟩

def leadingImports : List (List Char) → List Import
  | [] => []
  | l :: ls =>
    match readImport? l with
    | some i => i :: leadingImports ls
    | none => []

def imports (s : String) : List Import :=
  match linesOf s with
  | [] => []
  | l :: ls => leadingImports (if "<script".toList.isPrefixOf l then ls else l :: ls)

theorem linesOf_append (s t : String) : linesOf (s ++ "\n" ++ t) = linesOf s ++ linesOf t := by
  unfold linesOf
  rw [String.append_assoc, String.toList_append, String.toList_append]
  exact splitParts_append_cons rfl _ _

theorem linesOf_eq_self {s : String} (h : '\n' ∉ s.toList) : linesOf s = [s.toList] := by
  apply splitParts_eq_self
  intro c hc
  rw [beq_eq_false_iff_ne]
  rintro rfl
  exact h hc

theorem linesOf_lines_cons {l : String} (hl : '\n' ∉ l.toList) {ls : List String} (hs : ls ≠ []) :
    linesOf (Emit.lines (l :: ls)) = l.toList :: linesOf (Emit.lines ls) := by
  unfold Emit.lines
  rw [String.intercalate_cons_of_ne_nil hs, linesOf_append, linesOf_eq_self hl]
  rfl

section

variable {α : Type} {f : List Char → Option α} (hf : f [] = none)
include hf

theorem filterMap_linesOf_append {s : String} (h : s.toList.getLast? = some '\n') (t : String) :
    (linesOf (s ++ t)).filterMap f = (linesOf s).filterMap f ++ (linesOf t).filterMap f := by
  obtain ⟨cs, hs⟩ := List.getLast?_eq_some_iff.mp h
  have hl : linesOf s = splitParts (fun c => c == '\n') cs ++ [[]] := by
    rw [linesOf, hs]
    exact splitParts_append_cons rfl cs []
  have hlt : linesOf (s ++ t) = splitParts (fun c => c == '\n') cs ++ linesOf t := by
    rw [linesOf, String.toList_append, hs, List.append_assoc]
    exact splitParts_append_cons rfl cs t.toList
  rw [hl, hlt, List.filterMap_append, List.filterMap_append, List.filterMap_cons_none hf, List.filterMap_nil,
    List.append_nil]

theorem filterMap_linesOf_join_append {ls : List String} (h : ∀ l ∈ ls, l.toList.getLast? = some '\n')
    (t : String) : (linesOf (String.join ls ++ t)).filterMap f =
      ls.flatMap (fun l => (linesOf l).filterMap f) ++ (linesOf t).filterMap f := by
  induction ls with
  | nil => rw [String.join_nil, String.empty_append, List.flatMap_nil, List.nil_append]
  | cons l ls ih =>
    rw [List.forall_mem_cons] at h
    rw [String.join_cons, String.append_assoc, filterMap_linesOf_append hf h.1, ih h.2, List.flatMap_cons,
      List.append_assoc]

end

theorem readImport?_eq_none {ws rest : List Char} {c : Char} (hw : ∀ w ∈ ws, isBlank w = true)
    (hb : isBlank c = false) (hc : c ≠ 'i') : readImport? (ws ++ c :: rest) = none := by
  have ht : trimLeft (ws ++ c :: rest) = c :: rest := trimLeft_append hw (by simpa using hb)
  have hi : (c == 'i') = false := by simpa using hc
  have hn : (c :: rest).dropPrefix? "import ".toList = none := by
    change (if c == 'i' then _ else none) = _
    rw [hi]
    rfl
  rw [readImport?, ht, hn]
  rfl

section

variable {l : String} {ws start : List Char} {c : Char}

end

def ImportLine (l : String) (i : Import) : Prop := '\n' ∉ l.toList ∧ readImport? l.toList = some i

instance (l : String) (i : Import) : Decidable (ImportLine l i) := inferInstanceAs (Decidable (_ ∧ _))

theorem leadingImports_lines {ls : List String} {is : List Import} (h : List.Forall₂ ImportLine ls is)
    (more : List String) : leadingImports (linesOf (Emit.lines (ls ++ "" :: more))) = is := by
  induction h with
  | nil =>
    cases more with
    | nil => rfl
    | cons m more =>
      rw [List.nil_append, linesOf_lines_cons (by decide) (List.cons_ne_nil m more)]
      rfl
  | cons hl _ ih =>
    rw [List.cons_append, linesOf_lines_cons hl.1 (by simp), leadingImports, hl.2]
    exact congrArg (_ :: ·) ih

theorem ImportLine.not_script {l : String} {i : Import} (h : ImportLine l i) :
    "<script".toList.isPrefixOf l.toList = false := by
  rw [Bool.eq_false_iff]
  intro hp
  obtain ⟨rest, hr⟩ := List.isPrefixOf_iff_prefix.mp hp
  have hn : readImport? ([] ++ '<' :: ("script".toList ++ rest)) = none :=
    readImport?_eq_none (by simp) (by decide) (by decide)
  have hi := h.2
  rw [← hr] at hi
  exact Option.some_ne_none i (hi.symm.trans hn)

theorem imports_lines {l : String} {i : Import} (hl : ImportLine l i) {ls : List String} {is : List Import}
    (h : List.Forall₂ ImportLine ls is) (more : List String) :
    imports (Emit.lines (l :: (ls ++ "" :: more))) = i :: is := by
  have hi := leadingImports_lines (.cons hl h) more
  rw [List.cons_append, linesOf_lines_cons hl.1 (by simp)] at hi
  rw [imports, linesOf_lines_cons hl.1 (by simp)]
  simp only [hl.not_script, Bool.false_eq_true, if_false]
  exact hi

end Script

end IconCompiler
