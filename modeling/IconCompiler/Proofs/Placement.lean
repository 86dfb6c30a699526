import IconCompiler.Proofs.OpenElements
import IconCompiler.Proofs.Preorder

/-!
Trees whose elements remember the tag that opened them. Building without a cap never fails, and the
cap refuses exactly the trees that are too high, at the first element below the last level.
-/

namespace IconCompiler.Markup

def Token.openingPosition? : Token → Option Nat
  | .opening _ _ _ position => some position
  | _ => none

structure Placed where
  tag : String
  attributes : Attributes
  position : Nat
  children : List Placed
  content : Option String

namespace Placed

mutual
def toElement : Placed → Element
  | ⟨tag, attributes, _, children, content⟩ => ⟨tag, attributes, toElements children, content⟩

def toElements : List Placed → List Element
  | [] => []
  | p :: ps => toElement p :: toElements ps
end

mutual
def levels (level : Nat) : Placed → List (Nat × Nat)
  | ⟨_, _, position, children, _⟩ => (level, position) :: levelsList (level + 1) children

def levelsList (level : Nat) : List Placed → List (Nat × Nat)
  | [] => []
  | p :: ps => levels level p ++ levelsList level ps
end

mutual
theorem lookup_levels_eq_none_iff (level n : Nat) :
    ∀ p : Placed, (levels level p).lookup n = none ↔ n < level ∨ level + p.toElement.height ≤ n
  | ⟨_, _, position, children, _⟩ => by
    have hc := lookup_levelsList_eq_none_iff (level + 1) n children
    simp only [levels, toElement, Element.height, List.lookup_cons]
    by_cases h : n = level
    · simp only [h, beq_self_eq_true, reduceCtorEq, false_iff]
      omega
    · simp only [beq_false_of_ne h, hc]
      omega

theorem lookup_levelsList_eq_none_iff (level n : Nat) : ∀ ps : List Placed,
    (levelsList level ps).lookup n = none ↔ n < level ∨ level + Element.heightList (toElements ps) ≤ n
  | [] => by
    simp only [levelsList, toElements, Element.heightList, List.lookup_nil, true_iff]
    omega
  | p :: ps => by
    have hp := lookup_levels_eq_none_iff level n p
    have hs := lookup_levelsList_eq_none_iff level n ps
    simp only [levelsList, toElements, Element.heightList, List.lookup_append, Option.or_eq_none_iff, hp, hs]
    omega
end

end Placed

structure PlacedContent where
  children : List Placed
  runs : List String

namespace PlacedContent

def empty : PlacedContent := ⟨[], []⟩

def consChild (c : PlacedContent) (p : Placed) : PlacedContent := { c with children := p :: c.children }

def consRun (c : PlacedContent) (s : String) : PlacedContent := { c with runs := s :: c.runs }

def toContent (c : PlacedContent) : Content := ⟨Placed.toElements c.children, c.runs⟩

def toPlaced (c : PlacedContent) (tag : String) (attributes : Attributes) (position : Nat) : Placed :=
  ⟨tag, attributes, position, c.children, c.toContent.text?⟩

end PlacedContent

def placedFill : (fuel : Nat) → (name : String) → List Token → PlacedContent × List Token
  | 0, _, tokens => (.empty, tokens)
  | _ + 1, _, [] => (.empty, [])
  | fuel + 1, name, .text s _ :: tokens =>
    let outer := placedFill fuel name tokens
    (outer.1.consRun s, outer.2)
  | fuel + 1, name, .closing other _ :: tokens =>
    if other = name then (.empty, tokens) else placedFill fuel name tokens
  | fuel + 1, name, .opening tag attributes selfClosing position :: tokens =>
    let inner := if selfClosing || isVoid tag then (.empty, tokens) else placedFill fuel tag tokens
    let outer := placedFill fuel name inner.2
    (outer.1.consChild (inner.1.toPlaced tag attributes position), outer.2)

def Placed.ofRoot (attributes : Attributes) (selfClosing : Bool) (position : Nat) (tokens : List Token) :
    Placed :=
  if selfClosing then PlacedContent.empty.toPlaced "svg" attributes position
  else (placedFill tokens.length "svg" tokens).1.toPlaced "svg" attributes position

open Placed

theorem openingPositions_fill (fuel level : Nat) (name : String) (tokens : List Token) :
    tokens.filterMap Token.openingPosition? =
      (levelsList level (placedFill fuel name tokens).1.children).map Prod.snd ++
        (placedFill fuel name tokens).2.filterMap Token.openingPosition? := by
  induction fuel generalizing level name tokens with
  | zero => rfl
  | succ fuel ih =>
    match tokens with
    | [] => rfl
    | .text s position :: tokens => exact ih level name tokens
    | .closing other position :: tokens =>
      simp only [placedFill]
      split
      · rfl
      · exact ih level name tokens
    | .opening tag attributes selfClosing position :: tokens =>
      simp only [placedFill, PlacedContent.consChild, PlacedContent.toPlaced, levelsList, levels,
        List.filterMap_cons, Token.openingPosition?, List.map_append, List.map_cons, List.cons_append,
        List.append_assoc, ← ih level name]
      congr 1
      split
      · rfl
      · exact ih (level + 1) tag tokens

/-- The result of building, unless one of the elements lies below the last level. -/
def outcome {α : Type} (cap : Option Nat) (levels : List (Nat × Nat)) (result : α) : Except SourceError α :=
  match cap.bind fun limit => levels.lookup (limit + 1) with
  | none => .ok result
  | some position => .error (tooDeep cap position)

@[simp]
theorem outcome_nil {α : Type} (cap : Option Nat) (a : α) : outcome cap [] a = .ok a := by
  cases cap <;> rfl

theorem outcome_bind {α β : Type} {cap : Option Nat} {qs : List (Nat × Nat)} {a : α} {b : β}
    {f : α → Except SourceError β} (h : f a = outcome cap qs b) (ps : List (Nat × Nat)) :
    outcome cap ps a >>= f = outcome cap (ps ++ qs) b := by
  cases cap with
  | none => exact h
  | some limit =>
    simp only [outcome, Option.bind_some, List.lookup_append] at h ⊢
    cases ps.lookup (limit + 1) with
    | none => exact h
    | some position => rfl

theorem outcome_cons_of_lt {α : Type} {cap : Option Nat} {depth : Nat} (h : ∀ limit ∈ cap, depth < limit)
    (position : Nat) (ps : List (Nat × Nat)) (a : α) :
    outcome cap ((depth + 1, position) :: ps) a = outcome cap ps a := by
  cases cap with
  | none => rfl
  | some limit =>
    have hl := h limit rfl
    have hb : (limit + 1 == depth + 1) = false := beq_false_of_ne (by omega)
    simp only [outcome, Option.bind_some, List.lookup_cons, hb]

theorem outcome_bind_pure {α β : Type} (cap : Option Nat) (ps : List (Nat × Nat)) (a : α) (f : α → β) :
    outcome cap ps a >>= (fun x => pure (f x)) = outcome cap ps (f a) := by
  have h := outcome_bind (f := fun x => pure (f x)) (outcome_nil cap (f a)).symm ps
  rwa [List.append_nil] at h

theorem outcome_map {α β : Type} (cap : Option Nat) (ps : List (Nat × Nat)) (a : α) (f : α → β) :
    (outcome cap ps a).map f = outcome cap ps (f a) := by
  unfold outcome
  split <;> rfl

theorem outcome_child {cap : Option Nat} {fuel depth : Nat} {name : String} {after rest : List Token}
    {outer : PlacedContent} (hl : ∀ limit ∈ cap, depth < limit)
    (hf : fill cap fuel depth name after =
      outcome cap (levelsList (depth + 1) outer.children) (outer.toContent, rest))
    (tag : String) (attributes : Attributes) (position : Nat) (inner : PlacedContent) :
    (do
      let x ← outcome cap (levelsList (depth + 1 + 1) inner.children) (inner.toContent, after)
      let y ← fill cap fuel depth name x.2
      pure (y.1.consChild (x.1.toElement tag attributes), y.2)) =
    outcome cap (levelsList (depth + 1) (outer.consChild (inner.toPlaced tag attributes position)).children)
      ((outer.consChild (inner.toPlaced tag attributes position)).toContent, rest) := by
  simp only [PlacedContent.consChild, PlacedContent.toPlaced, levelsList, levels, List.cons_append]
  rw [outcome_cons_of_lt hl]
  apply outcome_bind
  simp only [hf, outcome_bind_pure]
  rfl

theorem fill_eq_outcome {cap : Option Nat} (fuel : Nat) {depth : Nat} (hd : ∀ limit ∈ cap, depth ≤ limit)
    (name : String) (tokens : List Token) :
    fill cap fuel depth name tokens =
      outcome cap (levelsList (depth + 1) (placedFill fuel name tokens).1.children)
        ((placedFill fuel name tokens).1.toContent, (placedFill fuel name tokens).2) := by
  induction fuel generalizing depth name tokens with
  | zero => exact (outcome_nil cap _).symm
  | succ fuel ih =>
    match tokens with
    | [] => exact (outcome_nil cap _).symm
    | .text s position :: tokens =>
      simp only [fill, ih hd, outcome_bind_pure]
      rfl
    | .closing other position :: tokens =>
      simp only [fill, placedFill]
      split
      · exact (outcome_nil cap _).symm
      · exact ih hd name tokens
    | .opening tag attributes selfClosing position :: tokens =>
      simp only [fill, placedFill]
      by_cases ha : admits cap depth = true
      · have hl : ∀ limit ∈ cap, depth < limit := by
          rintro limit rfl
          simpa [admits] using ha
        simp only [ha, Bool.not_true, Bool.false_eq_true, if_false]
        split
        · rw [← outcome_child hl (ih hd name tokens), PlacedContent.empty, levelsList, outcome_nil]
          rfl
        · rw [ih hl, outcome_child hl (ih hd name _)]
      · -- The cap is reached here, so that the new element itself is the first below the last level.
        obtain ⟨limit, rfl, hl⟩ : ∃ limit, cap = some limit ∧ limit ≤ depth := by
          cases cap with
          | none => exact absurd rfl ha
          | some limit => exact ⟨limit, rfl, by simpa [admits] using ha⟩
        have he : limit = depth := Nat.le_antisymm hl (hd limit rfl)
        subst he
        simp only [ha, PlacedContent.consChild, PlacedContent.toPlaced, levelsList, levels, outcome, Option.bind_some,
          List.cons_append, List.lookup_cons_self]
        rfl

theorem ofTokensWithin_eq_outcome {cap : Option Nat} (hc : ∀ limit ∈ cap, 0 < limit) (attributes : Attributes)
    (selfClosing : Bool) (position : Nat) (tokens : List Token) :
    Element.ofTokensWithin cap (.opening "svg" attributes selfClosing position :: tokens) =
      outcome cap ((ofRoot attributes selfClosing position tokens).levels 1)
        (ofRoot attributes selfClosing position tokens).toElement := by
  cases selfClosing with
  | true =>
    simp only [ofRoot, if_true, PlacedContent.toPlaced, PlacedContent.empty, levels, levelsList]
    rw [outcome_cons_of_lt hc, outcome_nil]
    rfl
  | false =>
    simp only [ofRoot, Bool.false_eq_true, if_false, PlacedContent.toPlaced, levels]
    rw [outcome_cons_of_lt hc, Element.ofTokensWithin]
    simp only [if_true, Bool.false_eq_true, if_false, fill_eq_outcome _ hc, outcome_map]
    rfl

theorem ofTokensWithin_none (attributes : Attributes) (selfClosing : Bool) (position : Nat)
    (tokens : List Token) :
    Element.ofTokensWithin none (.opening "svg" attributes selfClosing position :: tokens) =
      .ok (ofRoot attributes selfClosing position tokens).toElement :=
  ofTokensWithin_eq_outcome (by simp) attributes selfClosing position tokens

theorem openingPositions_ofRoot (attributes : Attributes) (selfClosing : Bool) (position : Nat)
    (tokens : List Token) :
    ((ofRoot attributes selfClosing position tokens).levels 1).map Prod.snd <+:
      (Token.opening "svg" attributes selfClosing position :: tokens).filterMap Token.openingPosition? := by
  change _ <+: position :: tokens.filterMap Token.openingPosition?
  cases selfClosing with
  | true => exact List.prefix_append [position] _
  | false =>
    rw [openingPositions_fill tokens.length 2 "svg" tokens]
    exact List.prefix_append (position :: _) _

example : (ofRoot .empty false 0 [.opening "g" .empty false 5, .opening "path" .empty false 8, .text "a" 14,
    .closing "g" 15, .opening "g" .empty true 19, .closing "svg" 23, .opening "g" .empty true 29]).levels 1 =
      [(1, 0), (2, 5), (3, 8), (2, 19)] := by
  decide +kernel

theorem mem_openingPositions {attributes : Attributes} {selfClosing : Bool} {position : Nat}
    {tokens : List Token} {level offset : Nat}
    (h : ((ofRoot attributes selfClosing position tokens).levels 1).lookup level = some offset) :
    offset ∈ (Token.opening "svg" attributes selfClosing position :: tokens).filterMap
      Token.openingPosition? := by
  obtain ⟨before, after, he, -⟩ := List.lookup_eq_some_iff.mp h
  apply (openingPositions_ofRoot attributes selfClosing position tokens).subset
  simp [he]

theorem ofTokens_cases (attributes : Attributes) (selfClosing : Bool) (position : Nat) (tokens : List Token) :
    let tree := ofRoot attributes selfClosing position tokens
    let all := .opening "svg" attributes selfClosing position :: tokens
    (tree.toElement.height ≤ maxDepth ∧ Element.ofTokens all = .ok tree.toElement) ∨
      (maxDepth < tree.toElement.height ∧ ∃ offset, (tree.levels 1).lookup (maxDepth + 1) = some offset ∧
        Element.ofTokens all = .error (.nestingTooDeep maxDepth offset)) := by
  intro tree all
  have ho : Element.ofTokens all = outcome (some maxDepth) (tree.levels 1) tree.toElement :=
    ofTokensWithin_eq_outcome (by simp [maxDepth]) attributes selfClosing position tokens
  have hn := lookup_levels_eq_none_iff 1 (maxDepth + 1) tree
  rw [ho, outcome, Option.bind_some]
  cases hl : (tree.levels 1).lookup (maxDepth + 1) with
  | none =>
    have hh := hn.mp hl
    exact .inl ⟨by omega, rfl⟩
  | some offset =>
    rw [hl] at hn
    have hh : ¬ 1 + tree.toElement.height ≤ maxDepth + 1 := fun h => by cases hn.mpr (.inr h)
    exact .inr ⟨by omega, offset, rfl, rfl⟩

/-- The cap refuses a tree exactly when it has too many levels, and it refuses the first element below
the last level; every other tree it leaves as it is. -/
theorem ofTokens_capped (attributes : Attributes) (selfClosing : Bool) (position : Nat) (tokens : List Token) :
    let tree := ofRoot attributes selfClosing position tokens
    let all := .opening "svg" attributes selfClosing position :: tokens
    Element.ofTokensWithin none all = .ok tree.toElement ∧
      (tree.levels 1).map Prod.snd <+: all.filterMap Token.openingPosition? ∧
      (tree.toElement.height ≤ 512 → Element.ofTokens all = .ok tree.toElement) ∧
      (512 < tree.toElement.height → ∃ offset, (tree.levels 1).lookup 513 = some offset ∧
        Element.ofTokens all = .error (.nestingTooDeep 512 offset)) := by
  intro tree all
  refine ⟨ofTokensWithin_none _ _ _ _, openingPositions_ofRoot _ _ _ _, ?_⟩
  rcases ofTokens_cases attributes selfClosing position tokens with ⟨hh, hr⟩ | ⟨hh, he⟩
  · refine ⟨fun _ => hr, fun hl => ?_⟩
    exact absurd hh (Nat.not_le.mpr hl)
  · refine ⟨fun hl => ?_, fun _ => he⟩
    exact absurd hl (Nat.not_le.mpr hh)

theorem ofTokens_capped_groups :
    let tokens := (List.range 512).map fun n => Token.opening "g" .empty false (5 + 3 * n)
    let tree := ofRoot .empty false 0 tokens
    512 < tree.toElement.height ∧ ∃ offset, (tree.levels 1).lookup 513 = some offset ∧
      Element.ofTokens (.opening "svg" .empty false 0 :: tokens) = .error (.nestingTooDeep 512 offset) := by
  intro tokens tree
  have hh : 512 < tree.toElement.height := by decide +kernel
  exact ⟨hh, (ofTokens_capped .empty false 0 tokens).2.2.2 hh⟩

theorem ofTokens_eq_ok_iff {tokens : List Token} {root : Element} :
    Element.ofTokens tokens = .ok root ↔
      Element.ofTokensWithin none tokens = .ok root ∧ root.height ≤ maxDepth := by
  constructor
  · intro h
    obtain ⟨attributes, selfClosing, position, rest, rfl⟩ := exists_root_of_ok h
    rcases ofTokens_cases attributes selfClosing position rest with ⟨hh, hr⟩ | ⟨-, offset, -, he⟩
    · cases hr.symm.trans h
      exact ⟨ofTokensWithin_none _ _ _ _, hh⟩
    · cases he.symm.trans h
  · rintro ⟨h, hh⟩
    obtain ⟨attributes, selfClosing, position, rest, rfl⟩ := exists_root_of_ok h
    cases (ofTokensWithin_none attributes selfClosing position rest).symm.trans h
    rcases ofTokens_cases attributes selfClosing position rest with ⟨-, hr⟩ | ⟨hl, -⟩
    · exact hr
    · exact absurd hh (Nat.not_le.mpr hl)

end IconCompiler.Markup
