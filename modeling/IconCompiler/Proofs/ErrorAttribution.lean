import IconCompiler.CompileError

namespace IconCompiler

open IconCompiler.Markup

inductive Attribution where
  | offered (name : String)
  | imposed (name : String)
  deriving DecidableEq, Repr

namespace Attribution

def name : Attribution → String
  | .offered name => name
  | .imposed name => name

def offered? : Attribution → Option String
  | .offered name => some name
  | .imposed _ => none

def imposed? : Attribution → Option String
  | .offered _ => none
  | .imposed name => some name

def apply : Attribution → CompileError → CompileError
  | .offered name, e => e.named name
  | .imposed name, e => .icon name e

theorem filterMap_imposed?_cons (name : String) (steps : List Attribution) :
    (imposed name :: steps).filterMap imposed? = name :: steps.filterMap imposed? := rfl

end Attribution

namespace CompileError

def attributed (e : CompileError) (steps : List Attribution) : CompileError :=
  steps.foldl (fun e s => s.apply e) e

def layers : CompileError → List String
  | .icon name inner => name :: inner.layers
  | _ => []

def ofCause (c : SourceError ⊕ GenerationError) : CompileError := c.elim .source .generation

@[simp]
theorem cause_ofCause (c : SourceError ⊕ GenerationError) : (ofCause c).cause = ofCause c := by
  cases c <;> rfl

@[simp]
theorem layers_ofCause (c : SourceError ⊕ GenerationError) : (ofCause c).layers = [] := by
  cases c <;> rfl

theorem message_ofCause (c : SourceError ⊕ GenerationError) :
    (ofCause c).message = c.elim SourceError.message GenerationError.message := by
  cases c <;> rfl

theorem offset?_of_cause {e : CompileError} {c : SourceError ⊕ GenerationError} (h : e.cause = ofCause c) :
    e.offset? = c.elim SourceError.offset? fun _ => none := by
  rw [offset?, h]
  cases c <;> rfl

theorem icon?_eq_head?_layers (e : CompileError) : e.icon? = e.layers.head? := by
  cases e <;> rfl

theorem foldr_layers (e : CompileError) : e.layers.foldr .icon e.cause = e := by
  induction e with
  | source e => rfl
  | generation e => rfl
  | icon name inner ih => exact congrArg (CompileError.icon name) ih

theorem message_eq_join (e : CompileError) :
    e.message = String.join (e.layers.map fun name => "icon '" ++ name ++ "': ") ++ e.cause.message := by
  induction e with
  | source e => exact String.empty_append.symm
  | generation e => exact String.empty_append.symm
  | icon name inner ih =>
    rw [message, ih, layers, List.map_cons, String.join_cons, cause]
    exact (String.append_assoc ..).symm

theorem named_eq_self_iff {e : CompileError} {name : String} : e.named name = e ↔ e.icon?.isSome := by
  cases e <;> simp [named, icon?]

theorem attributed_cons (e : CompileError) (s : Attribution) (steps : List Attribution) :
    e.attributed (s :: steps) = (s.apply e).attributed steps := rfl

theorem cause_apply (s : Attribution) (e : CompileError) : (s.apply e).cause = e.cause := by
  cases s with
  | offered name => cases e <;> rfl
  | imposed name => rfl

theorem cause_attributed (e : CompileError) (steps : List Attribution) : (e.attributed steps).cause = e.cause := by
  induction steps generalizing e with
  | nil => rfl
  | cons s steps ih => rw [attributed_cons, ih, cause_apply]

theorem apply_ofCause (s : Attribution) (c : SourceError ⊕ GenerationError) :
    s.apply (ofCause c) = .icon s.name (ofCause c) := by
  cases s <;> cases c <;> rfl

theorem layers_attributed_icon (name : String) (inner : CompileError) (steps : List Attribution) :
    ((icon name inner).attributed steps).layers =
      (steps.filterMap Attribution.imposed?).reverse ++ name :: inner.layers := by
  induction steps generalizing name inner with
  | nil => rfl
  | cons s steps ih =>
    cases s with
    | offered other =>
      -- An icon is named, so the offer leaves the error as it is.
      exact ih name inner
    | imposed other =>
      calc ((icon name inner).attributed (.imposed other :: steps)).layers
          = (steps.filterMap Attribution.imposed?).reverse ++ other :: name :: inner.layers :=
            ih other (icon name inner)
        _ = ((Attribution.imposed other :: steps).filterMap Attribution.imposed?).reverse ++ name :: inner.layers := by
            rw [Attribution.filterMap_imposed?_cons, List.reverse_cons, List.append_assoc, List.singleton_append]

theorem layers_attributed_ofCause (c : SourceError ⊕ GenerationError) (steps : List Attribution) :
    ((ofCause c).attributed steps).layers =
      (steps.filterMap Attribution.imposed?).reverse ++ (steps.head?.bind Attribution.offered?).toList := by
  cases steps with
  | nil => exact layers_ofCause c
  | cons s steps =>
    -- The first step names an icon, whatever its kind, and later offers are lost.
    rw [attributed_cons, apply_ofCause, layers_attributed_icon, layers_ofCause]
    cases s with
    | offered name => rfl
    | imposed name =>
      rw [Attribution.filterMap_imposed?_cons, List.reverse_cons]
      exact (List.append_nil _).symm

theorem icon?_attributed_ofCause (c : SourceError ⊕ GenerationError) (steps : List Attribution) :
    ((ofCause c).attributed steps).icon? =
      (steps.filterMap Attribution.imposed?).getLast?.or (steps.filterMap Attribution.offered?).head? := by
  rw [icon?_eq_head?_layers, layers_attributed_ofCause, List.head?_append, List.head?_reverse]
  cases steps with
  | nil => rfl
  | cons s steps =>
    cases s with
    | offered name => rfl
    | imposed name =>
      -- An imposed name hides what the offers give, so that these need not agree.
      rw [Attribution.filterMap_imposed?_cons, List.getLast?_cons, Option.some_or, Option.some_or]

theorem icon?_attributed_ofCause_eq_none_iff {c : SourceError ⊕ GenerationError} {steps : List Attribution} :
    ((ofCause c).attributed steps).icon? = none ↔ steps = [] := by
  rw [icon?_eq_head?_layers, List.head?_eq_none_iff]
  cases steps with
  | nil => simp [attributed]
  | cons s steps => simp [attributed_cons, apply_ofCause, layers_attributed_icon]

/-- Whatever names are offered to an error and imposed on it, its cause is what it was, with its offset, and its message
ends with the message of the cause. The names stand before it, from the outside in: the imposed ones, the last first,
then the first name of all if it was offered. The outermost of them is the name of the icon. An offered name changes
nothing exactly if an icon is named. -/
theorem attributed_outcome (c : SourceError ⊕ GenerationError) (steps : List Attribution) :
    let e := (ofCause c).attributed steps
    e.cause = ofCause c ∧
      e.offset? = c.elim SourceError.offset? (fun _ => none) ∧
      e.icon? = (steps.filterMap Attribution.imposed?).getLast?.or (steps.filterMap Attribution.offered?).head? ∧
      (e.icon? = none ↔ steps = []) ∧
      e = e.layers.foldr .icon (ofCause c) ∧
      e.layers = (steps.filterMap Attribution.imposed?).reverse ++ (steps.head?.bind Attribution.offered?).toList ∧
      e.message = String.join (e.layers.map fun name => "icon '" ++ name ++ "': ") ++
        c.elim SourceError.message GenerationError.message ∧
      ∀ (other : CompileError) (name : String), other.named name = other ↔ other.icon?.isSome := by
  intro e
  have hcause : e.cause = ofCause c := (cause_attributed _ steps).trans (cause_ofCause c)
  refine ⟨hcause, offset?_of_cause hcause, icon?_attributed_ofCause c steps, icon?_attributed_ofCause_eq_none_iff,
    ?_, layers_attributed_ofCause c steps, ?_, fun other name => named_eq_self_iff⟩
  · rw [← hcause, foldr_layers]
  · rw [message_eq_join, hcause, message_ofCause]

example :
    let e := (ofCause (.inl (.unclosedTag 5))).attributed [.offered "clock", .imposed "set", .offered "other"]
    e.layers = ["set", "clock"] ∧ e.message =
      "icon 'set': icon 'clock': Unclosed tag starting at offset 5 in preprocessed source" := by
  decide

end CompileError

end IconCompiler
