import IconCompiler.Emit.Layout
import IconCompiler.Proofs.ScriptModules
import IconCompiler.Proofs.VerbatimTemplates

namespace IconCompiler

open IconCompiler.Emit IconCompiler.Script IconCompiler.Text

theorem Text.mem_splitParts_of_mem (p : Char → Bool) {cs : List Char} {c : Char} (h : c ∈ cs) :
    p c = true ∨ ∃ part ∈ splitParts p cs, c ∈ part := by
  induction cs with
  | nil => cases h
  | cons d cs ih =>
    obtain ⟨l, ls, hl⟩ := List.exists_cons_of_ne_nil (splitParts_ne_nil p cs)
    by_cases hd : p d = true
    · have hs : splitParts p (d :: cs) = [] :: splitParts p cs := by simp [splitParts, hd]
      obtain rfl | h := List.mem_cons.mp h
      · exact .inl hd
      · obtain hc | ⟨part, hp, hc⟩ := ih h
        · exact .inl hc
        · exact .inr ⟨part, by simp [hs, hp], hc⟩
    · have hs : splitParts p (d :: cs) = (d :: l) :: ls := by simp [splitParts, hd, hl]
      rw [hs]
      obtain rfl | h := List.mem_cons.mp h
      · exact .inr ⟨_, List.mem_cons_self, List.mem_cons_self⟩
      · obtain hc | ⟨part, hp, hc⟩ := ih h
        · exact .inl hc
        · rw [hl] at hp
          obtain rfl | hp := List.mem_cons.mp hp
          · exact .inr ⟨_, List.mem_cons_self, List.mem_cons_of_mem d hc⟩
          · exact .inr ⟨part, List.mem_cons_of_mem _ hp, hc⟩

namespace Script

inductive Worth where
  | undefined
  | flag (b : Bool)
  | text (s : String)
  deriving DecidableEq, Repr

namespace Worth

def truthy : Worth → Bool
  | .undefined => false
  | .flag b => b
  | .text s => s ≠ ""

def display : Worth → String
  | .undefined => "undefined"
  | .flag b => if b then "true" else "false"
  | .text s => s

end Worth

def isReferenceChar (c : Char) : Bool := isIdentifierPart c || c == '.'

def isReference (s : String) : Bool :=
  (splitParts (fun c => c == '.') s.toList).all fun name => isIdentifier (String.ofList name)

section

variable (v : String → Worth)

def interleaved? : (texts expressions : List String) → Option String
  | [t], [] => some t
  | t :: ts, e :: es => if isReference e then (interleaved? ts es).map fun s => t ++ (v e).display ++ s else none
  | _, _ => none

def literal? (cs : List Char) : Option String :=
  match readQuoted? cs, readTemplate? cs with
  | some (s, []), _ => some s
  | none, some (t, []) => interleaved? v t.texts t.expressions
  | _, _ => none

def evaluate? (code : String) : Option Worth :=
  let (name, rest) := code.toList.span isReferenceChar
  if name = [] then (literal? v rest).map .text
  else if isReference (String.ofList name) then
    (rest.dropPrefix? " && ".toList).bind fun guarded =>
      (literal? v guarded).map fun s =>
        if (v (String.ofList name)).truthy then .text s else v (String.ofList name)
  else none

def appliedClasses? (codes : List String) : Option (List String) :=
  (codes.mapM (evaluate? v)).map fun ws => (ws.filter Worth.truthy).map Worth.display

end

theorem isReferenceChar_of_isReference {s : String} (h : isReference s = true) :
    s.toList ≠ [] ∧ ∀ c ∈ s.toList, isReferenceChar c = true := by
  have hnames : ∀ name ∈ splitParts (fun c => c == '.') s.toList, isIdentifier (String.ofList name) = true := by
    simpa [isReference] using h
  constructor
  · intro hn
    exact absurd (hnames [] (by simp [hn, splitParts])) (by decide)
  · intro c hc
    obtain hp | ⟨name, hname, hm⟩ := mem_splitParts_of_mem (fun c => c == '.') hc
    · simp [isReferenceChar, eq_of_beq hp]
    · have hpart := isIdentifierPart_of_isIdentifier (hnames name hname) c (by simpa using hm)
      simp [isReferenceChar, hpart]

theorem readCode?_reference {cs : List Char} (h : ∀ c ∈ cs, isReferenceChar c = true) (t : Template)
    (code rest : List Char) :
    readCode? t code [] (cs ++ '\x7d' :: rest) = readText? (t.addExpression (code ++ cs)) [] rest := by
  induction cs generalizing code with
  | nil => rw [List.nil_append, List.append_nil, readCode?]
  | cons c cs ih =>
    rw [List.forall_mem_cons] at h
    have hc : ∀ d, isReferenceChar d = false → c ≠ d := by
      rintro d hd rfl
      exact absurd h.1 (by simp [hd])
    have hstep : readCode? t code [] (c :: (cs ++ '\x7d' :: rest)) =
        readCode? t (code ++ [c]) [] (cs ++ '\x7d' :: rest) := by
      rw [readCode?] <;>
        simp [hc '\x7d' rfl, hc '\x7b' rfl, hc '\x60' rfl, hc '\x27' rfl, hc '"' rfl, hc '/' rfl]
    rw [List.cons_append, hstep, ih h.2, List.append_assoc, List.singleton_append]

theorem closes_of_isReference {s : String} (h : isReference s = true) : Closes s := by
  intro t rest
  exact readCode?_reference (isReferenceChar_of_isReference h).2 t [] rest

section

variable {v : String → Worth}

theorem literal?_quoted (s : String) : literal? v (quoted s).toList = some s := by
  have hq := readQuoted?_append s []
  rw [List.append_nil] at hq
  simp [literal?, hq]

theorem literal?_template (cs : List Char) :
    literal? v ('\x60' :: cs) =
      match readTemplate? ('\x60' :: cs) with
      | some (t, []) => interleaved? v t.texts t.expressions
      | _ => none := by
  have hq : readQuoted? ('\x60' :: cs) = none := rfl
  unfold literal?
  rw [hq]
  split <;> simp_all

theorem evaluate?_quoted (s : String) : evaluate? v (quoted s) = some (.text s) := by
  have hspan : (quoted s).toList.span isReferenceChar = ([], (quoted s).toList) := by
    rw [toList_quoted]
    rfl
  simp only [evaluate?, hspan, literal?_quoted, if_true, Option.map_some]

theorem evaluate?_guard {reference : String} (h : isReference reference = true) (literal : String) :
    evaluate? v (reference ++ " && " ++ literal) = (literal? v literal.toList).map fun s =>
      if (v reference).truthy then .text s else v reference := by
  obtain ⟨hn, hc⟩ := isReferenceChar_of_isReference h
  have hl : (reference ++ " && " ++ literal).toList = reference.toList ++ (" && ".toList ++ literal.toList) := by
    rw [String.toList_append, String.toList_append, List.append_assoc]
  have hspan : (reference.toList ++ (" && ".toList ++ literal.toList)).span isReferenceChar =
      (reference.toList, " && ".toList ++ literal.toList) := span_append hc (by simp; decide)
  have hdrop : (" && ".toList ++ literal.toList).dropPrefix? " && ".toList = some literal.toList :=
    List.dropPrefix?_append_of_beq _ (beq_self_eq_true _)
  simp only [evaluate?, hl, hspan, hn, if_false, String.ofList_toList, h, if_true, hdrop, Option.bind_some]

theorem appliedClasses?_append (cs ds : List String) :
    appliedClasses? v (cs ++ ds) =
      (appliedClasses? v cs).bind fun xs => (appliedClasses? v ds).map fun ys => xs ++ ys := by
  unfold appliedClasses?
  rw [List.mapM_append]
  cases cs.mapM (evaluate? v) with
  | none => rfl
  | some ws =>
    cases ds.mapM (evaluate? v) with
    | none => rfl
    | some us => simp

theorem appliedClasses?_singleton (code : String) :
    appliedClasses? v [code] = (evaluate? v code).map fun w => if w.truthy then [w.display] else [] := by
  unfold appliedClasses?
  cases he : evaluate? v code with
  | none => simp [he]
  | some w => cases hw : w.truthy <;> simp [he, hw]

theorem appliedClasses?_quoted (ss : List String) :
    appliedClasses? v (ss.map quoted) = some (ss.filter (· ≠ "")) := by
  induction ss with
  | nil => rfl
  | cons s ss ih =>
    have hs : appliedClasses? v [quoted s] = some ([s].filter (· ≠ "")) := by
      rw [appliedClasses?_singleton, evaluate?_quoted]
      by_cases he : s = "" <;> simp [Worth.truthy, Worth.display, he]
    rw [List.map_cons, ← List.singleton_append, appliedClasses?_append, hs, ih, Option.bind_some, Option.map_some,
      ← List.filter_append, List.singleton_append]

theorem appliedClasses?_guard {reference : String} (h : isReference reference = true) (literal : String) :
    appliedClasses? v [reference ++ " && " ++ literal] = (literal? v literal.toList).map fun s =>
      if (v reference).truthy ∧ s ≠ "" then [s] else [] := by
  rw [appliedClasses?_singleton, evaluate?_guard h, Option.map_map]
  congr 1
  funext s
  cases hv : (v reference).truthy with
  | false => simp [hv]
  | true => by_cases he : s = "" <;> simp [Worth.truthy, Worth.display, he]

theorem interleaved?_cases {t s : String} {ts es : List String} (h : interleaved? v (t :: ts) es = some s) :
    s = t ∨ ∃ e rest, s = t ++ (v e).display ++ rest := by
  cases es with
  | nil =>
    cases ts with
    | nil => exact .inl (Option.some.inj h).symm
    | cons u us => cases h
  | cons e es =>
    simp only [interleaved?] at h
    split_ifs at h
    obtain ⟨rest, -, rfl⟩ := Option.map_eq_some_iff.mp h
    exact .inr ⟨e, rest, rfl⟩

theorem length_of_interleaved? (hv : ∀ e, (v e).display.length = e.length + 3) {t : Template} {s : String}
    (h : interleaved? v t.texts t.expressions = some s) : s.length = t.size := by
  obtain ⟨ts, es⟩ := t
  simp only [Template.size] at h ⊢
  induction es generalizing ts s with
  | nil =>
    cases ts with
    | nil => cases h
    | cons t ts =>
      cases ts with
      | nil =>
        obtain rfl := Option.some.inj h
        simp [String.length_toList]
      | cons u us => cases h
  | cons e es ih =>
    cases ts with
    | nil => cases h
    | cons t ts =>
      simp only [interleaved?] at h
      split_ifs at h
      obtain ⟨rest, hr, rfl⟩ := Option.map_eq_some_iff.mp h
      have hl := ih ts hr
      simp only [String.length_append, hv, List.flatMap_cons, List.length_append, List.length_cons, List.length_nil,
        String.length_toList]
      omega

theorem Distorted.length_lt {front : List Char} {n : Nat} {t : Template} (h : Distorted front '\\' n t)
    {s : String} (hi : interleaved? v t.texts t.expressions = some s)
    (hv : ∀ e, (v e).display.length = e.length + 3) : s.length < n := by
  cases h with
  | short hn => rwa [length_of_interleaved? hv hi]

theorem Distorted.ne {front : List Char} {x : Char} {n : Nat} {t : Template} (h : Distorted front x n t)
    {s : String} (hi : interleaved? v t.texts t.expressions = some s) (hv : ∀ e, (v e).display = "x") (hx : x ≠ '\\')
    (rest : List Char) : s.toList ≠ front ++ x :: rest := by
  intro he
  cases h with
  | @lineEnd more texts expressions n =>
    have hp : front ++ '\n' :: more <+: front ++ '\r' :: rest := by
      rw [← he]
      obtain rfl | ⟨e, after, rfl⟩ := interleaved?_cases hi
      · simp
      · rw [String.toList_append, String.toList_append, String.toList_ofList, List.append_assoc]
        exact List.prefix_append _ _
    rw [List.prefix_append_right_inj, List.cons_prefix_cons] at hp
    exact absurd hp.1 (by decide)
  | cut =>
    obtain rfl | ⟨e, after, rfl⟩ := interleaved?_cases hi
    · simp at he
    · simp [hv] at he
  | short hn => exact hx rfl

end

end Script

namespace Component

def themeLiteral (c : Component) (reference : String) : String :=
  "`" ++ c.modifierClass "theme" ++ "-$\x7b" ++ reference ++ "\x7d`"

def themeClass (c : Component) (theme : Worth) : String := c.modifierClass "theme" ++ "-" ++ theme.display

theorem readTemplate?_themeLiteral {c : Component} (h : Verbatim c.baseClass.toList) {reference : String}
    (hr : isReference reference = true) (rest : List Char) :
    readTemplate? ((c.themeLiteral reference).toList ++ rest) =
      some (⟨[c.modifierClass "theme" ++ "-", ""], [reference]⟩, rest) := by
  have hplain : Cooks "-theme-".toList "-theme-".toList := .plain (by decide)
  have hcooks : Cooks (c.modifierClass "theme" ++ "-").toList (c.modifierClass "theme" ++ "-").toList := by
    simp only [modifierClass, String.toList_append, List.append_assoc]
    exact h.cooks.append hplain (by decide)
  have hl : (c.themeLiteral reference).toList = '\x60' :: ((c.modifierClass "theme" ++ "-").toList ++
      ([Insertion.plain reference ""].flatMap Insertion.chars ++ ['\x60'])) := by
    simp [themeLiteral, Insertion.plain, Insertion.chars]
  exact readTemplate?_append hl hcooks (by simpa using .plain (closes_of_isReference hr) rfl) rest

theorem literal?_themeLiteral {c : Component} {reference : String}
    (h : readTemplate? (c.themeLiteral reference).toList =
      some (⟨[c.modifierClass "theme" ++ "-", ""], [reference]⟩, []))
    (hr : isReference reference = true) (v : String → Worth) :
    literal? v (c.themeLiteral reference).toList = some (c.themeClass (v reference)) := by
  obtain ⟨cs, hcs⟩ : ∃ cs, (c.themeLiteral reference).toList = '\x60' :: cs := ⟨_, by simp [themeLiteral]; rfl⟩
  rw [hcs] at h ⊢
  rw [literal?_template, h]
  simp [interleaved?, hr, themeClass]

theorem exists_literal?_ne {c : Component} (h : ¬ Verbatim c.baseClass.toList) (reference : String) :
    ∃ v : String → Worth, (v reference).truthy = true ∧
      literal? v (c.themeLiteral reference).toList ≠ some (c.themeClass (v reference)) := by
  -- The first character that does not mean itself decides which values of the properties show the difference.
  obtain ⟨front, x, more, hb, hf, hs⟩ := exists_special h
  have hs := hs.append ("-theme-$\x7b" ++ reference ++ "\x7d").toList
  have hl : (c.themeLiteral reference).toList =
      '\x60' :: (front ++ x :: (more ++ ("-theme-$\x7b" ++ reference ++ "\x7d").toList ++ ['\x60'])) := by
    simp [themeLiteral, modifierClass, hb]
  have hclass : ∀ w, (c.themeClass w).toList = front ++ x :: (more ++ ("-theme-" ++ w.display).toList) := by
    intro w
    simp [themeClass, modifierClass, hb]
  have hread : ∀ v s, literal? v (c.themeLiteral reference).toList = some s → ∃ t,
      interleaved? v t.texts t.expressions = some s ∧
        Distorted front x (front ++ x :: (more ++ ("-theme-$\x7b" ++ reference ++ "\x7d").toList)).length t := by
    intro v s hv
    rw [hl, literal?_template] at hv
    split at hv
    · next t ht => exact ⟨t, hv, distorted_of_readTemplate? hf hs ht⟩
    · cases hv
  by_cases hx : x = '\\'
  -- With properties that are worth what stands for them, the text has the length of the literal or less.
  · subst hx
    refine ⟨fun e => .text ("$\x7b" ++ e ++ "\x7d"), by simp [Worth.truthy], ?_⟩
    intro hv
    obtain ⟨t, ht, hd⟩ := hread _ _ hv
    have hlen : ∀ e : String, ("$\x7b" ++ e ++ "\x7d").length = e.length + 3 := by
      intro e
      rw [String.length_append, String.length_append]
      change 2 + e.length + 1 = e.length + 3
      omega
    have hlt := hd.length_lt ht hlen
    rw [← String.length_toList, hclass] at hlt
    simp [Worth.display] at hlt
  · refine ⟨fun _ => .text "x", rfl, ?_⟩
    intro hv
    obtain ⟨t, ht, hd⟩ := hread _ _ hv
    exact hd.ne ht (fun e => rfl) hx _ (hclass _)

theorem readTemplate?_themeLiteral_iff (c : Component) {reference : String} (hr : isReference reference = true) :
    (∀ rest, readTemplate? ((c.themeLiteral reference).toList ++ rest) =
        some (⟨[c.modifierClass "theme" ++ "-", ""], [reference]⟩, rest)) ↔ Verbatim c.baseClass.toList := by
  constructor
  · intro h
    by_contra hv
    obtain ⟨v, -, hne⟩ := exists_literal?_ne hv reference
    have hread := h []
    rw [List.append_nil] at hread
    exact hne (literal?_themeLiteral hread hr v)
  · intro h rest
    exact readTemplate?_themeLiteral h hr rest

def classesFor (c : Component) (spin pulse theme : Worth) : List String :=
  c.fixedClasses.filter (· ≠ "") ++ onlyIf (c.features.animation && spin.truthy) [c.modifierClass "spin"] ++
    onlyIf (c.features.animation && pulse.truthy) [c.modifierClass "pulse"] ++
    onlyIf (c.features.theming && theme.truthy) [c.themeClass theme]

theorem modifierClass_ne_empty (c : Component) (modifier : String) : c.modifierClass modifier ≠ "" := by
  simp [modifierClass]

theorem themeClass_ne_empty (c : Component) (theme : Worth) : c.themeClass theme ≠ "" := by
  simp [themeClass]

section

variable (c : Component) {property : String → String} {v : String → Worth}

theorem appliedClasses?_modifier {reference : String} (hr : isReference reference = true) (modifier : String) :
    appliedClasses? v [reference ++ " && " ++ quoted (c.modifierClass modifier)] =
      some (onlyIf (v reference).truthy [c.modifierClass modifier]) := by
  rw [appliedClasses?_guard hr, literal?_quoted, Option.map_some]
  simp [c.modifierClass_ne_empty modifier, onlyIf]

def plainExpressions (property : String → String) : List String :=
  c.fixedClasses.map quoted ++ onlyIf c.features.animation [
    property "spin" ++ " && " ++ quoted (c.modifierClass "spin"),
    property "pulse" ++ " && " ++ quoted (c.modifierClass "pulse")]

theorem classExpressions_eq (property : String → String) :
    classExpressions c property = c.plainExpressions property ++
      onlyIf c.features.theming [property "theme" ++ " && " ++ c.themeLiteral (property "theme")] := by
  have ht : property "theme" ++ " && `" ++ c.modifierClass "theme" ++ "-$\x7b" ++ property "theme" ++ "\x7d`" =
      property "theme" ++ " && " ++ c.themeLiteral (property "theme") := by
    simp only [themeLiteral, String.append_assoc]
    rfl
  rw [classExpressions, ht, plainExpressions]

theorem appliedClasses?_plainExpressions (hs : isReference (property "spin") = true)
    (hp : isReference (property "pulse") = true) :
    appliedClasses? v (c.plainExpressions property) =
      some (c.fixedClasses.filter (· ≠ "") ++
        onlyIf (c.features.animation && (v (property "spin")).truthy) [c.modifierClass "spin"] ++
        onlyIf (c.features.animation && (v (property "pulse")).truthy) [c.modifierClass "pulse"]) := by
  rw [plainExpressions, appliedClasses?_append, appliedClasses?_quoted, Option.bind_some]
  cases c.features.animation with
  | false => simp [onlyIf, appliedClasses?]
  | true =>
    simp only [onlyIf, if_true, Bool.true_and]
    rw [← List.singleton_append, appliedClasses?_append, c.appliedClasses?_modifier hs, c.appliedClasses?_modifier hp]
    simp [onlyIf]

theorem appliedClasses?_classExpressions_iff (hs : isReference (property "spin") = true)
    (hp : isReference (property "pulse") = true) (ht : isReference (property "theme") = true) :
    appliedClasses? v (classExpressions c property) =
        some (c.classesFor (v (property "spin")) (v (property "pulse")) (v (property "theme"))) ↔
      (c.features.theming = true → ∃ s, literal? v (c.themeLiteral (property "theme")).toList = some s ∧
        ((v (property "theme")).truthy = true → s = c.themeClass (v (property "theme")))) := by
  rw [classExpressions_eq, appliedClasses?_append, c.appliedClasses?_plainExpressions hs hp, Option.bind_some,
    classesFor, Option.map_eq_some_iff]
  simp only [List.append_cancel_left_eq, exists_eq_right]
  cases c.features.theming with
  | false => simp [onlyIf, appliedClasses?]
  | true =>
    simp only [onlyIf, if_true, Bool.true_and, true_imp_iff]
    rw [appliedClasses?_guard ht, Option.map_eq_some_iff]
    refine exists_congr fun s => and_congr_right fun _ => ?_
    cases (v (property "theme")).truthy with
    | false => simp
    | true =>
      by_cases he : s = ""
      · simp [he, (c.themeClass_ne_empty _).symm]
      · simp [he]

theorem appliedClasses?_of_verbatim (hs : isReference (property "spin") = true)
    (hp : isReference (property "pulse") = true) (ht : isReference (property "theme") = true)
    (h : c.features.theming = true → Verbatim c.baseClass.toList) :
    appliedClasses? v (classExpressions c property) =
      some (c.classesFor (v (property "spin")) (v (property "pulse")) (v (property "theme"))) := by
  rw [c.appliedClasses?_classExpressions_iff hs hp ht]
  intro htheming
  have hread := readTemplate?_themeLiteral (h htheming) ht []
  rw [List.append_nil] at hread
  exact ⟨_, literal?_themeLiteral hread ht v, fun _ => rfl⟩

end

/-- Whatever the properties are worth, the expressions give the classes that they ask for, except with themes where the
base class does not mean itself in a template. Then its literal is not read as the class and the theme. -/
theorem classExpressions_worth (c : Component) {property : String → String}
    (h : ∀ name ∈ ["spin", "pulse", "theme"], isReference (property name) = true) :
    ((∀ v, appliedClasses? v (classExpressions c property) =
        some (c.classesFor (v (property "spin")) (v (property "pulse")) (v (property "theme")))) ↔
      (c.features.theming = true → Verbatim c.baseClass.toList)) ∧
      ((∀ rest, readTemplate? ((c.themeLiteral (property "theme")).toList ++ rest) =
        some (⟨[c.modifierClass "theme" ++ "-", ""], [property "theme"]⟩, rest)) ↔ Verbatim c.baseClass.toList) := by
  simp only [List.forall_mem_cons] at h
  obtain ⟨hs, hp, ht, -⟩ := h
  refine ⟨⟨?_, fun h v => c.appliedClasses?_of_verbatim hs hp ht h⟩, c.readTemplate?_themeLiteral_iff ht⟩
  intro h htheming
  by_contra hv
  obtain ⟨v, hw, hne⟩ := exists_literal?_ne hv (property "theme")
  obtain ⟨s, hl, he⟩ := (c.appliedClasses?_classExpressions_iff hs hp ht).mp (h v) htheming
  exact hne (hl.trans (congrArg some (he hw)))

theorem classExpressions_worth_verbatim :
    let c : Component := { Component.ofName "Home" with
      features := ⟨true, true, false, false, true⟩, baseClass := "$'\x7b" }
    let v : String → Worth := fun s =>
      if s = "props.spin" then .flag true else if s = "props.theme" then .text "dark" else .undefined
    (∀ name ∈ ["spin", "pulse", "theme"], isReference ("props." ++ name) = true) ∧
      appliedClasses? v (classExpressions c fun name => "props." ++ name) =
        some ["$'\x7b", "$'\x7b-rtl", "$'\x7b-spin", "$'\x7b-theme-dark"] := by
  intro c v
  have hp : ∀ name ∈ ["spin", "pulse", "theme"], isReference ("props." ++ name) = true := by decide
  have h := (c.classExpressions_worth hp).1.mpr (fun _ => ⟨by decide, by decide, by decide, by decide⟩) v
  exact ⟨hp, h.trans (by decide)⟩

theorem classExpressions_worth_backtick :
    let c : Component := { Component.ofName "Home" with
      features := { ComponentFeatures.none with theming := true }, baseClass := "a`b" }
    appliedClasses? (fun _ => .text "dark") (classExpressions c id) = none ∧
      c.classesFor (.text "dark") (.text "dark") (.text "dark") = ["a`b", "a`b-theme-dark"] := by
  decide +kernel

end Component

end IconCompiler
