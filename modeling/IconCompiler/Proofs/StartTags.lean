import IconCompiler.Proofs.CharacterReferences
import IconCompiler.Proofs.Names
import Mathlib.Data.List.Forall2

namespace IconCompiler.Markup

open IconCompiler.Text

inductive Setting where
  | fixed (v : Value)
  | computed (code : String)
  deriving DecidableEq, Repr

def plainChar? : Piece String → Option Char
  | .plain c => some c
  | .item _ => none

def setting? : List (Piece String) → Option Setting
  | [.item code] => some (.computed code)
  | ps => (ps.mapM plainChar?).map fun cs => .fixed (.text (resolve (String.ofList cs)))

theorem setting?_plain (cs : List Char) :
    setting? (cs.map .plain) = some (.fixed (.text (resolve (String.ofList cs)))) := by
  have hm : (cs.map .plain).mapM plainChar? = some cs := by
    induction cs with
    | nil => rfl
    | cons c cs ih => simp [plainChar?, ih]
  rw [setting?, hm, Option.map_some]
  intro code hc
  cases cs <;> simp at hc

section

variable (loose : String → Option (String × Setting))

mutual

def readSettings? : List (Piece String) → Option (List (String × Setting))
  | [] => none
  | .item code :: ps => (loose code).bind fun a => (readSettings? ps).map (a :: ·)
  | .plain c :: ps =>
    if c = '>' then some []
    else if isBlank c then readSettings? ps
    else if isNameStart c then readName? [c] ps
    else none

def readName? (name : List Char) : List (Piece String) → Option (List (String × Setting))
  | .plain '=' :: .item code :: ps => (readSettings? ps).map ((String.ofList name, .computed code) :: ·)
  | .plain '=' :: .plain '"' :: ps => readValue? name [] ps
  | .plain c :: ps => if isNamePart c then readName? (name ++ [c]) ps else none
  | _ => none

def readValue? (name : List Char) (value : List (Piece String)) :
    List (Piece String) → Option (List (String × Setting))
  | [] => none
  | p :: ps =>
    if p = .plain '"' then
      (setting? value).bind fun v => (readSettings? ps).map ((String.ofList name, v) :: ·)
    else readValue? name (value ++ [p]) ps

end

variable {loose}

theorem readName?_append {cs : List Char} (h : ∀ c ∈ cs, isNamePart c = true) (name : List Char)
    (rest : List (Piece String)) :
    readName? loose name (cs.map .plain ++ rest) = readName? loose (name ++ cs) rest := by
  induction cs generalizing name with
  | nil => simp
  | cons c cs ih =>
    rw [List.forall_mem_cons] at h
    have he : c ≠ '=' := by
      rintro rfl
      exact absurd h.1 (by decide)
    rw [List.map_cons, List.cons_append, readName?, if_pos h.1, ih h.2, List.append_assoc, List.singleton_append]
    · exact fun code ps _ hc => he hc
    · exact fun ps _ hc => he hc

theorem readSettings?_name {name : String} (h : isName name = true) (rest : List (Piece String)) :
    readSettings? loose (name.toList.map .plain ++ .plain '=' :: rest) =
      readName? loose name.toList (.plain '=' :: rest) := by
  obtain ⟨c, cs, hs, hc, hd⟩ := isName_iff.mp h
  have hp := isNamePart_of_isNameStart hc
  rw [hs, List.map_cons, List.cons_append, readSettings?, if_neg (ne_of_isNamePart hp).2,
    if_neg (by simp [isBlank_of_isNamePart hp]), if_pos hc, readName?_append hd, List.singleton_append]

theorem readValue?_append {value : List (Piece String)} (h : .plain '"' ∉ value) (name : List Char)
    (before rest : List (Piece String)) :
    readValue? loose name before (value ++ .plain '"' :: rest) =
      (setting? (before ++ value)).bind fun v => (readSettings? loose rest).map ((String.ofList name, v) :: ·) := by
  induction value generalizing before with
  | nil => simp [readValue?]
  | cons p value ih =>
    rw [List.mem_cons, not_or] at h
    rw [List.cons_append, readValue?, if_neg (Ne.symm h.1), ih h.2, List.append_assoc, List.singleton_append]

theorem readSettings?_blank_append {gap : List Char} (h : ∀ c ∈ gap, isBlank c = true) (ps : List (Piece String)) :
    readSettings? loose (gap.map .plain ++ ps) = readSettings? loose ps := by
  induction gap with
  | nil => rfl
  | cons c gap ih =>
    rw [List.forall_mem_cons] at h
    have hc : c ≠ '>' := by
      rintro rfl
      exact absurd h.1 (by decide)
    rw [List.map_cons, List.cons_append, readSettings?, if_neg hc, if_pos h.1, ih h.2]

def Sets (loose : String → Option (String × Setting)) (ps : List (Piece String)) (a : String × Setting) : Prop :=
  ∀ rest, readSettings? loose (ps ++ rest) = (readSettings? loose rest).map (a :: ·)

namespace Sets

theorem blank_append {gap : List Char} (hg : ∀ c ∈ gap, isBlank c = true) {ps : List (Piece String)}
    {a : String × Setting} (h : Sets loose ps a) : Sets loose (gap.map .plain ++ ps) a := by
  intro rest
  rw [List.append_assoc, readSettings?_blank_append hg, h]

theorem quoted {name : String} (hn : isName name = true) {value : List (Piece String)} (hv : .plain '"' ∉ value)
    {v : Setting} (hs : setting? value = some v) :
    Sets loose (name.toList.map .plain ++ .plain '=' :: .plain '"' :: (value ++ [.plain '"'])) (name, v) := by
  intro rest
  have hl : name.toList.map .plain ++ .plain '=' :: .plain '"' :: (value ++ [.plain '"']) ++ rest =
      name.toList.map .plain ++ .plain '=' :: .plain '"' :: (value ++ .plain '"' :: rest) := by simp
  rw [hl, readSettings?_name hn, readName?, readValue?_append hv, List.nil_append, hs, Option.bind_some,
    String.ofList_toList]

theorem text {name : String} (hn : isName name = true) (s : String) :
    Sets loose ((name ++ "=\"" ++ escapeAttribute s ++ "\"").toList.map .plain) (name, .fixed (.text s)) := by
  have hv : (.plain '"' : Piece String) ∉ (escapeAttribute s).toList.map .plain := by
    have hq : '"' ∉ (escapeAttribute s).toList :=
      escapes_attributeEntities.not_mem_replaceEntities (.inr (.inr rfl)) (.inr ⟨⟨'"', "&quot;"⟩, by decide, rfl⟩)
    simpa using hq
  have hs : setting? ((escapeAttribute s).toList.map .plain) = some (.fixed (.text s)) := by
    rw [setting?_plain, String.ofList_toList, escapeAttribute, resolvable_attributeEntities.resolve_replaceEntities]
  have h : Sets loose _ (name, _) := quoted hn hv hs
  simpa using h

theorem code {name : String} (hn : isName name = true) (code : String) :
    Sets loose (name.toList.map .plain ++ [.plain '=', .item code]) (name, .computed code) := by
  intro rest
  rw [List.append_assoc, List.cons_append, readSettings?_name hn]
  simp [readName?]

theorem item {code : String} {a : String × Setting} (h : loose code = some a) : Sets loose [.item code] a := by
  intro rest
  rw [List.singleton_append, readSettings?, h, Option.bind_some]

end Sets

theorem readSettings?_of_sets {pss : List (List (Piece String))} {as : List (String × Setting)}
    (h : List.Forall₂ (Sets loose) pss as) (rest : List (Piece String)) :
    readSettings? loose (pss.flatten ++ .plain '>' :: rest) = some as := by
  induction h with
  | nil => simp [readSettings?]
  | cons h _ ih => rw [List.flatten_cons, List.append_assoc, h, ih, Option.map_some]

end

end IconCompiler.Markup
