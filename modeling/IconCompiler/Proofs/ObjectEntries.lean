import IconCompiler.Proofs.CallArguments
import IconCompiler.Proofs.StartTags

namespace IconCompiler.Script

open IconCompiler.Emit IconCompiler.Markup IconCompiler.Number IconCompiler.Text

def isCodeChar (c : Char) : Bool := isNamePart c || c == ' ' || c == ',' || c == '(' || c == ')'

def readBare? (depth : Nat) : List Char → Option (List Char × List Char)
  | [] => none
  | c :: cs =>
    if c = ',' ∧ depth = 0 then some ([], c :: cs)
    else if c = ')' ∧ depth = 0 ∨ isCodeChar c = false then none
    else
      let depth := if c = '(' then depth + 1 else if c = ')' then depth - 1 else depth
      (readBare? depth cs).map fun r => (c :: r.1, r.2)

def settingOf (code : List Char) : Setting :=
  if code = "true".toList then .fixed (.flag true)
  else if code = "false".toList then .fixed (.flag false)
  else
    match Decimal.read? code with
    | some d => .fixed (.number d.toBinary64)
    | none => .computed (String.ofList code)

def readSetting? (cs : List Char) : Option (Setting × List Char) :=
  match readQuoted? cs with
  | some r => some (.fixed (.text r.1), r.2)
  | none => (readBare? 0 cs).map fun r => (settingOf r.1, r.2)

def readKey? (cs : List Char) : Option (String × List Char) :=
  match readQuoted? cs with
  | some r => some r
  | none =>
    let (name, rest) := cs.span isIdentifierPart
    if isIdentifier (String.ofList name) then some (String.ofList name, rest) else none

def readPair? (cs : List Char) : Option ((String × Setting) × List Char) :=
  (readKey? cs).bind fun k =>
    match trimLeft k.2 with
    | ':' :: cs =>
      (readSetting? (trimLeft cs)).bind fun v =>
        match v.2 with
        | ',' :: rest => some ((k.1, v.1), rest)
        | _ => none
    | _ => none

def readEntries? (cs : List Char) : Option (List (String × Setting)) :=
  match trimLeft cs with
  | '\x7d' :: _ => some []
  | ds =>
    (readPair? ds).bind fun r =>
      if r.2.length < cs.length then (readEntries? r.2).map (r.1 :: ·) else none
termination_by cs.length

theorem readBare?_of_name {cs : List Char} (h : ∀ c ∈ cs, isNamePart c = true) (rest : List Char) :
    readBare? 0 (cs ++ ',' :: rest) = some (cs, ',' :: rest) := by
  induction cs with
  | nil => simp [readBare?]
  | cons c cs ih =>
    rw [List.forall_mem_cons] at h
    have hc : ∀ d, isNamePart d = false → c ≠ d := by
      rintro d hd rfl
      exact absurd h.1 (by simp [hd])
    simp [readBare?, hc ',' (by decide), hc ')' (by decide), hc '(' (by decide), isCodeChar, h.1, ih h.2]

theorem readQuoted?_eq_none {cs : List Char} (h : '\x27' ∉ cs.head?) : readQuoted? cs = none := by
  unfold readQuoted?
  split
  · exact absurd rfl h
  · rfl

theorem exists_cons_of_isIdentifier {s : String} (h : isIdentifier s = true) :
    ∃ c cs, s.toList = c :: cs ∧ isIdentifierPart c = true := by
  have hne : s.toList ≠ [] := by
    intro hn
    simp [isIdentifier, hn] at h
  obtain ⟨c, cs, hc⟩ := List.exists_cons_of_ne_nil hne
  exact ⟨c, cs, hc, isIdentifierPart_of_isIdentifier h c (by simp [hc])⟩

theorem isBlank_of_isIdentifierPart {c : Char} (h : isIdentifierPart c = true) : isBlank c = false := by
  simp only [isIdentifierPart, Bool.or_eq_true, beq_iff_eq] at h
  rcases h with (h | rfl) | rfl
  · exact isBlank_of_isNamePart (by simp [isNamePart, h])
  · decide
  · decide

theorem exists_toList_objectKey (s : String) :
    ∃ c cs, (objectKey s).toList = c :: cs ∧ isBlank c = false ∧ c ≠ '\x7d' := by
  unfold objectKey
  split_ifs with hs
  · obtain ⟨c, cs, hc, hp⟩ := exists_cons_of_isIdentifier hs
    refine ⟨c, cs, hc, isBlank_of_isIdentifierPart hp, ?_⟩
    rintro rfl
    exact absurd hp (by decide)
  · exact ⟨_, _, toList_quoted s, by decide, by decide⟩

theorem readKey?_objectKey (s : String) {rest : List Char} (h : ∀ c ∈ rest.head?, isIdentifierPart c = false) :
    readKey? ((objectKey s).toList ++ rest) = some (s, rest) := by
  unfold objectKey
  split_ifs with hs
  · have hq : readQuoted? (s.toList ++ rest) = none := by
      obtain ⟨c, cs, hc, hp⟩ := exists_cons_of_isIdentifier hs
      apply readQuoted?_eq_none
      rw [hc]
      rintro hm
      cases hm
      exact absurd hp (by decide)
    have hspan := span_append (isIdentifierPart_of_isIdentifier hs) h
    simp only [readKey?, hq, hspan, String.ofList_toList, hs, if_true]
  · simp only [readKey?, readQuoted?_append]

structure Gives (text : String) (v : Setting) : Prop where
  head : ∀ c ∈ text.toList.head?, isBlank c = false
  read : ∀ rest, readSetting? (text.toList ++ ',' :: rest) = some (v, ',' :: rest)

theorem gives_quoted (s : String) : Gives (quoted s) (.fixed (.text s)) := by
  constructor
  · rw [toList_quoted]
    simp [isBlank]
  · intro rest
    simp only [readSetting?, readQuoted?_append]

theorem gives_bare {text : String} (h : ∀ c ∈ text.toList, isNamePart c = true) :
    Gives text (settingOf text.toList) := by
  constructor
  · intro c hc
    exact isBlank_of_isNamePart (h c (List.mem_of_mem_head? hc))
  · intro rest
    have hq : readQuoted? (text.toList ++ ',' :: rest) = none := by
      apply readQuoted?_eq_none
      cases hs : text.toList with
      | nil => simp
      | cons c cs =>
        rintro hm
        cases hm
        exact absurd (h '\x27' (by simp [hs])) (by decide)
    simp only [readSetting?, hq, readBare?_of_name h, Option.map_some]

theorem settingOf_number {x : Binary64} (h : x.isFinite = true) : settingOf x.text.toList = .fixed (.number x) := by
  have htrue : x.text.toList ≠ "true".toList :=
    fun hb => Vue.number_text_ne_flagText x true (String.toList_inj.mp hb)
  have hfalse : x.text.toList ≠ "false".toList :=
    fun hb => Vue.number_text_ne_flagText x false (String.toList_inj.mp hb)
  have hread := read?_chars h
  obtain ⟨d, hd, hx⟩ := Option.map_eq_some_iff.mp hread
  have hchars : x.text.toList = x.chars := String.toList_ofList
  rw [settingOf, if_neg htrue, if_neg hfalse, hchars, hd]
  simp only [hx]

theorem gives_valueText {v : Value} (h : ∀ x, v = .number x → x.isFinite = true) :
    Gives (Vue.valueText v) (.fixed v) := by
  cases v with
  | text s => exact gives_quoted s
  | number x =>
    rw [← settingOf_number (h x rfl)]
    exact gives_bare (nameText_number x)
  | flag b =>
    have hb : settingOf (Value.flagText b).toList = .fixed (.flag b) := by cases b <;> rfl
    rw [← hb]
    exact gives_bare (nameText_flagText b)

theorem readPair?_append (key : String) {text : String} {v : Setting} (h : Gives text v) (rest : List Char) :
    readPair? ((objectKey key ++ ": " ++ text ++ ",").toList ++ rest) = some ((key, v), rest) := by
  have hl : (objectKey key ++ ": " ++ text ++ ",").toList ++ rest =
      (objectKey key).toList ++ ':' :: ' ' :: (text.toList ++ ',' :: rest) := by simp
  have hk : readKey? ((objectKey key).toList ++ ':' :: ' ' :: (text.toList ++ ',' :: rest)) =
      some (key, ':' :: ' ' :: (text.toList ++ ',' :: rest)) :=
    readKey?_objectKey key (by simp; decide)
  have hcolon : trimLeft (':' :: ' ' :: (text.toList ++ ',' :: rest)) = ':' :: ' ' :: (text.toList ++ ',' :: rest) :=
    rfl
  have hv : trimLeft (' ' :: (text.toList ++ ',' :: rest)) = text.toList ++ ',' :: rest := by
    have hblank : ∀ c ∈ [' '], isBlank c = true := by simp [isBlank]
    refine trimLeft_append hblank ?_
    cases hs : text.toList with
    | nil => simp [isBlank]
    | cons c cs => simpa [hs] using h.head
  rw [readPair?, hl, hk, Option.bind_some]
  simp only [hcolon, hv, h.read, Option.bind_some]

theorem readEntries?_append {gap : List Char} (hg : ∀ c ∈ gap, isBlank c = true) (key : String) {text : String}
    {v : Setting} (h : Gives text v) (rest : List Char) :
    readEntries? (gap ++ ((objectKey key ++ ": " ++ text ++ ",").toList ++ rest)) =
      (readEntries? rest).map ((key, v) :: ·) := by
  have he := readPair?_append key h rest
  obtain ⟨c, cs, hk, hb, hc⟩ := exists_toList_objectKey key
  obtain ⟨ds, hd⟩ : ∃ ds, (objectKey key ++ ": " ++ text ++ ",").toList ++ rest = c :: ds ∧
      rest.length ≤ ds.length := by
    refine ⟨cs ++ ((": " ++ text ++ ",").toList ++ rest), ?_, ?_⟩
    · simp [hk]
    · simp only [List.length_append]
      omega
  rw [hd.1] at he ⊢
  have ht : trimLeft (gap ++ c :: ds) = c :: ds := trimLeft_append hg (by simpa using hb)
  have hlen : rest.length < (gap ++ c :: ds).length := by
    rw [List.length_append, List.length_cons]
    omega
  rw [readEntries?, ht]
  split
  · next hm => exact absurd (List.cons.inj hm).1 hc
  · rw [he, Option.bind_some, if_pos hlen]

def IsEntry (e : String) (a : String × Setting) : Prop := ∃ text, e = objectKey a.1 ++ ": " ++ text ∧ Gives text a.2

theorem readEntries?_of_isEntry {es : List String} {as : List (String × Setting)} (h : List.Forall₂ IsEntry es as)
    {gap last : List Char} (hg : ∀ c ∈ gap, isBlank c = true) (hl : ∀ c ∈ last, isBlank c = true) (rest : List Char) :
    readEntries? ((es.flatMap fun e => gap ++ (e ++ ",").toList) ++ (last ++ '\x7d' :: rest)) = some as := by
  induction h with
  | nil =>
    have ht : trimLeft (last ++ '\x7d' :: rest) = '\x7d' :: rest := trimLeft_append hl (by simp; decide)
    rw [List.flatMap_nil, List.nil_append, readEntries?, ht]
    rfl
  | cons he _ ih =>
    obtain ⟨text, rfl, hv⟩ := he
    rw [List.flatMap_cons, List.append_assoc, List.append_assoc, readEntries?_append hg _ hv, ih, Option.map_some]

end IconCompiler.Script
