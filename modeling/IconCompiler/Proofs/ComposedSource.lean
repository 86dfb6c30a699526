import IconCompiler.Proofs.TaggedText

/-!
Sources that are put together from plain text and sections. Each kind of section is taken out of the whole
text in its turn; it is not found inside a part of another kind, nor where two parts meet.
-/

namespace IconCompiler

open IconCompiler.Text

namespace Text

theorem prefix_append_cases {mark ds rest : List Char} (h : mark <+: ds ++ rest) :
    mark <+: ds ∨ ∃ tail, tail <+: rest ∧ mark = ds ++ tail := by
  rcases List.prefix_or_prefix_of_prefix h (List.prefix_append ds rest) with hm | ⟨tail, rfl⟩
  · exact .inl hm
  · exact .inr ⟨tail, (List.prefix_append_right_inj ds).mp h, rfl⟩

theorem not_prefix_append_mark {before ds rest : List Char} {last : Char} (hl : last ∉ before)
    (hd : ds ≠ []) (h : ¬ before ++ [last] <+: ds) :
    ¬ before ++ [last] <+: ds ++ (before ++ [last] ++ rest) := by
  intro hp
  rcases prefix_append_cases hp with hm | ⟨tail, ht, he⟩
  · exact h hm
  · have hlen := congrArg List.length he
    have hpos := List.length_pos_of_ne_nil hd
    simp only [List.length_append, List.length_singleton] at hlen
    rw [List.append_assoc] at ht
    have hb : tail <+: before :=
      List.prefix_of_prefix_length_le ht (List.prefix_append before _) (by omega)
    rcases List.eq_nil_or_concat tail with rfl | ⟨init, c, rfl⟩
    · exact h ⟨[], by simpa using he⟩
    · rw [List.concat_eq_append, ← List.append_assoc] at he
      obtain ⟨-, hc⟩ := List.append_inj' he rfl
      apply hl
      rw [List.singleton_inj.mp hc]
      exact hb.subset (by simp)

theorem splitAt?_append_mark {before body : List Char} {last : Char} (hl : last ∉ before)
    (hb : ¬ before ++ [last] <:+: body) (rest : List Char) :
    splitAt? (before ++ [last]) (body ++ (before ++ [last] ++ rest)) = some (body, rest) := by
  induction body with
  | nil =>
    obtain ⟨c, cs, hc⟩ := List.exists_cons_of_ne_nil (show before ++ [last] ++ rest ≠ [] by simp)
    have hp : (before ++ [last]).isPrefixOf (c :: cs) = true :=
      List.isPrefixOf_iff_prefix.mpr (hc ▸ List.prefix_append _ _)
    rw [List.nil_append, hc, splitAt?, if_pos hp, ← hc, List.drop_left]
  | cons c body ih =>
    have hn : ¬ before ++ [last] <+: c :: body := fun hp => hb hp.isInfix
    have hp : (before ++ [last]).isPrefixOf (c :: (body ++ (before ++ [last] ++ rest))) = false := by
      rw [Bool.eq_false_iff]
      intro hp
      exact not_prefix_append_mark hl (List.cons_ne_nil c body) hn (List.isPrefixOf_iff_prefix.mp hp)
    rw [List.cons_append, splitAt?, hp, ih fun hi => hb (hi.trans (List.infix_cons (List.infix_refl _)))]
    rfl

end Text

namespace Markup

namespace Section

def foldChar (s : Section) (c : Char) : Char := if s.anyCase then c.toLower else c

def fold (s : Section) (cs : List Char) : List Char := cs.map s.foldChar

theorem opens_iff {s : Section} {cs : List Char} : s.opens cs = true ↔ s.opening <+: s.fold cs := by
  rw [List.prefix_iff_eq_take, opens, fold]
  have hf : s.foldChar = if s.anyCase then Char.toLower else id := by
    funext c
    unfold foldChar
    split <;> rfl
  rw [hf]
  cases s.anyCase <;> simp [lowerAscii, List.map_take, eq_comm (a := s.opening)]

theorem foldChar_eq {s : Section} {c d : Char} (hd : d.toNat < 65) (h : s.foldChar c = d) : c = d := by
  unfold foldChar at h
  split at h
  · exact eq_of_toLower_eq hd h
  · exact h

theorem fold_eq_self {s : Section} (h : s.anyCase = false) (cs : List Char) : s.fold cs = cs := by
  have hf : s.foldChar = id := by
    funext c
    simp [foldChar, h]
  rw [fold, hf, List.map_id]

/-- No section of this kind begins inside the text, whatever follows it. -/
inductive Absent (s : Section) : List Char → Prop
  | nil : Absent s []
  | cons {c : Char} {cs : List Char} (hc : ∀ rest, s.opens (c :: (cs ++ rest)) = false) (hs : Absent s cs) :
    Absent s (c :: cs)

/-- Taking the sections out of the text leaves `kept` of it, whatever follows it. -/
def Leaves (s : Section) (cs kept : List Char) : Prop := ∀ rest, s.strip (cs ++ rest) = kept ++ s.strip rest

theorem leaves_nil (s : Section) : s.Leaves [] [] := fun _ => rfl

theorem Absent.append {s : Section} {cs ds : List Char} (hc : s.Absent cs) (hd : s.Absent ds) :
    s.Absent (cs ++ ds) := by
  induction hc with
  | nil => exact hd
  | cons hc _ ih => exact .cons (fun rest => by simpa using hc (ds ++ rest)) ih

theorem Absent.leaves {s : Section} {cs : List Char} (h : s.Absent cs) : s.Leaves cs cs := by
  intro rest
  induction h with
  | nil => rfl
  | @cons c cs hc _ ih =>
    have hr : s.read? (c :: (cs ++ rest)) = none := by
      rw [read?, hc]
      rfl
    rw [List.cons_append, strip, scan_cons_of_none hr, List.flatMap_cons, ← strip, ih]
    rfl

theorem strip_flatMap {α : Type} {s : Section} {text kept : α → List Char} {parts : List α}
    (h : ∀ p ∈ parts, s.Leaves (text p) (kept p)) : s.strip (parts.flatMap text) = parts.flatMap kept := by
  induction parts with
  | nil => rfl
  | cons p parts ih =>
    rw [List.forall_mem_cons] at h
    rw [List.flatMap_cons, List.flatMap_cons, h.1, ih h.2]

section

variable {s : Section}

theorem leaves_section {start body : List Char} {last : Char} (hs : s.fold start = s.opening)
    (hn : s.opening ≠ []) (hc : s.closing.getLast? = some last) (hl : last ∉ s.closing.dropLast)
    (hb : ¬ s.closing <:+: body) :
    s.Leaves (start ++ body ++ s.closing) (if s.keepsBody then body else []) := by
  intro rest
  have hlen : s.opening.length = start.length := by rw [← hs, fold, List.length_map]
  have ho : s.opens (start ++ (body ++ (s.closing ++ rest))) = true := by
    rw [opens_iff, fold, List.map_append, ← fold, hs]
    exact List.prefix_append _ _
  have hr : s.read? (start ++ (body ++ (s.closing ++ rest))) = some (body, rest) := by
    rw [read?, if_pos ho, hlen, List.drop_left]
    rw [← List.dropLast_append_getLast? last hc] at hb ⊢
    exact splitAt?_append_mark hl hb rest
  obtain ⟨c, cs, rfl⟩ := List.exists_cons_of_ne_nil (show start ≠ [] by
    rintro rfl
    exact hn hs.symm)
  simp only [List.append_assoc, List.cons_append] at hr ⊢
  have hsuffix : rest <:+ cs ++ (body ++ (s.closing ++ rest)) :=
    ⟨cs ++ (body ++ s.closing), by simp⟩
  rw [strip, scan_cons_of_some hr hsuffix, List.flatMap_cons, ← strip]
  rfl

variable {x : Char} {more : List Char} (ho : s.opening = '<' :: x :: more)
include ho

theorem opens_cons_of_ne {c : Char} (hc : c ≠ '<') (cs : List Char) : s.opens (c :: cs) = false := by
  rw [Bool.eq_false_iff]
  intro h
  rw [opens_iff, ho] at h
  exact hc (foldChar_eq (by decide) (List.cons_prefix_cons.mp h).1.symm)

theorem absent_of_not_mem {cs : List Char} (h : '<' ∉ cs) : s.Absent cs := by
  induction cs with
  | nil => exact .nil
  | cons c cs ih =>
    rw [List.mem_cons, not_or] at h
    exact .cons (fun rest => opens_cons_of_ne ho (Ne.symm h.1) _) (ih h.2)

theorem absent_body {body closing : List Char} {c : Char} (hb : ¬ s.opening <:+: s.fold body)
    (hc : c ∉ s.opening) (hf : s.foldChar c = c) (hl : '<' ∉ c :: closing) :
    s.Absent (body ++ c :: closing) := by
  induction body with
  | nil => exact absent_of_not_mem ho hl
  | cons d body ih =>
    refine .cons (fun rest => ?_) (ih fun hi => hb (hi.trans (List.infix_cons (List.infix_refl _))))
    rw [Bool.eq_false_iff]
    intro h
    have hp : s.opening <+: s.fold (d :: body) ++ c :: s.fold (closing ++ rest) := by
      simpa [fold, hf] using opens_iff.mp h
    rcases prefix_append_cases hp with hm | ⟨tail, ht, he⟩
    · exact hb hm.isInfix
    · cases tail with
      | nil => exact hb ⟨[], [], by simpa using he⟩
      | cons e tail =>
        obtain ⟨rfl, -⟩ := List.cons_prefix_cons.mp ht
        exact hc (by simp [he])

theorem absent_plain (hx : x = '!' ∨ x = '?') {cs : List Char} (hm : ¬ ['<', '!'] <:+: cs)
    (hi : ¬ ['<', '?'] <:+: cs) (hl : cs.getLast? ≠ some '<') : s.Absent cs := by
  induction cs with
  | nil => exact .nil
  | cons c cs ih =>
    have hsub {mark : List Char} (hn : ¬ mark <:+: c :: cs) : ¬ mark <:+: cs :=
      fun h => hn (h.trans (List.infix_cons (List.infix_refl _)))
    cases cs with
    | nil => exact absent_of_not_mem ho (by simpa [eq_comm] using hl)
    | cons d cs =>
      refine .cons (fun rest => ?_) (ih (hsub hm) (hsub hi) (by simpa using hl))
      rw [Bool.eq_false_iff]
      intro h
      rw [opens_iff, ho] at h
      obtain ⟨hc, h⟩ := List.cons_prefix_cons.mp h
      obtain ⟨hd, -⟩ := List.cons_prefix_cons.mp h
      obtain rfl := foldChar_eq (by decide) hc.symm
      have hinfix : ['<', d] <:+: '<' :: d :: cs := ⟨[], cs, by simp⟩
      rcases hx with rfl | rfl
      · obtain rfl := foldChar_eq (by decide) hd.symm
        exact hm hinfix
      · obtain rfl := foldChar_eq (by decide) hd.symm
        exact hi hinfix

theorem absent_section {start body closing : List Char} {c : Char}
    (hs : ∀ rest, s.opens ('<' :: (start ++ rest)) = false) (hn : '<' ∉ start)
    (hb : ¬ s.opening <:+: s.fold body) (hc : c ∉ s.opening) (hf : s.foldChar c = c)
    (hl : '<' ∉ c :: closing) : s.Absent ('<' :: start ++ body ++ c :: closing) := by
  rw [List.append_assoc]
  exact Absent.append (.cons hs (absent_of_not_mem ho hn)) (absent_body ho hb hc hf hl)

end

end Section

/-- A part of a source: plain text in which no section begins, or a section that holds neither its own end
nor the beginning of a section that is taken out before it. -/
inductive SourcePart where
  | plain (text : List Char) (noMark : ¬ "<!".toList <:+: text) (noInstruction : ¬ "<?".toList <:+: text)
      (last : text.getLast? ≠ some '<')
  | instruction (body : List Char) (noEnd : ¬ "?>".toList <:+: body)
  | doctype (keyword body : List Char) (spelling : lowerAscii keyword = "doctype".toList) (noEnd : '>' ∉ body)
      (noInstruction : ¬ "<?".toList <:+: body)
  | comment (body : List Char) (noEnd : ¬ "-->".toList <:+: body) (noInstruction : ¬ "<?".toList <:+: body)
      (noDoctype : ¬ "<!doctype".toList <:+: lowerAscii body)
  | characterData (body : List Char) (noEnd : ¬ "]]>".toList <:+: body)
      (noInstruction : ¬ "<?".toList <:+: body) (noDoctype : ¬ "<!doctype".toList <:+: lowerAscii body)
      (noComment : ¬ "<!--".toList <:+: body)

namespace SourcePart

def text : SourcePart → List Char
  | plain text _ _ _ => text
  | instruction body _ => "<?".toList ++ body ++ "?>".toList
  | doctype keyword body _ _ _ => "<!".toList ++ keyword ++ body ++ ">".toList
  | comment body _ _ _ => "<!--".toList ++ body ++ "-->".toList
  | characterData body _ _ _ _ => "<![CDATA[".toList ++ body ++ "]]>".toList

def kept : SourcePart → List Char
  | plain text _ _ _ => text
  | characterData body _ _ _ _ => body
  | _ => []

def round : SourcePart → Nat
  | plain _ _ _ _ => 0
  | instruction _ _ => 1
  | doctype _ _ _ _ _ => 2
  | comment _ _ _ _ => 3
  | characterData _ _ _ _ _ => 4

def textAfter (n : Nat) (p : SourcePart) : List Char := if p.round ≤ n then p.kept else p.text

theorem leaves_textAfter (p : SourcePart) :
    Section.instruction.Leaves (p.textAfter 0) (p.textAfter 1) ∧
      Section.doctype.Leaves (p.textAfter 1) (p.textAfter 2) ∧
      Section.comment.Leaves (p.textAfter 2) (p.textAfter 3) ∧
      Section.characterData.Leaves (p.textAfter 3) (p.textAfter 4) := by
  cases p with
  | plain text hm hi hl =>
    exact ⟨(Section.absent_plain rfl (.inr rfl) hm hi hl).leaves,
      (Section.absent_plain rfl (.inl rfl) hm hi hl).leaves,
      (Section.absent_plain rfl (.inl rfl) hm hi hl).leaves,
      (Section.absent_plain rfl (.inl rfl) hm hi hl).leaves⟩
  | instruction body he =>
    refine ⟨?_, Section.leaves_nil _, Section.leaves_nil _, Section.leaves_nil _⟩
    exact Section.leaves_section rfl (by decide) rfl (by decide) he
  | doctype keyword body hk he hi =>
    have hn : '<' ∉ keyword := by
      intro hm
      have hl : '<' ∈ lowerAscii keyword := List.mem_map.mpr ⟨'<', hm, rfl⟩
      rw [hk] at hl
      exact absurd hl (by decide)
    have hstart : Section.doctype.fold ('<' :: '!' :: keyword) = Section.doctype.opening :=
      congrArg (fun cs => '<' :: '!' :: cs) hk
    have habsent : Section.instruction.Absent ('<' :: ('!' :: keyword) ++ body ++ ['>']) :=
      Section.absent_section rfl (fun rest => rfl) (by simpa using hn)
        (by rw [Section.fold_eq_self rfl]; exact hi) (by decide) rfl (by decide)
    refine ⟨habsent.leaves, ?_, Section.leaves_nil _, Section.leaves_nil _⟩
    exact Section.leaves_section hstart (by decide) rfl (by decide) fun h => he (h.subset (by decide))
  | comment body he hi hd =>
    refine ⟨Section.Absent.leaves ?_, Section.Absent.leaves ?_, ?_, Section.leaves_nil _⟩
    · exact Section.absent_section rfl (fun rest => rfl) (by decide)
        (by rw [Section.fold_eq_self rfl]; exact hi) (by decide) rfl (by decide)
    · exact Section.absent_section rfl (fun rest => rfl) (by decide) hd (by decide) rfl (by decide)
    · exact Section.leaves_section rfl (by decide) rfl (by decide) he
  | characterData body he hi hd hc =>
    refine ⟨Section.Absent.leaves ?_, Section.Absent.leaves ?_, Section.Absent.leaves ?_, ?_⟩
    · exact Section.absent_section rfl (fun rest => rfl) (by decide)
        (by rw [Section.fold_eq_self rfl]; exact hi) (by decide) rfl (by decide)
    · exact Section.absent_section rfl (fun rest => rfl) (by decide) hd (by decide) rfl (by decide)
    · exact Section.absent_section rfl (fun rest => rfl) (by decide)
        (by rw [Section.fold_eq_self rfl]; exact hc) (by decide) rfl (by decide)
    · exact Section.leaves_section rfl (by decide) rfl (by decide) he

end SourcePart

theorem cleanChars_parts (parts : List SourcePart) :
    cleanChars (parts.flatMap SourcePart.text) = trim (collapse (parts.flatMap SourcePart.kept)) := by
  have hstart : SourcePart.textAfter 0 = SourcePart.text := by
    funext p
    cases p <;> rfl
  have hend : SourcePart.textAfter 4 = SourcePart.kept := by
    funext p
    cases p <;> rfl
  rw [cleanChars, ← hstart, Section.strip_flatMap fun p _ => p.leaves_textAfter.1,
    Section.strip_flatMap fun p _ => p.leaves_textAfter.2.1,
    Section.strip_flatMap fun p _ => p.leaves_textAfter.2.2.1,
    Section.strip_flatMap fun p _ => p.leaves_textAfter.2.2.2, hend]

/-- Of a source that is put together from parts, the plain texts and the bodies of the character data stay,
in their order. Then every run of white space becomes one space and the ends are trimmed: what is left are
the runs of other characters with one space between them. -/
theorem clean_parts (parts : List SourcePart) :
    clean (String.ofList (parts.flatMap SourcePart.text)) =
        String.ofList (trim (collapse (parts.flatMap SourcePart.kept))) ∧
      trim (collapse (parts.flatMap SourcePart.kept)) =
        [' '].intercalate (nonBlankRuns (parts.flatMap SourcePart.kept)) := by
  refine ⟨?_, trim_collapse _⟩
  rw [clean, String.toList_ofList, cleanChars_parts]

theorem clean_parts_nested :
    let parts : List SourcePart := [
      .instruction "a <!-- ".toList (by decide +kernel),
      .plain "<svg>".toList (by decide +kernel) (by decide +kernel) (by decide +kernel),
      .doctype "DocType".toList " <!-- [x]".toList (by decide +kernel) (by decide +kernel) (by decide +kernel),
      .comment " <![CDATA[ <!-- ->".toList (by decide +kernel) (by decide +kernel) (by decide +kernel),
      .plain "\n ".toList (by decide +kernel) (by decide +kernel) (by decide +kernel),
      .characterData " a <b>\t".toList (by decide +kernel) (by decide +kernel) (by decide +kernel) (by decide +kernel),
      .plain "</svg>".toList (by decide +kernel) (by decide +kernel) (by decide +kernel)]
    let source := "<?a <!-- ?><svg><!DocType <!-- [x]><!-- <![CDATA[ <!-- ->-->\n <![CDATA[ a <b>\t]]></svg>"
    source = String.ofList (parts.flatMap SourcePart.text) ∧ clean source = "<svg> a <b> </svg>" := by
  intro parts source
  have hs : source = String.ofList (parts.flatMap SourcePart.text) := by decide +kernel
  refine ⟨hs, ?_⟩
  rw [hs, (clean_parts parts).1]
  decide +kernel

end Markup

end IconCompiler
