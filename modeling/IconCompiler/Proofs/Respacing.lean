import IconCompiler.Proofs.ComposedSource
import IconCompiler.Proofs.ReadOutcome

/-!
Sources that differ only in how their white space is written. Taking out sections keeps that difference small:
no mark holds white space, so that both sources have their sections at the same places.
-/

namespace IconCompiler

open IconCompiler.Text

namespace Text

theorem toLower_of_isBlank {c : Char} (h : isBlank c = true) : c.toLower = c := by
  unfold Char.toLower
  split
  · next hu =>
    exfalso
    have hl : 65 ≤ c.toNat := hu.1
    have hh : c.toNat ≤ 90 := hu.2
    simp only [isBlank, Bool.or_eq_true, Bool.and_eq_true, decide_eq_true_eq, beq_iff_eq] at h
    omega
  · rfl

/-- The texts are the same but for the characters and the lengths of their runs of white space. -/
inductive Respaced : List Char → List Char → Prop
  | nil : Respaced [] []
  | cons {c : Char} {cs ds : List Char} (hc : isBlank c = false) (h : Respaced cs ds) : Respaced (c :: cs) (c :: ds)
  | gap {ws vs cs ds : List Char} (hw : Gap ws) (hv : Gap vs) (h : Respaced cs ds) : Respaced (ws ++ cs) (vs ++ ds)

theorem collapseFrom_gap {ws : List Char} (h : Gap ws) (afterBlank : Bool) (cs : List Char) :
    collapseFrom afterBlank (ws ++ cs) = (if afterBlank then [] else [' ']) ++ collapseFrom true cs := by
  obtain ⟨w, ws, rfl⟩ := List.exists_cons_of_ne_nil h.ne_nil
  have hw := List.forall_mem_cons.mp h.blank
  have hs : ∀ vs : List Char, (∀ c ∈ vs, isBlank c = true) → collapseFrom true (vs ++ cs) = collapseFrom true cs := by
    intro vs hv
    induction vs with
    | nil => rfl
    | cons v vs ih =>
      rw [List.forall_mem_cons] at hv
      rw [List.cons_append, collapseFrom, hv.1]
      exact ih hv.2
  rw [List.cons_append, collapseFrom, hw.1, hs ws hw.2]
  cases afterBlank <;> rfl

namespace Respaced

variable {cs ds es fs : List Char}

theorem symm (h : Respaced cs ds) : Respaced ds cs := by
  induction h with
  | nil => exact .nil
  | cons hc _ ih => exact .cons hc ih
  | gap hw hv _ ih => exact .gap hv hw ih

theorem append (h : Respaced cs ds) (h' : Respaced es fs) : Respaced (cs ++ es) (ds ++ fs) := by
  induction h with
  | nil => exact h'
  | cons hc _ ih => exact .cons hc ih
  | gap hw hv _ ih =>
    rw [List.append_assoc, List.append_assoc]
    exact .gap hw hv ih

theorem collapseFrom_eq (h : Respaced cs ds) (afterBlank : Bool) :
    collapseFrom afterBlank cs = collapseFrom afterBlank ds := by
  induction h generalizing afterBlank with
  | nil => rfl
  | cons hc _ ih => simp only [collapseFrom, hc, Bool.false_eq_true, if_false, ih]
  | gap hw hv _ ih => rw [collapseFrom_gap hw, collapseFrom_gap hv, ih]

theorem of_cons {c : Char} (hc : isBlank c = false) (h : Respaced (c :: cs) ds) :
    ∃ rest, ds = c :: rest ∧ Respaced cs rest := by
  generalize hs : c :: cs = all at h
  cases h with
  | nil => cases hs
  | cons _ h =>
    cases hs
    exact ⟨_, rfl, h⟩
  | gap hw _ _ =>
    obtain ⟨w, ws, rfl⟩ := List.exists_cons_of_ne_nil hw.ne_nil
    cases hs
    rw [hw.blank c List.mem_cons_self] at hc
    cases hc

theorem drop_mark {f : Char → Char} (hf : ∀ c, isBlank c = true → isBlank (f c) = true) {mark : List Char}
    (hm : ∀ c ∈ mark, isBlank c = false) (h : Respaced cs ds) (hp : mark <+: cs.map f) :
    mark <+: ds.map f ∧ Respaced (cs.drop mark.length) (ds.drop mark.length) := by
  induction mark generalizing cs ds with
  | nil => exact ⟨List.nil_prefix, h⟩
  | cons m mark ih =>
    rw [List.forall_mem_cons] at hm
    cases cs with
    | nil => simp at hp
    | cons c cs =>
      obtain ⟨rfl, hs⟩ := List.cons_prefix_cons.mp hp
      have hc : isBlank c = false := by
        rw [Bool.eq_false_iff]
        intro hb
        rw [hf c hb] at hm
        cases hm.1
      obtain ⟨rest, rfl, hr⟩ := h.of_cons hc
      obtain ⟨hs, hd⟩ := ih hm.2 hr hs
      exact ⟨List.cons_prefix_cons.mpr ⟨rfl, hs⟩, hd⟩

end Respaced

theorem respaced_collapse (cs : List Char) : Respaced cs (collapse cs) := by
  -- The white space before `cs` belongs to the run that `cs` may begin with.
  have h : Respaced cs (collapseFrom false cs) ∧
      ∀ ws, Gap ws → Respaced (ws ++ cs) ([' '] ++ collapseFrom true cs) := by
    induction cs with
    | nil => exact ⟨.nil, fun ws hw => .gap hw (gap_singleton rfl) .nil⟩
    | cons c cs ih =>
      cases hc : isBlank c with
      | false =>
        simp only [collapseFrom, hc, Bool.false_eq_true, if_false]
        exact ⟨.cons hc ih.1, fun ws hw => .gap hw (gap_singleton rfl) (.cons hc ih.1)⟩
      | true =>
        simp only [collapseFrom, hc, if_true, Bool.false_eq_true, if_false]
        refine ⟨ih.2 [c] (gap_singleton hc), fun ws hw => ?_⟩
        have hr := ih.2 (ws ++ [c]) (hw.append_singleton hc)
        rwa [List.append_assoc] at hr
  exact h.1

theorem splitAt?_isSuffix {mark cs before after : List Char} (h : splitAt? mark cs = some (before, after)) :
    after <:+ cs := by
  induction cs generalizing before with
  | nil =>
    rw [splitAt?] at h
    split at h <;> cases h
    exact List.suffix_rfl
  | cons c cs ih =>
    rw [splitAt?] at h
    split at h
    · cases h
      exact List.drop_suffix _ _
    · obtain ⟨r, hr, he⟩ := Option.map_eq_some_iff.mp h
      cases he
      exact (ih hr).trans (List.suffix_cons c cs)

section

variable {mark : List Char} (hn : mark ≠ []) (hm : ∀ c ∈ mark, isBlank c = false)

include hn hm

theorem splitAt?_blank_append {ws : List Char} (hw : ∀ c ∈ ws, isBlank c = true) (cs : List Char) :
    splitAt? mark (ws ++ cs) = (splitAt? mark cs).map fun r => (ws ++ r.1, r.2) := by
  induction ws with
  | nil => simp
  | cons w ws ih =>
    rw [List.forall_mem_cons] at hw
    have hp : mark.isPrefixOf (w :: (ws ++ cs)) = false := by
      rw [Bool.eq_false_iff]
      intro hp
      obtain ⟨m, mark, rfl⟩ := List.exists_cons_of_ne_nil hn
      obtain ⟨rfl, -⟩ := List.cons_prefix_cons.mp (List.isPrefixOf_iff_prefix.mp hp)
      rw [hm m List.mem_cons_self] at hw
      cases hw.1
    rw [List.cons_append, splitAt?, hp, ih hw.2]
    cases splitAt? mark cs <;> rfl

theorem Respaced.splitAt? {cs ds before after : List Char} (h : Respaced cs ds)
    (hs : splitAt? mark cs = some (before, after)) :
    ∃ before' after', splitAt? mark ds = some (before', after') ∧ Respaced before before' ∧ Respaced after after' := by
  induction h generalizing before with
  | nil => simp [Text.splitAt?, hn] at hs
  | @cons c cs ds hc h ih =>
    have hd {es fs : List Char} (hr : Respaced es fs) (hp : mark.isPrefixOf es = true) :
        mark.isPrefixOf fs = true ∧ Respaced (es.drop mark.length) (fs.drop mark.length) := by
      rw [List.isPrefixOf_iff_prefix] at hp ⊢
      have hdrop := hr.drop_mark (f := id) (fun _ hb => hb) hm (by simpa using hp)
      simpa using hdrop
    rw [Text.splitAt?] at hs ⊢
    split at hs
    · next hp =>
      obtain ⟨hq, hr⟩ := hd (.cons hc h) hp
      cases hs
      exact ⟨[], _, if_pos hq, .nil, hr⟩
    · next hp =>
      obtain ⟨r, hr, he⟩ := Option.map_eq_some_iff.mp hs
      cases he
      obtain ⟨before', after', hs', hb, ha⟩ := ih hr
      rw [if_neg fun hq => hp (hd (Respaced.cons hc h).symm hq).1, hs']
      exact ⟨c :: before', after', rfl, .cons hc hb, ha⟩
  | @gap ws vs cs ds hw hv h ih =>
    rw [splitAt?_blank_append hn hm hw.blank] at hs
    obtain ⟨r, hr, he⟩ := Option.map_eq_some_iff.mp hs
    cases he
    obtain ⟨before', after', hs', hb, ha⟩ := ih hr
    rw [splitAt?_blank_append hn hm hv.blank, hs']
    exact ⟨vs ++ before', after', rfl, .gap hw hv hb, ha⟩

end

end Text

namespace Markup

namespace Section

structure Solid (s : Section) : Prop where
  opening : s.opening.any isBlank = false
  closing : s.closing.any isBlank = false
  begins : ∃ x more, s.opening = '<' :: x :: more
  ends : s.closing ≠ []

theorem isBlank_foldChar (s : Section) {c : Char} (h : isBlank c = true) : isBlank (s.foldChar c) = true := by
  unfold foldChar
  split
  · rw [toLower_of_isBlank h]
    exact h
  · exact h

variable {s : Section} (hs : s.Solid)

include hs

theorem opens_of_respaced {cs ds : List Char} (h : Respaced cs ds) (ho : s.opens cs = true) :
    s.opens ds = true ∧ Respaced (cs.drop s.opening.length) (ds.drop s.opening.length) := by
  rw [opens_iff] at ho ⊢
  exact h.drop_mark (fun c => s.isBlank_foldChar) (by simpa using hs.opening) ho

theorem read?_of_respaced {cs ds body rest : List Char} (h : Respaced cs ds) (hr : s.read? cs = some (body, rest)) :
    ∃ body' rest', s.read? ds = some (body', rest') ∧ Respaced body body' ∧ Respaced rest rest' := by
  rw [read?] at hr ⊢
  split at hr
  · next ho =>
    obtain ⟨ho, hd⟩ := opens_of_respaced hs h ho
    rw [if_pos ho]
    exact hd.splitAt? hs.ends (by simpa using hs.closing) hr
  · cases hr

theorem strip_of_read? {c : Char} {cs body rest : List Char} (h : s.read? (c :: cs) = some (body, rest)) :
    rest <:+ cs ∧ s.strip (c :: cs) = (if s.keepsBody then body else []) ++ s.strip rest := by
  have hr : rest <:+ cs := by
    rw [read?] at h
    split at h
    · obtain ⟨x, more, ho⟩ := hs.begins
      rw [ho] at h
      exact (splitAt?_isSuffix h).trans (List.drop_suffix (x :: more).length cs)
    · cases h
  refine ⟨hr, ?_⟩
  rw [strip, scan_cons_of_some h hr]
  rfl

theorem respaced_strip {cs ds : List Char} (h : Respaced cs ds) : Respaced (s.strip cs) (s.strip ds) := by
  -- A section takes out more than one character, so that the induction is on the length.
  induction hn : cs.length using Nat.strong_induction_on generalizing cs ds with
  | _ n ih =>
    subst hn
    cases h with
    | nil => exact .nil
    | @cons c cs ds hc h =>
      cases hp : s.read? (c :: cs) with
      | none =>
        have hq : s.read? (c :: ds) = none := by
          rw [Option.eq_none_iff_forall_ne_some]
          rintro ⟨body, rest⟩ hq
          obtain ⟨_, _, he, -⟩ := read?_of_respaced hs (Respaced.cons hc h).symm hq
          rw [hp] at he
          cases he
        rw [strip, scan_cons_of_none hp, strip, scan_cons_of_none hq]
        exact .cons hc (ih cs.length (by simp) h rfl)
      | some p =>
        obtain ⟨body, rest⟩ := p
        obtain ⟨body', rest', hq, hb, hr⟩ := read?_of_respaced hs (.cons hc h) hp
        obtain ⟨hsuffix, hstrip⟩ := strip_of_read? hs hp
        have hlen : rest.length < (c :: cs).length := Nat.lt_succ_of_le hsuffix.length_le
        rw [hstrip, (strip_of_read? hs hq).2]
        apply Respaced.append
        · split
          · exact hb
          · exact .nil
        · exact ih rest.length hlen hr rfl
    | @gap ws vs cs ds hw hv h =>
      obtain ⟨x, more, ho⟩ := hs.begins
      have hl {us : List Char} (hu : Gap us) : s.Leaves us us :=
        (absent_of_not_mem ho fun hm => absurd (hu.blank _ hm) (by decide)).leaves
      have hlen : cs.length < (ws ++ cs).length := by
        have := List.length_pos_of_ne_nil hw.ne_nil
        rw [List.length_append]
        omega
      rw [hl hw, hl hv]
      exact .gap hw hv (ih cs.length hlen h rfl)

end Section

theorem cleanChars_of_respaced {cs ds : List Char} (h : Respaced cs ds) : cleanChars cs = cleanChars ds := by
  have hi : Section.instruction.Solid := ⟨by decide, by decide, ⟨_, _, rfl⟩, by decide⟩
  have hd : Section.doctype.Solid := ⟨by decide, by decide, ⟨_, _, rfl⟩, by decide⟩
  have hc : Section.comment.Solid := ⟨by decide, by decide, ⟨_, _, rfl⟩, by decide⟩
  have hx : Section.characterData.Solid := ⟨by decide, by decide, ⟨_, _, rfl⟩, by decide⟩
  have hr := Section.respaced_strip hx (Section.respaced_strip hc
    (Section.respaced_strip hd (Section.respaced_strip hi h)))
  rw [cleanChars, cleanChars, collapse, collapse, hr.collapseFrom_eq]

theorem clean_of_respaced {source other : String} (h : Respaced source.toList other.toList) :
    clean other = clean source := by
  rw [clean, clean, cleanChars_of_respaced h]

theorem read_of_clean_eq {source other : String} (h : clean other = clean source) :
    Document.read other = (Document.read source).map fun doc => { doc with source := other } := by
  by_cases hn : clean source = ""
  · simp [Document.read, h, hn, Except.map]
  · have ho : clean other ≠ "" := by rwa [h]
    have hs : tokenize (clean other) = tokenize (clean source) := by rw [h]
    cases ht : tokenize (clean source) with
    | error e =>
      rw [read_eq_of_error hn ht, read_eq_of_error ho (hs.trans ht)]
      rfl
    | ok tokens =>
      rw [read_eq_of_tokenize hn ht, read_eq_of_tokenize ho (hs.trans ht)]
      cases Element.ofTokens tokens <;> rfl

/-- How white space is written does not matter, whatever stands around it. A clean text has white space only as
single spaces between other characters. -/
theorem clean_respacing (source : String) :
    clean (String.ofList (collapse source.toList)) = clean source ∧
      (∀ other : String, Respaced source.toList other.toList →
        clean other = clean source ∧ tokenize (clean other) = tokenize (clean source) ∧
          Document.read other = (Document.read source).map fun doc => { doc with source := other }) ∧
      SingleSpaced (clean source).toList := by
  refine ⟨?_, ?_, singleSpaced_clean source⟩
  · apply clean_of_respaced
    rw [String.toList_ofList]
    exact respaced_collapse source.toList
  · intro other h
    have hc := clean_of_respaced h
    exact ⟨hc, by rw [hc], read_of_clean_eq hc⟩

theorem clean_respacing_mixed :
    let source := "<svg\t\nd='\u2003 '><!-- \t--><![CDATA[a\n ]]>\t</svg>"
    let other := "<svg d=' '><!-- --><![CDATA[a ]]> </svg>"
    Respaced source.toList other.toList ∧
      Document.read source = .ok ⟨⟨[("d", .text " ")]⟩, [], source⟩ ∧
      Document.read other = .ok ⟨⟨[("d", .text " ")]⟩, [], other⟩ := by
  intro source other
  have hc : collapse source.toList = other.toList := by decide +kernel
  have hs : Respaced source.toList other.toList := by
    rw [← hc]
    exact respaced_collapse source.toList
  have hr : Document.read source = .ok ⟨⟨[("d", .text " ")]⟩, [], source⟩ := by decide +kernel
  have ho := ((clean_respacing source).2.1 other hs).2.2
  rw [hr] at ho
  exact ⟨hs, hr, ho⟩

end Markup

end IconCompiler
