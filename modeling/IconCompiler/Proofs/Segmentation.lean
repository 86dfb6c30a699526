import IconCompiler.Proofs.OpenElements
import IconCompiler.Proofs.Spacing
import Mathlib.Order.Bounds.Basic

namespace IconCompiler.Markup

open IconCompiler.Text

theorem segments_tag {body : List Char} (hb : '>' ∉ body) (rest : List Char) :
    segments ('<' :: (body ++ '>' :: rest)) = .tag body :: segments rest := by
  have hs : (body ++ '>' :: rest).span (fun d => d != '>') = (body, '>' :: rest) :=
    span_append (fun c hc => by simpa using ne_of_mem_of_not_mem hc hb) (by simp)
  have hr : Segment.read? ('<' :: (body ++ '>' :: rest)) = some (.tag body, rest) := by
    simp only [Segment.read?, if_true, hs]
  rw [segments, scan_cons_of_some hr ((List.suffix_cons _ _).trans (List.suffix_append _ _))]
  rfl

theorem segments_run {run : List Char} (hn : run ≠ []) (hr : '<' ∉ run) {rest : List Char}
    (hl : ∀ c ∈ rest.head?, c = '<') : segments (run ++ rest) = .run run :: segments rest := by
  obtain ⟨c, cs, rfl⟩ := List.exists_cons_of_ne_nil hn
  have hp : ∀ d ∈ c :: cs, (d != '<') = true := fun d hd => by simpa using ne_of_mem_of_not_mem hd hr
  have hs : (c :: (cs ++ rest)).span (fun d => d != '<') = (c :: cs, rest) :=
    span_append hp fun d hd => by simpa using hl d hd
  have hc : c ≠ '<' := ne_of_mem_of_not_mem List.mem_cons_self hr
  have hg : Segment.read? (c :: (cs ++ rest)) = some (.run (c :: cs), rest) := by
    simp only [Segment.read?, hc, if_false, hs]
  rw [segments, List.cons_append, scan_cons_of_some hg (List.suffix_append _ _)]
  rfl

theorem segments_unclosed {rest : List Char} (hr : '>' ∉ rest) :
    segments ('<' :: rest) = [.unclosed rest] := by
  have hs : rest.span (fun d => d != '>') = (rest, []) :=
    span_eq_self fun c hc => by simpa using ne_of_mem_of_not_mem hc hr
  have hg : Segment.read? ('<' :: rest) = some (.unclosed rest, []) := by
    simp only [Segment.read?, if_true, hs]
  rw [segments, scan_cons_of_some hg List.nil_suffix]
  rfl

/-- The text is a row of tags, of runs that reach to the next `<`, and at its end perhaps a tag that never ends. -/
inductive Cut : List Char → List Segment → Prop
  | nil : Cut [] []
  | tag {body rest : List Char} {ss : List Segment} (hb : '>' ∉ body) (h : Cut rest ss) :
      Cut ('<' :: (body ++ '>' :: rest)) (.tag body :: ss)
  | run {text rest : List Char} {ss : List Segment} (hn : text ≠ []) (ht : '<' ∉ text)
      (hl : ∀ c ∈ rest.head?, c = '<') (h : Cut rest ss) : Cut (text ++ rest) (.run text :: ss)
  | unclosed {rest : List Char} (hr : '>' ∉ rest) : Cut ('<' :: rest) [.unclosed rest]

theorem cut_segments (cs : List Char) : Cut cs (segments cs) := by
  induction h : cs.length using Nat.strong_induction_on generalizing cs with
  | _ n ih =>
    subst h
    match cs with
    | [] => exact .nil
    | c :: cs =>
      by_cases hc : c = '<'
      · subst hc
        by_cases hg : '>' ∈ cs
        · obtain ⟨body, rest, rfl, hb⟩ := List.eq_append_cons_of_mem hg
          rw [segments_tag hb]
          exact .tag hb (ih rest.length (by simp; omega) rest rfl)
        · rw [segments_unclosed hg]
          exact .unclosed hg
      · obtain ⟨text, rest, he, ht, hl⟩ : ∃ text rest, c :: cs = text ++ rest ∧ '<' ∉ text ∧
            ∀ c ∈ rest.head?, c = '<' := by
          by_cases hm : '<' ∈ c :: cs
          · obtain ⟨text, rest, he, ht⟩ := List.eq_append_cons_of_mem hm
            exact ⟨text, '<' :: rest, he, ht, by simp⟩
          · exact ⟨c :: cs, [], by simp, hm, by simp⟩
        have hn : text ≠ [] := by
          rintro rfl
          apply hc
          apply hl
          rw [← List.nil_append rest, ← he]
          rfl
        have hlen : rest.length < (c :: cs).length := by
          rw [he, List.length_append]
          have := List.length_pos_iff.mpr hn
          omega
        rw [he, segments_run hn ht hl]
        exact .run hn ht hl (ih rest.length hlen rest rfl)

def OpensAt (cs : List Char) (offset : Nat) : Prop :=
  ∃ before after, cs = before ++ '<' :: after ∧ byteLength before = offset

def DanglesAt (cs : List Char) (offset : Nat) : Prop :=
  ∃ before after, cs = before ++ '<' :: after ∧ '>' ∉ after ∧ byteLength before = offset

theorem OpensAt.append {rest : List Char} {offset : Nat} (h : OpensAt rest offset) (cs : List Char) :
    OpensAt (cs ++ rest) (byteLength cs + offset) := by
  obtain ⟨before, after, rfl, rfl⟩ := h
  exact ⟨cs ++ before, after, by simp, by simp⟩

theorem DanglesAt.opensAt {cs : List Char} {offset : Nat} (h : DanglesAt cs offset) : OpensAt cs offset := by
  obtain ⟨before, after, he, -, ho⟩ := h
  exact ⟨before, after, he, ho⟩

def Closed (cs : List Char) : Prop := ∀ before after, cs = before ++ '<' :: after → '>' ∈ after

theorem closed_of_not_mem {cs : List Char} (h : '<' ∉ cs) : Closed cs := by
  rintro before after rfl
  simp at h

theorem closed_append_singleton (cs : List Char) : Closed (cs ++ ['>']) := by
  intro before after he
  have hl : (before ++ '<' :: after).getLast? = some '>' := by simp [← he]
  cases after with
  | nil => simp at hl
  | cons c after =>
    rw [List.getLast?_append, List.getLast?_cons_cons] at hl
    apply List.mem_of_getLast?
    simpa using hl

theorem danglesAt_append {cs rest : List Char} (h : Closed cs) {offset : Nat} :
    DanglesAt (cs ++ rest) offset ↔ ∃ o, DanglesAt rest o ∧ byteLength cs + o = offset := by
  constructor
  · rintro ⟨before, after, he, ha, rfl⟩
    rcases List.append_eq_append_iff.mp he with ⟨x, rfl, hr⟩ | ⟨x, rfl, hr⟩
    · exact ⟨byteLength x, ⟨x, after, hr, ha, rfl⟩, by simp⟩
    · cases x with
      | nil => exact ⟨0, ⟨[], after, hr.symm, ha, rfl⟩, by simp⟩
      | cons c x =>
        obtain ⟨rfl, rfl⟩ := List.cons.inj hr
        exact absurd (List.mem_append_left rest (h before x rfl)) ha
  · rintro ⟨o, ⟨before, after, rfl, ha, rfl⟩, rfl⟩
    exact ⟨cs ++ before, after, by simp, ha, by simp⟩

def StopsAtDangling (position : Nat) (cs : List Char) (result : Except SourceError (List Token)) : Prop :=
  (∃ offset, IsLeast {o | DanglesAt cs o} offset ∧ result = .error (.unclosedTag (position + offset))) ∨
    ((∀ offset, ¬ DanglesAt cs offset) ∧ ∃ tokens, result = .ok tokens)

theorem StopsAtDangling.append {position : Nat} {cs rest : List Char}
    {result : Except SourceError (List Token)} (h : StopsAtDangling (position + byteLength cs) rest result)
    (hc : Closed cs) (f : List Token → List Token) : StopsAtDangling position (cs ++ rest) (result.map f) := by
  rcases h with ⟨offset, ho, rfl⟩ | ⟨hn, tokens, rfl⟩
  · refine .inl ⟨byteLength cs + offset, ⟨?_, ?_⟩, ?_⟩
    · exact (danglesAt_append hc).mpr ⟨offset, ho.1, rfl⟩
    · intro o hd
      obtain ⟨p, hp, rfl⟩ := (danglesAt_append hc).mp hd
      exact Nat.add_le_add_left (ho.2 hp) _
    · rw [← Nat.add_assoc]
      rfl
  · refine .inr ⟨?_, f tokens, rfl⟩
    intro offset hd
    obtain ⟨p, hp, -⟩ := (danglesAt_append hc).mp hd
    exact hn p hp

def tagChars (body : List Char) : List Char := '<' :: (body ++ ['>'])

theorem tagChars_append (body rest : List Char) : '<' :: (body ++ '>' :: rest) = tagChars body ++ rest := by
  simp [tagChars]

theorem tokensFrom_tag (position : Nat) (body : List Char) (ss : List Segment) :
    tokensFrom position (.tag body :: ss) =
      (tokensFrom (position + byteLength (tagChars body)) ss).map fun ts => tagToken body position :: ts := by
  have hw : position + byteLength body + 2 = position + byteLength (tagChars body) := by
    simp only [tagChars, byteLength_cons, byteLength_append, byteLength_nil, show '<'.utf8Size = 1 from rfl,
      show '>'.utf8Size = 1 from rfl]
    omega
  rw [tokensFrom, hw]

theorem Cut.stopsAtDangling {cs : List Char} {ss : List Segment} (h : Cut cs ss) (position : Nat) :
    StopsAtDangling position cs (tokensFrom position ss) := by
  induction h generalizing position with
  | nil =>
    refine .inr ⟨?_, [], rfl⟩
    rintro offset ⟨before, after, he, -⟩
    simp at he
  | @tag body rest ss hb h ih =>
    rw [tagChars_append, tokensFrom_tag]
    exact (ih _).append (closed_append_singleton ('<' :: body)) _
  | @run text rest ss hn ht hl h ih => exact (ih _).append (closed_of_not_mem ht) _
  | @unclosed rest hr => exact .inl ⟨0, ⟨⟨[], rest, rfl, hr, rfl⟩, fun o _ => Nat.zero_le o⟩, rfl⟩

theorem position_tagToken (body : List Char) (position : Nat) : (tagToken body position).position = position := by
  unfold tagToken
  split
  · rfl
  · split <;> rfl

section

variable {body : List Char} (hs : body.head? ≠ some '/')

include hs

theorem tagToken_of_not_slash (hl : (trimRight body).getLast? ≠ some '/') (position : Nat) :
    tagToken body position = openingTag body false position := by
  unfold tagToken
  split
  · simp at hs
  · split
    · next h => exact absurd h hl
    · rfl

theorem tagToken_of_slash {inner : List Char} (hi : trimRight body = inner ++ ['/']) (position : Nat) :
    tagToken body position = openingTag inner true position := by
  unfold tagToken
  split
  · simp at hs
  · rw [hi, List.getLast?_concat, List.dropLast_concat]
    rfl

end

theorem name?_of_mem_runTokens {text : List Char} {position : Nat} {token : Token}
    (h : token ∈ runTokens text position) : token.name? = none := by
  unfold runTokens at h
  split at h
  · simp at h
  · rw [List.mem_singleton.mp h]
    rfl

theorem Cut.opensAt {cs : List Char} {ss : List Segment} (h : Cut cs ss) {position : Nat}
    {tokens : List Token} (ht : tokensFrom position ss = .ok tokens) {token : Token} (hm : token ∈ tokens)
    (hn : token.name? ≠ none) : ∃ offset, OpensAt cs offset ∧ token.position = position + offset := by
  induction h generalizing position tokens with
  | nil =>
    cases ht
    simp at hm
  | @tag body rest ss hb h ih =>
    rw [tokensFrom_tag] at ht
    obtain ⟨ts, hts, rfl⟩ := exists_ok_of_map ht
    rcases List.mem_cons.mp hm with rfl | hm
    · exact ⟨0, ⟨[], _, rfl, rfl⟩, position_tagToken body position⟩
    · obtain ⟨offset, ho, hp⟩ := ih hts hm
      rw [tagChars_append]
      exact ⟨_, ho.append _, by rw [hp, Nat.add_assoc]⟩
  | @run text rest ss hr hl hh h ih =>
    obtain ⟨ts, hts, rfl⟩ := exists_ok_of_map ht
    rcases List.mem_append.mp hm with hm | hm
    · exact absurd (name?_of_mem_runTokens hm) hn
    · obtain ⟨offset, ho, hp⟩ := ih hts hm
      exact ⟨_, ho.append text, by rw [hp, Nat.add_assoc]⟩
  | unclosed hr => cases ht

theorem Cut.tokens_ne_nil {cs : List Char} {ss : List Segment} (h : Cut cs ss) (hc : cs ≠ [])
    (hb : ∀ c ∈ cs.head?, isBlank c = false) {position : Nat} {tokens : List Token}
    (ht : tokensFrom position ss = .ok tokens) : tokens ≠ [] := by
  cases h with
  | nil => exact absurd rfl hc
  | tag hg h =>
    obtain ⟨ts, -, rfl⟩ := exists_ok_of_map ht
    exact List.cons_ne_nil _ _
  | @run text rest ss hr hl hh h =>
    obtain ⟨ts, -, rfl⟩ := exists_ok_of_map ht
    obtain ⟨c, text, rfl⟩ := List.exists_cons_of_ne_nil hr
    have hm : c ∈ trim (c :: text) := mem_trim (hb c rfl) List.mem_cons_self
    simp [runTokens, List.ne_nil_of_mem hm]
  | unclosed hr => cases ht

end IconCompiler.Markup
