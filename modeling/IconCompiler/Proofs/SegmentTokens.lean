import IconCompiler.Proofs.AttributeSection
import IconCompiler.Proofs.Segmentation

namespace IconCompiler.Markup

open IconCompiler.Text

namespace Segment

def chars : Segment → List Char
  | .tag body => tagChars body
  | .run text => text
  | .unclosed rest => '<' :: rest

def isBlankRun : Segment → Bool
  | .run text => trim text = []
  | _ => false

end Segment

def placed (ss : List Segment) : List (Nat × Segment) :=
  ss.mapIdx fun i s => (byteLength ((ss.take i).flatMap Segment.chars), s)

theorem placed_cons (s : Segment) (ss : List Segment) :
    placed (s :: ss) = (0, s) :: (placed ss).map fun p => (byteLength s.chars + p.1, p.2) := by
  rw [placed, List.mapIdx_cons]
  congr 1
  apply List.ext_getElem?
  intro i
  simp [placed, Function.comp_def]

theorem exists_of_mem_placed {ss : List Segment} {p : Nat × Segment} (h : p ∈ placed ss) :
    ∃ before after, ss = before ++ p.2 :: after ∧ p.1 = byteLength (before.flatMap Segment.chars) := by
  induction ss generalizing p with
  | nil => cases h
  | cons s ss ih =>
    rw [placed_cons, List.mem_cons, List.mem_map] at h
    obtain rfl | ⟨q, hq, rfl⟩ := h
    · exact ⟨[], ss, rfl, rfl⟩
    · obtain ⟨before, after, rfl, he⟩ := ih hq
      exact ⟨s :: before, after, rfl, by simp [he]⟩

namespace Cut

variable {cs : List Char} {ss : List Segment}

theorem flatMap_chars (h : Cut cs ss) : ss.flatMap Segment.chars = cs := by
  induction h with
  | nil => rfl
  | tag hb _ ih => rw [List.flatMap_cons, ih, tagChars_append]; rfl
  | run hn ht hl _ ih => rw [List.flatMap_cons, ih]; rfl
  | unclosed hr => simp [Segment.chars]

theorem eq_segments (h : Cut cs ss) : ss = segments cs := by
  induction h with
  | nil => rfl
  | tag hb _ ih => rw [segments_tag hb, ih]
  | run hn ht hl _ ih => rw [segments_run hn ht hl, ih]
  | unclosed hr => rw [segments_unclosed hr]

theorem chars_ne_nil (h : Cut cs ss) : ∀ s ∈ ss, s.chars ≠ [] := by
  induction h with
  | nil => simp
  | tag hb _ ih => exact List.forall_mem_cons.mpr ⟨List.cons_ne_nil _ _, ih⟩
  | run hn ht hl _ ih => exact List.forall_mem_cons.mpr ⟨hn, ih⟩
  | unclosed hr => simp [Segment.chars]

theorem closed_or_unclosed (h : Cut cs ss) :
    (∀ rest, Segment.unclosed rest ∉ ss) ∨
      ∃ before rest, ss = before ++ [.unclosed rest] ∧ ∀ r, Segment.unclosed r ∉ before := by
  induction h with
  | nil => exact .inl (by simp)
  | tag hb _ ih | run hn ht hl _ ih =>
    obtain hc | ⟨before, rest, rfl, hc⟩ := ih
    · exact .inl fun r => by simp [hc r]
    · exact .inr ⟨_ :: before, rest, rfl, fun r => by simp [hc r]⟩
  | unclosed hr => exact .inr ⟨[], _, rfl, by simp⟩

end Cut

structure Named (body name rest : List Char) : Prop where
  eq : trim body = name ++ rest
  name : ∀ c ∈ name, isBlank c = false
  rest : ∀ c ∈ rest.head?, isBlank c = true

inductive Segment.Gives (position : Nat) : Segment → Token → Prop
  | text {run : List Char} (hr : trim run ≠ []) :
      Gives position (.run run) (.text (String.ofList (trim run)) position)
  | closing (name : List Char) :
      Gives position (.tag ('/' :: name)) (.closing (String.ofList (trim name)) position)
  | selfClosing {body inner name rest : List Char} (hs : body.head? ≠ some '/')
      (hi : trimRight body = inner ++ ['/']) (hn : Named inner name rest) :
      Gives position (.tag body)
        (.opening (String.ofList name) (readAttributes (String.ofList rest)) true position)
  | opening {body name rest : List Char} (hs : body.head? ≠ some '/')
      (hl : (trimRight body).getLast? ≠ some '/') (hn : Named body name rest) :
      Gives position (.tag body)
        (.opening (String.ofList name) (readAttributes (String.ofList rest)) false position)

theorem exists_named (body : List Char) : ∃ name rest, Named body name rest := by
  refine ⟨((trim body).span fun c => !isBlank c).1, ((trim body).span fun c => !isBlank c).2, ?_, ?_, ?_⟩
  · simp [List.span_eq_takeWhile_dropWhile]
  · intro c hc
    simpa using of_mem_span_fst hc
  · intro c hc
    rw [List.span_eq_takeWhile_dropWhile, Option.mem_def] at hc
    have hn := List.head?_dropWhile_not (fun c => !isBlank c) (trim body)
    rw [hc] at hn
    simpa using hn

theorem Named.openingTag {body name rest : List Char} (h : Named body name rest) (selfClosing : Bool)
    (position : Nat) :
    openingTag body selfClosing position =
      .opening (String.ofList name) (readAttributes (String.ofList rest)) selfClosing position := by
  have hs : (trim body).span (fun c => !isBlank c) = (name, rest) := by
    rw [h.eq]
    apply span_append
    · intro c hc
      simp [h.name c hc]
    · intro c hc
      simp [h.rest c hc]
  simp only [Markup.openingTag, splitTag, hs, readAttributes, String.toList_ofList, rawAttributes_trimLeft]

namespace Segment

def token? (position : Nat) : Segment → Option Token
  | .tag body => some (tagToken body position)
  | .run text => if trim text = [] then none else some (.text (String.ofList (trim text)) position)
  | .unclosed _ => none

theorem gives_tagToken (body : List Char) (position : Nat) :
    Gives position (.tag body) (tagToken body position) := by
  by_cases hs : body.head? = some '/'
  · obtain ⟨name, rfl⟩ := List.head?_eq_some_iff.mp hs
    exact .closing name
  · by_cases hl : (trimRight body).getLast? = some '/'
    · obtain ⟨inner, hi⟩ := List.getLast?_eq_some_iff.mp hl
      obtain ⟨name, rest, hn⟩ := exists_named inner
      rw [tagToken_of_slash hs hi, hn.openingTag]
      exact .selfClosing hs hi hn
    · obtain ⟨name, rest, hn⟩ := exists_named body
      rw [tagToken_of_not_slash hs hl, hn.openingTag]
      exact .opening hs hl hn

theorem gives_iff {position : Nat} {s : Segment} {token : Token} :
    s.Gives position token ↔ s.token? position = some token := by
  constructor
  · intro h
    cases h with
    | text hr => rw [token?, if_neg hr]
    | closing name => rfl
    | selfClosing hs hi hn => rw [token?, tagToken_of_slash hs hi, hn.openingTag]
    | opening hs hl hn => rw [token?, tagToken_of_not_slash hs hl, hn.openingTag]
  · intro h
    cases s with
    | tag body =>
      cases h
      exact gives_tagToken body position
    | run run =>
      rw [token?] at h
      split at h
      · cases h
      · next hr =>
        cases h
        exact .text hr
    | unclosed rest => cases h

theorem position_of_token? {position : Nat} {s : Segment} {token : Token} (h : s.token? position = some token) :
    token.position = position := by
  cases gives_iff.mpr h <;> rfl

end Segment

theorem tokensFrom_cons {s : Segment} (hs : ∀ rest, Segment.unclosed rest ≠ s) (position : Nat)
    (ss : List Segment) :
    tokensFrom position (s :: ss) = (tokensFrom (position + byteLength s.chars) ss).map fun ts =>
      (s.token? position).toList ++ ts := by
  cases s with
  | tag body => exact tokensFrom_tag position body ss
  | run text =>
    rw [tokensFrom]
    congr 1
    funext ts
    by_cases ht : trim text = [] <;> simp [runTokens, Segment.token?, ht]
  | unclosed rest => exact absurd rfl (hs rest)

theorem forall_unclosed_not_mem_cons {s : Segment} {ss : List Segment} :
    (∀ r, Segment.unclosed r ∉ s :: ss) ↔ (∀ r, Segment.unclosed r ≠ s) ∧ ∀ r, Segment.unclosed r ∉ ss := by
  simp [not_or, forall_and]

theorem tokensFrom_append_unclosed {before : List Segment} (h : ∀ r, Segment.unclosed r ∉ before)
    (position : Nat) (rest : List Char) :
    tokensFrom position (before ++ [.unclosed rest]) =
      .error (.unclosedTag (position + byteLength (before.flatMap Segment.chars))) := by
  induction before generalizing position with
  | nil => rfl
  | cons s before ih =>
    rw [forall_unclosed_not_mem_cons] at h
    rw [List.cons_append, tokensFrom_cons h.1, ih h.2]
    simp [Except.map, Nat.add_assoc]

theorem tokensFrom_of_closed {ss : List Segment} (h : ∀ r, Segment.unclosed r ∉ ss) (position : Nat) :
    tokensFrom position ss = .ok ((placed ss).filterMap fun p => p.2.token? (position + p.1)) := by
  induction ss generalizing position with
  | nil => rfl
  | cons s ss ih =>
    rw [forall_unclosed_not_mem_cons] at h
    rw [tokensFrom_cons h.1, ih h.2, placed_cons]
    simp only [Except.map, List.filterMap_cons, List.filterMap_map, Function.comp_def, Nat.add_zero,
      Nat.add_assoc]
    cases s.token? position <;> rfl

theorem pairwise_placed {ss : List Segment} (h : ∀ s ∈ ss, s.chars ≠ []) :
    (placed ss).Pairwise fun p q => p.1 < q.1 := by
  induction ss with
  | nil => exact .nil
  | cons s ss ih =>
    rw [List.forall_mem_cons] at h
    rw [placed_cons, List.pairwise_cons, List.pairwise_map]
    refine ⟨?_, (ih h.2).imp fun hlt => Nat.add_lt_add_left hlt _⟩
    intro p hp
    obtain ⟨q, -, rfl⟩ := List.mem_map.mp hp
    obtain ⟨c, cs, hc⟩ := List.exists_cons_of_ne_nil h.1
    have hpos := c.utf8Size_pos
    rw [hc, byteLength_cons]
    omega

theorem forall₂_filter_iff {α β : Type} {f : α → Option β} {keep : α → Bool} {as : List α} {bs : List β}
    (h : ∀ a ∈ as, keep a = (f a).isSome) :
    List.Forall₂ (fun a b => f a = some b) (as.filter keep) bs ↔ as.filterMap f = bs := by
  induction as generalizing bs with
  | nil => simp [eq_comm]
  | cons a as ih =>
    rw [List.forall_mem_cons] at h
    cases hf : f a with
    | none =>
      rw [List.filter_cons_of_neg (by simp [h.1, hf]), List.filterMap_cons_none hf]
      exact ih h.2
    | some b =>
      rw [List.filter_cons_of_pos (by simp [h.1, hf]), List.filterMap_cons_some hf,
        List.forall₂_cons_left_iff]
      constructor
      · rintro ⟨b', bs', hb, hs, rfl⟩
        cases hf.symm.trans hb
        rw [(ih h.2).mp hs]
      · rintro rfl
        exact ⟨b, _, hf, (ih h.2).mpr rfl, rfl⟩

theorem utf8ByteSize_ofList (cs : List Char) : (String.ofList cs).utf8ByteSize = byteLength cs := by
  induction cs with
  | nil => rfl
  | cons c cs ih =>
    rw [byteLength_cons, ← ih, ← List.singleton_append, String.ofList_append, String.utf8ByteSize_append]
    simp

/-- The bytes of the text from `start` on are those of `cs`, and they begin and end where a character does. -/
structure SpansAt (text : String) (start : Nat) (cs : List Char) : Prop where
  first : String.Pos.Raw.IsValid text ⟨start⟩
  last : String.Pos.Raw.IsValid text ⟨start + byteLength cs⟩
  bytes : text.toByteArray.extract start (start + byteLength cs) = (String.ofList cs).toByteArray

theorem spansAt_of_append {text : String} {before cs after : List Char}
    (h : text.toList = before ++ (cs ++ after)) : SpansAt text (byteLength before) cs := by
  have ht : text = String.ofList before ++ (String.ofList cs ++ String.ofList after) := by
    rw [← String.ofList_append, ← String.ofList_append, ← h, String.ofList_toList]
  refine ⟨?_, ?_, ?_⟩
  · rw [String.Pos.Raw.isValid_iff_exists_append]
    refine ⟨_, _, ht, ?_⟩
    rw [String.rawEndPos, utf8ByteSize_ofList]
  · rw [String.Pos.Raw.isValid_iff_exists_append]
    refine ⟨_, _, ht.trans String.append_assoc.symm, ?_⟩
    rw [String.rawEndPos, String.utf8ByteSize_append, utf8ByteSize_ofList, utf8ByteSize_ofList]
  · have hsize (ds : List Char) : byteLength ds = (String.ofList ds).toByteArray.size := by
      rw [String.size_toByteArray, utf8ByteSize_ofList]
    rw [ht, String.toByteArray_append, String.toByteArray_append]
    exact (ByteArray.extract_append_size_add' (i := 0) (hsize before)).trans
      (ByteArray.extract_append_eq_left (hsize cs))

section

variable {text : String} {ss : List Segment} (h : Cut text.toList ss)

include h

theorem tokenize_of_cut : tokenize text = tokensFrom 0 ss := by
  rw [tokenize, h.eq_segments]

theorem spansAt_of_mem_placed {p : Nat × Segment} (hp : p ∈ placed ss) :
    SpansAt text p.1 p.2.chars ∧ ∀ body, p.2 = .tag body → SpansAt text (p.1 + 1) body := by
  obtain ⟨before, after, rfl, hb⟩ := exists_of_mem_placed hp
  have ht := h.flatMap_chars.symm
  rw [List.flatMap_append, List.flatMap_cons] at ht
  constructor
  · rw [hb]
    exact spansAt_of_append ht
  · intro body hs
    have hbody : text.toList =
        (before.flatMap Segment.chars ++ ['<']) ++ (body ++ '>' :: after.flatMap Segment.chars) := by
      rw [ht, hs]
      simp [Segment.chars, tagChars]
    have hspan := spansAt_of_append hbody
    rw [byteLength_append, ← hb] at hspan
    exact hspan

theorem tokenize_eq_error_iff {e : SourceError} :
    tokenize text = .error e ↔ ∃ before rest, ss = before ++ [.unclosed rest] ∧
      e = .unclosedTag (byteLength (before.flatMap Segment.chars)) := by
  rw [tokenize_of_cut h]
  obtain hc | ⟨before, rest, rfl, hc⟩ := h.closed_or_unclosed
  · rw [tokensFrom_of_closed hc]
    constructor
    · intro he
      cases he
    · rintro ⟨before, rest, rfl, -⟩
      exact absurd (by simp) (hc rest)
  · rw [tokensFrom_append_unclosed hc, Nat.zero_add, Except.error.injEq]
    constructor
    · rintro rfl
      exact ⟨before, rest, rfl, rfl⟩
    · rintro ⟨before', rest', he, rfl⟩
      obtain ⟨rfl, -⟩ := List.append_inj' he rfl
      rfl

theorem tokenize_eq_ok_iff {tokens : List Token} :
    tokenize text = .ok tokens ↔ (∀ rest, Segment.unclosed rest ∉ ss) ∧
      List.Forall₂ (fun p token => p.2.Gives p.1 token) ((placed ss).filter fun p => !p.2.isBlankRun) tokens := by
  rw [tokenize_of_cut h]
  obtain hc | ⟨before, rest, rfl, hc⟩ := h.closed_or_unclosed
  · have hkeep : ∀ p ∈ placed ss, (!p.2.isBlankRun) = (p.2.token? p.1).isSome := by
      rintro ⟨n, s⟩ hp
      obtain ⟨before, after, rfl, -⟩ := exists_of_mem_placed hp
      cases s with
      | tag body => rfl
      | run run => by_cases hr : trim run = [] <;> simp [Segment.isBlankRun, Segment.token?, hr]
      | unclosed rest => exact absurd (by simp) (hc rest)
    simp only [Segment.gives_iff, forall₂_filter_iff hkeep, tokensFrom_of_closed hc, Nat.zero_add,
      Except.ok.injEq, hc, not_false_eq_true, implies_true, true_and]
  · rw [tokensFrom_append_unclosed hc]
    constructor
    · intro he
      cases he
    · rintro ⟨hn, -⟩
      exact absurd (by simp) (hn rest)

theorem pairwise_position {tokens : List Token} (ht : tokenize text = .ok tokens) :
    tokens.Pairwise fun a b => a.position < b.position := by
  have hn := ((tokenize_eq_ok_iff h).mp ht).1
  rw [tokenize_of_cut h, tokensFrom_of_closed hn] at ht
  cases ht
  rw [List.pairwise_filterMap]
  apply (pairwise_placed h.chars_ne_nil).imp
  intro p q hlt a ha b hb
  rw [Segment.position_of_token? ha, Segment.position_of_token? hb]
  omega

end

/-- A text is cut into segments in one way only. It has no tokens exactly if its last segment is a tag that never
ends; otherwise every segment gives one token, in the order of the segments, but for the runs of white space. -/
theorem tokenize_segmentation (text : String) :
    (∃! ss, Cut text.toList ss) ∧
      ∀ ss, Cut text.toList ss →
        ss.flatMap Segment.chars = text.toList ∧
        (∀ p ∈ placed ss, SpansAt text p.1 p.2.chars ∧
          ∀ body, p.2 = .tag body → SpansAt text (p.1 + 1) body) ∧
        (∀ e, tokenize text = .error e ↔ ∃ before rest, ss = before ++ [.unclosed rest] ∧
          e = .unclosedTag (byteLength (before.flatMap Segment.chars))) ∧
        (∀ tokens, tokenize text = .ok tokens ↔ (∀ rest, Segment.unclosed rest ∉ ss) ∧
          List.Forall₂ (fun p token => p.2.Gives p.1 token)
            ((placed ss).filter fun p => !p.2.isBlankRun) tokens) ∧
        ∀ tokens, tokenize text = .ok tokens → tokens.Pairwise fun a b => a.position < b.position := by
  refine ⟨⟨segments text.toList, cut_segments _, fun ss h => h.eq_segments⟩, fun ss h => ?_⟩
  exact ⟨h.flatMap_chars, fun p hp => spansAt_of_mem_placed h hp, fun e => tokenize_eq_error_iff h,
    fun tokens => tokenize_eq_ok_iff h, fun tokens => pairwise_position h⟩

theorem tokenize_segmentation_mixed :
    let ss : List Segment := [.run "é> ".toList, .tag "a r=\"/\"/ ".toList, .run "\n".toList, .tag "/ a".toList]
    Cut "é> <a r=\"/\"/ >\n</ a>".toList ss ∧
      tokenize "é> <a r=\"/\"/ >\n</ a>" =
        .ok [.text "é>" 0, .opening "a" ⟨[("r", .text "/")]⟩ true 4, .closing "a" 16] := by
  intro ss
  have hs : segments "é> <a r=\"/\"/ >\n</ a>".toList = ss := by decide +kernel
  have hc : Cut "é> <a r=\"/\"/ >\n</ a>".toList ss := hs ▸ cut_segments _
  refine ⟨hc, (((tokenize_segmentation _).2 ss hc).2.2.2.1 _).mpr ⟨by simp [ss], ?_⟩⟩
  refine .cons (Segment.gives_iff.mpr ?_) (.cons (Segment.gives_iff.mpr ?_) (.cons (Segment.gives_iff.mpr ?_) .nil))
  all_goals decide +kernel

end IconCompiler.Markup
