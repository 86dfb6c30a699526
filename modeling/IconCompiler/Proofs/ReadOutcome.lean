import IconCompiler.Proofs.Placement
import IconCompiler.Proofs.Segmentation
import IconCompiler.Proofs.StackRuns
import IconCompiler.Proofs.ValidTokens

namespace IconCompiler.Markup

open IconCompiler.Text

def Token.OpensRoot : Token → Prop
  | .opening name _ _ _ => name = "svg"
  | _ => False

theorem read_eq_of_error {source : String} {e : SourceError} (hn : clean source ≠ "")
    (h : tokenize (clean source) = .error e) : Document.read source = .error e := by
  simp only [Document.read, hn, if_false, h]
  rfl

theorem ofTokens_of_not_opensRoot {token : Token} (h : ¬ token.OpensRoot) (rest : List Token) :
    Element.ofTokens (token :: rest) = .error (.rootElement (token.name?.getD "text")) := by
  cases token with
  | opening name attributes selfClosing position =>
    have hn : name ≠ "svg" := h
    simp [Element.ofTokens, Element.ofTokensWithin, hn, Token.name?]
  | closing name position => rfl
  | text content position => rfl

theorem tokenize_ne_nil {source : String} (hn : clean source ≠ "") {tokens : List Token}
    (h : tokenize (clean source) = .ok tokens) : tokens ≠ [] := by
  have hc : (clean source).toList ≠ [] := by simpa using hn
  rw [tokenize] at h
  exact (cut_segments _).tokens_ne_nil hc (singleSpaced_clean source).head h

theorem opensAt_of_mem_openingPositions {text : String} {tokens : List Token}
    (h : tokenize text = .ok tokens) {offset : Nat} (ho : offset ∈ tokens.filterMap Token.openingPosition?) :
    OpensAt text.toList offset := by
  obtain ⟨token, hm, hp⟩ := List.mem_filterMap.mp ho
  cases token with
  | opening name attributes selfClosing position =>
    cases hp
    rw [tokenize] at h
    obtain ⟨o, hc, he⟩ := (cut_segments text.toList).opensAt h hm (by simp [Token.name?])
    rw [Nat.zero_add, Token.position] at he
    rw [he]
    exact hc
  | closing name position => cases hp
  | text content position => cases hp

inductive ReadResult (source : String) : Except SourceError Document → Prop
  | empty (h : clean source = "") : ReadResult source (.error .emptyInput)
  | unclosed {offset : Nat} (hn : clean source ≠ "")
      (ho : IsLeast {o | DanglesAt (clean source).toList o} offset) :
      ReadResult source (.error (.unclosedTag offset))
  | otherRoot {token : Token} {rest : List Token} (hn : clean source ≠ "")
      (hd : ∀ o, ¬ DanglesAt (clean source).toList o) (ht : tokenize (clean source) = .ok (token :: rest))
      (hr : ¬ token.OpensRoot) : ReadResult source (.error (.rootElement (token.name?.getD "text")))
  | tooDeep {token : Token} {rest : List Token} {offset : Nat} (hn : clean source ≠ "")
      (hd : ∀ o, ¬ DanglesAt (clean source).toList o) (ht : tokenize (clean source) = .ok (token :: rest))
      (hr : token.OpensRoot) (ho : OpensAt (clean source).toList offset) :
      ReadResult source (.error (.nestingTooDeep 512 offset))
  | document {token : Token} {rest : List Token} {doc : Document} (hn : clean source ≠ "")
      (hd : ∀ o, ¬ DanglesAt (clean source).toList o) (ht : tokenize (clean source) = .ok (token :: rest))
      (hr : token.OpensRoot) : ReadResult source (.ok doc)

theorem readResult_read (source : String) : ReadResult source (Document.read source) := by
  by_cases hn : clean source = ""
  · have he : Document.read source = .error .emptyInput := by simp [Document.read, hn]
    rw [he]
    exact .empty hn
  · rcases (cut_segments (clean source).toList).stopsAtDangling 0 with ⟨offset, ho, ht⟩ | ⟨hd, tokens, ht⟩
    · rw [Nat.zero_add] at ht
      rw [read_eq_of_error hn ht]
      exact .unclosed hn ho
    · obtain ⟨token, rest, rfl⟩ := List.exists_cons_of_ne_nil (tokenize_ne_nil hn ht)
      rw [read_eq_of_tokenize hn ht]
      by_cases hr : token.OpensRoot
      · obtain ⟨attributes, selfClosing, position, rfl⟩ :
            ∃ attributes selfClosing position, token = .opening "svg" attributes selfClosing position := by
          cases token with
          | opening name attributes selfClosing position =>
            exact ⟨attributes, selfClosing, position, by rw [show name = "svg" from hr]⟩
          | closing name position => exact hr.elim
          | text content position => exact hr.elim
        rcases ofTokens_cases attributes selfClosing position rest with ⟨-, he⟩ | ⟨-, offset, hl, he⟩
        · rw [he]
          exact .document hn hd ht hr
        · rw [he]
          exact .tooDeep hn hd ht hr (opensAt_of_mem_openingPositions ht (mem_openingPositions hl))
      · rw [ofTokens_of_not_opensRoot hr]
        exact .otherRoot hn hd ht hr

namespace ReadResult

variable {source : String} {result : Except SourceError Document}

theorem eq_emptyInput_iff (h : ReadResult source result) : result = .error .emptyInput ↔ clean source = "" := by
  constructor
  · rintro rfl
    cases h with
    | empty h => exact h
  · intro he
    cases h with
    | empty h => rfl
    | unclosed hn ho | otherRoot hn hd ht hr | tooDeep hn hd ht hr ho | document hn hd ht hr =>
      exact absurd he hn

theorem of_danglesAt (h : ReadResult source result) (hn : clean source ≠ "")
    (hd : ∃ o, DanglesAt (clean source).toList o) :
    ∃ offset, IsLeast {o | DanglesAt (clean source).toList o} offset ∧ result = .error (.unclosedTag offset) := by
  cases h with
  | empty h => exact absurd h hn
  | unclosed _ ho => exact ⟨_, ho, rfl⟩
  | otherRoot _ hc ht hr | tooDeep _ hc ht hr ho | document _ hc ht hr =>
    obtain ⟨o, hd⟩ := hd
    exact absurd hd (hc o)

theorem of_not_danglesAt (h : ReadResult source result) (hn : clean source ≠ "")
    (hd : ¬ ∃ o, DanglesAt (clean source).toList o) :
    ∃ token rest, tokenize (clean source) = .ok (token :: rest) ∧
      (¬ token.OpensRoot → result = .error (.rootElement (token.name?.getD "text"))) ∧
      (token.OpensRoot → (∃ doc, result = .ok doc) ∨ ∃ offset, result = .error (.nestingTooDeep 512 offset)) := by
  cases h with
  | empty h => exact absurd h hn
  | unclosed _ ho => exact absurd ⟨_, ho.1⟩ hd
  | otherRoot _ _ ht hr => exact ⟨_, _, ht, fun _ => rfl, fun h => absurd h hr⟩
  | tooDeep _ _ ht hr ho => exact ⟨_, _, ht, fun h => absurd hr h, fun _ => .inr ⟨_, rfl⟩⟩
  | document _ _ ht hr => exact ⟨_, _, ht, fun h => absurd hr h, fun _ => .inl ⟨_, rfl⟩⟩

theorem opensAt {e : SourceError} (h : ReadResult source (.error e)) {offset : Nat}
    (ho : e.offset? = some offset) : OpensAt (clean source).toList offset := by
  cases h with
  | empty h | otherRoot hn hd ht hr => cases ho
  | unclosed hn hd =>
    cases ho
    exact hd.1.opensAt
  | tooDeep hn hd ht hr hp =>
    cases ho
    exact hp

end ReadResult

/-- An empty text is refused first, then a tag that never ends, then a wrong root; only the nesting of
what is left can be wrong. Every offset of an error is that of a `<`. -/
theorem read_outcome (source : String) :
    (Document.read source = .error .emptyInput ↔ clean source = "") ∧
      (clean source ≠ "" → (∃ o, DanglesAt (clean source).toList o) →
        ∃ offset, IsLeast {o | DanglesAt (clean source).toList o} offset ∧
          Document.read source = .error (.unclosedTag offset)) ∧
      (clean source ≠ "" → (¬ ∃ o, DanglesAt (clean source).toList o) →
        ∃ token rest, tokenize (clean source) = .ok (token :: rest) ∧
          (¬ token.OpensRoot → Document.read source = .error (.rootElement (token.name?.getD "text"))) ∧
          (token.OpensRoot → (∃ doc, Document.read source = .ok doc) ∨
            ∃ offset, Document.read source = .error (.nestingTooDeep 512 offset))) ∧
      (∀ tokens, clean source ≠ "" → tokenize (clean source) = .ok tokens →
        Element.ofTokens tokens ≠ .error .emptyInput) ∧
      ∀ e offset, Document.read source = .error e → e.offset? = some offset →
        OpensAt (clean source).toList offset := by
  have h := readResult_read source
  refine ⟨h.eq_emptyInput_iff, h.of_danglesAt, h.of_not_danglesAt, ?_, ?_⟩
  · intro tokens hn ht he
    apply hn
    apply h.eq_emptyInput_iff.mp
    rw [read_eq_of_tokenize hn ht, he]
    rfl
  · intro e offset he
    rw [he] at h
    exact h.opensAt

theorem read_outcome_unclosed :
    IsLeast {o | DanglesAt "<svg>é<g <path d='<'".toList o} 7 ∧
      Document.read " <svg>é<g\n<path d='<'" = .error (.unclosedTag 7) := by
  have hc : clean " <svg>é<g\n<path d='<'" = "<svg>é<g <path d='<'" := by decide +kernel
  have hr : Document.read " <svg>é<g\n<path d='<'" = .error (.unclosedTag 7) := by decide +kernel
  have h := (read_outcome " <svg>é<g\n<path d='<'").2.1
  rw [hc] at h
  obtain ⟨offset, ho, he⟩ := h (by decide)
    ⟨7, "<svg>é".toList, "g <path d='<'".toList, by decide, by decide, by decide⟩
  cases he.symm.trans hr
  exact ⟨ho, hr⟩

end IconCompiler.Markup
