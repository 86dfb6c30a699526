import IconCompiler.Proofs.OpenElements
import IconCompiler.Proofs.ReadAttributes

namespace IconCompiler.Markup

open IconCompiler.Text

def ValidTag (tag : String) : Prop := ∀ c ∈ tag.toList, isBlank c = false ∧ c ≠ '>'

structure ValidText (s : String) : Prop where
  nonempty : s ≠ ""
  plain : '<' ∉ s.toList
  spaced : SingleSpaced s.toList

def Token.Valid : Token → Prop
  | .opening name attributes _ _ => ValidTag name ∧ attributes.Valid
  | .closing _ _ => True
  | .text s _ => ValidText s

theorem singleSpaced_clean (source : String) : SingleSpaced (clean source).toList := by
  rw [clean, String.toList_ofList, cleanChars]
  exact (spaced_collapse _).trim

def Segment.Within (cs : List Char) : Segment → Prop
  | .tag body => body <:+: cs ∧ '>' ∉ body
  | .run text => text <:+: cs ∧ '<' ∉ text
  | .unclosed _ => True

theorem Segment.read?_within {cs rest : List Char} {s : Segment} (h : Segment.read? cs = some (s, rest)) :
    s.Within cs := by
  cases cs with
  | nil => cases h
  | cons c cs =>
    simp only [Segment.read?] at h
    split at h
    · have hp := span_fst_isPrefix (fun d => d != '>') cs
      have hm := @of_mem_span_fst (fun d => d != '>') cs
      split at h
      · next body d after hs =>
        cases h
        rw [hs] at hp hm
        refine ⟨hp.isInfix.trans (List.suffix_cons c cs).isInfix, fun hg => ?_⟩
        exact absurd (hm hg) (by decide)
      · cases h
        trivial
    · cases h
      refine ⟨(span_fst_isPrefix _ _).isInfix, fun hl => ?_⟩
      exact absurd (of_mem_span_fst hl) (by decide)

theorem segments_within (cs : List Char) : ∀ s ∈ segments cs, s.Within cs := by
  intro s hs
  obtain ⟨ds, rest, hd, hr⟩ := exists_of_mem_items hs
  have hw := Segment.read?_within hr
  cases s with
  | tag body => exact ⟨hw.1.trans hd.isInfix, hw.2⟩
  | run text => exact ⟨hw.1.trans hd.isInfix, hw.2⟩
  | unclosed rest => trivial

theorem valid_openingTag {body : List Char} (hs : Spaced body) (hg : '>' ∉ body) (selfClosing : Bool)
    (position : Nat) : (openingTag body selfClosing position).Valid := by
  have ht := trim_isInfix body
  have hn := span_fst_isPrefix (fun c => !isBlank c) (trim body)
  have hr := span_snd_isSuffix (fun c => !isBlank c) (trim body)
  simp only [openingTag, splitTag, Token.Valid, ValidTag, String.toList_ofList]
  refine ⟨fun c hc => ⟨?_, ?_⟩, ?_⟩
  · simpa using of_mem_span_fst hc
  · rintro rfl
    exact hg (ht.subset (hn.subset hc))
  · have hi := ((trimLeft_isSuffix _).trans hr).isInfix.trans ht
    apply valid_readAttributes
    · rw [String.toList_ofList]
      exact fun hm => hg (hi.subset hm)
    · rw [String.toList_ofList]
      exact hs.of_isInfix hi

theorem valid_tagToken {body : List Char} (hs : Spaced body) (hg : '>' ∉ body) (position : Nat) :
    (tagToken body position).Valid := by
  unfold tagToken
  split
  · trivial
  · split
    · have hi : (trimRight body).dropLast <:+: body :=
        ((List.dropLast_prefix _).trans (trimRight_isPrefix body)).isInfix
      exact valid_openingTag (hs.of_isInfix hi) (fun hm => hg (hi.subset hm)) true position
    · exact valid_openingTag hs hg false position

theorem valid_runTokens {text : List Char} (hs : Spaced text) (hl : '<' ∉ text) (position : Nat) :
    ∀ token ∈ runTokens text position, token.Valid := by
  unfold runTokens
  split
  · simp
  · next hn =>
    intro token ht
    rw [List.mem_singleton.mp ht]
    refine ⟨?_, ?_, ?_⟩
    · simpa using hn
    · rw [String.toList_ofList]
      exact fun hm => hl ((trim_isInfix text).subset hm)
    · rw [String.toList_ofList]
      exact hs.trim

theorem valid_tokensFrom {cs : List Char} (hs : Spaced cs) {segments : List Segment}
    (hw : ∀ s ∈ segments, s.Within cs) {position : Nat} {tokens : List Token}
    (h : tokensFrom position segments = .ok tokens) : ∀ token ∈ tokens, token.Valid := by
  induction segments generalizing position tokens with
  | nil => cases h; simp
  | cons s segments ih =>
    have hi : ∀ s ∈ segments, s.Within cs := fun s hm => hw s (List.mem_cons_of_mem _ hm)
    have hc := hw s (by simp)
    cases s with
    | unclosed rest => cases h
    | tag body =>
      obtain ⟨ts, ht, rfl⟩ := exists_ok_of_map h
      rintro token (_ | ⟨_, hm⟩)
      · exact valid_tagToken (hs.of_isInfix hc.1) hc.2 position
      · exact ih hi ht token hm
    | run text =>
      obtain ⟨ts, ht, rfl⟩ := exists_ok_of_map h
      intro token hm
      rcases List.mem_append.mp hm with hm | hm
      · exact valid_runTokens (hs.of_isInfix hc.1) hc.2 position token hm
      · exact ih hi ht token hm

theorem valid_tokenize {source : String} {tokens : List Token}
    (h : tokenize (clean source) = .ok tokens) : ∀ token ∈ tokens, token.Valid := by
  unfold tokenize at h
  exact valid_tokensFrom (singleSpaced_clean source).toSpaced (segments_within (clean source).toList) h

end IconCompiler.Markup
