import IconCompiler.Proofs.TagBodies
import IconCompiler.Proofs.ValidTokens
import IconCompiler.Proofs.WrittenTree

namespace IconCompiler.Markup

open IconCompiler.Text

structure Element.Plain (e : Element) : Prop where
  tag : isName e.tag = true
  attributes : e.attributes.Plain
  void : e.isVoid = true → e.children = [] ∧ e.content = none
  content : ∀ s, e.content = some s → e.children = [] ∧ ValidText s

def Blank (cs : List Char) : Prop := ∀ c ∈ cs, isBlank c = true

mutual
inductive Marked : Element → List TaggedRun → Prop
  | leaf {tag : String} {attributes : Attributes} {gap : List Char}
      (hp : Element.Plain ⟨tag, attributes, [], none⟩) (hg : Blank gap) :
      Marked ⟨tag, attributes, [], none⟩ [⟨gap, startBody tag attributes ++ [' ', '/']⟩]
  | text {tag : String} {attributes : Attributes} {s : String} {gap : List Char}
      (hp : Element.Plain ⟨tag, attributes, [], some s⟩) (hg : Blank gap) :
      Marked ⟨tag, attributes, [], some s⟩
        [⟨gap, startBody tag attributes⟩, ⟨s.toList, endBody tag⟩]
  | branch {tag : String} {attributes : Attributes} {children : List Element} {rs : List TaggedRun}
      {gap last : List Char} (hp : Element.Plain ⟨tag, attributes, children, none⟩)
      (hn : children ≠ []) (hg : Blank gap) (hl : Blank last) (hm : MarkedList children rs) :
      Marked ⟨tag, attributes, children, none⟩
        (⟨gap, startBody tag attributes⟩ :: (rs ++ [⟨last, endBody tag⟩]))

inductive MarkedList : List Element → List TaggedRun → Prop
  | nil : MarkedList [] []
  | cons {e : Element} {es : List Element} {rs ss : List TaggedRun} (he : Marked e rs)
      (hs : MarkedList es ss) : MarkedList (e :: es) (rs ++ ss)
end

theorem Blank.not_mem {cs : List Char} (h : Blank cs) : '<' ∉ cs :=
  fun hm => absurd (h _ hm) (by decide)

theorem Blank.trim_collapse {cs : List Char} (h : Blank cs) : trim (collapse cs) = [] :=
  trim_eq_nil fun c hc => (mem_of_mem_collapseFrom hc).elim id (h c)

mutual
theorem Marked.valid {e : Element} {rs : List TaggedRun} (h : Marked e rs) : ∀ r ∈ rs, r.Valid := by
  match h with
  | .leaf hp hg =>
    intro r hr
    rw [List.mem_singleton.mp hr]
    exact valid_selfClosingRun hg.not_mem hp.tag hp.attributes
  | .text hp hg =>
    intro r hr
    simp only [List.mem_cons, List.not_mem_nil, or_false] at hr
    rcases hr with rfl | rfl
    · exact valid_startRun hg.not_mem hp.tag hp.attributes
    · exact valid_endRun (hp.content _ rfl).2.plain hp.tag
  | .branch hp _ hg hl hm =>
    intro r hr
    simp only [List.mem_cons, List.mem_append, List.not_mem_nil, or_false] at hr
    rcases hr with rfl | hr | rfl
    · exact valid_startRun hg.not_mem hp.tag hp.attributes
    · exact hm.valid r hr
    · exact valid_endRun hl.not_mem hp.tag

theorem MarkedList.valid {es : List Element} {rs : List TaggedRun} (h : MarkedList es rs) :
    ∀ r ∈ rs, r.Valid := by
  match h with
  | .nil => simp
  | .cons he hs =>
    intro r hr
    exact (List.mem_append.mp hr).elim (he.valid r) (hs.valid r)
end

namespace TaggedRun

theorem tokens_of_blank {gap : List Char} (h : Blank gap) (body : List Char) (position : Nat) :
    ∃ start, (collapsed ⟨gap, body⟩).tokens position = [tagToken body start] := by
  refine ⟨position + byteLength (collapse gap), ?_⟩
  simp only [collapsed, tokens, runTokens, h.trim_collapse, if_true, List.nil_append]

theorem tokens_of_text {s : String} (h : ValidText s) (body : List Char) (position : Nat) :
    ∃ start, (collapsed ⟨s.toList, body⟩).tokens position = [.text s position, tagToken body start] := by
  have hn : s.toList ≠ [] := by simpa using h.nonempty
  refine ⟨position + byteLength s.toList, ?_⟩
  simp only [collapsed, tokens, runTokens, h.spaced.collapse_eq, h.spaced.trim, hn, if_false,
    String.ofList_toList, List.singleton_append]

end TaggedRun

open TaggedRun

def cleanTokens (position : Nat) (rs : List TaggedRun) : List Token :=
  tokensOf position (rs.map collapsed)

mutual
theorem Marked.written {e : Element} {rs : List TaggedRun} (h : Marked e rs) (position : Nat) :
    Written e (cleanTokens position rs) := by
  match h with
  | @Marked.leaf tag attributes gap hp hg =>
    obtain ⟨start, hs⟩ := tokens_of_blank hg (startBody tag attributes ++ [' ', '/']) position
    simp only [cleanTokens, List.map_cons, List.map_nil, tokensOf, hs, List.append_nil,
      tagToken_selfClosing hp.tag hp.attributes]
    cases hv : isVoid tag with
    | true => exact .void true start hv
    | false => exact .selfClosing start hv
  | @Marked.text tag attributes s gap hp hg =>
    have hv : isVoid tag = false := by
      rw [← Bool.not_eq_true]
      exact fun hv => absurd (hp.void hv).2 (by simp)
    obtain ⟨start, hs⟩ := tokens_of_blank hg (startBody tag attributes) position
    obtain ⟨finish, hf⟩ := tokens_of_text (hp.content s rfl).2 (endBody tag)
      (position + (collapsed ⟨gap, startBody tag attributes⟩).width)
    simp only [cleanTokens, List.map_cons, List.map_nil, tokensOf, hs, hf, List.append_nil,
      tagToken_startBody hp.tag hp.attributes, tagToken_endBody hp.tag]
    exact .pair start finish hv (.self (some s)) (.text s _ .nil)
  | @Marked.branch tag attributes children rs gap last hp hn hg hl hm =>
    have hv : isVoid tag = false := by
      rw [← Bool.not_eq_true]
      exact fun hv => hn (hp.void hv).1
    obtain ⟨start, hs⟩ := tokens_of_blank hg (startBody tag attributes) position
    obtain ⟨next, hx⟩ := exists_tokensOf_append
      (position + (collapsed ⟨gap, startBody tag attributes⟩).width) (rs.map collapsed)
      [collapsed ⟨last, endBody tag⟩]
    obtain ⟨finish, hf⟩ := tokens_of_blank hl (endBody tag) next
    simp only [cleanTokens, List.map_cons, List.map_append, List.map_nil, tokensOf, hs, hx, hf, List.append_nil,
      tagToken_startBody hp.tag hp.attributes, tagToken_endBody hp.tag]
    exact .pair start finish hv (.self none) (hm.writtenInside tag _)

theorem MarkedList.writtenInside {es : List Element} {rs : List TaggedRun} (h : MarkedList es rs) (name : String)
    (position : Nat) : WrittenInside name es [] (cleanTokens position rs) := by
  match h with
  | .nil => exact .nil
  | @MarkedList.cons e es rs ss he hs =>
    obtain ⟨next, hx⟩ := exists_tokensOf_append position (rs.map collapsed) (ss.map collapsed)
    rw [cleanTokens, List.map_append, hx]
    exact .child (he.written position) (hs.writtenInside name next)
end

theorem Attributes.plain_empty : Attributes.empty.Plain := ⟨by simp [names, empty], by simp [empty]⟩

def rootRuns (rs : List TaggedRun) : List TaggedRun :=
  ⟨[], startBody "svg" .empty⟩ :: (rs ++ [⟨[], endBody "svg"⟩])

theorem valid_rootRuns {rs : List TaggedRun} (h : ∀ r ∈ rs, r.Valid) : ∀ r ∈ rootRuns rs, r.Valid := by
  intro r hr
  simp only [rootRuns, List.mem_cons, List.mem_append, List.not_mem_nil, or_false] at hr
  rcases hr with rfl | hr | rfl
  · exact valid_startRun (by simp) (by decide) Attributes.plain_empty
  · exact h r hr
  · exact valid_endRun (by simp) (by decide)

theorem ofTokens_rootRuns {children : List Element} {rs : List TaggedRun}
    (h : MarkedList children rs) (hh : Element.heightList children < maxDepth) (position : Nat) :
    Element.ofTokens (cleanTokens position (rootRuns rs)) = .ok ⟨"svg", .empty, children, none⟩ := by
  have hb : Blank [] := by simp [Blank]
  obtain ⟨start, hs⟩ := tokens_of_blank hb (startBody "svg" .empty) position
  obtain ⟨next, hx⟩ := exists_tokensOf_append
    (position + (collapsed ⟨[], startBody "svg" .empty⟩).width) (rs.map collapsed)
    [collapsed ⟨[], endBody "svg"⟩]
  obtain ⟨finish, hf⟩ := tokens_of_blank hb (endBody "svg") next
  simp only [cleanTokens, rootRuns, List.map_cons, List.map_append, List.map_nil, tokensOf, hs, hx, hf,
    List.append_nil, tagToken_startBody (show isName "svg" = true by decide) Attributes.plain_empty,
    tagToken_endBody (show isName "svg" = true by decide)]
  exact (h.writtenInside "svg" _).ofTokens (CutInto.self none) hh .empty start finish []

theorem read_of_marked {children : List Element} {rs : List TaggedRun} (h : MarkedList children rs)
    (hh : Element.heightList children < maxDepth) {source : String}
    (hs : source.toList = taggedText (rootRuns rs)) :
    Document.read source = .ok ⟨.empty, children, source⟩ := by
  have hv := valid_rootRuns h.valid
  have hc : clean source = String.ofList (taggedText ((rootRuns rs).map collapsed)) := by
    rw [clean, hs, rootRuns, cleanChars_taggedText rfl hv]
  have hn : clean source ≠ "" := by
    rw [hc]
    simp [rootRuns, taggedText_cons]
  have ht : tokenize (clean source) = .ok (cleanTokens 0 (rootRuns rs)) := by
    rw [tokenize, hc, String.toList_ofList, tokensFrom_taggedText, cleanTokens]
    intro r hr
    obtain ⟨s, hm, rfl⟩ := List.mem_map.mp hr
    exact (hv s hm).collapsed
  simp only [Document.read, hn, if_false, ht]
  change (Element.ofTokens (cleanTokens 0 (rootRuns rs))).bind _ = _
  rw [ofTokens_rootRuns h hh 0]
  rfl

end IconCompiler.Markup
