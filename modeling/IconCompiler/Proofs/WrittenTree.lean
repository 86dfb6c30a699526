import IconCompiler.Proofs.OpenElements
import IconCompiler.Proofs.Preorder

namespace IconCompiler.Markup

def CutInto (content : Option String) (runs : List String) : Prop :=
  match content with
  | none => runs = []
  | some s => runs ≠ [] ∧ " ".intercalate runs = s

mutual
inductive Written : Element → List Token → Prop
  | void {tag : String} {attributes : Attributes} (selfClosing : Bool) (position : Nat)
      (hv : isVoid tag = true) :
      Written ⟨tag, attributes, [], none⟩ [.opening tag attributes selfClosing position]
  | selfClosing {tag : String} {attributes : Attributes} (position : Nat)
      (hv : isVoid tag = false) :
      Written ⟨tag, attributes, [], none⟩ [.opening tag attributes true position]
  | pair {tag : String} {attributes : Attributes} {children : List Element}
      {content : Option String} {runs : List String} {tokens : List Token} (start finish : Nat)
      (hv : isVoid tag = false) (hc : CutInto content runs)
      (hw : WrittenInside tag children runs tokens) :
      Written ⟨tag, attributes, children, content⟩
        (.opening tag attributes false start :: (tokens ++ [.closing tag finish]))

/-- Children and runs in their order, interleaved in any way, with end tags of other names in
between. -/
inductive WrittenInside : String → List Element → List String → List Token → Prop
  | nil {name : String} : WrittenInside name [] [] []
  | child {name : String} {e : Element} {children : List Element} {runs : List String}
      {first tokens : List Token} (he : Written e first)
      (hw : WrittenInside name children runs tokens) :
      WrittenInside name (e :: children) runs (first ++ tokens)
  | text {name : String} {children : List Element} {runs : List String} {tokens : List Token}
      (s : String) (position : Nat) (hw : WrittenInside name children runs tokens) :
      WrittenInside name children (s :: runs) (.text s position :: tokens)
  | stray {name other : String} {children : List Element} {runs : List String}
      {tokens : List Token} (position : Nat) (ho : other ≠ name)
      (hw : WrittenInside name children runs tokens) :
      WrittenInside name children runs (.closing other position :: tokens)
end

theorem CutInto.text? {content : Option String} {runs : List String} (h : CutInto content runs)
    (children : List Element) : Content.text? ⟨children, runs⟩ = content := by
  cases content with
  | none => simp [Content.text?, show runs = [] from h]
  | some s => simp [Content.text?, h.1, h.2]

theorem CutInto.self (content : Option String) : CutInto content content.toList := by
  cases content with
  | none => rfl
  | some s => exact ⟨by simp, by simp⟩

theorem receive_ofTag_toElement {tag : String} {attributes : Attributes} {children : List Element}
    {content : Option String} {runs : List String} (h : CutInto content runs) :
    ((Frame.ofTag tag attributes).receive ⟨children, runs⟩).toElement =
      ⟨tag, attributes, children, content⟩ := by
  rw [Frame.receive_ofTag, Content.toElement, h.text?]

theorem Frame.receive_child (f : Frame) (e : Element) (children : List Element)
    (runs : List String) : f.receive ⟨e :: children, runs⟩ = (f.addChild e).receive ⟨children, runs⟩ :=
  f.receive_consChild ⟨children, runs⟩ e

theorem Frame.receive_run (f : Frame) (s : String) (children : List Element) (runs : List String) :
    f.receive ⟨children, s :: runs⟩ = (f.addRun s).receive ⟨children, runs⟩ :=
  f.receive_consRun ⟨children, runs⟩ s

namespace Stack

theorem run_opening_leaf {limit : Nat} {below : List Frame} (h : below.length + 1 < limit) (top : Frame)
    {tag : String} {selfClosing : Bool} (hl : (selfClosing || isVoid tag) = true)
    (attributes : Attributes) (position : Nat) (tokens : List Token) :
    run (some limit) (.filling top below) (.opening tag attributes selfClosing position :: tokens) =
      run (some limit) (.filling (top.addChild ⟨tag, attributes, [], none⟩) below) tokens := by
  have hf : ¬ limit ≤ below.length + 1 := by omega
  simp only [run, step, Option.filter_some, hf, decide_false, Bool.false_eq_true, if_false, hl, if_true]
  rfl

theorem run_opening {limit : Nat} {below : List Frame} (h : below.length + 1 < limit) (top : Frame)
    {tag : String} (hv : isVoid tag = false) (attributes : Attributes) (position : Nat)
    (tokens : List Token) :
    run (some limit) (.filling top below) (.opening tag attributes false position :: tokens) =
      run (some limit) (.filling (.ofTag tag attributes) (top :: below)) tokens := by
  have hf : ¬ limit ≤ below.length + 1 := by omega
  simp only [run, step, Option.filter_some, hf, decide_false, Bool.false_eq_true, if_false, hv,
    Bool.or_false]
  rfl

theorem run_closing (cap : Option Nat) {top : Frame} (below : List Frame) {name : String}
    (h : name = top.tag) (position : Nat) (tokens : List Token) :
    run cap (.filling top below) (.closing name position :: tokens) =
      run cap (pop top below) tokens := by
  simp only [run, step, h, if_true]
  rfl

theorem run_stray (cap : Option Nat) {top : Frame} (below : List Frame) {other : String}
    (h : other ≠ top.tag) (position : Nat) (tokens : List Token) :
    run cap (.filling top below) (.closing other position :: tokens) =
      run cap (.filling top below) tokens := by
  simp only [run, step, h, if_false]
  rfl

theorem run_text (cap : Option Nat) (top : Frame) (below : List Frame) (s : String) (position : Nat)
    (tokens : List Token) :
    run cap (.filling top below) (.text s position :: tokens) =
      run cap (.filling (top.addRun s) below) tokens := rfl

end Stack

open Stack

-- The frames below the top stay as they are, so that the depth at which a tree is written enters
-- only through their number.
mutual
theorem Written.run_eq {e : Element} {tokens : List Token} (h : Written e tokens) {limit : Nat} (top : Frame)
    (below : List Frame) (hb : below.length + 1 + e.height ≤ limit) (rest : List Token) :
    run (some limit) (.filling top below) (tokens ++ rest) =
      run (some limit) (.filling (top.addChild e) below) rest := by
  match h with
  | .void selfClosing position hv =>
    simp only [Element.height] at hb
    exact run_opening_leaf (by omega) top (by simp [hv]) _ position rest
  | .selfClosing position hv =>
    simp only [Element.height] at hb
    exact run_opening_leaf (by omega) top rfl _ position rest
  | @Written.pair tag attributes children content runs inside start finish hv hc hw =>
    simp only [Element.height] at hb
    have hn : tag = ((Frame.ofTag tag attributes).receive ⟨children, runs⟩).tag := rfl
    rw [List.cons_append, List.append_assoc, run_opening (by omega) top hv,
      hw.run_eq (.ofTag tag attributes) (top :: below) rfl (by simp only [List.length_cons]; omega),
      List.singleton_append, run_closing (some limit) (top :: below) hn, pop,
      receive_ofTag_toElement hc]

theorem WrittenInside.run_eq {name : String} {children : List Element} {runs : List String} {tokens : List Token}
    (h : WrittenInside name children runs tokens) {limit : Nat} (top : Frame) (below : List Frame)
    (ht : top.tag = name) (hb : below.length + 1 + Element.heightList children ≤ limit)
    (rest : List Token) :
    run (some limit) (.filling top below) (tokens ++ rest) =
      run (some limit) (.filling (top.receive ⟨children, runs⟩) below) rest := by
  match h with
  | .nil =>
    change run (some limit) (.filling top below) rest =
      run (some limit) (.filling (top.receive .empty) below) rest
    rw [Frame.receive_empty]
  | @WrittenInside.child name e children runs first inside he hw =>
    simp only [Element.heightList] at hb
    rw [List.append_assoc, he.run_eq top below (by omega), Frame.receive_child]
    exact hw.run_eq (top.addChild e) below ht (by omega) rest
  | .text s position hw =>
    rw [List.cons_append, run_text, Frame.receive_run]
    exact hw.run_eq (top.addRun s) below ht hb rest
  | .stray position ho hw =>
    rw [List.cons_append, run_stray (some limit) below (by rw [ht]; exact ho)]
    exact hw.run_eq top below ht hb rest
end

theorem WrittenInside.ofTokens {children : List Element} {runs : List String} {tokens : List Token}
    (h : WrittenInside "svg" children runs tokens) {content : Option String}
    (hc : CutInto content runs) (hh : Element.heightList children < maxDepth) (attributes : Attributes)
    (start finish : Nat) (rest : List Token) :
    Element.ofTokens (.opening "svg" attributes false start ::
      (tokens ++ .closing "svg" finish :: rest)) = .ok ⟨"svg", attributes, children, content⟩ := by
  have hn : "svg" = ((Frame.ofTag "svg" attributes).receive ⟨children, runs⟩).tag := rfl
  rw [Element.ofTokens, ofTokensWithin_root, h.run_eq _ [] rfl (by simp only [List.length_nil]; omega),
    run_closing (some maxDepth) [] hn, pop, run_closed, receive_ofTag_toElement hc]

def Element.VoidsEmpty (e : Element) : Prop :=
  ∀ d ∈ e.preorder, d.isVoid = true → d.children = [] ∧ d.content = none

theorem Element.VoidsEmpty.child {e c : Element} (h : e.VoidsEmpty) (hc : c ∈ e.children) :
    c.VoidsEmpty := by
  intro d hd
  apply h d
  rw [Element.preorder_eq]
  exact List.mem_cons_of_mem _ (Element.mem_preorderList.mpr ⟨c, hc, hd⟩)

theorem exists_writtenInside (name : String) {children : List Element}
    (h : ∀ c ∈ children, ∃ tokens, Written c tokens) (content : Option String) :
    ∃ tokens, WrittenInside name children content.toList tokens := by
  induction children with
  | nil =>
    cases content with
    | none => exact ⟨[], .nil⟩
    | some s => exact ⟨[.text s 0], .text s 0 .nil⟩
  | cons c children ih =>
    obtain ⟨first, hf⟩ := h c (by simp)
    obtain ⟨tokens, ht⟩ := ih (fun d hd => h d (List.mem_cons_of_mem _ hd))
    exact ⟨first ++ tokens, .child hf ht⟩

theorem exists_written (e : Element) (h : e.VoidsEmpty) : ∃ tokens, Written e tokens := by
  induction e using Element.induction with
  | h e ih =>
    obtain ⟨tag, attributes, children, content⟩ := e
    cases hv : isVoid tag with
    | true =>
      obtain ⟨rfl, rfl⟩ := h _ (Element.mem_preorder_self _) hv
      exact ⟨_, .void true 0 hv⟩
    | false =>
      obtain ⟨tokens, ht⟩ := exists_writtenInside tag (fun c hc => ih c hc (h.child hc)) content
      exact ⟨_, .pair 0 0 hv (.self content) ht⟩

theorem ofTokens_of_written {root : Element} (ht : root.tag = "svg") (hh : root.height ≤ 512)
    (hv : root.VoidsEmpty) :
    (∃ tokens, Written root tokens) ∧
      ∀ tokens rest, Written root tokens → Element.ofTokens (tokens ++ rest) = .ok root := by
  refine ⟨exists_written root hv, ?_⟩
  intro tokens rest hw
  cases hw with
  | void selfClosing position hs =>
    cases ht
    exact absurd hs (by decide)
  | selfClosing position hs =>
    cases ht
    rfl
  | pair start finish hs hc hi =>
    cases ht
    simp only [Element.height] at hh
    rw [List.cons_append, List.append_assoc, List.singleton_append]
    exact hi.ofTokens hc (by simp only [maxDepth]; omega) _ start finish rest

theorem ofTokens_of_written_group :
    Element.ofTokens ([.opening "svg" .empty false 0, .opening "g" .empty false 5, .text "a" 8,
        .opening "circle" .empty false 9, .closing "circle" 17, .text "b" 26, .closing "g" 27,
        .closing "svg" 31] ++ [.text "after" 37]) =
      .ok ⟨"svg", .empty, [⟨"g", .empty, [⟨"circle", .empty, [], none⟩], some "a b"⟩], none⟩ := by
  have hc : CutInto (some "a b") ["a", "b"] := ⟨by decide, by decide⟩
  have hb : WrittenInside "g" [] ["b"] [.text "b" 26] := .text "b" 26 .nil
  have hs : WrittenInside "g" [] ["b"] [.closing "circle" 17, .text "b" 26] :=
    .stray 17 (by decide) hb
  have hg : Written ⟨"g", .empty, [⟨"circle", .empty, [], none⟩], some "a b"⟩
      [.opening "g" .empty false 5, .text "a" 8, .opening "circle" .empty false 9,
        .closing "circle" 17, .text "b" 26, .closing "g" 27] :=
    .pair 5 27 (by decide) hc (.text "a" 8 (.child (.void false 9 (by decide)) hs))
  refine (ofTokens_of_written rfl (by decide) ?_).2 _ [.text "after" 37] ?_
  · intro d hd
    simp only [Element.preorder, Element.preorderList, List.append_nil, List.mem_cons, List.not_mem_nil,
      or_false] at hd
    rcases hd with rfl | rfl | rfl <;> decide
  · exact .pair 0 31 (by decide) (CutInto.self none) (.child hg .nil)

end IconCompiler.Markup
