import IconCompiler.Proofs.OpenElements

/-!
What one token can do to the stack of open elements, so that an invariant of the stack is shown for
one token and holds along every run.
-/

namespace IconCompiler.Markup

namespace Stack

inductive Step (cap : Option Nat) : Stack → Token → Stack → Prop
  | closed (root : Element) (token : Token) : Step cap (.closed root) token (.closed root)
  | text (top : Frame) (below : List Frame) (s : String) (position : Nat) :
      Step cap (.filling top below) (.text s position) (.filling (top.addRun s) below)
  | stray (top : Frame) (below : List Frame) (name : String) (position : Nat) (h : name ≠ top.tag) :
      Step cap (.filling top below) (.closing name position) (.filling top below)
  | pop (top : Frame) (below : List Frame) (position : Nat) :
      Step cap (.filling top below) (.closing top.tag position) (pop top below)
  | leaf (top : Frame) (below : List Frame) (tag : String) (attributes : Attributes)
      (selfClosing : Bool) (position : Nat) (h : ∀ limit ∈ cap, below.length + 1 < limit) :
      Step cap (.filling top below) (.opening tag attributes selfClosing position)
        (.filling (top.addChild ⟨tag, attributes, [], none⟩) below)
  | push (top : Frame) (below : List Frame) (tag : String) (attributes : Attributes) (position : Nat)
      (h : ∀ limit ∈ cap, below.length + 1 < limit) (hv : isVoid tag = false) :
      Step cap (.filling top below) (.opening tag attributes false position)
        (.filling (.ofTag tag attributes) (top :: below))

theorem step_of_ok {cap : Option Nat} {s s' : Stack} {token : Token}
    (h : s.step cap token = .ok s') : Step cap s token s' := by
  cases s with
  | closed root => cases h; exact .closed root token
  | filling top below =>
    cases token with
    | text x position => cases h; exact .text top below x position
    | closing name position =>
      cases h
      split
      · next hn =>
        subst hn
        exact .pop top below position
      · next hn => exact .stray top below name position hn
    | opening tag attributes selfClosing position =>
      simp only [step] at h
      split at h
      · cases h
      · next hc =>
        have hl : ∀ limit ∈ cap, below.length + 1 < limit := by
          intro limit hm
          have hf := (Option.filter_eq_none_iff.mp hc) limit hm
          simpa using hf
        cases h
        split
        · exact .leaf top below tag attributes selfClosing position hl
        · next hs =>
          simp only [Bool.or_eq_true, not_or, Bool.not_eq_true] at hs
          rw [hs.1]
          exact .push top below tag attributes position hl hs.2

theorem run_invariant {cap : Option Nat} {P : Stack → Prop} {Q : Token → Prop}
    (hstep : ∀ s token s', P s → Q token → Step cap s token s' → P s') {s : Stack}
    {tokens : List Token} {root : Element} (hs : P s) (ht : ∀ token ∈ tokens, Q token)
    (h : run cap s tokens = .ok root) : ∃ s', P s' ∧ s'.finish = root := by
  induction tokens generalizing s with
  | nil => cases h; exact ⟨s, hs, rfl⟩
  | cons token tokens ih =>
    obtain ⟨s', hs', h⟩ := exists_ok_of_bind h
    exact ih (hstep s token s' hs (ht token (by simp)) (step_of_ok hs'))
      (fun t hm => ht t (List.mem_cons_of_mem _ hm)) h

end Stack

theorem ofTokens_ok {tokens : List Token} {root : Element} (h : Element.ofTokens tokens = .ok root) :
    ∃ attributes position rest,
      (tokens = .opening "svg" attributes true position :: rest ∧ root = ⟨"svg", attributes, [], none⟩) ∨
        (tokens = .opening "svg" attributes false position :: rest ∧
          Stack.run (some maxDepth) (.filling (.ofTag "svg" attributes) []) rest = .ok root) := by
  obtain ⟨attributes, selfClosing, position, rest, rfl⟩ := exists_root_of_ok h
  refine ⟨attributes, position, rest, ?_⟩
  cases selfClosing with
  | true =>
    cases h
    exact .inl ⟨rfl, rfl⟩
  | false => exact .inr ⟨rfl, (ofTokensWithin_root _ _ position _).symm.trans h⟩

theorem read_ok {source : String} {doc : Document} (h : Document.read source = .ok doc) :
    ∃ tokens root, tokenize (clean source) = .ok tokens ∧ Element.ofTokens tokens = .ok root ∧
      doc = ⟨root.attributes, root.children, source⟩ := by
  simp only [Document.read] at h
  split at h
  · cases h
  · obtain ⟨tokens, ht, h⟩ := exists_ok_of_bind h
    obtain ⟨root, hr, h⟩ := exists_ok_of_bind h
    cases h
    exact ⟨tokens, root, ht, hr, rfl⟩

theorem read_eq_of_tokenize {source : String} {tokens : List Token} (hn : clean source ≠ "")
    (h : tokenize (clean source) = .ok tokens) :
    Document.read source =
      (Element.ofTokens tokens).map fun root => ⟨root.attributes, root.children, source⟩ := by
  simp only [Document.read, hn, if_false, h]
  change Element.ofTokens tokens >>= _ = _
  cases Element.ofTokens tokens with
  | error e => rfl
  | ok root => rfl

end IconCompiler.Markup
