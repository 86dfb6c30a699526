import IconCompiler.Markup.Tree

/-!
Tree building with an explicit stack of open elements, and its agreement with the recursive one.
-/

namespace IconCompiler.Markup

namespace Content

def addChild (c : Content) (e : Element) : Content := { c with children := c.children ++ [e] }

def addRun (c : Content) (s : String) : Content := { c with runs := c.runs ++ [s] }

def append (c d : Content) : Content := ⟨c.children ++ d.children, c.runs ++ d.runs⟩

@[simp]
theorem append_empty (c : Content) : c.append .empty = c := by
  simp [append, empty]

@[simp]
theorem empty_append (c : Content) : Content.empty.append c = c := by
  simp [append, empty]

theorem append_consChild (c d : Content) (e : Element) :
    c.append (d.consChild e) = (c.addChild e).append d := by
  simp [append, consChild, addChild]

theorem append_consRun (c d : Content) (s : String) :
    c.append (d.consRun s) = (c.addRun s).append d := by
  simp [append, consRun, addRun]

end Content

structure Frame where
  tag : String
  attributes : Attributes
  content : Content
  deriving DecidableEq, Repr

namespace Frame

def ofTag (tag : String) (attributes : Attributes) : Frame := ⟨tag, attributes, .empty⟩

def addChild (f : Frame) (e : Element) : Frame := { f with content := f.content.addChild e }

def addRun (f : Frame) (s : String) : Frame := { f with content := f.content.addRun s }

def receive (f : Frame) (c : Content) : Frame := { f with content := f.content.append c }

def toElement (f : Frame) : Element :=
  ⟨f.tag, f.attributes, f.content.children,
    if f.content.runs = [] then none else some (" ".intercalate f.content.runs)⟩

theorem toElement_eq (f : Frame) : f.toElement = f.content.toElement f.tag f.attributes := by
  simp [toElement, Content.toElement, Content.text?]

@[simp]
theorem receive_empty (f : Frame) : f.receive .empty = f := by
  simp [receive]

theorem receive_consChild (f : Frame) (c : Content) (e : Element) :
    f.receive (c.consChild e) = (f.addChild e).receive c := by
  simp [receive, addChild, Content.append_consChild]

theorem receive_consRun (f : Frame) (c : Content) (s : String) :
    f.receive (c.consRun s) = (f.addRun s).receive c := by
  simp [receive, addRun, Content.append_consRun]

theorem receive_ofTag (tag : String) (attributes : Attributes) (c : Content) :
    ((ofTag tag attributes).receive c).toElement = c.toElement tag attributes := by
  simp [receive, ofTag, toElement_eq]

end Frame

/-- The open elements, the innermost first and apart, or the root once its end tag has come. -/
inductive Stack where
  | filling (top : Frame) (below : List Frame)
  | closed (root : Element)
  deriving DecidableEq, Repr

namespace Stack

def pop (top : Frame) : List Frame → Stack
  | [] => .closed top.toElement
  | next :: below => .filling (next.addChild top.toElement) below

def step (cap : Option Nat) : Stack → Token → Except SourceError Stack
  | .closed root, _ => .ok (.closed root)
  | .filling top below, .text s _ => .ok (.filling (top.addRun s) below)
  | .filling top below, .closing name _ =>
    .ok (if name = top.tag then pop top below else .filling top below)
  | .filling top below, .opening tag attributes selfClosing position =>
    match cap.filter fun limit => limit ≤ below.length + 1 with
    | some limit => .error (.nestingTooDeep limit position)
    | none =>
      .ok (if selfClosing || isVoid tag then .filling (top.addChild ⟨tag, attributes, [], none⟩) below
        else .filling (.ofTag tag attributes) (top :: below))

def closeAll (top : Frame) : List Frame → Element
  | [] => top.toElement
  | next :: below => closeAll (next.addChild top.toElement) below

def finish : Stack → Element
  | .filling top below => closeAll top below
  | .closed root => root

def run (cap : Option Nat) : Stack → List Token → Except SourceError Element
  | s, [] => .ok s.finish
  | s, token :: tokens => do run cap (← s.step cap token) tokens

def build (cap : Option Nat) : List Token → Except SourceError Element
  | [] => .error .emptyInput
  | .opening tag attributes selfClosing _ :: tokens =>
    if tag = "svg" then
      run cap (if selfClosing then .closed ⟨tag, attributes, [], none⟩
        else .filling (.ofTag tag attributes) []) tokens
    else .error (.rootElement tag)
  | .closing tag _ :: _ => .error (.rootElement tag)
  | .text _ _ :: _ => .error (.rootElement "text")

theorem run_closed (cap : Option Nat) (root : Element) (tokens : List Token) :
    run cap (.closed root) tokens = .ok root := by
  induction tokens with
  | nil => rfl
  | cons token tokens ih => exact ih

theorem run_pop_nil (cap : Option Nat) (top : Frame) (below : List Frame) :
    run cap (pop top below) [] = run cap (.filling top below) [] := by
  cases below with
  | nil => rfl
  | cons next below => rfl

end Stack

theorem exists_ok_of_bind {ε α β : Type} {x : Except ε α} {f : α → Except ε β} {b : β}
    (h : x >>= f = .ok b) : ∃ a, x = .ok a ∧ f a = .ok b := by
  cases x with
  | error e => cases h
  | ok a => exact ⟨a, rfl, h⟩

theorem exists_ok_of_map {ε α β : Type} {x : Except ε α} {f : α → β} {b : β}
    (h : x.map f = .ok b) : ∃ a, x = .ok a ∧ f a = b := by
  cases x with
  | error e => cases h
  | ok a => cases h; exact ⟨a, rfl, rfl⟩

theorem bind_congr_of_ok {ε α β : Type} {x : Except ε α} {f g : α → Except ε β}
    (h : ∀ a, x = .ok a → f a = g a) : x >>= f = x >>= g := by
  cases x with
  | error e => rfl
  | ok a => exact h a rfl

theorem fill_rest {cap : Option Nat} {fuel depth : Nat} {name : String} {tokens rest : List Token}
    {content : Content} (h : fill cap fuel depth name tokens = .ok (content, rest)) :
    rest <:+ tokens := by
  induction fuel generalizing depth name tokens content rest with
  | zero => cases h; exact List.suffix_rfl
  | succ fuel ih =>
    match tokens with
    | [] => cases h; exact List.suffix_rfl
    | .text s position :: tokens =>
      obtain ⟨r, hr, hc⟩ := exists_ok_of_bind h
      cases hc
      exact (ih hr).trans (List.suffix_cons _ _)
    | .closing other position :: tokens =>
      simp only [fill] at h
      split at h
      · cases h; exact List.suffix_cons _ _
      · exact (ih h).trans (List.suffix_cons _ _)
    | .opening tag attributes selfClosing position :: tokens =>
      simp only [fill] at h
      split at h
      · cases h
      · split at h
        · obtain ⟨r, hr, hc⟩ : ∃ r, fill cap fuel depth name tokens = .ok r ∧ _ := exists_ok_of_bind h
          cases hc
          exact (ih hr).trans (List.suffix_cons _ _)
        · obtain ⟨inner, hi, h⟩ := exists_ok_of_bind h
          obtain ⟨r, hr, hc⟩ := exists_ok_of_bind h
          cases hc
          exact ((ih hr).trans (ih hi)).trans (List.suffix_cons _ _)

theorem admits_eq (cap : Option Nat) (depth : Nat) :
    admits cap depth = (cap.filter fun limit => limit ≤ depth).isNone := by
  cases cap with
  | none => rfl
  | some limit => by_cases h : limit ≤ depth <;> simp [admits, Option.filter, h]; omega

/-- What the recursion still has to do is what the machine does before it pops the top. -/
theorem run_filling (cap : Option Nat) {fuel : Nat} {tokens : List Token} (h : tokens.length ≤ fuel)
    (top : Frame) (below : List Frame) :
    Stack.run cap (.filling top below) tokens =
      fill cap fuel (below.length + 1) top.tag tokens >>= fun r =>
        Stack.run cap (Stack.pop (top.receive r.1) below) r.2 := by
  induction fuel generalizing tokens top below with
  | zero =>
    rw [List.length_eq_zero_iff.mp (Nat.le_zero.mp h), ← Stack.run_pop_nil]
    change _ = Stack.run cap (Stack.pop (top.receive .empty) below) []
    rw [Frame.receive_empty]
  | succ fuel ih =>
    match tokens with
    | [] =>
      rw [← Stack.run_pop_nil]
      change _ = Stack.run cap (Stack.pop (top.receive .empty) below) []
      rw [Frame.receive_empty]
    | .text s position :: tokens =>
      have hl : tokens.length ≤ fuel := by simpa using h
      simp only [Stack.run, Stack.step, fill, bind_assoc, pure_bind, Frame.receive_consRun]
      exact ih hl (top.addRun s) below
    | .closing other position :: tokens =>
      have hl : tokens.length ≤ fuel := by simpa using h
      simp only [Stack.run, Stack.step, fill]
      split
      · change Stack.run cap (Stack.pop top below) tokens =
          Stack.run cap (Stack.pop (top.receive .empty) below) tokens
        rw [Frame.receive_empty]
      · exact ih hl top below
    | .opening tag attributes selfClosing position :: tokens =>
      have hl : tokens.length ≤ fuel := by simpa using h
      simp only [Stack.run, Stack.step, fill, admits_eq]
      cases hc : cap.filter fun limit => limit ≤ below.length + 1 with
      | some limit =>
        have hs : cap = some limit := (Option.filter_eq_some_iff.mp hc).1
        rw [hs]
        rfl
      | none =>
        simp only [Option.isNone_none, Bool.not_true, Bool.false_eq_true, if_false]
        split
        · change Stack.run cap (.filling (top.addChild ⟨tag, attributes, [], none⟩) below) tokens =
            (fill cap fuel (below.length + 1) top.tag tokens >>= fun r => pure
              (r.1.consChild ⟨tag, attributes, [], none⟩, r.2)) >>= _
          simp only [bind_assoc, pure_bind, Frame.receive_consChild]
          exact ih hl (top.addChild _) below
        · simp only [bind_assoc, pure_bind, Frame.receive_consChild]
          change Stack.run cap (.filling (.ofTag tag attributes) (top :: below)) tokens = _
          -- Once for the content of the new element, and once for what it leaves of the tokens.
          rw [ih hl (.ofTag tag attributes) (top :: below)]
          apply bind_congr_of_ok
          intro inner hi
          have hr : inner.2.length ≤ fuel := Nat.le_trans (fill_rest hi).length_le hl
          simp only [Stack.pop, Frame.receive_ofTag]
          exact ih hr (top.addChild _) below

theorem ofTokensWithin_root (cap : Option Nat) (attributes : Attributes) (position : Nat)
    (tokens : List Token) :
    Element.ofTokensWithin cap (.opening "svg" attributes false position :: tokens) =
      Stack.run cap (.filling (.ofTag "svg" attributes) []) tokens := by
  rw [run_filling cap (Nat.le_refl tokens.length)]
  simp only [Element.ofTokensWithin, if_true, Bool.false_eq_true, if_false, Stack.pop,
    Stack.run_closed, Frame.receive_ofTag]
  change _ = fill cap tokens.length 1 "svg" tokens >>= _
  cases fill cap tokens.length 1 "svg" tokens with
  | error e => rfl
  | ok r => rfl

theorem exists_root_of_ok {cap : Option Nat} {tokens : List Token} {root : Element}
    (h : Element.ofTokensWithin cap tokens = .ok root) : ∃ attributes selfClosing position rest,
      tokens = .opening "svg" attributes selfClosing position :: rest := by
  match tokens with
  | [] => cases h
  | .closing tag position :: rest => cases h
  | .text s position :: rest => cases h
  | .opening tag attributes selfClosing position :: rest =>
    by_cases ht : tag = "svg"
    · exact ⟨attributes, selfClosing, position, rest, by rw [ht]⟩
    · simp [Element.ofTokensWithin, ht] at h

/-- The recursion is the machine with a stack of open elements, for every list of tokens. -/
theorem ofTokens_eq_build (tokens : List Token) :
    Element.ofTokens tokens = Stack.build (some 512) tokens := by
  match tokens with
  | [] => rfl
  | .closing tag position :: tokens => rfl
  | .text s position :: tokens => rfl
  | .opening tag attributes selfClosing position :: tokens =>
    by_cases ht : tag = "svg"
    · subst ht
      cases selfClosing with
      | true => simp [Element.ofTokens, Element.ofTokensWithin, Stack.build, Stack.run_closed, Content.toElement,
          Content.text?, Content.empty]
      | false => exact ofTokensWithin_root (some maxDepth) attributes position tokens
    · simp [Element.ofTokens, Element.ofTokensWithin, Stack.build, ht]

theorem ofTokens_eq_build_unclosed :
    Element.ofTokens [.opening "svg" .empty false 0, .opening "g" .empty false 5, .text "a" 8, .closing "svg" 9,
        .opening "path" .empty false 15, .text "b" 21, .closing "g" 22, .opening "rect" .empty true 26] =
      .ok ⟨"svg", .empty, [⟨"g", .empty, [⟨"path", .empty, [], none⟩], some "a b"⟩,
        ⟨"rect", .empty, [], none⟩], none⟩ := by
  rw [ofTokens_eq_build]
  rfl

end IconCompiler.Markup
