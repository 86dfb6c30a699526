import IconCompiler.Proofs.Preorder
import IconCompiler.Proofs.StackRuns
import IconCompiler.Proofs.WrittenTree

namespace IconCompiler.Markup

def Element.label (e : Element) : String × Attributes := (e.tag, e.attributes)

def Token.label? : Token → Option (String × Attributes)
  | .opening tag attributes _ _ => some (tag, attributes)
  | .closing _ _ => none
  | .text _ _ => none

namespace Element

mutual
theorem length_preorder : ∀ e : Element, e.preorder.length = e.size
  | ⟨_, _, children, _⟩ => by
    rw [preorder, size, List.length_cons, length_preorderList children, Nat.add_comm]

theorem length_preorderList : ∀ es : List Element, (preorderList es).length = sizeList es
  | [] => rfl
  | e :: es => by rw [preorderList, sizeList, List.length_append, length_preorder e, length_preorderList es]
end

def labels (e : Element) : List (String × Attributes) := e.preorder.map label

theorem labels_eq (e : Element) : e.labels = e.label :: (preorderList e.children).map label := by
  rw [labels, preorder_eq, List.map_cons]

end Element

namespace Frame

def labels (f : Frame) : List (String × Attributes) :=
  (f.tag, f.attributes) :: (Element.preorderList f.content.children).map Element.label

@[simp]
theorem labels_ofTag (tag : String) (attributes : Attributes) :
    (ofTag tag attributes).labels = [(tag, attributes)] := rfl

@[simp]
theorem labels_addRun (f : Frame) (s : String) : (f.addRun s).labels = f.labels := rfl

@[simp]
theorem labels_addChild (f : Frame) (e : Element) : (f.addChild e).labels = f.labels ++ e.labels := by
  simp [labels, addChild, Content.addChild, Element.labels, Element.preorderList_append, Element.preorderList]

theorem labels_toElement (f : Frame) : f.toElement.labels = f.labels := Element.labels_eq _

end Frame

namespace Stack

def labels : Stack → List (String × Attributes)
  | .filling top below => below.reverse.flatMap Frame.labels ++ top.labels
  | .closed root => root.labels

theorem labels_pop (top : Frame) (below : List Frame) : (pop top below).labels = labels (.filling top below) := by
  cases below with
  | nil => exact top.labels_toElement
  | cons next below => simp [pop, labels, Frame.labels_toElement]

theorem labels_closeAll (top : Frame) (below : List Frame) :
    (closeAll top below).labels = labels (.filling top below) := by
  induction below generalizing top with
  | nil => exact top.labels_toElement
  | cons next below ih =>
    rw [closeAll, ih]
    exact labels_pop top (next :: below)

theorem labels_finish (s : Stack) : s.finish.labels = s.labels := by
  cases s with
  | filling top below => exact labels_closeAll top below
  | closed root => rfl

theorem labels_step {cap : Option Nat} {top : Frame} {below : List Frame} {token : Token} {s : Stack}
    (h : Step cap (.filling top below) token s) :
    s.labels = labels (.filling top below) ++ token.label?.toList := by
  cases h with
  | text _ _ x position => simp [labels, Token.label?]
  | stray _ _ name position hn => simp [Token.label?]
  | pop _ _ position => simp [labels_pop, Token.label?]
  | leaf _ _ tag attributes selfClosing position hl =>
    simp [labels, Token.label?, Element.labels_eq, Element.label, Element.preorderList]
  | push _ _ tag attributes position hl hv => simp [labels, Token.label?]

inductive Reaches (cap : Option Nat) : Stack → List Token → Stack → Prop
  | nil (s : Stack) : Reaches cap s [] s
  | cons {s s' t : Stack} {token : Token} {tokens : List Token} (hs : s.step cap token = .ok s')
      (h : Reaches cap s' tokens t) : Reaches cap s (token :: tokens) t

theorem Reaches.run_append {cap : Option Nat} {s t : Stack} {tokens : List Token} (h : Reaches cap s tokens t)
    (more : List Token) : run cap s (tokens ++ more) = run cap t more := by
  induction h with
  | nil s => rfl
  | cons hs _ ih =>
    rw [List.cons_append, run, hs]
    exact ih

theorem Reaches.eq_of_closed {cap : Option Nat} {root : Element} {t : Stack} {tokens : List Token}
    (h : Reaches cap (.closed root) tokens t) : t = .closed root := by
  generalize hs : Stack.closed root = s at h
  induction h with
  | nil s => rfl
  | cons hstep _ ih =>
    subst hs
    cases hstep
    exact ih rfl

theorem Reaches.labels_eq {cap : Option Nat} {s : Stack} {top : Frame} {below : List Frame}
    {tokens : List Token} (h : Reaches cap s tokens (.filling top below)) :
    labels (.filling top below) = s.labels ++ tokens.filterMap Token.label? := by
  generalize ht : Stack.filling top below = t at h
  induction h with
  | nil s => simp
  | @cons s s' t token tokens hs h ih =>
    cases s with
    | closed root =>
      cases hs
      rw [h.eq_of_closed] at ht
      cases ht
    | filling top below =>
      rw [ih ht, labels_step (step_of_ok hs), List.append_assoc]
      cases hl : token.label? <;> simp [hl]

theorem step_eq_closed {cap : Option Nat} {top : Frame} {below : List Frame} {token : Token} {root : Element}
    (h : step cap (.filling top below) token = .ok (.closed root)) :
    ∃ position, token = .closing top.tag position ∧ below = [] ∧ root = top.toElement := by
  generalize hs : Stack.closed root = s at h
  cases step_of_ok h with
  | text _ _ x position => cases hs
  | stray _ _ name position hn => cases hs
  | leaf _ _ tag attributes selfClosing position hl => cases hs
  | push _ _ tag attributes position hl hv => cases hs
  | pop _ _ position =>
    cases below with
    | cons next below => cases hs
    | nil =>
      cases hs
      exact ⟨position, rfl, rfl, rfl⟩

theorem reaches_of_run {cap : Option Nat} {top : Frame} {below : List Frame} {tokens : List Token}
    {root : Element} (h : run cap (.filling top below) tokens = .ok root) :
    (∃ top' below', Reaches cap (.filling top below) tokens (.filling top' below') ∧
        root = closeAll top' below') ∨
      ∃ before position rest top', tokens = before ++ .closing top'.tag position :: rest ∧
        Reaches cap (.filling top below) before (.filling top' []) ∧ root = top'.toElement := by
  induction tokens generalizing top below with
  | nil =>
    cases h
    exact .inl ⟨top, below, .nil _, rfl⟩
  | cons token tokens ih =>
    obtain ⟨s, hs, h⟩ := exists_ok_of_bind h
    cases s with
    | filling top₁ below₁ =>
      obtain ⟨top', below', hr, he⟩ | ⟨before, position, rest, top', rfl, hr, he⟩ := ih h
      · exact .inl ⟨top', below', .cons hs hr, he⟩
      · exact .inr ⟨token :: before, position, rest, top', rfl, .cons hs hr, he⟩
    | closed root' =>
      rw [run_closed] at h
      cases h
      obtain ⟨position, rfl, rfl, rfl⟩ := step_eq_closed hs
      exact .inr ⟨[], position, tokens, top, rfl, .nil _, rfl⟩

theorem Reaches.tag_eq {cap : Option Nat} {f top : Frame} {tokens : List Token}
    (h : Reaches cap (.filling f []) tokens (.filling top [])) : top.tag = f.tag := by
  have hl := h.labels_eq
  simp only [labels, List.reverse_nil, List.flatMap_nil, List.nil_append, Frame.labels, List.cons_append,
    List.cons.injEq, Prod.mk.injEq] at hl
  exact hl.1.1

theorem run_leaf_ne {cap : Option Nat} {top : Frame} {below : List Frame} {root : Element}
    (h : root.labels = labels (.filling top below)) :
    run cap (.filling top below) [.opening "g" .empty true 0] ≠ .ok root := by
  intro hr
  obtain ⟨s, hs, hf⟩ := exists_ok_of_bind hr
  cases hf
  have hl := labels_step (step_of_ok hs)
  rw [← labels_finish, h] at hl
  simp [Token.label?] at hl

end Stack

open Stack

def Settles (tokens : List Token) (root : Element) : Prop :=
  ∀ more, Element.ofTokens (tokens ++ more) = .ok root

theorem not_settles_nil (root : Element) : ¬ Settles [] root := by
  intro h
  cases h []

section

variable {attributes : Attributes} {inside : List Token} {top : Frame} {below : List Frame}

theorem ofTokens_of_reaches (position : Nat)
    (h : Reaches (some maxDepth) (.filling (.ofTag "svg" attributes) []) inside (.filling top below))
    (more : List Token) :
    Element.ofTokens (.opening "svg" attributes false position :: inside ++ more) =
      run (some maxDepth) (.filling top below) more := by
  rw [Element.ofTokens, List.cons_append, ofTokensWithin_root, h.run_append]

theorem not_settles_of_reaches (position : Nat)
    (h : Reaches (some maxDepth) (.filling (.ofTag "svg" attributes) []) inside (.filling top below))
    {root : Element} (hl : root.labels = labels (.filling top below)) :
    ¬ Settles (.opening "svg" attributes false position :: inside) root := by
  intro hs
  have hr := hs [.opening "g" .empty true 0]
  rw [ofTokens_of_reaches position h] at hr
  exact run_leaf_ne hl hr

theorem settles_of_closing (start finish : Nat)
    (h : Reaches (some maxDepth) (.filling (.ofTag "svg" attributes) []) inside (.filling top [])) :
    Settles (.opening "svg" attributes false start :: inside ++ [.closing top.tag finish]) top.toElement := by
  intro more
  rw [List.append_assoc, ofTokens_of_reaches start h, List.singleton_append, run_closing (some maxDepth) [] rfl,
    pop, run_closed]

end

theorem Element.size_eq_countP {root : Element} {tokens : List Token}
    (h : root.labels = tokens.filterMap Token.label?) :
    root.size = tokens.countP fun token => token.label?.isSome := by
  rw [← Element.length_preorder, ← List.length_filterMap_eq_countP, ← h, Element.labels, List.length_map]

/-- The elements of a tree in pre-order are what its first tokens open, one after the other. Either these are all the
tokens, and the tree still depends on what might follow; or the last of them closes the root, and the tree does not
depend on the others. -/
theorem ofTokens_labels {tokens : List Token} {root : Element} (h : Element.ofTokens tokens = .ok root) :
    ∃ first rest, tokens = first ++ rest ∧
      root.preorder.map Element.label = first.filterMap Token.label? ∧
      root.size = first.countP (fun token => token.label?.isSome) ∧
      (rest = [] ∧ ¬ Settles first root ∨
        ∃ before last, first = before ++ [last] ∧ Settles first root ∧ ¬ Settles before root ∧
          ((∃ position, last = .closing "svg" position) ∨
            before = [] ∧ ∃ attributes position, last = .opening "svg" attributes true position)) := by
  obtain ⟨attributes, start, rest, ⟨rfl, rfl⟩ | ⟨rfl, hr⟩⟩ := ofTokens_ok h
  · exact ⟨[_], rest, rfl, rfl, rfl, .inr ⟨[], _, rfl, fun _ => rfl, not_settles_nil _,
      .inr ⟨rfl, attributes, start, rfl⟩⟩⟩
  · obtain ⟨top, below, hs, rfl⟩ | ⟨inside, finish, rest, top, rfl, hs, rfl⟩ := reaches_of_run hr
    · have hl := (labels_closeAll top below).trans hs.labels_eq
      exact ⟨_, [], (List.append_nil _).symm, hl, Element.size_eq_countP hl,
        .inl ⟨rfl, not_settles_of_reaches start hs (labels_closeAll top below)⟩⟩
    · let before : List Token := .opening "svg" attributes false start :: inside
      let last : Token := .closing top.tag finish
      have hl : top.toElement.labels = (before ++ [last]).filterMap Token.label? := by
        rw [List.filterMap_append, show [last].filterMap Token.label? = [] from rfl, List.append_nil]
        exact top.labels_toElement.trans hs.labels_eq
      refine ⟨before ++ [last], rest, by simp [before, last], hl, Element.size_eq_countP hl,
        .inr ⟨before, last, rfl, settles_of_closing start finish hs, ?_, .inl ⟨finish, ?_⟩⟩⟩
      · exact not_settles_of_reaches start hs top.labels_toElement
      · exact congrArg (Token.closing · finish) hs.tag_eq

theorem ofTokens_labels_stray :
    let tokens : List Token := [.opening "svg" .empty false 0, .opening "g" .empty false 5, .closing "svg" 8,
      .opening "path" .empty false 14, .text "a" 20, .closing "g" 21, .opening "a" .empty true 25,
      .closing "svg" 29, .opening "rect" .empty true 35]
    let root : Element := ⟨"svg", .empty, [⟨"g", .empty, [⟨"path", .empty, [], none⟩], some "a"⟩,
      ⟨"a", .empty, [], none⟩], none⟩
    Element.ofTokens tokens = .ok root ∧ ∃ first rest, tokens = first ++ rest ∧
      [("svg", .empty), ("g", .empty), ("path", .empty), ("a", .empty)] = first.filterMap Token.label? ∧
      4 = first.countP (fun token => token.label?.isSome) ∧
      (rest = [] ∧ ¬ Settles first root ∨
        ∃ before last, first = before ++ [last] ∧ Settles first root ∧ ¬ Settles before root ∧
          ((∃ position, last = .closing "svg" position) ∨
            before = [] ∧ ∃ attributes position, last = .opening "svg" attributes true position)) := by
  intro tokens root
  have h : Element.ofTokens tokens = .ok root := rfl
  exact ⟨h, ofTokens_labels h⟩

end IconCompiler.Markup
