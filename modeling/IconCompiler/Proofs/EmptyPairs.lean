import IconCompiler.Proofs.StackRuns
import IconCompiler.Proofs.WrittenTree

namespace IconCompiler.Markup

/-- Some self-closing tags are written as pairs, whose end tags have any position. -/
inductive Paired : List Token → List Token → Prop
  | nil : Paired [] []
  | keep {tokens paired : List Token} (token : Token) (h : Paired tokens paired) :
      Paired (token :: tokens) (token :: paired)
  | pair {tokens paired : List Token} (name : String) (attributes : Attributes) (start finish : Nat)
      (h : Paired tokens paired) :
      Paired (.opening name attributes true start :: tokens)
        (.opening name attributes false start :: .closing name finish :: paired)

namespace Stack

def OpenNotVoid : Stack → Prop
  | .filling top below => ∀ f ∈ top :: below, isVoid f.tag = false
  | .closed _ => True

theorem OpenNotVoid.step {cap : Option Nat} {s s' : Stack} {token : Token} (h : s.OpenNotVoid)
    (hs : Step cap s token s') : s'.OpenNotVoid := by
  cases hs with
  | closed root => trivial
  | text top below x position => simpa [OpenNotVoid, Frame.addRun] using h
  | stray top below name position hn => exact h
  | pop top below position =>
    cases below with
    | nil => trivial
    | cons next below =>
      simp only [OpenNotVoid, List.forall_mem_cons] at h
      simpa [Stack.pop, OpenNotVoid, Frame.addChild] using h.2
  | leaf top below tag attributes selfClosing position hl =>
    simpa [OpenNotVoid, Frame.addChild] using h
  | push top below tag attributes position hl hv => exact List.forall_mem_cons.mpr ⟨hv, h⟩

theorem run_pair (cap : Option Nat) {s : Stack} (h : s.OpenNotVoid) (name : String) (attributes : Attributes)
    (start finish : Nat) (tokens : List Token) :
    run cap s (.opening name attributes false start :: .closing name finish :: tokens) =
      run cap s (.opening name attributes true start :: tokens) := by
  cases s with
  | closed root => simp only [run_closed]
  | filling top below =>
    simp only [run, step]
    cases cap.filter fun limit => limit ≤ below.length + 1 with
    | some limit => rfl
    | none =>
      cases hv : isVoid name with
      | true =>
        -- The end tag is passed over, since the element that is open is not void.
        have hn : name ≠ (top.addChild ⟨name, attributes, [], none⟩).tag := by
          intro hn
          rw [hn] at hv
          exact Bool.false_ne_true ((h top List.mem_cons_self).symm.trans hv)
        exact run_stray cap below hn finish tokens
      | false =>
        have hn : name = (Frame.ofTag name attributes).tag := rfl
        exact run_closing cap (top :: below) hn finish tokens

theorem run_paired {cap : Option Nat} {tokens paired : List Token} (h : Paired tokens paired) {s : Stack}
    (hs : s.OpenNotVoid) : run cap s paired = run cap s tokens := by
  induction h generalizing s with
  | nil => rfl
  | keep token _ ih => exact bind_congr_of_ok fun s' hs' => ih (hs.step (step_of_ok hs'))
  | pair name attributes start finish _ ih =>
    rw [run_pair cap hs]
    exact bind_congr_of_ok fun s' hs' => ih (hs.step (step_of_ok hs'))

theorem openNotVoid_root (attributes : Attributes) : OpenNotVoid (.filling (.ofTag "svg" attributes) []) := by
  have hv : isVoid "svg" = false := by decide
  exact List.forall_mem_singleton.mpr hv

end Stack

open Stack

theorem ofTokens_paired {tokens paired : List Token} (h : Paired tokens paired) :
    Element.ofTokens paired = Element.ofTokens tokens := by
  cases h with
  | nil => rfl
  | keep token h =>
    cases token with
    | text s position => rfl
    | closing name position => rfl
    | opening tag attributes selfClosing position =>
      by_cases ht : tag = "svg"
      · subst ht
        cases selfClosing with
        | true => rfl
        | false =>
          simp only [Element.ofTokens, ofTokensWithin_root]
          exact run_paired h (openNotVoid_root attributes)
      · simp only [Element.ofTokens, Element.ofTokensWithin, ht, if_false]
  | pair name attributes start finish h =>
    by_cases ht : name = "svg"
    · subst ht
      have hn : "svg" = (Frame.ofTag "svg" attributes).tag := rfl
      rw [Element.ofTokens, ofTokensWithin_root, run_closing (some maxDepth) [] hn, pop, run_closed]
      rfl
    · simp only [Element.ofTokens, Element.ofTokensWithin, ht, if_false]

theorem ofTokens_paired_void :
    let tokens : List Token := [.opening "svg" .empty false 0, .opening "g" .empty true 5,
      .opening "path" .empty true 9, .text "a" 16, .opening "path" .empty true 17, .closing "svg" 24]
    let paired : List Token := [.opening "svg" .empty false 0, .opening "g" .empty false 5, .closing "g" 8,
      .opening "path" .empty true 9, .text "a" 16, .opening "path" .empty false 17, .closing "path" 99,
      .closing "svg" 24]
    Paired tokens paired ∧ Element.ofTokens paired = Element.ofTokens tokens ∧
      Element.ofTokens paired = .ok ⟨"svg", .empty, [⟨"g", .empty, [], none⟩, ⟨"path", .empty, [], none⟩,
        ⟨"path", .empty, [], none⟩], some "a"⟩ := by
  intro tokens paired
  have h : Paired tokens paired := .keep _ (.pair _ _ _ 8 (.keep _ (.keep _ (.pair _ _ _ 99 (.keep _ .nil)))))
  exact ⟨h, ofTokens_paired h, (ofTokens_paired h).trans rfl⟩

end IconCompiler.Markup
