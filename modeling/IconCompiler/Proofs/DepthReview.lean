import IconCompiler.Markup.Report
import IconCompiler.Proofs.Placement
import IconCompiler.Proofs.StackRuns
import Mathlib.Control.Monad.Basic

namespace IconCompiler.Markup

@[simp]
theorem Path.depth_root : Path.root.depth = 0 := rfl

@[simp]
theorem Path.depth_child (p : Path) (tag : String) (index : Nat) : (p.child tag index).depth = p.depth + 1 := by
  simp [child, depth]

@[simp]
theorem Report.errors_append (a b : Report) : (a.append b).errors = a.errors ++ b.errors := rfl

namespace Element

mutual
theorem errors_review_eq_nil_iff (path : Path) :
    ∀ e : Element, (review path e).errors = [] ↔ path.depth + e.height ≤ maxDepth
  | ⟨tag, attributes, children, content⟩ => by
    simp only [review, height]
    by_cases h : maxDepth ≤ path.depth
    · simp only [h, if_true, List.cons_ne_nil, false_iff]
      omega
    · have hc := errors_reviewList_eq_nil_iff path 0 children (by omega)
      simp only [h, if_false, Report.errors_append, List.nil_append, hc]
      omega

theorem errors_reviewList_eq_nil_iff (path : Path) (index : Nat) : ∀ es : List Element,
    path.depth < maxDepth →
      ((reviewList path index es).errors = [] ↔ path.depth + heightList es < maxDepth)
  | [], h => by simpa [reviewList, heightList, Report.empty] using h
  | e :: es, h => by
    have he := errors_review_eq_nil_iff (path.child e.tag index) e
    have hs := errors_reviewList_eq_nil_iff path (index + 1) es h
    rw [Path.depth_child] at he
    simp only [reviewList, heightList, Report.errors_append, List.append_eq_nil_iff, he, hs]
    omega
end

end Element

theorem Document.errors_review_eq_nil_iff (root : Element) (source : String) :
    (Document.review ⟨root.attributes, root.children, source⟩).errors = [] ↔ root.height ≤ maxDepth := by
  have h := Element.errors_reviewList_eq_nil_iff .root 0 root.children (by simp [maxDepth])
  obtain ⟨tag, attributes, children, content⟩ := root
  simp only [review, Report.errors_append, List.nil_append, h, Path.depth_root, Element.height]
  omega

theorem errors_review_of_read (source : String) :
    (∀ doc, Document.read source = .ok doc → doc.review.errors = [] ∧ doc.review.isValid = true) ∧
      ∀ tokens root, tokenize (clean source) = .ok tokens → Element.ofTokensWithin none tokens = .ok root →
        ((∃ doc, Document.read source = .ok doc) ↔
          (Document.review ⟨root.attributes, root.children, source⟩).errors = []) := by
  constructor
  · intro doc h
    obtain ⟨tokens, root, -, hr, rfl⟩ := read_ok h
    have he := (Document.errors_review_eq_nil_iff root source).mpr (ofTokens_eq_ok_iff.mp hr).2
    exact ⟨he, by rw [Report.isValid, he]; rfl⟩
  · intro tokens root ht hr
    rw [Document.errors_review_eq_nil_iff]
    constructor
    · rintro ⟨doc, h⟩
      obtain ⟨tokens', root', ht', hr', -⟩ := read_ok h
      cases ht'.symm.trans ht
      obtain ⟨hu, hh⟩ := ofTokens_eq_ok_iff.mp hr'
      cases hu.symm.trans hr
      exact hh
    · intro hh
      have hn : clean source ≠ "" := by
        intro hc
        rw [hc] at ht
        cases ht
        cases hr
      rw [read_eq_of_tokenize hn ht, ofTokens_eq_ok_iff.mpr ⟨hr, hh⟩]
      exact ⟨_, rfl⟩

theorem errors_review_of_read_group : ∃ doc,
    Document.read "<svg><g>note<path/></g><blink>" = .ok doc ∧ doc.review.errors = [] ∧
      doc.review.isValid = true ∧ doc.review.warnings.length = 3 := by
  have h : Document.read "<svg><g>note<path/></g><blink>" =
      .ok ⟨.empty, [⟨"g", .empty, [⟨"path", .empty, [], none⟩], some "note"⟩, ⟨"blink", .empty, [], none⟩],
        "<svg><g>note<path/></g><blink>"⟩ := by
    decide +kernel
  obtain ⟨he, hv⟩ := (errors_review_of_read _).1 _ h
  exact ⟨_, h, he, hv, by decide +kernel⟩

end IconCompiler.Markup
