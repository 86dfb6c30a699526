import IconCompiler.Proofs.DepthReview
import IconCompiler.Proofs.Preorder
import Mathlib.Data.List.Lex

namespace IconCompiler.Markup

inductive Leads : Element → List Step → Element → Prop
  | here (e : Element) : Leads e [] e
  | child {e c f : Element} {i : Nat} {steps : List Step} (hc : e.children[i]? = some c) (h : Leads c steps f) :
      Leads e (⟨c.tag, i⟩ :: steps) f

def Document.Leads (d : Document) (p : Path) (e : Element) : Prop :=
  ∃ i c steps, d.children[i]? = some c ∧ p.steps = ⟨c.tag, i⟩ :: steps ∧ Markup.Leads c steps e

def Path.indices (p : Path) : List Nat := p.steps.map Step.index

mutual
def Element.located (path : Path) : Element → List (Path × Element)
  | ⟨tag, attributes, children, content⟩ =>
    (path, ⟨tag, attributes, children, content⟩) :: Element.locatedList path 0 children

def Element.locatedList (path : Path) (index : Nat) : List Element → List (Path × Element)
  | [] => []
  | e :: es => Element.located (path.child e.tag index) e ++ Element.locatedList path (index + 1) es
end

def Document.located (d : Document) : List (Path × Element) := Element.locatedList .root 0 d.children

namespace Element

mutual
theorem map_snd_located (path : Path) : ∀ e : Element, (located path e).map Prod.snd = e.preorder
  | ⟨tag, attributes, children, content⟩ => by
    rw [located, preorder, List.map_cons, map_snd_locatedList path 0 children]

theorem map_snd_locatedList (path : Path) (index : Nat) : ∀ es : List Element,
    (locatedList path index es).map Prod.snd = preorderList es
  | [] => rfl
  | e :: es => by
    rw [locatedList, preorderList, List.map_append, map_snd_located _ e, map_snd_locatedList path _ es]
end

mutual
theorem mem_located_iff (path : Path) : ∀ (e : Element) (p : Path) (f : Element),
    (p, f) ∈ located path e ↔ ∃ steps, p.steps = path.steps ++ steps ∧ Leads e steps f
  | ⟨tag, attributes, children, content⟩, p, f => by
    rw [located, List.mem_cons, mem_locatedList_iff path 0 children p f]
    constructor
    · rintro (he | ⟨i, c, steps, hc, hp, hl⟩)
      · cases he
        exact ⟨[], (List.append_nil _).symm, .here _⟩
      · rw [Nat.zero_add] at hp
        exact ⟨_, hp, .child hc hl⟩
    · rintro ⟨steps, hp, hl⟩
      cases hl with
      | here =>
        obtain ⟨ss⟩ := p
        rw [List.append_nil] at hp
        cases hp
        exact .inl rfl
      | @child _ c _ i steps hc hl =>
        refine .inr ⟨i, c, steps, hc, ?_, hl⟩
        rw [Nat.zero_add]
        exact hp

theorem mem_locatedList_iff (path : Path) (index : Nat) : ∀ (es : List Element) (p : Path) (f : Element),
    (p, f) ∈ locatedList path index es ↔ ∃ i c steps, es[i]? = some c ∧
      p.steps = path.steps ++ ⟨c.tag, index + i⟩ :: steps ∧ Leads c steps f
  | [], p, f => by simp [locatedList]
  | e :: es, p, f => by
    have hpath (steps : List Step) : (path.child e.tag index).steps ++ steps =
        path.steps ++ ⟨e.tag, index⟩ :: steps := by simp [Path.child]
    rw [locatedList, List.mem_append, mem_located_iff _ e p f, mem_locatedList_iff path (index + 1) es p f]
    constructor
    · rintro (⟨steps, hp, hl⟩ | ⟨i, c, steps, hc, hp, hl⟩)
      · exact ⟨0, e, steps, rfl, hp.trans (hpath steps), hl⟩
      · refine ⟨i + 1, c, steps, hc, ?_, hl⟩
        rw [hp, Nat.add_assoc, Nat.add_comm 1 i]
    · rintro ⟨i, c, steps, hc, hp, hl⟩
      -- The first step goes to `e` or to one of the elements after it.
      cases i with
      | zero =>
        cases hc
        exact .inl ⟨steps, hp.trans (hpath steps).symm, hl⟩
      | succ i =>
        refine .inr ⟨i, c, steps, hc, ?_, hl⟩
        rw [hp, Nat.add_assoc, Nat.add_comm 1 i]
end

theorem exists_of_mem_locatedList {path : Path} {index : Nat} {es : List Element} {x : Path × Element}
    (h : x ∈ locatedList path index es) : ∃ i rest, index ≤ i ∧ x.1.indices = path.indices ++ i :: rest := by
  obtain ⟨i, c, steps, -, hp, -⟩ := (mem_locatedList_iff path index es x.1 x.2).mp h
  refine ⟨index + i, steps.map Step.index, Nat.le_add_right index i, ?_⟩
  simp [Path.indices, hp]

theorem depth_lt_of_mem_locatedList {path : Path} {index : Nat} {es : List Element} {x : Path × Element}
    (h : x ∈ locatedList path index es) : path.depth < x.1.depth := by
  obtain ⟨i, c, steps, -, hp, -⟩ := (mem_locatedList_iff path index es x.1 x.2).mp h
  simp only [Path.depth, hp, List.length_append, List.length_cons]
  omega

mutual
theorem pairwise_located (path : Path) : ∀ e : Element,
    (located path e).Pairwise fun x y => List.Lex (· < ·) x.1.indices y.1.indices
  | ⟨tag, attributes, children, content⟩ => by
    rw [located, List.pairwise_cons]
    refine ⟨?_, pairwise_locatedList path 0 children⟩
    intro y hy
    obtain ⟨i, rest, -, hi⟩ := exists_of_mem_locatedList hy
    have hl := List.Lex.append_left (· < ·) (List.Lex.nil (a := i) (l := rest)) path.indices
    rw [List.append_nil] at hl
    rw [hi]
    exact hl

theorem pairwise_locatedList (path : Path) (index : Nat) : ∀ es : List Element,
    (locatedList path index es).Pairwise fun x y => List.Lex (· < ·) x.1.indices y.1.indices
  | [] => .nil
  | e :: es => by
    rw [locatedList, List.pairwise_append]
    refine ⟨pairwise_located _ e, pairwise_locatedList path (index + 1) es, ?_⟩
    intro x hx y hy
    obtain ⟨steps, hp, -⟩ := (mem_located_iff _ e x.1 x.2).mp hx
    obtain ⟨i, rest, hi, hq⟩ := exists_of_mem_locatedList hy
    have hx : x.1.indices = path.indices ++ index :: steps.map Step.index := by
      simp [Path.indices, hp, Path.child]
    rw [hx, hq]
    apply List.Lex.append_left
    apply List.Lex.rel
    omega
end

end Element

namespace Report

def ofLocated (xs : List (Path × Element)) : Report :=
  ⟨(xs.filter fun x => x.1.depth = maxDepth).map fun x => ⟨x.2.tag⟩,
    (xs.filter fun x => x.1.depth < maxDepth).flatMap fun x => x.2.warnings x.1⟩

theorem ofLocated_append (xs ys : List (Path × Element)) :
    ofLocated (xs ++ ys) = (ofLocated xs).append (ofLocated ys) := by
  simp [ofLocated, append]

theorem ofLocated_cons (x : Path × Element) (xs : List (Path × Element)) :
    ofLocated (x :: xs) = (ofLocated [x]).append (ofLocated xs) :=
  ofLocated_append [x] xs

theorem ofLocated_of_deep {xs : List (Path × Element)} (h : ∀ x ∈ xs, maxDepth < x.1.depth) :
    ofLocated xs = empty := by
  have hn (x : Path × Element) (hx : x ∈ xs) : ¬ x.1.depth = maxDepth ∧ ¬ x.1.depth < maxDepth := by
    have := h x hx
    omega
  have he : xs.filter (fun x => x.1.depth = maxDepth) = [] := by
    simpa using fun p e hx => (hn (p, e) hx).1
  have hw : xs.filter (fun x => x.1.depth < maxDepth) = [] := by
    simpa using fun p e hx => (hn (p, e) hx).2
  rw [ofLocated, he, hw]
  rfl

end Report

namespace Element

mutual
theorem review_eq_ofLocated (path : Path) : ∀ e : Element, path.depth ≤ maxDepth →
    review path e = .ofLocated (located path e)
  | ⟨tag, attributes, children, content⟩, h => by
    rw [review, located, Report.ofLocated_cons]
    by_cases hd : maxDepth ≤ path.depth
    · -- The walk ends here, and what is below is too deep to count.
      have hdeep : ∀ x ∈ locatedList path 0 children, maxDepth < x.1.depth := fun x hx =>
        hd.trans_lt (depth_lt_of_mem_locatedList hx)
      have he : path.depth = maxDepth := by omega
      rw [if_pos hd, Report.ofLocated_of_deep hdeep]
      simp [Report.ofLocated, Report.append, Report.empty, he]
    · rw [if_neg hd, reviewList_eq_ofLocated path 0 children (by omega)]
      congr 1
      have hlt : path.depth < maxDepth := by omega
      simp [Report.ofLocated, hlt, hlt.ne]

theorem reviewList_eq_ofLocated (path : Path) (index : Nat) : ∀ es : List Element, path.depth < maxDepth →
    reviewList path index es = .ofLocated (locatedList path index es)
  | [], _ => rfl
  | e :: es, h => by
    rw [reviewList, locatedList, Report.ofLocated_append, reviewList_eq_ofLocated path (index + 1) es h,
      review_eq_ofLocated _ e]
    rw [Path.depth_child]
    omega
end

theorem messages_warnings (e : Element) (path : Path) :
    (e.warnings path).map Warning.message =
      let place := "svg" ++ String.join (path.steps.map fun s => "/" ++ s.tag ++ "[" ++ toString s.index ++ "]")
      (if e.tag ∈ recognizedElements then [] else ["Unrecognized element <" ++ e.tag ++ "> at " ++ place]) ++
        (if e.children ≠ [] ∧ e.content ≠ none ∧ e.content ≠ some "" then
          ["Element <" ++ e.tag ++ "> at " ++ place ++
            " has both children and text; only the children are rendered"] else []) := by
  have htext : (e.hasChildren && e.text?.isSome) = true ↔
      e.children ≠ [] ∧ e.content ≠ none ∧ e.content ≠ some "" := by
    cases hc : e.content <;> simp [hasChildren, text?, hc, Option.filter_some]
  have htag : isRecognized e.tag = true ↔ e.tag ∈ recognizedElements := List.contains_iff_mem
  rw [warnings, List.map_append]
  congr 1
  · by_cases h : e.tag ∈ recognizedElements
    · rw [if_pos (htag.mpr h), if_pos h, List.map_nil]
    · rw [if_neg fun ht => h (htag.mp ht), if_neg h]
      rfl
  · by_cases h : e.children ≠ [] ∧ e.content ≠ none ∧ e.content ≠ some ""
    · rw [if_pos (htext.mpr h), if_pos h]
      rfl
    · rw [if_neg fun ht => h (htext.mp ht), if_neg h, List.map_nil]

end Element

theorem message_depthError (tag : String) :
    DepthError.message ⟨tag⟩ =
      "Element <" ++ tag ++ "> is nested deeper than 512 levels; its subtree was not checked" := by
  have hn : "> is nested deeper than " ++ (toString maxDepth ++ " levels; its subtree was not checked") =
      "> is nested deeper than 512 levels; its subtree was not checked" := by decide +kernel
  rw [DepthError.message, String.append_assoc, String.append_assoc, hn]

theorem Document.review_eq (d : Document) :
    d.review = Report.append ⟨[], if (d.attribute? "viewBox").isNone then [.missingViewBox] else []⟩
      (.ofLocated d.located) := by
  rw [review, Element.reviewList_eq_ofLocated .root 0 d.children (by decide)]
  rfl

/-- A review says of every element, in pre-order, what is wrong with it, down to the last level that a document may
have. Below that level it has one error for every element of the next one. -/
theorem Document.review_exact (d : Document) :
    (∀ p e, (p, e) ∈ d.located ↔ d.Leads p e) ∧
      d.located.Pairwise (fun x y => List.Lex (· < ·) x.1.indices y.1.indices) ∧
      d.located.map Prod.snd = Element.preorderList d.children ∧
      d.review.warnings.map Warning.message =
        (if d.attribute? "viewBox" = none then ["Missing viewBox attribute on root <svg>"] else []) ++
          (d.located.filter fun x => x.1.steps.length < 512).flatMap (fun x =>
            let place := "svg" ++ String.join (x.1.steps.map fun s => "/" ++ s.tag ++ "[" ++ toString s.index ++ "]")
            (if x.2.tag ∈ recognizedElements then []
              else ["Unrecognized element <" ++ x.2.tag ++ "> at " ++ place]) ++
            (if x.2.children ≠ [] ∧ x.2.content ≠ none ∧ x.2.content ≠ some "" then
              ["Element <" ++ x.2.tag ++ "> at " ++ place ++
                " has both children and text; only the children are rendered"] else [])) ∧
      d.review.errors.map DepthError.message =
        (d.located.filter fun x => x.1.steps.length = 512).map (fun x =>
          "Element <" ++ x.2.tag ++ "> is nested deeper than 512 levels; its subtree was not checked") ∧
      (d.review.isValid = true ↔ Element.heightList d.children ≤ 511) := by
  refine ⟨?_, Element.pairwise_locatedList .root 0 d.children, Element.map_snd_locatedList .root 0 d.children,
    ?_, ?_, ?_⟩
  · intro p e
    have h := Element.mem_locatedList_iff .root 0 d.children p e
    simp only [Nat.zero_add] at h
    exact h
  · rw [d.review_eq]
    simp only [Report.append, Report.ofLocated, List.map_append, List.map_flatMap, Element.messages_warnings]
    congr 1
    cases d.attribute? "viewBox" <;> rfl
  · rw [d.review_eq]
    simp only [Report.append, Report.ofLocated, List.nil_append, List.map_map, Function.comp_def,
      message_depthError]
    rfl
  · have h := Element.errors_reviewList_eq_nil_iff .root 0 d.children (by decide)
    rw [Report.isValid, List.isEmpty_iff, review, Report.errors_append, List.nil_append, h, maxDepth,
      Path.depth_root]
    omega

theorem Document.review_exact_nested :
    let blink : Element := ⟨"blink", .empty, [.ofTag "g"], some "a"⟩
    let d : Document := ⟨.empty, [.ofTag "g", ⟨"g", .empty, [.ofTag "path", blink], some ""⟩], ""⟩
    d.review.warnings.map Warning.message = ["Missing viewBox attribute on root <svg>",
        "Unrecognized element <blink> at svg/g[1]/blink[1]",
        "Element <blink> at svg/g[1]/blink[1] has both children and text; only the children are rendered"] ∧
      d.review.errors.map DepthError.message = [] ∧ d.review.isValid = true := by
  intro blink d
  obtain ⟨-, -, -, hwarnings, herrors, hvalid⟩ := d.review_exact
  refine ⟨hwarnings.trans ?_, herrors.trans ?_, hvalid.mpr ?_⟩
  · decide +kernel
  · decide +kernel
  · decide

end IconCompiler.Markup
