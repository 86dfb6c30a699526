import IconCompiler.Proofs.Segmentation

namespace IconCompiler.Markup

open IconCompiler.Text

structure TaggedRun where
  run : List Char
  body : List Char

namespace TaggedRun

def chars (r : TaggedRun) : List Char := r.run ++ '<' :: (r.body ++ ['>'])

structure Valid (r : TaggedRun) : Prop where
  run : '<' ∉ r.run
  body : ∀ c ∈ r.body, c ≠ '<' ∧ c ≠ '>'
  spaced : Spaced r.body
  head : ∀ c ∈ r.body.head?, c ≠ '!' ∧ c ≠ '?'

def collapsed (r : TaggedRun) : TaggedRun := ⟨collapse r.run, r.body⟩

theorem Valid.collapsed {r : TaggedRun} (h : r.Valid) : r.collapsed.Valid where
  run := fun hm => (mem_of_mem_collapseFrom hm).elim (by decide) h.run
  body := h.body
  spaced := h.spaced
  head := h.head

def width (r : TaggedRun) : Nat := byteLength r.run + byteLength r.body + 2

def tokens (position : Nat) (r : TaggedRun) : List Token :=
  runTokens r.run position ++ [tagToken r.body (position + byteLength r.run)]

end TaggedRun

def taggedText (rs : List TaggedRun) : List Char := rs.flatMap TaggedRun.chars

def tokensOf (position : Nat) : List TaggedRun → List Token
  | [] => []
  | r :: rs => r.tokens position ++ tokensOf (position + r.width) rs

theorem taggedText_cons (r : TaggedRun) (rs : List TaggedRun) :
    taggedText (r :: rs) = r.run ++ '<' :: (r.body ++ '>' :: taggedText rs) := by
  simp [taggedText, TaggedRun.chars]

theorem exists_tokensOf_append (position : Nat) (rs ss : List TaggedRun) :
    ∃ next, tokensOf position (rs ++ ss) = tokensOf position rs ++ tokensOf next ss := by
  induction rs generalizing position with
  | nil => exact ⟨position, rfl⟩
  | cons r rs ih =>
    obtain ⟨next, hn⟩ := ih (position + r.width)
    exact ⟨next, by simp only [List.cons_append, tokensOf, hn, List.append_assoc]⟩

def NoSection (c d : Char) : Prop := c = '<' → d ≠ '!' ∧ d ≠ '?'

theorem isChain_append_of_not_mem {cs ds : List Char} (hc : '<' ∉ cs) (hd : ds.IsChain NoSection) :
    (cs ++ ds).IsChain NoSection := by
  induction cs with
  | nil => exact hd
  | cons c cs ih =>
    rw [List.mem_cons, not_or] at hc
    exact List.isChain_cons.mpr ⟨fun _ _ he => absurd he.symm hc.1, ih hc.2⟩

theorem isChain_taggedText {rs : List TaggedRun} (h : ∀ r ∈ rs, r.Valid) :
    (taggedText rs).IsChain NoSection := by
  induction rs with
  | nil => exact .nil
  | cons r rs ih =>
    have hr := h r (by simp)
    have hrest := isChain_append_of_not_mem (show '<' ∉ ['>'] by decide)
      (ih fun s hs => h s (List.mem_cons_of_mem _ hs))
    rw [taggedText_cons]
    refine isChain_append_of_not_mem hr.run (List.isChain_cons.mpr ⟨?_, ?_⟩)
    · intro d hd _
      cases hb : r.body with
      | nil =>
        rw [hb] at hd
        cases hd
        decide
      | cons c cs =>
        rw [hb] at hd
        exact hr.head d (by rw [hb]; exact hd)
    · exact isChain_append_of_not_mem (fun hm => (hr.body _ hm).1 rfl) hrest

theorem eq_of_toLower_eq {c d : Char} (hd : d.toNat < 65) (h : c.toLower = d) : c = d := by
  have hn := toNat_toLower c
  rw [h] at hn
  rw [← Char.toNat_inj]
  split at hn <;> omega

namespace Section

theorem opens_eq_false {s : Section} {x : Char} {more : List Char} (ho : s.opening = '<' :: x :: more)
    (hx : x = '!' ∨ x = '?') {cs : List Char} (hc : cs.IsChain NoSection) : s.opens cs = false := by
  have hx' : x.toNat < 65 := by rcases hx with rfl | rfl <;> decide
  unfold opens
  rw [beq_eq_false_iff_ne, ho]
  intro he
  have hcd : ∃ c d ds, cs = c :: d :: ds ∧ c = '<' ∧ d = x := by
    match cs with
    | [] => split at he <;> simp [lowerAscii] at he
    | [c] => split at he <;> simp [lowerAscii] at he
    | c :: d :: ds =>
      refine ⟨c, d, ds, rfl, ?_⟩
      split at he
      · simp only [List.length_cons, List.take_succ_cons, lowerAscii, List.map_cons, List.cons.injEq] at he
        exact ⟨eq_of_toLower_eq (by decide) he.1, eq_of_toLower_eq hx' he.2.1⟩
      · simp only [List.length_cons, List.take_succ_cons, List.cons.injEq] at he
        exact ⟨he.1, he.2.1⟩
  obtain ⟨c, d, ds, rfl, rfl, rfl⟩ := hcd
  have hn := (List.isChain_cons.mp hc).1 d (by simp) rfl
  exact hx.elim hn.1 hn.2

theorem strip_eq_self {s : Section} {x : Char} {more : List Char} (ho : s.opening = '<' :: x :: more)
    (hx : x = '!' ∨ x = '?') {cs : List Char} (hc : cs.IsChain NoSection) : s.strip cs = cs := by
  have hn : ∀ ds, ds <:+ cs → s.read? ds = none := by
    intro ds hd
    rw [read?, opens_eq_false ho hx (hc.suffix hd)]
    rfl
  rw [strip, scan_eq_plain hn, List.flatMap_map]
  simp [remains]

end Section

theorem collapse_taggedText {rs : List TaggedRun} (h : ∀ r ∈ rs, r.Valid) :
    collapse (taggedText rs) = taggedText (rs.map TaggedRun.collapsed) := by
  induction rs with
  | nil => rfl
  | cons r rs ih =>
    have hr := h r (by simp)
    rw [List.map_cons, taggedText_cons, taggedText_cons, collapse,
      collapseFrom_append_cons false _ _ (by decide), collapse,
      collapseFrom_append_cons false _ _ (by decide), ih fun s hs => h s (List.mem_cons_of_mem _ hs)]
    rw [← collapse, ← collapse, hr.spaced.collapse_eq]
    rfl

theorem getLast?_taggedText {rs : List TaggedRun} (h : rs ≠ []) :
    (taggedText rs).getLast? = some '>' := by
  rcases List.eq_nil_or_concat rs with hn | ⟨ss, r, hs⟩
  · exact absurd hn h
  · have hc : r.chars = (r.run ++ '<' :: r.body) ++ ['>'] := by simp [TaggedRun.chars]
    rw [hs, taggedText, List.concat_eq_append, List.flatMap_append, List.flatMap_singleton, hc,
      ← List.append_assoc, List.getLast?_concat]

theorem trim_taggedText {r : TaggedRun} (hr : r.run = []) (rs : List TaggedRun) :
    trim (taggedText (r :: rs)) = taggedText (r :: rs) := by
  rw [trim, trimLeft_eq_self, trimRight_eq_self]
  · intro c hc
    rw [getLast?_taggedText (List.cons_ne_nil r rs)] at hc
    cases hc
    decide
  · intro c hc
    rw [taggedText_cons, hr] at hc
    cases hc
    decide

theorem cleanChars_taggedText {r : TaggedRun} {rs : List TaggedRun} (hr : r.run = [])
    (h : ∀ s ∈ r :: rs, s.Valid) :
    cleanChars (taggedText (r :: rs)) = taggedText ((r :: rs).map TaggedRun.collapsed) := by
  have hc := isChain_taggedText h
  rw [cleanChars, Section.strip_eq_self (s := Section.instruction) rfl (by decide) hc,
    Section.strip_eq_self (s := Section.doctype) rfl (by decide) hc,
    Section.strip_eq_self (s := Section.comment) rfl (by decide) hc,
    Section.strip_eq_self (s := Section.characterData) rfl (by decide) hc, collapse_taggedText h, List.map_cons]
  exact trim_taggedText (by simp [TaggedRun.collapsed, hr, collapse, collapseFrom]) _

theorem tokensFrom_taggedText {rs : List TaggedRun} (h : ∀ r ∈ rs, r.Valid) (position : Nat) :
    tokensFrom position (segments (taggedText rs)) = .ok (tokensOf position rs) := by
  induction rs generalizing position with
  | nil => rfl
  | cons r rs ih =>
    have hi := ih (fun s hs => h s (List.mem_cons_of_mem _ hs)) (position + r.width)
    have hr := h r (by simp)
    have hb : '>' ∉ r.body := fun hm => (hr.body _ hm).2 rfl
    have ht : ∀ start, start + byteLength r.body + 2 = position + r.width →
        tokensFrom start (segments ('<' :: (r.body ++ '>' :: taggedText rs))) =
          .ok (tagToken r.body start :: tokensOf (position + r.width) rs) := by
      intro start hs
      rw [segments_tag hb, tokensFrom, hs, hi]
      rfl
    rw [taggedText_cons, tokensOf, TaggedRun.tokens]
    by_cases hn : r.run = []
    · rw [hn, List.nil_append, ht position (by simp [TaggedRun.width, hn, Nat.add_assoc])]
      simp [runTokens, trim, trimLeft, trimRight]
    · rw [segments_run hn hr.run (by simp), tokensFrom, ht _ (by simp only [TaggedRun.width]; omega)]
      simp [Except.map]

end IconCompiler.Markup
