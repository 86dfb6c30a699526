import IconCompiler.Proofs.TemplateLiterals

/-!
Text that stands in a template literal as it is. It is shown as it is if nothing in it is an escape, a line end that
changes, or the beginning of an expression; and a template shows no more characters than it is written with.
-/

namespace IconCompiler.Script

structure Verbatim (cs : List Char) : Prop where
  backtick : '\x60' ∉ cs
  backslash : '\\' ∉ cs
  carriageReturn : '\r' ∉ cs
  interpolation : ¬ ['$', '\x7b'] <:+: cs

/-- A character that does not mean itself where this text follows it. -/
inductive Special : Char → List Char → Prop
  | backtick (more : List Char) : Special '\x60' more
  | backslash (more : List Char) : Special '\\' more
  | carriageReturn (more : List Char) : Special '\r' more
  | interpolation (more : List Char) : Special '$' ('\x7b' :: more)

theorem Special.ne_brace {c : Char} {more : List Char} (h : Special c more) : c ≠ '\x7b' := by
  cases h <;> decide

theorem Special.append {c : Char} {more : List Char} (h : Special c more) (rest : List Char) :
    Special c (more ++ rest) := by
  cases h with
  | backtick more => exact .backtick _
  | backslash more => exact .backslash _
  | carriageReturn more => exact .carriageReturn _
  | interpolation more => exact .interpolation _

theorem verbatim_nil : Verbatim [] := ⟨by simp, by simp, by simp, by simp⟩

theorem verbatim_cons_iff {c : Char} {cs : List Char} : Verbatim (c :: cs) ↔ ¬ Special c cs ∧ Verbatim cs := by
  constructor
  · rintro ⟨hb, hs, hr, hi⟩
    rw [List.mem_cons, not_or] at hb hs hr
    rw [List.infix_cons_iff, not_or] at hi
    refine ⟨?_, hb.2, hs.2, hr.2, hi.2⟩
    rintro (_ | _ | _ | more)
    · exact hb.1 rfl
    · exact hs.1 rfl
    · exact hr.1 rfl
    · exact hi.1 ⟨more, rfl⟩
  · rintro ⟨hn, hb, hs, hr, hi⟩
    constructor
    · rintro (_ | ⟨_, hm⟩)
      · exact hn (.backtick cs)
      · exact hb hm
    · rintro (_ | ⟨_, hm⟩)
      · exact hn (.backslash cs)
      · exact hs hm
    · rintro (_ | ⟨_, hm⟩)
      · exact hn (.carriageReturn cs)
      · exact hr hm
    · rw [List.infix_cons_iff, not_or]
      refine ⟨?_, hi⟩
      rintro ⟨more, he⟩
      obtain ⟨rfl, rfl⟩ := List.cons.inj he
      exact hn (.interpolation more)

theorem exists_special {cs : List Char} (h : ¬ Verbatim cs) :
    ∃ front c more, cs = front ++ c :: more ∧ Verbatim front ∧ Special c more := by
  induction cs with
  | nil => exact absurd verbatim_nil h
  | cons c cs ih =>
    by_cases hs : Special c cs
    · exact ⟨[], c, cs, rfl, verbatim_nil, hs⟩
    · obtain ⟨front, d, more, rfl, hf, hd⟩ := ih fun hv => h (verbatim_cons_iff.mpr ⟨hs, hv⟩)
      exact ⟨c :: front, d, more, rfl, verbatim_cons_iff.mpr ⟨fun hc => hs (hc.append _), hf⟩, hd⟩

theorem Verbatim.cooks {cs : List Char} (h : Verbatim cs) : Cooks cs cs := by
  intro t text rest hr
  induction cs generalizing text with
  | nil => rw [List.nil_append, List.append_nil]
  | cons c cs ih =>
    obtain ⟨hs, hv⟩ := verbatim_cons_iff.mp h
    have hb : c = '$' → '\x7b' ∉ (cs ++ rest).head? := by
      rintro rfl
      refine not_mem_head?_append ?_ hr
      intro hm
      obtain ⟨more, rfl⟩ := List.head?_eq_some_iff.mp hm
      exact hs (.interpolation more)
    rw [List.cons_append, readText?_cons ?_ ?_ ?_ hb, ih hv, List.append_assoc, List.singleton_append]
    · rintro rfl
      exact hs (.backtick cs)
    · rintro rfl
      exact hs (.backslash cs)
    · rintro rfl
      exact hs (.carriageReturn cs)

namespace Template

def size (t : Template) : Nat :=
  (t.texts.flatMap String.toList).length +
    (t.expressions.flatMap fun e => '$' :: '\x7b' :: (e.toList ++ ['\x7d'])).length

theorem size_addText (t : Template) (text : List Char) : (t.addText text).size = t.size + text.length := by
  simp only [size, addText, List.flatMap_append, List.flatMap_singleton, String.toList_ofList, List.length_append]
  omega

theorem size_addExpression (t : Template) (code : List Char) :
    (t.addExpression code).size = t.size + (code.length + 3) := by
  simp only [size, addExpression, List.flatMap_append, List.flatMap_singleton, String.toList_ofList,
    List.length_append, List.length_cons, List.length_nil]
  omega

end Template

structure ReadsText (t : Template) (text cs : List Char) (r : Template × List Char) : Prop where
  texts : ∃ more, t.texts ++ [String.ofList (text ++ more)] <+: r.1.texts
  size : r.1.size + r.2.length < t.size + text.length + cs.length

structure ReadsCode (t : Template) (code cs : List Char) (r : Template × List Char) : Prop where
  texts : t.texts <+: r.1.texts
  size : r.1.size + r.2.length < t.size + code.length + 2 + cs.length

section

variable {t : Template} {cs ds : List Char} {r : Template × List Char}

theorem ReadsText.step {text : List Char} {d : Char} (h : ReadsText t (text ++ [d]) cs r) (hn : ds ≠ []) :
    ReadsText t text (ds ++ cs) r := by
  obtain ⟨more, hm⟩ := h.texts
  refine ⟨⟨d :: more, by simpa using hm⟩, ?_⟩
  have hs := h.size
  have hl := List.length_pos_iff.mpr hn
  simp only [List.length_append, List.length_singleton] at hs ⊢
  omega

theorem ReadsCode.step {code : List Char} (h : ReadsCode t (code ++ ds) cs r) : ReadsCode t code (ds ++ cs) r := by
  refine ⟨h.texts, ?_⟩
  have hs := h.size
  rw [List.length_append] at hs ⊢
  omega

end

inductive TextStep (t : Template) (text : List Char) : List Char → Template × List Char → Prop
  | finish (rest : List Char) : TextStep t text ('\x60' :: rest) (t.addText text, rest)
  | expression {rest : List Char} {r : Template × List Char} (h : readCode? (t.addText text) [] [] rest = some r) :
    TextStep t text ('$' :: '\x7b' :: rest) r
  | more {d : Char} {ds rest : List Char} {r : Template × List Char} (hn : ds ≠ [])
      (h : readText? t (text ++ [d]) rest = some r) : TextStep t text (ds ++ rest) r

inductive CodeStep (t : Template) (code : List Char) : List Char → Template × List Char → Prop
  | finish {rest : List Char} {r : Template × List Char} (h : readText? (t.addExpression code) [] rest = some r) :
    CodeStep t code ('\x7d' :: rest) r
  | more {ds rest : List Char} {os : List Open} {r : Template × List Char} (hn : ds ≠ [])
      (h : readCode? t (code ++ ds) os rest = some r) : CodeStep t code (ds ++ rest) r

theorem textStep_of_readText? {t : Template} {text cs : List Char} {r : Template × List Char}
    (h : readText? t text cs = some r) : TextStep t text cs r := by
  unfold readText? at h
  split at h
  · cases h
  · obtain rfl := Option.some.inj h
    exact .finish _
  · exact .expression h
  · next c rest =>
    obtain ⟨d, -, h⟩ := Option.bind_eq_some_iff.mp h
    exact .more (List.cons_ne_nil '\\' [c]) h
  · exact .more (List.cons_ne_nil '\r' ['\n']) h
  · exact .more (List.cons_ne_nil '\r' []) h
  · next c rest _ _ _ _ _ => exact .more (List.cons_ne_nil c []) h

theorem codeStep_of_readCode? {t : Template} {code cs : List Char} {os : List Open} {r : Template × List Char}
    (h : readCode? t code os cs = some r) : CodeStep t code cs r := by
  unfold readCode? at h
  split at h
  case h_1 | h_14 => cases h
  case h_3 =>
    split_ifs at h
    · exact .more (List.cons_ne_nil _ _) h
    · exact .more (List.cons_ne_nil _ _) h
  case h_8 => exact .finish h
  -- In all other cases the characters that are read go over to the expression.
  all_goals exact .more (List.cons_ne_nil _ _) h

theorem reads_of_length_lt (n : Nat) :
    (∀ t text cs r, cs.length < n → readText? t text cs = some r → ReadsText t text cs r) ∧
      ∀ t code os cs r, cs.length < n → readCode? t code os cs = some r → ReadsCode t code cs r := by
  induction n with
  | zero =>
    constructor
    · intro t text cs r hl
      exact absurd hl (Nat.not_lt_zero _)
    · intro t code os cs r hl
      exact absurd hl (Nat.not_lt_zero _)
  | succ n ih =>
    obtain ⟨ihText, ihCode⟩ := ih
    constructor
    · intro t text cs r hl h
      cases textStep_of_readText? h with
      | finish rest =>
        refine ⟨⟨[], by simp [Template.addText]⟩, ?_⟩
        simp [Template.size_addText]
      | expression hr =>
        rw [List.length_cons, List.length_cons] at hl
        obtain ⟨ht, hs⟩ := ihCode _ _ _ _ _ (by omega) hr
        refine ⟨⟨[], by simpa [Template.addText] using ht⟩, ?_⟩
        simp only [Template.size_addText, List.length_nil, List.length_cons] at hs ⊢
        omega
      | more hn hr =>
        rw [List.length_append] at hl
        have hpos := List.length_pos_iff.mpr hn
        exact (ihText _ _ _ _ (by omega) hr).step hn
    · intro t code os cs r hl h
      cases codeStep_of_readCode? h with
      | finish hr =>
        rw [List.length_cons] at hl
        obtain ⟨⟨more, ht⟩, hs⟩ := ihText _ _ _ _ (by omega) hr
        refine ⟨(List.prefix_append _ _).trans ht, ?_⟩
        simp only [Template.size_addExpression, List.length_nil, List.length_cons] at hs ⊢
        omega
      | more hn hr =>
        rw [List.length_append] at hl
        have hpos := List.length_pos_iff.mpr hn
        exact (ihCode _ _ _ _ _ (by omega) hr).step

theorem readsText {t : Template} {text cs : List Char} {r : Template × List Char}
    (h : readText? t text cs = some r) : ReadsText t text cs r :=
  (reads_of_length_lt (cs.length + 1)).1 t text cs r (Nat.lt_succ_self _) h

theorem readsCode {t : Template} {code cs : List Char} {os : List Open} {r : Template × List Char}
    (h : readCode? t code os cs = some r) : ReadsCode t code cs r :=
  (reads_of_length_lt (cs.length + 1)).2 t code os cs r (Nat.lt_succ_self _) h

theorem exists_readText?_return (t : Template) (text cs : List Char) :
    ∃ rest, readText? t text ('\r' :: cs) = readText? t (text ++ ['\n']) rest := by
  by_cases h : '\n' ∈ cs.head?
  · obtain ⟨rest, rfl⟩ := List.head?_eq_some_iff.mp h
    exact ⟨rest, rfl⟩
  · exact ⟨cs, readText?_return h t text⟩

inductive Distorted (front : List Char) : Char → (size : Nat) → Template → Prop
  | lineEnd {more : List Char} {texts expressions : List String} {n : Nat} :
    Distorted front '\r' n ⟨String.ofList (front ++ '\n' :: more) :: texts, expressions⟩
  | cut {texts expressions : List String} {n : Nat} : Distorted front '$' n ⟨String.ofList front :: texts, expressions⟩
  | short {t : Template} {n : Nat} (h : t.size < n) : Distorted front '\\' n t

theorem distorted_of_readTemplate? {front more : List Char} {c : Char} (hf : Verbatim front) (hs : Special c more)
    {t : Template} (h : readTemplate? ('\x60' :: (front ++ c :: (more ++ ['\x60']))) = some (t, [])) :
    Distorted front c (front ++ c :: more).length t := by
  rw [readTemplate?, hf.cooks _ _ _ (by simpa using hs.ne_brace), List.nil_append] at h
  cases hs with
  | backtick => simp [readText?] at h
  | backslash =>
    obtain ⟨d, rest, hd⟩ : ∃ d rest, more ++ ['\x60'] = d :: rest := List.exists_cons_of_ne_nil (by simp)
    rw [hd, readText?] at h
    obtain ⟨x, -, h⟩ := Option.bind_eq_some_iff.mp h
    have hsize := (readsText h).size
    have hl := congrArg List.length hd
    simp only [List.length_append, List.length_cons, List.length_nil] at hsize hl
    have hnil : Template.size ⟨[], []⟩ = 0 := rfl
    refine .short ?_
    simp only [List.length_append, List.length_cons]
    omega
  | carriageReturn =>
    obtain ⟨rest, hr⟩ := exists_readText?_return ⟨[], []⟩ front (more ++ ['\x60'])
    obtain ⟨m, texts, ht⟩ := (readsText (hr.symm.trans h)).texts
    obtain ⟨_, expressions⟩ := t
    obtain rfl := ht
    rw [List.append_assoc front]
    exact .lineEnd
  | interpolation more =>
    obtain ⟨texts, ht⟩ := (readsCode h).texts
    obtain ⟨_, expressions⟩ := t
    obtain rfl := ht
    exact .cut

end IconCompiler.Script
