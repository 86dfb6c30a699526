import IconCompiler.Proofs.QuotedLiterals

namespace IconCompiler.Script

structure Template where
  texts : List String
  expressions : List String
  deriving DecidableEq, Repr

def Template.addText (t : Template) (text : List Char) : Template :=
  { t with texts := t.texts ++ [String.ofList text] }

def Template.addExpression (t : Template) (code : List Char) : Template :=
  { t with expressions := t.expressions ++ [String.ofList code] }

inductive Open where
  | brace
  | template
  | quote (mark : Char)

def templateEscaped? : Char → Option Char
  | '\x60' => some '\x60'
  | '$' => some '$'
  | c => escaped? c

mutual

/-- Reads a template to its end, from a place in one of its texts. A carriage return, alone or before a line
feed, is read as a line feed. -/
def readText? (t : Template) (text : List Char) : List Char → Option (Template × List Char)
  | [] => none
  | '\x60' :: rest => some (t.addText text, rest)
  | '$' :: '\x7b' :: rest => readCode? (t.addText text) [] [] rest
  | '\\' :: c :: rest => (templateEscaped? c).bind fun d => readText? t (text ++ [d]) rest
  | '\r' :: '\n' :: rest => readText? t (text ++ ['\n']) rest
  | '\r' :: rest => readText? t (text ++ ['\n']) rest
  | c :: rest => readText? t (text ++ [c]) rest

/-- Reads a template to its end, from a place in one of its expressions. What may be a comment or a regular
expression is refused. -/
def readCode? (t : Template) (code : List Char) : List Open → List Char → Option (Template × List Char)
  | _, [] => none
  | .quote mark :: os, '\\' :: c :: rest => readCode? t (code ++ ['\\', c]) (.quote mark :: os) rest
  | .quote mark :: os, c :: rest =>
    if c = mark then readCode? t (code ++ [c]) os rest
    else if endsLine c then none
    else readCode? t (code ++ [c]) (.quote mark :: os) rest
  | .template :: os, '\x60' :: rest => readCode? t (code ++ ['\x60']) os rest
  | .template :: os, '$' :: '\x7b' :: rest => readCode? t (code ++ ['$', '\x7b']) (.brace :: .template :: os) rest
  | .template :: os, '\\' :: c :: rest => readCode? t (code ++ ['\\', c]) (.template :: os) rest
  | .template :: os, c :: rest => readCode? t (code ++ [c]) (.template :: os) rest
  | [], '\x7d' :: rest => readText? (t.addExpression code) [] rest
  | .brace :: os, '\x7d' :: rest => readCode? t (code ++ ['\x7d']) os rest
  | os, '\x7b' :: rest => readCode? t (code ++ ['\x7b']) (.brace :: os) rest
  | os, '\x60' :: rest => readCode? t (code ++ ['\x60']) (.template :: os) rest
  | os, '\x27' :: rest => readCode? t (code ++ ['\x27']) (.quote '\x27' :: os) rest
  | os, '"' :: rest => readCode? t (code ++ ['"']) (.quote '"' :: os) rest
  | _, '/' :: _ => none
  | os, c :: rest => readCode? t (code ++ [c]) os rest

end

def readTemplate? : List Char → Option (Template × List Char)
  | '\x60' :: rest => readText? ⟨[], []⟩ [] rest
  | _ => none

theorem readText?_cons {c : Char} (ht : c ≠ '\x60') (hs : c ≠ '\\') (hr : c ≠ '\r') {cs : List Char}
    (hb : c = '$' → '\x7b' ∉ cs.head?) (t : Template) (text : List Char) :
    readText? t text (c :: cs) = readText? t (text ++ [c]) cs := by
  rw [readText?]
  · exact ht
  · rintro rest rfl rfl
    exact hb rfl rfl
  · rintro d rest rfl
    exact absurd rfl hs
  · rintro rest rfl
    exact absurd rfl hr
  · exact hr

theorem not_mem_head?_append {c : Char} {cs ds : List Char} (hc : c ∉ cs.head?) (hd : c ∉ ds.head?) :
    c ∉ (cs ++ ds).head? := by
  cases cs with
  | nil => exact hd
  | cons b bs => exact hc

/-- In a template, the text is read as `cooked`, unless a brace after it makes an expression of its last
dollar sign. -/
def Cooks (raw cooked : List Char) : Prop :=
  ∀ t text rest, '\x7b' ∉ rest.head? → readText? t text (raw ++ rest) = readText? t (text ++ cooked) rest

def isPlain (c : Char) : Bool := c != '\x60' && c != '\\' && c != '\r' && c != '$'

theorem isPlain_iff {c : Char} : isPlain c = true ↔ c ≠ '\x60' ∧ c ≠ '\\' ∧ c ≠ '\r' ∧ c ≠ '$' := by
  simp [isPlain, and_assoc]

namespace Cooks

theorem nil : Cooks [] [] := by
  intro t text rest hr
  rw [List.nil_append, List.append_nil]

theorem append {raw raw' cooked cooked' : List Char} (h : Cooks raw cooked) (h' : Cooks raw' cooked')
    (hb : '\x7b' ∉ raw'.head?) : Cooks (raw ++ raw') (cooked ++ cooked') := by
  intro t text rest hr
  rw [List.append_assoc, h t text _ (not_mem_head?_append hb hr), h' t _ rest hr, List.append_assoc]

theorem flatMap {α : Type} {raw cooked : α → List Char} {xs : List α}
    (h : ∀ x ∈ xs, Cooks (raw x) (cooked x) ∧ '\x7b' ∉ (raw x).head?) :
    Cooks (xs.flatMap raw) (xs.flatMap cooked) ∧ '\x7b' ∉ (xs.flatMap raw).head? := by
  induction xs with
  | nil => exact ⟨nil, by simp⟩
  | cons x xs ih =>
    obtain ⟨hx, hb⟩ := h x List.mem_cons_self
    obtain ⟨hxs, hbs⟩ := ih fun y hy => h y (List.mem_cons_of_mem x hy)
    exact ⟨hx.append hxs hbs, not_mem_head?_append hb hbs⟩

theorem plain_append {cs : List Char} (hc : cs.all isPlain = true) {raw cooked : List Char}
    (h : Cooks raw cooked) : Cooks (cs ++ raw) (cs ++ cooked) := by
  induction cs with
  | nil => exact h
  | cons c cs ih =>
    intro t text rest hr
    rw [List.all_cons, Bool.and_eq_true] at hc
    obtain ⟨ht, hs, hcr, hd⟩ := isPlain_iff.mp hc.1
    rw [List.cons_append, List.cons_append, readText?_cons ht hs hcr fun he => absurd he hd,
      ih hc.2 t _ rest hr, List.append_assoc]
    rfl

theorem plain {cs : List Char} (hc : cs.all isPlain = true) : Cooks cs cs := by
  have h := plain_append hc nil
  rwa [List.append_nil] at h

end Cooks

def guardMark (c : Char) : List Char := if c = '\\' ∨ c = '\x60' then ['\\', c] else [c]

theorem guardChar_guardChar (cs : List Char) : guardChar '\x60' (guardChar '\\' cs) = cs.flatMap guardMark := by
  unfold guardChar
  rw [List.flatMap_assoc]
  congr 1
  funext c
  unfold guardMark
  by_cases hb : c = '\\'
  · subst hb
    rfl
  · by_cases ht : c = '\x60'
    · subst ht
      rfl
    · simp [hb, ht]

theorem guardInterpolation_cons {c : Char} {cs : List Char} (hb : c = '$' → '\x7b' ∉ cs.head?) :
    guardInterpolation (c :: cs) = c :: guardInterpolation cs := by
  rw [guardInterpolation]
  rintro rest rfl rfl
  exact hb rfl rfl

theorem head?_flatMap_guardMark {x : Char} (hx : x ≠ '\\') {cs : List Char} (h : x ∉ cs.head?) :
    x ∉ (cs.flatMap guardMark).head? := by
  cases cs with
  | nil => exact h
  | cons c cs =>
    unfold guardMark
    rw [List.flatMap_cons]
    split
    · simpa using Ne.symm hx
    · exact h

theorem head?_guardInterpolation {x : Char} (hx : x ≠ '\\') {cs : List Char} (h : x ∉ cs.head?) :
    x ∉ (guardInterpolation cs).head? := by
  fun_cases guardInterpolation cs with
  | case1 => exact h
  | case2 cs => simpa using Ne.symm hx
  | case3 c cs hc => exact h

def guarded (cs : List Char) : List Char := guardInterpolation (cs.flatMap guardMark)

theorem head?_guarded {x : Char} (hx : x ≠ '\\') {cs : List Char} (h : x ∉ cs.head?) : x ∉ (guarded cs).head? :=
  head?_guardInterpolation hx (head?_flatMap_guardMark hx h)

theorem guarded_cons_mark {c : Char} (hm : c = '\\' ∨ c = '\x60') (cs : List Char) :
    guarded (c :: cs) = '\\' :: c :: guarded cs := by
  have hd : c ≠ '$' := by
    rintro rfl
    exact absurd hm (by decide)
  rw [guarded, List.flatMap_cons, guardMark, if_pos hm, List.cons_append, List.singleton_append,
    guardInterpolation_cons fun he => absurd he (by decide), guardInterpolation_cons fun he => absurd he hd]
  rfl

theorem guarded_cons {c : Char} (hm : ¬ (c = '\\' ∨ c = '\x60')) {cs : List Char}
    (hb : c = '$' → '\x7b' ∉ cs.head?) : guarded (c :: cs) = c :: guarded cs := by
  rw [guarded, List.flatMap_cons, guardMark, if_neg hm, List.singleton_append]
  exact guardInterpolation_cons fun hd => head?_flatMap_guardMark (by decide) (hb hd)

def lineFeeds : List Char → List Char
  | [] => []
  | '\r' :: '\n' :: cs => '\n' :: lineFeeds cs
  | '\r' :: cs => '\n' :: lineFeeds cs
  | c :: cs => c :: lineFeeds cs

theorem lineFeeds_cons {c : Char} (h : c ≠ '\r') (cs : List Char) : lineFeeds (c :: cs) = c :: lineFeeds cs := by
  rw [lineFeeds]
  · rintro rest rfl
    exact absurd rfl h
  · exact h

theorem lineFeeds_return {cs : List Char} (h : '\n' ∉ cs.head?) : lineFeeds ('\r' :: cs) = '\n' :: lineFeeds cs := by
  rw [lineFeeds]
  rintro rest rfl
  exact h rfl

theorem return_not_mem_lineFeeds (cs : List Char) : '\r' ∉ lineFeeds cs := by
  fun_induction lineFeeds cs with
  | case1 => simp
  | case2 cs ih => simpa using ih
  | case3 cs hn ih => simpa using ih
  | case4 c cs hn hc ih => simpa [ih] using Ne.symm hc

theorem lineFeeds_append {cs : List Char} (h : '\r' ∉ cs) (ds : List Char) :
    lineFeeds (cs ++ ds) = cs ++ lineFeeds ds := by
  induction cs with
  | nil => rfl
  | cons c cs ih =>
    rw [List.mem_cons, not_or] at h
    rw [List.cons_append, lineFeeds_cons (Ne.symm h.1), ih h.2, List.cons_append]

theorem lineFeeds_eq_self_iff {cs : List Char} : lineFeeds cs = cs ↔ '\r' ∉ cs := by
  constructor
  · intro h
    rw [← h]
    exact return_not_mem_lineFeeds cs
  · intro h
    have hl := lineFeeds_append h []
    simpa [lineFeeds] using hl

theorem readText?_return {cs : List Char} (h : '\n' ∉ cs.head?) (t : Template) (text : List Char) :
    readText? t text ('\r' :: cs) = readText? t (text ++ ['\n']) cs := by
  rw [readText?]
  rintro rest rfl
  exact h rfl

theorem readText?_guarded {cs rest : List Char} (hb : '\x7b' ∉ rest.head?) (hn : '\r' ∉ cs ∨ '\n' ∉ rest.head?)
    (t : Template) (text : List Char) :
    readText? t text (guarded cs ++ rest) = readText? t (text ++ lineFeeds cs) rest := by
  -- The induction follows the pairs that are guarded, in the text before it is guarded.
  induction cs using guardInterpolation.induct generalizing text with
  | case1 => simp [lineFeeds, guarded, guardInterpolation]
  | case2 cs ih =>
    have hcs : '\r' ∉ cs ∨ '\n' ∉ rest.head? := hn.imp_left fun h hm => h (by simp [hm])
    have hstep : readText? t text ('\\' :: '$' :: '\x7b' :: (guarded cs ++ rest)) =
        readText? t (text ++ ['$'] ++ ['\x7b']) (guarded cs ++ rest) := rfl
    refine hstep.trans ?_
    rw [ih hcs, lineFeeds_cons (by decide), lineFeeds_cons (by decide)]
    simp
  | case3 c cs hc ih =>
    have hcs : '\r' ∉ cs ∨ '\n' ∉ rest.head? := hn.imp_left fun h hm => h (List.mem_cons_of_mem c hm)
    have hbrace : c = '$' → '\x7b' ∉ cs.head? := by
      intro hd hh
      obtain ⟨ds, rfl⟩ := List.head?_eq_some_iff.mp hh
      exact hc ds hd rfl
    by_cases hm : c = '\\' ∨ c = '\x60'
    · have hstep : readText? t text ('\\' :: c :: (guarded cs ++ rest)) =
          readText? t (text ++ [c]) (guarded cs ++ rest) := by
        rcases hm with rfl | rfl <;> rfl
      have hcr : c ≠ '\r' := by
        rintro rfl
        exact absurd hm (by decide)
      rw [guarded_cons_mark hm, List.cons_append, List.cons_append, hstep, ih hcs, lineFeeds_cons hcr,
        List.append_assoc]
      rfl
    · rw [guarded_cons hm hbrace, List.cons_append]
      by_cases hcr : c = '\r'
      · subst hcr
        by_cases hl : '\n' ∈ cs.head?
        -- The line feed is read as it would be read without the carriage return.
        · obtain ⟨ds, rfl⟩ := List.head?_eq_some_iff.mp hl
          have hfeed : guarded ('\n' :: ds) = '\n' :: guarded ds := guarded_cons (by decide) (by simp)
          have hskip : readText? t text ('\r' :: (guarded ('\n' :: ds) ++ rest)) =
              readText? t text (guarded ('\n' :: ds) ++ rest) := by
            rw [hfeed, List.cons_append]
            exact (readText?_cons (by decide) (by decide) (by decide) (by simp) t text).symm
          rw [hskip, ih hcs, lineFeeds_cons (by decide)]
          rfl
        · have hhead : '\n' ∉ (guarded cs ++ rest).head? :=
            not_mem_head?_append (head?_guarded (by decide) hl) (hn.resolve_left (by simp))
          rw [readText?_return hhead, ih hcs, lineFeeds_return hl, List.append_assoc]
          rfl
      · have hhead : c = '$' → '\x7b' ∉ (guarded cs ++ rest).head? :=
          fun hd => not_mem_head?_append (head?_guarded (by decide) (hbrace hd)) hb
        rw [readText?_cons (fun he => hm (.inr he)) (fun he => hm (.inl he)) hcr hhead, ih hcs,
          lineFeeds_cons hcr, List.append_assoc]
        rfl

theorem toList_templateText (s : String) : (templateText s).toList = guarded s.toList := by
  rw [templateText, String.toList_ofList, guardChar_guardChar]
  rfl

theorem cooks_templateText {s : String} (h : '\r' ∉ s.toList) : Cooks (templateText s).toList s.toList := by
  intro t text rest hr
  rw [toList_templateText, readText?_guarded hr (.inl h), lineFeeds_eq_self_iff.mpr h]

theorem Cooks.templateText_append (s : String) {raw cooked : List Char} (h : Cooks raw cooked) {c : Char}
    (hc : raw.head? = some c) (hb : c ≠ '\x7b') (hn : c ≠ '\n') :
    Cooks ((templateText s).toList ++ raw) (lineFeeds s.toList ++ cooked) := by
  intro t text rest hr
  have hhead : (raw ++ rest).head? = some c := by rw [List.head?_append, hc, Option.some_or]
  have hbrace : '\x7b' ∉ (raw ++ rest).head? := by simpa [hhead] using hb
  have hfeed : '\n' ∉ (raw ++ rest).head? := by simpa [hhead] using hn
  rw [List.append_assoc, toList_templateText, readText?_guarded hbrace (.inr hfeed), h t _ rest hr, List.append_assoc]

/-- Whatever text is written into a template, it brings no expression in and does not end the literal, and it is
shown as it was unless it has a carriage return, which is shown as a line feed. -/
theorem templateText_inert (s : String) (rest : List Char) : ∃ text : String,
    readTemplate? ('\x60' :: ((templateText s).toList ++ '\x60' :: rest)) = some (⟨[text], []⟩, rest) ∧
      (text = s ↔ '\r' ∉ s.toList) := by
  refine ⟨String.ofList (lineFeeds s.toList), ?_, ?_⟩
  · rw [readTemplate?, toList_templateText, readText?_guarded (by simp) (.inr (by simp))]
    rfl
  · rw [← lineFeeds_eq_self_iff, ← String.toList_inj, String.toList_ofList]

def Closes (expression : String) : Prop :=
  ∀ t rest, readCode? t [] [] (expression.toList ++ '\x7d' :: rest) =
    readText? (t.addExpression expression.toList) [] rest

structure Insertion where
  expression : String
  raw : List Char
  text : String

namespace Insertion

def chars (i : Insertion) : List Char := '$' :: '\x7b' :: (i.expression.toList ++ '\x7d' :: i.raw)

structure Sound (i : Insertion) : Prop where
  closes : Closes i.expression
  cooks : Cooks i.raw i.text.toList

def plain (expression text : String) : Insertion := ⟨expression, text.toList, text⟩

theorem Sound.plain {expression text : String} (hc : Closes expression) (ht : text.toList.all isPlain = true) :
    (Insertion.plain expression text).Sound :=
  ⟨hc, .plain ht⟩

end Insertion

theorem readText?_insertions {raw cooked : List Char} (h : Cooks raw cooked) {is : List Insertion}
    (hi : ∀ i ∈ is, i.Sound) (t : Template) (rest : List Char) :
    readText? t [] (raw ++ (is.flatMap Insertion.chars ++ '\x60' :: rest)) =
      some (⟨t.texts ++ String.ofList cooked :: is.map Insertion.text,
        t.expressions ++ is.map Insertion.expression⟩, rest) := by
  induction is generalizing raw cooked t with
  | nil =>
    rw [h t [] _ (by simp)]
    simp [readText?, Template.addText]
  | cons i is ih =>
    obtain ⟨hc, hr⟩ := hi i List.mem_cons_self
    have hread : readText? t cooked (i.chars ++ (is.flatMap Insertion.chars ++ '\x60' :: rest)) =
        readText? ((t.addText cooked).addExpression i.expression.toList) []
          (i.raw ++ (is.flatMap Insertion.chars ++ '\x60' :: rest)) := by
      rw [Insertion.chars, List.cons_append, List.cons_append, List.append_assoc, readText?]
      exact hc _ _
    rw [List.flatMap_cons, List.append_assoc, h t [] _ (by simp [Insertion.chars]), List.nil_append, hread,
      ih hr fun j hj => hi j (List.mem_cons_of_mem i hj)]
    simp [Template.addText, Template.addExpression]

theorem readTemplate?_append {literal text : String} {raw : List Char} {is : List Insertion}
    (hl : literal.toList = '\x60' :: (raw ++ (is.flatMap Insertion.chars ++ ['\x60']))) (h : Cooks raw text.toList)
    (hi : ∀ i ∈ is, i.Sound) (rest : List Char) :
    readTemplate? (literal.toList ++ rest) =
      some (⟨text :: is.map Insertion.text, is.map Insertion.expression⟩, rest) := by
  have hread := readText?_insertions h hi ⟨[], []⟩ rest
  rw [String.ofList_toList] at hread
  rw [hl, List.cons_append, List.append_assoc, List.append_assoc, List.singleton_append, readTemplate?]
  exact hread

example : readTemplate? "`a\\`$\x7bx(\x7by: `\x7d$\x7b'\x7d'\x7d`\x7d)\x7d$`;".toList =
    some (⟨["a`", "$"], ["x(\x7by: `\x7d$\x7b'\x7d'\x7d`\x7d)"]⟩, [';']) := by decide +kernel

end IconCompiler.Script
