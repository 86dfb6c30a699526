import IconCompiler.Emit.Output
import IconCompiler.Proofs.EmittedTree
import IconCompiler.Proofs.Placement

namespace IconCompiler.Emit

open IconCompiler.Markup IconCompiler.Text

theorem toList_intercalate (separator : String) {ss : List String} (h : ss ≠ []) :
    separator.toList ++ (separator.intercalate ss).toList =
      ss.flatMap fun s => separator.toList ++ s.toList := by
  induction ss with
  | nil => exact absurd rfl h
  | cons s ss ih =>
    cases ss with
    | nil => simp
    | cons r ss =>
      rw [String.intercalate_cons_of_ne_nil (by simp), String.toList_append, String.toList_append,
        List.flatMap_cons, List.append_assoc, List.append_assoc, ih (by simp)]

theorem toList_markupAttribute {name : String} {value : Value} (h : ValidEntry name value) :
    (markupAttribute name value).toList = attributeChars name value.emitted := by
  rw [markupAttribute, h.escapeAttribute_display]
  simp [attributeChars]

def writtenAttributes (as : Attributes) : String :=
  markupAttributes (as.filter fun name => !isPaint name).entries

theorem flatMap_markupAttribute {as : Attributes} (h : as.Valid) :
    ((as.filter fun name => !isPaint name).entries.flatMap fun a => ' ' :: (markupAttribute a.1 a.2).toList) =
      sectionChars as.emitted := by
  rw [sectionChars, Attributes.emitted, List.flatMap_map]
  apply List.flatMap_congr
  intro a ha
  rw [toList_markupAttribute (h.entry a (List.mem_of_mem_filter ha))]

def startText (tag attributes : String) : String :=
  if attributes = "" then "<" ++ tag else "<" ++ tag ++ " " ++ attributes

theorem toList_markupAttributes {es : List (String × Value)} (h : es ≠ []) :
    ' ' :: (markupAttributes es).toList =
      es.flatMap fun a => ' ' :: (markupAttribute a.1 a.2).toList := by
  have hn : (es.map fun a => markupAttribute a.1 a.2) ≠ [] := by simpa using h
  have hl := toList_intercalate " " hn
  rw [List.flatMap_map] at hl
  exact hl

theorem markupAttributes_ne_empty {es : List (String × Value)} (h : es ≠ []) :
    markupAttributes es ≠ "" := by
  intro he
  have hl := toList_markupAttributes h
  obtain ⟨a, es, rfl⟩ := List.exists_cons_of_ne_nil h
  rw [he] at hl
  simp [markupAttribute] at hl

theorem toList_startText {as : Attributes} (h : as.Valid) (tag : String) :
    (startText tag (writtenAttributes as)).toList = '<' :: startBody tag as.emitted := by
  rw [startBody, ← flatMap_markupAttribute h, startText, writtenAttributes]
  generalize (as.filter fun name => !isPaint name).entries = es
  by_cases hn : es = []
  · subst hn
    simp [markupAttributes]
  · rw [if_neg (markupAttributes_ne_empty hn), ← toList_markupAttributes hn]
    simp

theorem toList_markupElement_empty (tag attributes : String) (depth : Nat) :
    (markupElement escapeText tag attributes .empty depth).toList =
      (indent depth).toList ++ (startText tag attributes).toList ++ [' ', '/', '>'] := by
  simp [markupElement, startText]

theorem toList_markupElement_text (tag attributes s : String) (depth : Nat) :
    (markupElement escapeText tag attributes (.text s) depth).toList =
      (indent depth).toList ++ (startText tag attributes).toList ++
        '>' :: ((escapeText s).toList ++ '<' :: (endBody tag ++ ['>'])) := by
  simp [markupElement, startText, endBody]

theorem toList_markupElement_children (tag attributes : String) {cs : List String} (hc : cs ≠ [])
    (depth : Nat) :
    (markupElement escapeText tag attributes (.children cs) depth).toList =
      (indent depth).toList ++ (startText tag attributes).toList ++
        '>' :: ((cs.flatMap fun c => '\n' :: c.toList) ++
          ('\n' :: (indent depth).toList) ++ '<' :: (endBody tag ++ ['>'])) := by
  have hl : (cs.flatMap fun c => '\n' :: c.toList) = '\n' :: (lines cs).toList :=
    (toList_intercalate "\n" hc).symm
  rw [hl]
  simp [markupElement, startText, endBody]

end IconCompiler.Emit

namespace IconCompiler

open IconCompiler.Emit IconCompiler.Markup IconCompiler.Text

theorem blank_indent (depth : Nat) : Blank (indent depth).toList := by
  intro c hc
  rw [indent, String.toList_ofList] at hc
  rw [List.eq_of_mem_replicate hc]
  rfl

theorem Markup.Blank.append {cs ds : List Char} (hc : Blank cs) (hd : Blank ds) : Blank (cs ++ ds) :=
  fun c hm => (List.mem_append.mp hm).elim (hc c) (hd c)

namespace Target

def IsMarkup (t : Target) : Prop := t = .svelte ∨ t = .webComponent

theorem elements_eq_map (t : Target) (depth : Nat) (es : List Element) :
    t.elements depth es = es.map (t.element depth) := by
  induction es with
  | nil => rfl
  | cons e es ih => rw [elements, ih, List.map_cons]

variable {t : Target} (ht : t.IsMarkup)

include ht

theorem element_eq (depth : Nat) (e : Element) :
    t.element depth e = markupElement escapeText e.tag (writtenAttributes e.attributes)
      (bodyOf (t.elements (depth + 1) e.children) e.content) depth := by
  obtain ⟨tag, attributes, children, content⟩ := e
  rcases ht with rfl | rfl <;> rfl

def MarksUp (t : Target) (depth : Nat) (e : Element) : Prop :=
  ∀ gap, Blank gap → ∃ rs, Marked e.emitted rs ∧ taggedText rs = gap ++ (t.element depth e).toList

omit ht in
theorem exists_markedList {depth : Nat} {es : List Element} (h : ∀ e ∈ es, t.MarksUp depth e) :
    ∃ rs, MarkedList (es.map Element.emitted) rs ∧
      taggedText rs = es.flatMap fun e => '\n' :: (t.element depth e).toList := by
  induction es with
  | nil => exact ⟨[], .nil, rfl⟩
  | cons e es ih =>
    obtain ⟨rs, hr, hrt⟩ := h e (by simp) ['\n'] (by simp [Blank, isBlank])
    obtain ⟨ss, hs, hst⟩ := ih fun d hd => h d (List.mem_cons_of_mem _ hd)
    refine ⟨rs ++ ss, .cons hr hs, ?_⟩
    rw [taggedText, List.flatMap_append, ← taggedText, ← taggedText, hrt, hst]
    rfl

theorem marksUp (e : Element) (h : ∀ d ∈ e.preorder, d.Valid ∧ isName d.tag = true) (depth : Nat) :
    t.MarksUp depth e := by
  induction e using Element.induction generalizing depth with
  | h e ih =>
    obtain ⟨hv, hn⟩ := h e e.mem_preorder_self
    have hp := hv.plain hn
    have hi : ∀ c ∈ e.children, t.MarksUp (depth + 1) c := by
      intro c hc
      refine ih c hc (fun d hd => h d ?_) (depth + 1)
      rw [Element.preorder_eq]
      exact List.mem_cons_of_mem _ (Element.mem_preorderList.mpr ⟨c, hc, hd⟩)
    intro gap hg
    have hgap := hg.append (blank_indent depth)
    rw [element_eq ht]
    obtain ⟨tag, attributes, children, content⟩ := e
    cases children with
    | nil =>
      cases content with
      | none =>
        refine ⟨_, .leaf hp hgap, ?_⟩
        rw [show bodyOf (t.elements (depth + 1) []) none = .empty from rfl, toList_markupElement_empty,
          toList_startText hv.attributes]
        simp [taggedText, TaggedRun.chars]
      | some s =>
        have hb : bodyOf (t.elements (depth + 1) []) (some s) = .text s :=
          if_neg (hv.content s rfl).nonempty
        refine ⟨_, .text hp hgap, ?_⟩
        rw [hb, toList_markupElement_text, toList_startText hv.attributes]
        simp [taggedText, TaggedRun.chars]
    | cons c cs =>
      obtain ⟨rs, hm, hrs⟩ := exists_markedList hi
      have hb : bodyOf (t.elements (depth + 1) (c :: cs)) content =
          .children ((c :: cs).map (t.element (depth + 1))) := by
        rw [elements_eq_map]
        rfl
      rw [← Element.emittedList_eq_map] at hm
      have hlast : Blank ('\n' :: (indent depth).toList) :=
        Blank.append (show Blank ['\n'] by simp [Blank, isBlank]) (blank_indent depth)
      refine ⟨_, .branch hp (by simp [Element.emittedList]) hgap hlast hm, ?_⟩
      rw [hb, toList_markupElement_children _ _ (by simp), toList_startText hv.attributes,
        List.flatMap_map, ← hrs]
      simp [taggedText, TaggedRun.chars]

omit ht in
theorem exists_marked_lines {depth : Nat} {es : List Element} (h : ∀ e ∈ es, t.MarksUp depth e) :
    ∃ rs, MarkedList (es.map Element.emitted) rs ∧ taggedText rs = (lines (t.elements depth es)).toList := by
  cases es with
  | nil => exact ⟨[], .nil, rfl⟩
  | cons e es =>
    obtain ⟨rs, hr, hrt⟩ := h e (by simp) [] (by simp [Blank])
    obtain ⟨ss, hs, hst⟩ := exists_markedList fun d hd => h d (List.mem_cons_of_mem _ hd)
    have hl := toList_intercalate "\n" (show (e :: es).map (t.element depth) ≠ [] by simp)
    rw [List.flatMap_map, List.flatMap_cons, List.append_assoc] at hl
    refine ⟨rs ++ ss, .cons hr hs, ?_⟩
    rw [elements_eq_map, lines, List.append_cancel_left hl, taggedText, List.flatMap_append,
      ← taggedText, ← taggedText, hrt, hst]
    rfl

end Target

theorem toList_root (s : String) {rs : List TaggedRun} (h : taggedText rs = s.toList) :
    ("<svg>" ++ s ++ "</svg>").toList = taggedText (rootRuns rs) := by
  have he : taggedText (rs ++ [⟨[], endBody "svg"⟩]) = s.toList ++ "</svg>".toList := by
    rw [taggedText, List.flatMap_append, ← taggedText, h]
    rfl
  rw [rootRuns, taggedText_cons, he]
  simp [startBody, sectionChars, Attributes.empty]

theorem children_of_read {source : String} {doc : Document} (h : Document.read source = .ok doc) :
    (∀ e ∈ Element.preorderList doc.children, e.Valid) ∧ Element.heightList doc.children < maxDepth := by
  obtain ⟨tokens, root, ht, hr, rfl⟩ := read_ok h
  have hv := valid_ofTokens (valid_tokenize ht) hr
  have hh := (ofTokens_eq_ok_iff.mp hr).2
  obtain ⟨tag, attributes, children, content⟩ := root
  refine ⟨fun e he => hv e ?_, ?_⟩
  · rw [Element.preorder_eq]
    exact List.mem_cons_of_mem _ he
  · simp only [Element.height] at hh
    show Element.heightList children < maxDepth
    omega

/-- Markup that is emitted for the elements of a document is read again, and as the same elements up
to what is left out and escaped. -/
theorem read_emitted {source : String} {doc : Document} (h : Document.read source = .ok doc)
    (hn : ∀ e ∈ Element.preorderList doc.children, isName e.tag = true) {t : Target}
    (ht : t = .svelte ∨ t = .webComponent) (depth : Nat) :
    ∃ again, Document.read ("<svg>" ++ lines (t.elements depth doc.children) ++ "</svg>") = .ok again ∧
      again.children = doc.children.map Element.emitted := by
  obtain ⟨hv, hh⟩ := children_of_read h
  have hm : ∀ e ∈ doc.children, t.MarksUp depth e := by
    intro e he
    refine Target.marksUp ht e (fun d hd => ?_) depth
    have hd' := Element.mem_preorderList.mpr ⟨e, he, hd⟩
    exact ⟨hv d hd', hn d hd'⟩
  obtain ⟨rs, hrs, htext⟩ := Target.exists_marked_lines hm
  have hheight : Element.heightList (doc.children.map Element.emitted) < maxDepth := by
    rw [← Element.emittedList_eq_map, Element.heightList_emittedList]
    exact hh
  exact ⟨_, read_of_marked hrs hheight (toList_root _ htext), rfl⟩

theorem read_emitted_group : ∃ doc again,
    Document.read "<svg><g stroke='red' x=1.50>note<text id='\"'>a & b</text><path hidden/></g></svg>" =
        .ok doc ∧
      (∀ e ∈ Element.preorderList doc.children, isName e.tag = true) ∧
      Document.read ("<svg>" ++ lines (Target.svelte.elements 1 doc.children) ++ "</svg>") = .ok again ∧
      again.children = [⟨"g", ⟨[("x", .number (.finite false ⟨0x3FF8000000000000, by decide⟩))]⟩,
        [⟨"text", ⟨[("id", .text "&quot;")]⟩, [], some "a &amp; b"⟩, ⟨"path", .empty, [], none⟩], none⟩] := by
  have h : Document.read
      "<svg><g stroke='red' x=1.50>note<text id='\"'>a & b</text><path hidden/></g></svg>" =
        .ok ⟨.empty, [⟨"g", ⟨[("stroke", .text "red"),
          ("x", .number (.finite false ⟨0x3FF8000000000000, by decide⟩))]⟩,
          [⟨"text", ⟨[("id", .text "\"")]⟩, [], some "a & b"⟩, ⟨"path", .empty, [], none⟩],
          some "note"⟩],
          "<svg><g stroke='red' x=1.50>note<text id='\"'>a & b</text><path hidden/></g></svg>"⟩ := by
    decide +kernel
  obtain ⟨again, hr, hc⟩ := read_emitted h (by decide +kernel) (.inl rfl) 1
  exact ⟨_, again, h, by decide +kernel, hr, hc.trans (by decide +kernel)⟩

end IconCompiler
