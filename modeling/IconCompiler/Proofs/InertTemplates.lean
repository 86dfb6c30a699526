import IconCompiler.Proofs.MarkupCharacters
import IconCompiler.Proofs.TemplateLiterals

namespace IconCompiler

open IconCompiler.Markup IconCompiler.Emit IconCompiler.Script IconCompiler.Text

namespace Markup

def Attributes.texts (as : Attributes) : List String := as.entries.flatMap fun a => a.1 :: a.2.text?.toList

def Element.texts (e : Element) : List String := e.tag :: e.attributes.texts ++ e.content.toList

def Document.texts (doc : Document) : List String :=
  doc.attributes.texts ++ (Element.preorderList doc.children).flatMap Element.texts

theorem Attributes.noReturn {as : Attributes} (h : ∀ s ∈ as.texts, '\r' ∉ s.toList) {a : String × Value}
    (ha : a ∈ as.entries) :
    '\r' ∉ (markupName a.1).toList ∧ '\r' ∉ (escapeAttribute a.2.display).toList := by
  have hmem : ∀ s ∈ a.1 :: a.2.text?.toList, '\r' ∉ s.toList :=
    fun s hs => h s (List.mem_flatMap.mpr ⟨a, ha, hs⟩)
  constructor
  · exact not_mem_markupName (by decide) (hmem _ List.mem_cons_self)
  · apply escapes_attributeEntities.not_mem_replaceEntities_of_blank (by decide)
    apply not_mem_display (by decide)
    intro s hs
    exact hmem s (List.mem_cons_of_mem _ (Option.mem_toList.mpr hs))

theorem Element.noReturn {e : Element} (h : ∀ s ∈ e.texts, '\r' ∉ s.toList) :
    ∀ s ∈ e.writtenTexts, '\r' ∉ s.toList := by
  intro s hs
  simp only [writtenTexts, List.mem_append, List.mem_cons, List.mem_flatMap, List.mem_map] at hs
  rcases hs with (rfl | ⟨a, ha, hs⟩) | ⟨r, hr, rfl⟩
  · exact h _ (by simp [texts])
  · have hn := Attributes.noReturn (fun s hs => h s (by simp [texts, hs])) ha
    rcases hs with rfl | rfl | hs
    · exact hn.1
    · exact hn.2
    · cases hs
  · exact escapes_textEntities.not_mem_replaceEntities_of_blank (by decide) (h r (by simp [texts, hr]))

end Markup

namespace Markup.Escapes

variable {es : List Entity} (h : Escapes es)

include h

theorem blank_not_mem_escapeChar {b c : Char} (hb : isBlank b = true) (hc : b ≠ c) : b ∉ escapeChar es c := by
  intro hm
  cases hblank : isBlank c with
  | true =>
    rw [h.escapeChar_of_blank hblank] at hm
    exact hc (List.mem_singleton.mp hm)
  | false =>
    rw [h.isBlank_of_mem_escapeChar hblank hm] at hb
    cases hb

theorem lineFeeds_flatMap (cs : List Char) :
    lineFeeds (cs.flatMap (escapeChar es)) = (lineFeeds cs).flatMap (escapeChar es) := by
  have hreturn : escapeChar es '\r' = ['\r'] := h.escapeChar_of_blank (by decide)
  have hfeed : escapeChar es '\n' = ['\n'] := h.escapeChar_of_blank (by decide)
  fun_induction lineFeeds cs with
  | case1 => rfl
  | case2 cs ih =>
    simp only [List.flatMap_cons, hreturn, hfeed, ← ih]
    rfl
  | case3 cs hn ih =>
    have hhead : '\n' ∉ (cs.flatMap (escapeChar es)).head? := by
      cases cs with
      | nil => simp
      | cons c cs =>
        rw [List.flatMap_cons, List.head?_append_of_ne_nil _ (h.escapeChar_ne_nil c)]
        intro hm
        refine h.blank_not_mem_escapeChar (by decide) ?_ (List.mem_of_mem_head? hm)
        rintro rfl
        exact hn cs rfl
    rw [List.flatMap_cons, hreturn, List.singleton_append, lineFeeds_return hhead, ih, List.flatMap_cons, hfeed,
      List.singleton_append]
  | case4 c cs hn hc ih =>
    have hr := h.blank_not_mem_escapeChar (show isBlank '\r' = true by decide) (Ne.symm hc)
    rw [List.flatMap_cons, lineFeeds_append hr, ih, List.flatMap_cons]

end Markup.Escapes

namespace Emit.CustomElement

def elementsText (children : List String) : String :=
  if children.isEmpty then "" else "\n" ++ lines children ++ "\n"

def elementsLiteral (children : List String) : String :=
  if children.isEmpty then "``" else "`\n" ++ templateText (lines children) ++ "\n`"

theorem lines_elementsConstant (children : List String) :
    lines (elementsConstant children) = "const template = " ++ elementsLiteral children ++ ";" := by
  unfold elementsConstant elementsLiteral
  split_ifs
  · rfl
  · rw [← String.toList_inj]
    simp [lines]

theorem readTemplate?_elementsLiteral {children : List String} (h : '\r' ∉ (lines children).toList)
    (rest : List Char) :
    readTemplate? ((elementsLiteral children).toList ++ rest) = some (⟨[elementsText children], []⟩, rest) := by
  unfold elementsLiteral elementsText
  split_ifs
  · rfl
  · have hl : ("`\n" ++ templateText (lines children) ++ "\n`").toList =
        '\x60' :: ("\n".toList ++ ((templateText (lines children)).toList ++ "\n".toList) ++
          (([] : List Insertion).flatMap Insertion.chars ++ ['\x60'])) := by
      simp
    refine readTemplate?_append hl ?_ (List.forall_mem_nil _) rest
    rw [String.toList_append, String.toList_append, List.append_assoc]
    exact .plain_append rfl ((cooks_templateText h).append (.plain rfl) (by decide))

def paintStart (doc : Document) : String :=
  match doc.paint with
  | .fill => "fill=\""
  | .stroke => "fill=\"none\" stroke=\""

def keptText (doc : Document) : String :=
  String.join (doc.keptAttributes.entries.map fun a => " " ++ markupAttribute a.1 a.2)

theorem toList_keptText (doc : Document) :
    (keptText doc).toList =
      doc.keptAttributes.entries.flatMap fun a => " ".toList ++ (markupAttribute a.1 a.2).toList := by
  rw [keptText, String.toList_join, List.flatMap_map]
  simp only [String.toList_append]

def styleCode : String := "style === null ? '' : ` style=\"$\x7bescapeAttribute(style)\x7d\"`"

def rootTemplate (doc : Document) (c : Component) : Template where
  texts :=
    ["<svg xmlns=\"" ++ svgNamespace ++ "\" width=\"", "\" height=\"",
      "\" viewBox=\"" ++ escapeAttribute c.viewBox ++ "\" " ++ paintStart doc, "\"" ++ keptText doc ++ " class=\""] ++
      if c.features.customStyle then ["\"", ">", "</svg>"] else ["\">", "</svg>"]
  expressions :=
    ["size", "size", "paint", "classes"] ++ onlyIf c.features.customStyle [styleCode] ++ ["template"]

def rootLiteral (doc : Document) (c : Component) : String :=
  "`<svg " ++ " ".intercalate (rootAttributes doc c) ++ styleExpression c ++ ">$\x7btemplate\x7d</svg>`"

theorem assignment_eq (doc : Document) (c : Component) :
    assignment doc c = "    this.innerHTML = " ++ rootLiteral doc c ++ ";" := by
  unfold assignment rootLiteral
  generalize " ".intercalate (rootAttributes doc c) = attributes
  rw [← String.toList_inj]
  simp

def shown (c : Component) : Component := { c with viewBox := String.ofList (lineFeeds c.viewBox.toList) }

theorem shown_of_noReturn {c : Component} (h : '\r' ∉ c.viewBox.toList) : shown c = c := by
  rw [shown, lineFeeds_eq_self_iff.mpr h, String.ofList_toList]

theorem toList_escapeAttribute_shown (c : Component) :
    (escapeAttribute (shown c).viewBox).toList = lineFeeds (escapeAttribute c.viewBox).toList := by
  rw [escapeAttribute, escapeAttribute, escapes_attributeEntities.toList_replaceEntities, shown, String.toList_ofList,
    escapes_attributeEntities.toList_replaceEntities, escapes_attributeEntities.lineFeeds_flatMap]

def viewInsertion (doc : Document) (c : Component) : Insertion where
  expression := "size"
  raw := "\" viewBox=\"".toList ++ ((templateText (escapeAttribute c.viewBox)).toList ++ "\" ".toList ++
    (paintStart doc).toList)
  text := "\" viewBox=\"" ++ escapeAttribute (shown c).viewBox ++ "\" " ++ paintStart doc

def keptInsertion (doc : Document) : Insertion where
  expression := "paint"
  raw := "\"".toList ++ ((doc.keptAttributes.entries.flatMap fun a =>
    " ".toList ++ (templateText (markupAttribute a.1 a.2)).toList) ++ " class=\"".toList)
  text := "\"" ++ keptText doc ++ " class=\""

def rootInsertions (doc : Document) (c : Component) : List Insertion :=
  [.plain "size" "\" height=\"", viewInsertion doc c, keptInsertion doc] ++
    if c.features.customStyle then [.plain "classes" "\"", .plain styleCode ">", .plain "template" "</svg>"]
    else [.plain "classes" "\">", .plain "template" "</svg>"]

theorem styleExpression_eq (c : Component) :
    styleExpression c = if c.features.customStyle then "$\x7b" ++ styleCode ++ "\x7d" else "" := by
  unfold styleExpression
  split_ifs
  · decide
  · rfl

theorem toList_rootLiteral (doc : Document) (c : Component) :
    (rootLiteral doc c).toList = '\x60' :: (("<svg xmlns=\"" ++ svgNamespace ++ "\" width=\"").toList ++
      ((rootInsertions doc c).flatMap Insertion.chars ++ ['\x60'])) := by
  have hne : rootAttributes doc c ≠ [] := by simp [rootAttributes]
  -- The blank after the tag goes to the first attribute, so that every attribute has one before it.
  have hattributes := toList_intercalate " " hne
  have hstart : (rootLiteral doc c).toList = "`<svg".toList ++
      ((" ".toList ++ (" ".intercalate (rootAttributes doc c)).toList) ++
        ((styleExpression c).toList ++ ">$\x7btemplate\x7d</svg>`".toList)) := by
    unfold rootLiteral
    generalize " ".intercalate (rootAttributes doc c) = attributes
    simp
  rw [hstart, hattributes, styleExpression_eq]
  unfold rootAttributes rootInsertions viewInsertion keptInsertion paintStart
  cases doc.paint <;> cases c.features.customStyle <;>
    simp [Insertion.chars, Insertion.plain, List.flatMap_map]

theorem sound_viewInsertion (doc : Document) (c : Component) : (viewInsertion doc c).Sound := by
  have hs : Closes "size" := fun _ _ => rfl
  refine ⟨hs, ?_⟩
  have hp : (paintStart doc).toList.all isPlain = true := by
    unfold paintStart
    cases doc.paint <;> rfl
  have hend : Cooks ("\" ".toList ++ (paintStart doc).toList) ("\" ".toList ++ (paintStart doc).toList) :=
    .plain_append rfl (.plain hp)
  unfold viewInsertion
  rw [String.toList_append, String.toList_append, String.toList_append, toList_escapeAttribute_shown,
    List.append_assoc, List.append_assoc, List.append_assoc]
  exact .plain_append rfl (hend.templateText_append _ rfl (by decide) (by decide))

theorem sound_keptInsertion {doc : Document} (h : ∀ s ∈ doc.attributes.texts, '\r' ∉ s.toList) :
    (keptInsertion doc).Sound := by
  have hp : Closes "paint" := fun _ _ => rfl
  refine ⟨hp, ?_⟩
  have hc : Cooks (doc.keptAttributes.entries.flatMap fun a =>
      " ".toList ++ (templateText (markupAttribute a.1 a.2)).toList) (keptText doc).toList := by
    rw [toList_keptText]
    refine (Cooks.flatMap fun a ha => ⟨.plain_append rfl (cooks_templateText ?_), by simp⟩).1
    obtain ⟨hn, hv⟩ := Attributes.noReturn h (List.mem_of_mem_filter ha)
    exact not_mem_markupAttribute (by decide) hn hv
  unfold keptInsertion
  rw [String.toList_append, String.toList_append, List.append_assoc]
  exact .plain_append rfl (hc.append (.plain rfl) (by decide))

theorem sound_rootInsertions {doc : Document} (hd : ∀ s ∈ doc.attributes.texts, '\r' ∉ s.toList) (c : Component) :
    ∀ i ∈ rootInsertions doc c, i.Sound := by
  -- The expressions are fixed, so the reader is run on them.
  have hsize : Closes "size" := fun _ _ => rfl
  have hclasses : Closes "classes" := fun _ _ => rfl
  have hstyle : Closes styleCode := fun _ _ => rfl
  have htemplate : Closes "template" := fun _ _ => rfl
  unfold rootInsertions
  rw [List.forall_mem_append]
  constructor
  · simp only [List.forall_mem_cons]
    exact ⟨.plain hsize rfl, sound_viewInsertion doc c, sound_keptInsertion hd, List.forall_mem_nil _⟩
  · split_ifs
    · simp only [List.forall_mem_cons]
      exact ⟨.plain hclasses rfl, .plain hstyle rfl, .plain htemplate rfl, List.forall_mem_nil _⟩
    · simp only [List.forall_mem_cons]
      exact ⟨.plain hclasses rfl, .plain htemplate rfl, List.forall_mem_nil _⟩

theorem readTemplate?_shown {doc : Document} (hd : ∀ s ∈ doc.attributes.texts, '\r' ∉ s.toList) (c : Component)
    (rest : List Char) :
    readTemplate? ((rootLiteral doc c).toList ++ rest) = some (rootTemplate doc (shown c), rest) := by
  rw [readTemplate?_append (toList_rootLiteral doc c) (.plain rfl) (sound_rootInsertions hd c)]
  unfold rootTemplate rootInsertions shown
  cases c.features.customStyle <;> rfl

theorem readTemplate?_rootLiteral {doc : Document} {c : Component}
    (hd : ∀ s ∈ doc.attributes.texts, '\r' ∉ s.toList) (hv : '\r' ∉ c.viewBox.toList) (rest : List Char) :
    readTemplate? ((rootLiteral doc c).toList ++ rest) = some (rootTemplate doc c, rest) := by
  rw [readTemplate?_shown hd, shown_of_noReturn hv]

theorem exists_lines_append (xs : List String) :
    ∃ before, ∀ ys, ys ≠ [] → lines (xs ++ ys) = before ++ lines ys := by
  cases xs with
  | nil => exact ⟨"", fun ys _ => by rw [List.nil_append, String.empty_append]⟩
  | cons x xs => exact ⟨lines (x :: xs) ++ "\n", fun ys hy => String.intercalate_append_of_ne_nil (by simp) hy⟩

theorem elementsConstant_ne_nil (children : List String) : elementsConstant children ≠ [] := by
  unfold elementsConstant
  split_ifs <;> simp

theorem exists_enclose_eq (c : Component) : ∃ before middle after : String, ∀ doc view children,
    enclose doc { c with viewBox := view } children =
      before ++ "const template = " ++ elementsLiteral children ++ ";\n" ++ middle ++ "this.innerHTML = " ++
        rootLiteral doc { c with viewBox := view } ++ ";\n" ++ after := by
  obtain ⟨before, hbefore⟩ := exists_lines_append ((colorImport c).flatMap fun i => [i, ""])
  obtain ⟨middle, hmiddle⟩ := exists_lines_append (classOpening c)
  let closing := ["  \x7d", "\x7d", ""] ++ (registration c ++ ["", defaultExport c, ""])
  refine ⟨before, middle ++ "    ", lines closing, fun doc view children => ?_⟩
  have henclose : enclose doc { c with viewBox := view } children =
      lines ((colorImport c).flatMap (fun i => [i, ""]) ++ (elementsConstant children ++
        (classOpening c ++ assignment doc { c with viewBox := view } :: closing))) := by
    unfold enclose
    simp only [List.append_assoc]
    rfl
  have hconstant : lines (elementsConstant children ++
      (classOpening c ++ assignment doc { c with viewBox := view } :: closing)) =
        "const template = " ++ elementsLiteral children ++ ";" ++ "\n" ++
          (middle ++ lines (assignment doc { c with viewBox := view } :: closing)) := by
    rw [← lines_elementsConstant, ← hmiddle _ (List.cons_ne_nil _ _)]
    exact String.intercalate_append_of_ne_nil (elementsConstant_ne_nil children) (by simp)
  have hassignment : lines (assignment doc { c with viewBox := view } :: closing) =
      "    this.innerHTML = " ++ rootLiteral doc { c with viewBox := view } ++ ";" ++ "\n" ++ lines closing := by
    rw [← assignment_eq]
    exact String.intercalate_cons_of_ne_nil (by simp [closing])
  rw [henclose, hbefore _ (by simp), hconstant, hassignment, ← String.toList_inj]
  simp

end Emit.CustomElement

open Emit.CustomElement

theorem noReturn_elements {doc : Document} (h : ∀ s ∈ doc.texts, '\r' ∉ s.toList) (depth : Nat) :
    '\r' ∉ (lines (Target.webComponent.elements depth doc.children)).toList := by
  apply not_mem_intercalate (by decide)
  intro s hs
  rw [Target.elements_eq_map] at hs
  obtain ⟨e, he, rfl⟩ := List.mem_map.mp hs
  apply not_mem_element (by decide) (.inr rfl)
  intro d hd
  apply Element.noReturn
  intro s hs
  exact h s (List.mem_append_right _ (List.mem_flatMap.mpr ⟨d, Element.mem_preorderList.mpr ⟨e, he, hd⟩, hs⟩))

/-- The script of a custom element is the same for every document and view box but for two template literals.
The first one is the markup of the elements. The second one is the markup of the root, in which only the size,
the color, the classes, the style and the elements are left open. -/
theorem sourceText_templates (c : Component) : ∃ before middle after : String, ∀ (doc : Document) (view : String),
    (∀ s ∈ view :: doc.texts, '\r' ∉ s.toList) → ∃ first second : String,
      Target.webComponent.sourceText doc { c with viewBox := view } =
        before ++ "const template = " ++ first ++ ";\n" ++ middle ++ "this.innerHTML = " ++ second ++ ";\n" ++ after ∧
      (∀ rest, readTemplate? (first.toList ++ rest) =
        some (⟨[elementsText (Target.webComponent.elements Target.webComponent.contentDepth doc.children)], []⟩,
          rest)) ∧
      ∀ rest, readTemplate? (second.toList ++ rest) = some (rootTemplate doc { c with viewBox := view }, rest) := by
  obtain ⟨before, middle, after, henclose⟩ := exists_enclose_eq c
  refine ⟨before, middle, after, fun doc view h => ⟨_, _, henclose doc view _, ?_, ?_⟩⟩
  · exact readTemplate?_elementsLiteral (noReturn_elements (fun s hs => h s (List.mem_cons_of_mem view hs)) _)
  · exact readTemplate?_rootLiteral (fun s hs => h s (List.mem_cons_of_mem view (List.mem_append_left _ hs)))
      (h view List.mem_cons_self)

theorem sourceText_templates_hostile :
    let doc : Document := ⟨⟨[("fill", .text "none"), ("a$\x7bb\x7d", .text "`\\$\x7b")]⟩,
      [⟨"t`", ⟨[("$\x7b", .flag true)]⟩, [], some "\\$"⟩], ""⟩
    let c : Component := { Component.ofName "Home" with
      viewBox := "0 0 `$", features := { ComponentFeatures.none with customStyle := true } }
    (∀ s ∈ c.viewBox :: doc.texts, '\r' ∉ s.toList) ∧ ∃ before first middle second after : String,
      Target.webComponent.sourceText doc c =
        before ++ "const template = " ++ first ++ ";\n" ++ middle ++ "this.innerHTML = " ++ second ++ ";\n" ++ after ∧
      readTemplate? first.toList = some (⟨["\n  <t` $\x7b=\"true\">\\$</t`>\n"], []⟩, []) ∧
      readTemplate? second.toList = some (⟨["<svg xmlns=\"http://www.w3.org/2000/svg\" width=\"", "\" height=\"",
        "\" viewBox=\"0 0 `$\" fill=\"none\" stroke=\"", "\" a$\x7bb\x7d=\"`\\$&#123;\" class=\"", "\"", ">",
        "</svg>"],
        ["size", "size", "paint", "classes",
          "style === null ? '' : ` style=\"$\x7bescapeAttribute(style)\x7d\"`", "template"]⟩, []) := by
  intro doc c
  have h : ∀ s ∈ c.viewBox :: doc.texts, '\r' ∉ s.toList := by decide +kernel
  obtain ⟨before, middle, after, ht⟩ := sourceText_templates c
  obtain ⟨first, second, hs, hf, hg⟩ := ht doc c.viewBox h
  have hf := hf []
  have hg := hg []
  rw [List.append_nil] at hf hg
  refine ⟨h, before, first, middle, second, after, hs, hf.trans ?_, hg.trans ?_⟩
  · decide +kernel
  · decide +kernel

end IconCompiler
