import IconCompiler.Proofs.InertMarkup
import IconCompiler.Proofs.RootSettings

/-!
The text of the root of a component: a start tag in markup, a start tag in a template literal, or the object of a
call. Whatever the icon is, the text is read as the attributes that the root is meant to have.
-/

namespace IconCompiler

open IconCompiler.Markup IconCompiler.Emit IconCompiler.Script IconCompiler.Text

theorem Emit.toList_lines_cons (l : String) (ls : List String) :
    (lines (l :: ls)).toList = l.toList ++ ls.flatMap fun s => '\n' :: s.toList := by
  induction ls generalizing l with
  | nil => simp [lines]
  | cons m ls ih =>
    have hl : lines (l :: m :: ls) = l ++ "\n" ++ lines (m :: ls) := String.intercalate_cons_cons
    rw [hl, String.toList_append, String.toList_append, ih]
    simp

def Emit.block (start lead : String) (items : List String) (finish : String) : String :=
  start ++ String.join (items.map fun i => lead ++ i) ++ finish

theorem Emit.toList_block (start lead : String) (items : List String) (finish : String) :
    (block start lead items finish).toList =
      start.toList ++ ((items.flatMap fun i => lead.toList ++ i.toList) ++ finish.toList) := by
  simp [block, List.flatMap_map]

theorem Markup.Attributes.Valid.noReturn {as : Attributes} (h : as.Valid) : ∀ s ∈ as.texts, '\r' ∉ s.toList := by
  intro s hs hr
  obtain ⟨a, ha, hs⟩ := List.mem_flatMap.mp hs
  have hv := h.entry a ha
  rcases List.mem_cons.mp hs with rfl | hs
  · exact absurd (isNamePart_of_isName hv.isName _ hr) (by decide)
  · cases hb : a.2 with
    | text v =>
      rw [hb] at hs
      obtain rfl : s = v := by simpa [Value.text?] using hs
      exact absurd ((hv.text s hb).2.2.space _ hr (by decide)) (by decide)
    | number x => simp [hb, Value.text?] at hs
    | flag b => simp [hb, Value.text?] at hs

namespace Emit.Vue

def rootText (doc : Document) (c : Component) : String :=
  block "h(\n        'svg',\n        \x7b" "\n          " ((rootEntries doc c).map fun e => e ++ ",") "\n        \x7d"

theorem gives_code {code : String} (h : code.toList.all isNamePart = true)
    (hc : settingOf code.toList = .computed code) : Gives code (.computed code) := by
  have hg := gives_bare (List.all_eq_true.mp h)
  rwa [hc] at hg

theorem gives_paintExpression (c : Component) :
    Gives (paintExpression c "props.color" "props.theme")
      (.computed (paintExpression c "props.color" "props.theme")) := by
  unfold paintExpression
  cases c.features.theming with
  | false => exact gives_code (by decide) (by decide)
  | true => exact ⟨by simp [isBlank], fun rest => rfl⟩

theorem isEntry_of_eq {e : String} (key text : String) {v : Setting} (he : e = objectKey key ++ ": " ++ text)
    (h : Gives text v) : IsEntry e (key, v) :=
  ⟨text, he, h⟩

theorem isEntry_kept {doc : Document} (h : doc.attributes.Valid) :
    List.Forall₂ IsEntry (doc.keptAttributes.entries.map fun a => entry a.1 a.2) (RootTarget.vue.keptSettings doc) := by
  rw [RootTarget.keptSettings, List.forall₂_map_left_iff, List.forall₂_map_right_iff, List.forall₂_same]
  intro a ha
  have hv := h.entry a (List.mem_of_mem_filter ha)
  exact ⟨_, entry_eq a.1 a.2, gives_valueText fun x hx => (hv.number x hx).2⟩

theorem isEntry_rootEntries {doc : Document} (h : doc.attributes.Valid) (c : Component) :
    List.Forall₂ IsEntry (rootEntries doc c) (RootTarget.vue.settings doc c) := by
  have hsize : Gives "props.size" (.computed "props.size") := gives_code (by decide) (by decide)
  have hclass : Gives "classes" (.computed "classes") := gives_code (by decide) (by decide)
  have hstyle : Gives "attrs.style" (.computed "attrs.style") := gives_code (by decide) (by decide)
  have hpaint := gives_paintExpression c
  have hview : "viewBox: " = objectKey "viewBox" ++ ": " := by decide
  have hfill : "fill: " = objectKey "fill" ++ ": " := by decide
  have hstroke : "stroke: " = objectKey "stroke" ++ ": " := by decide
  unfold rootEntries RootTarget.settings RootParts.front
  rw [List.append_assoc _ ["class: classes"]]
  refine List.rel_append (List.rel_append (List.rel_append ?_ ?_) (isEntry_kept h)) ?_
  · refine .cons (isEntry_of_eq "xmlns" _ (by decide) (gives_quoted svgNamespace)) ?_
    refine .cons (isEntry_of_eq "width" _ (by decide) hsize) ?_
    refine .cons (isEntry_of_eq "height" _ (by decide) hsize) ?_
    exact .cons (isEntry_of_eq "viewBox" _ (by rw [hview]) (gives_quoted c.viewBox)) .nil
  · cases doc.paint with
    | fill => exact .cons (isEntry_of_eq "fill" _ (by rw [hfill]) hpaint) .nil
    | stroke =>
      refine .cons (isEntry_of_eq "fill" _ (by decide) (gives_quoted "none")) ?_
      exact .cons (isEntry_of_eq "stroke" _ (by rw [hstroke]) hpaint) .nil
  · refine .cons (isEntry_of_eq "class" _ (by decide) hclass) ?_
    cases c.features.customStyle with
    | false => exact .nil
    | true => exact .cons (isEntry_of_eq "style" _ (by decide) hstyle) .nil

theorem readRoot?_rootText {doc : Document} (h : doc.attributes.Valid) (c : Component) (rest : List Char) :
    RootTarget.vue.readRoot? ((rootText doc c).toList ++ rest) = some (RootTarget.vue.settings doc c) := by
  have hblank : ∀ c ∈ "\n          ".toList, isBlank c = true := List.all_eq_true.mp rfl
  have hlast : ∀ c ∈ "\n        ".toList, isBlank c = true := List.all_eq_true.mp rfl
  have hentries := readEntries?_of_isEntry (isEntry_rootEntries h c) hblank hlast rest
  rw [rootText, toList_block, List.flatMap_map, List.append_assoc, List.append_assoc, ← hentries]
  rfl

theorem exists_enclose_eq (c : Component) (children : List String) :
    ∃ before after : String, ∀ doc, enclose doc c children = before ++ "return " ++ rootText doc c ++ after := by
  obtain ⟨first, before, after, h⟩ : ∃ first before after, ∀ doc, enclose doc c children =
      lines (first :: (before ++ (["      return h(", "        'svg',", "        \x7b"] ++
        ((rootEntries doc c).map (fun e => "          " ++ e ++ ",") ++ ("        \x7d," :: after))))) := by
    have hsplit : ∀ (a b c d : String) (xs opening items more rest : List String),
        xs ++ ([a, b, c, d] ++ opening) ++ items ++ ["        \x7d,"] ++ more ++ rest =
          xs ++ [a, b, c, d] ++ (opening ++ (items ++ ("        \x7d," :: (more ++ rest)))) := by simp
    exact ⟨_, _, _, fun doc => congrArg lines (hsplit _ _ _ _ _ _ _ _ _)⟩
  -- What stands in lines of its own is the text of the root, up to the start of its first line and a last comma.
  refine ⟨lines (first :: before) ++ "\n      ", "," ++ String.ofList (after.flatMap fun s => '\n' :: s.toList),
    fun doc => ?_⟩
  have hopen : (["      return h(", "        'svg',", "        \x7b"].flatMap fun s => '\n' :: s.toList) =
      "\n      ".toList ++ ("return ".toList ++ "h(\n        'svg',\n        \x7b".toList) := by rfl
  have hitem : ∀ cs, '\n' :: ("          ".toList ++ cs) = "\n          ".toList ++ cs := fun _ => rfl
  have hclose : '\n' :: "        \x7d,".toList = "\n        \x7d".toList ++ ",".toList := by rfl
  rw [h, ← String.toList_inj]
  simp only [rootText, String.toList_append, String.toList_ofList, toList_lines_cons, toList_block, List.flatMap_append,
    List.flatMap_map, List.flatMap_cons, hopen, hitem, hclose, List.append_assoc]

end Emit.Vue

namespace Emit.Svelte

def rootText (doc : Document) (c : Component) : String :=
  block "<svg" "\n  " (rootAttributes doc c) "\n>"

theorem scan_braced_append {cs : List Char} (h : '\x7b' ∉ cs) (rest : List Char) :
    scan braced? (cs ++ rest) = cs.map .plain ++ scan braced? rest := by
  induction cs with
  | nil => rfl
  | cons c cs ih =>
    rw [List.mem_cons, not_or] at h
    have hn : braced? (c :: (cs ++ rest)) = none := by
      rw [braced?]
      rintro ds hd
      exact h.1 (List.cons.inj hd).1.symm
    rw [List.cons_append, scan_cons_of_none hn, ih h.2, List.map_cons, List.cons_append]

theorem scan_braced_code {code : String} (h : '\x7d' ∉ code.toList) (rest : List Char) :
    scan braced? ('\x7b' :: (code.toList ++ '\x7d' :: rest)) = .item code :: scan braced? rest := by
  have hspan : (code.toList ++ '\x7d' :: rest).span (fun c => c != '\x7d') = (code.toList, '\x7d' :: rest) := by
    refine span_append (fun c hc => ?_) (by simp)
    rw [bne_iff_ne]
    rintro rfl
    exact h hc
  refine scan_cons_of_some ?_ ((List.suffix_cons _ rest).trans (List.suffix_append _ _))
  simp only [braced?, hspan, String.ofList_toList, List.drop_succ_cons, List.drop_zero]

def Shows (s : String) (ps : List (Piece String)) : Prop :=
  ∀ rest, scan braced? (s.toList ++ rest) = ps ++ scan braced? rest

def Writes (s : String) (a : String × Setting) : Prop := ∃ ps, Shows s ps ∧ Sets shorthand? ps a

theorem shows_plain {s : String} (h : '\x7b' ∉ s.toList) : Shows s (s.toList.map .plain) :=
  fun rest => scan_braced_append h rest

theorem shows_code {before code : String} (hb : '\x7b' ∉ before.toList) (hc : '\x7d' ∉ code.toList) :
    Shows (before ++ "\x7b" ++ code ++ "\x7d") (before.toList.map .plain ++ [.item code]) := by
  intro rest
  have hl : (before ++ "\x7b" ++ code ++ "\x7d").toList ++ rest =
      before.toList ++ '\x7b' :: (code.toList ++ '\x7d' :: rest) := by simp
  rw [hl, scan_braced_append hb, scan_braced_code hc, List.append_assoc, List.singleton_append]

theorem brace_not_mem_of_isName {name : String} (h : isName name = true) : '\x7b' ∉ name.toList :=
  fun hm => absurd (isNamePart_of_isName h _ hm) (by decide)

theorem writes_text {written : String} (name s : String) (hn : isName name = true)
    (hw : written = name ++ "=\"" ++ escapeAttribute s ++ "\"") : Writes written (name, .fixed (.text s)) := by
  subst hw
  refine ⟨_, shows_plain ?_, .text hn s⟩
  have hvalue := braceless_escapeAttribute s '\x7b' (by decide)
  simp [brace_not_mem_of_isName hn, hvalue]

theorem writes_code {written : String} (name code : String) (hn : isName name = true) (hc : '\x7d' ∉ code.toList)
    (hw : written = name ++ "=" ++ "\x7b" ++ code ++ "\x7d") : Writes written (name, .computed code) := by
  subst hw
  have hname : '\x7b' ∉ (name ++ "=").toList := by simp [brace_not_mem_of_isName hn]
  refine ⟨_, shows_code hname hc, ?_⟩
  simpa using Sets.code hn code

theorem writes_shorthand (name : String) (hn : isIdentifier name = true) :
    Writes ("\x7b" ++ name ++ "\x7d") (name, .computed name) := by
  have hc : '\x7d' ∉ name.toList :=
    fun hm => absurd (isIdentifierPart_of_isIdentifier hn _ hm) (by decide)
  have hs : Shows ("\x7b" ++ name ++ "\x7d") [.item name] := by
    simpa using shows_code (show '\x7b' ∉ "".toList by decide) hc
  exact ⟨_, hs, .item (if_pos hn)⟩

theorem writes_kept {doc : Document} (h : doc.attributes.Valid) :
    List.Forall₂ Writes (doc.keptAttributes.entries.map fun a => markupAttribute a.1 a.2)
      (RootTarget.svelte.keptSettings doc) := by
  rw [RootTarget.keptSettings, List.forall₂_map_left_iff, List.forall₂_map_right_iff, List.forall₂_same]
  intro a ha
  exact writes_text _ _ (isName_markupName (h.entry a (List.mem_of_mem_filter ha)).isName) rfl

theorem writes_rootAttributes {doc : Document} (h : doc.attributes.Valid) (c : Component) :
    List.Forall₂ Writes (rootAttributes doc c) (RootTarget.svelte.settings doc c) := by
  have hview : "viewBox=\"" = "viewBox" ++ "=\"" := by decide
  have hstyle : Writes "\x7bstyle\x7d" ("style", .computed "style") := writes_shorthand "style" (by decide)
  unfold rootAttributes RootTarget.settings RootParts.front
  rw [List.append_assoc _ ["class=\x7bclasses\x7d"]]
  refine List.rel_append (List.rel_append (List.rel_append ?_ ?_) (writes_kept h)) ?_
  · refine .cons (writes_text "xmlns" svgNamespace (by decide) (by decide)) ?_
    refine .cons (writes_code "width" "size" (by decide) (by decide) (by decide)) ?_
    refine .cons (writes_code "height" "size" (by decide) (by decide) (by decide)) ?_
    exact .cons (writes_text "viewBox" c.viewBox (by decide) (by rw [hview])) .nil
  · cases doc.paint with
    | fill => exact .cons (writes_code "fill" "paint" (by decide) (by decide) (by decide)) .nil
    | stroke =>
      refine .cons (writes_text "fill" "none" (by decide) (by decide)) ?_
      exact .cons (writes_code "stroke" "paint" (by decide) (by decide) (by decide)) .nil
  · refine .cons (writes_code "class" "classes" (by decide) (by decide) (by decide)) ?_
    cases c.features.customStyle with
    | false => exact .nil
    | true => exact .cons hstyle .nil

theorem readSettings?_of_writes {ss : List String} {as : List (String × Setting)} (h : List.Forall₂ Writes ss as)
    {gap last : List Char} (hg : ∀ c ∈ gap, isBlank c = true) (hl : ∀ c ∈ last, isBlank c = true) (rest : List Char) :
    readSettings? shorthand? (scan braced? ((ss.flatMap fun s => gap ++ s.toList) ++ (last ++ '>' :: rest))) =
      some as := by
  have hbrace : ∀ ws : List Char, (∀ c ∈ ws, isBlank c = true) → '\x7b' ∉ ws :=
    fun ws hw hm => absurd (hw _ hm) (by decide)
  induction h with
  | nil =>
    rw [List.flatMap_nil, List.nil_append, scan_braced_append (hbrace last hl), readSettings?_blank_append hl,
      scan_cons_of_none rfl]
    rfl
  | cons hw _ ih =>
    obtain ⟨ps, hs, ha⟩ := hw
    rw [List.flatMap_cons, List.append_assoc, List.append_assoc, scan_braced_append (hbrace gap hg),
      readSettings?_blank_append hg, hs, ha, ih, Option.map_some]

theorem readRoot?_rootText {doc : Document} (h : doc.attributes.Valid) (c : Component) (rest : List Char) :
    RootTarget.svelte.readRoot? ((rootText doc c).toList ++ rest) = some (RootTarget.svelte.settings doc c) := by
  have hblank : ∀ c ∈ "\n  ".toList, isBlank c = true := List.all_eq_true.mp rfl
  have hlast : ∀ c ∈ "\n".toList, isBlank c = true := List.all_eq_true.mp rfl
  rw [← readSettings?_of_writes (writes_rootAttributes h c) hblank hlast rest, rootText, toList_block,
    List.append_assoc, List.append_assoc, RootTarget.readRoot?, scan_braced_append (by decide),
    readStart?_append rfl (by decide)]
  rfl

theorem exists_lines_markup_eq (children : List String) :
    ∃ after : String, ∀ doc c, lines (markup doc c children) = rootText doc c ++ after := by
  refine ⟨String.ofList ((children ++ ["</svg>", ""]).flatMap fun s => '\n' :: s.toList), fun doc c => ?_⟩
  have hmarkup : markup doc c children =
      "<svg" :: ((rootAttributes doc c).map (fun a => "  " ++ a) ++ (">" :: (children ++ ["</svg>", ""]))) := by
    simp [markup]
  have hitem : ∀ cs, '\n' :: ("  ".toList ++ cs) = "\n  ".toList ++ cs := fun _ => rfl
  have hclose : '\n' :: ">".toList = "\n>".toList := by rfl
  rw [hmarkup, ← String.toList_inj]
  simp only [rootText, String.toList_append, String.toList_ofList, toList_lines_cons, toList_block, List.flatMap_append,
    List.flatMap_map, List.flatMap_cons, hitem, hclose, List.append_assoc]

end Emit.Svelte

namespace Emit.CustomElement

def piecesOf (a : String × Setting) : List (Piece String) :=
  let value : List (Piece String) :=
    match a.2 with
    | .fixed v => (escapeAttribute v.display).toList.map .plain
    | .computed code => [.item code]
  " ".toList.map .plain ++ (a.1.toList.map .plain ++ .plain '=' :: .plain '"' :: (value ++ [.plain '"']))

theorem sets_piecesOf {a : String × Setting} (hn : isName a.1 = true) (ht : ∀ v, a.2 = .fixed v → v = .text v.display) :
    Sets optional? (piecesOf a) a := by
  have hblank : ∀ c ∈ " ".toList, isBlank c = true := List.all_eq_true.mp rfl
  obtain ⟨name, setting⟩ := a
  cases setting with
  | fixed v =>
    have hs : Sets optional? _ (name, _) := (Sets.text hn v.display).blank_append hblank
    rw [← ht v rfl] at hs
    simpa [piecesOf] using hs
  | computed code => exact .blank_append hblank (.quoted hn (by simp) rfl)

theorem optional?_styleCode : optional? styleCode = some ("style", .computed "escapeAttribute(style)") := by rfl

def rootPieces (doc : Document) (c : Component) : List (List (Piece String)) :=
  ((RootTarget.webComponent.parts c).front doc.paint ++ RootTarget.webComponent.keptSettings doc).map piecesOf ++
    (piecesOf ("class", .computed "classes") :: if c.features.customStyle then [[.item styleCode]] else [])

theorem sets_rootPieces {doc : Document} (h : doc.attributes.Valid) (c : Component) :
    List.Forall₂ (Sets optional?) (rootPieces doc c) (RootTarget.webComponent.settings doc c) := by
  refine List.rel_append ?_ ?_
  · rw [List.forall₂_map_left_iff, List.forall₂_same, List.forall_mem_append]
    constructor
    · intro a ha
      exact sets_piecesOf (RootParts.isName_of_mem_front ha) (RootParts.text_of_mem_front ha)
    · intro a ha
      obtain ⟨b, hb, rfl⟩ := List.mem_map.mp ha
      refine sets_piecesOf (isName_markupName (h.entry b (List.mem_of_mem_filter hb)).isName) ?_
      rintro v hv
      cases hv
      rfl
  · refine .cons (sets_piecesOf (by decide) (by simp)) ?_
    cases c.features.customStyle with
    | false => exact .nil
    | true => exact .cons (.item optional?_styleCode) .nil

theorem pieces_rootTemplate (doc : Document) (c : Component) : ∃ rest,
    (rootTemplate doc (shown c)).pieces =
      "<svg".toList.map .plain ++ ((rootPieces doc c).flatten ++ .plain '>' :: rest) := by
  refine ⟨.item "template" :: "</svg>".toList.map .plain, ?_⟩
  have hkept : (keptText doc).toList.map .plain = (RootTarget.webComponent.keptSettings doc).flatMap piecesOf := by
    rw [toList_keptText, List.map_flatMap, RootTarget.keptSettings, List.flatMap_map]
    simp [piecesOf, markupAttribute, RootTarget.value, Value.display]
  have hname : escapeAttribute svgNamespace = svgNamespace := by decide
  have hnone : escapeAttribute "none" = "none" := by decide
  -- The texts of the template end at its expressions, in the middle of attributes.
  unfold rootTemplate rootPieces RootParts.front Template.pieces paintStart shown
  rw [List.map_append, List.flatten_append, List.flatten_append, ← List.flatMap_def, ← List.flatMap_def, ← hkept]
  cases doc.paint <;> cases c.features.customStyle <;>
    simp [interleave, piecesOf, hname, hnone, RootTarget.parts, Value.display, onlyIf, shown]

theorem readRoot?_rootLiteral {doc : Document} (h : doc.attributes.Valid) (c : Component) (rest : List Char) :
    RootTarget.webComponent.readRoot? ((rootLiteral doc c).toList ++ rest) =
      some (RootTarget.webComponent.settings doc c) := by
  obtain ⟨after, hp⟩ := pieces_rootTemplate doc c
  have hr := readSettings?_of_sets (sets_rootPieces h c) after
  rw [RootTarget.readRoot?, readTemplate?_shown h.noReturn, Option.bind_some, hp, ← hr]
  exact readStart?_append rfl (by decide)

end Emit.CustomElement

namespace RootTarget

def text : RootTarget → Document → Component → String
  | .vue, doc, c => Vue.rootText doc c
  | .svelte, doc, c => Svelte.rootText doc c
  | .webComponent, doc, c => CustomElement.rootLiteral doc c

theorem exists_enclose_eq (t : RootTarget) (c : Component) (children : List String) :
    ∃ before after : String,
      ∀ doc, t.target.enclose doc c children = before ++ t.lead ++ t.text doc c ++ after := by
  cases t with
  | vue => exact Vue.exists_enclose_eq c children
  | svelte =>
    obtain ⟨script, h⟩ := Svelte.exists_enclose_eq c
    obtain ⟨after, hm⟩ := Svelte.exists_lines_markup_eq children
    refine ⟨script, after, fun doc => (h doc c.viewBox children).trans ?_⟩
    rw [hm, ← String.append_assoc]
    rfl
  | webComponent =>
    obtain ⟨before, middle, after, h⟩ := CustomElement.exists_enclose_eq c
    exact ⟨before ++ "const template = " ++ CustomElement.elementsLiteral children ++ ";\n" ++ middle, ";\n" ++ after,
      fun doc => (h doc c.viewBox children).trans (String.append_assoc)⟩

theorem readRoot?_text (t : RootTarget) {doc : Document} (h : doc.attributes.Valid) (c : Component) (rest : List Char) :
    t.readRoot? ((t.text doc c).toList ++ rest) = some (t.settings doc c) := by
  cases t with
  | vue => exact Vue.readRoot?_rootText h c rest
  | svelte => exact Svelte.readRoot?_rootText h c rest
  | webComponent => exact CustomElement.readRoot?_rootLiteral h c rest

end RootTarget

/-- The text of a component has its root at one place, and only there does it depend on the root of the icon. The
attributes of this root have different names, where letter case counts. They are those that the component sets itself
and, between these, the attributes of the icon that it does not set itself and that declare no namespace, in their
order, in the spelling of markup and with their values. -/
theorem enclose_rootAttributes (t : RootTarget) (c : Component) (children : List String) :
    ∃ before after : String, ∀ (source : String) (doc : Document), Document.read source = .ok doc →
      ∃ (root : String) (settings first last : List (String × Setting)),
        t.target.enclose doc c children = before ++ t.lead ++ root ++ after ∧
        (∀ rest, t.readRoot? (root.toList ++ rest) = some settings) ∧
        (settings.map Prod.fst).Nodup ∧
        settings = first ++
          ((doc.attributes.entries.filter fun a => a.1 ∉ wrapperAttributes ∧ ¬ isNamespaceDeclaration a.1).map
            fun a => (markupName a.1, .fixed (t.value a.2))) ++ last ∧
        first.map Prod.fst =
          ["xmlns", "width", "height", "viewBox", "fill"] ++ onlyIf (doc.paint == .stroke) ["stroke"] ∧
        last.map Prod.fst = ["class"] ++ onlyIf c.features.customStyle ["style"] := by
  obtain ⟨before, after, henclose⟩ := t.exists_enclose_eq c children
  refine ⟨before, after, fun source doc h => ?_⟩
  have hv := attributes_of_read h
  have hkept : (doc.attributes.entries.filter fun a => a.1 ∉ wrapperAttributes ∧ ¬ isNamespaceDeclaration a.1) =
      doc.keptAttributes.entries := by
    apply List.filter_congr
    simp
  refine ⟨t.text doc c, t.settings doc c, (t.parts c).front doc.paint,
    (t.parts c).back c.features.customStyle, henclose doc, t.readRoot?_text hv c, t.nodup_settings hv c, ?_,
    RootParts.map_fst_front _ _, RootParts.map_fst_back _ _⟩
  rw [hkept]
  rfl

theorem enclose_rootAttributes_outline :
    let source := "<svg xmlns:xlink=x fill='none' XLINK:href='\x7ba\x7d`$\"' VIEWBOX='0 0 1 1' hidden=x class=a />"
    let c : Component := { Component.ofName "X" with
      viewBox := "`\r\n", features := { ComponentFeatures.none with customStyle := true } }
    ∃ doc before after root settings, Document.read source = .ok doc ∧
      Target.webComponent.enclose doc c ["x"] = before ++ "this.innerHTML = " ++ root ++ after ∧
      RootTarget.webComponent.readRoot? root.toList = some settings ∧
      settings.map Prod.fst =
        ["xmlns", "width", "height", "viewBox", "fill", "stroke", "xlink:href", "hidden", "class", "style"] ∧
      ("xlink:href", .fixed (.text "\x7ba\x7d`$\"")) ∈ settings := by
  intro source c
  have h : Document.read source = .ok ⟨⟨[("xmlns:xlink", .text "x"), ("fill", .text "none"),
      ("xlinkHref", .text "\x7ba\x7d`$\""), ("viewBox", .text "0 0 1 1"), ("hidden", .flag true),
      ("class", .text "a")]⟩, [], source⟩ := by
    decide +kernel
  obtain ⟨before, after, hroot⟩ := enclose_rootAttributes .webComponent c ["x"]
  obtain ⟨root, settings, first, last, henclose, hread, -, hs, hf, hl⟩ := hroot source _ h
  have hread := hread []
  rw [List.append_nil] at hread
  refine ⟨_, before, after, root, settings, h, henclose, hread, ?_, ?_⟩
  · rw [hs, List.map_append, List.map_append, hf, hl]
    decide +kernel
  · rw [hs]
    exact List.mem_append_left _ (List.mem_append_right _ (by decide +kernel))

end IconCompiler
