import IconCompiler.Proofs.InertTemplates
import IconCompiler.Proofs.ObjectEntries

namespace IconCompiler

open IconCompiler.Markup IconCompiler.Emit IconCompiler.Script IconCompiler.Text

namespace Markup

theorem markupName_not_mem_wrapperAttributes {name : String} (h : name ∉ wrapperAttributes) :
    markupName name ∉ wrapperAttributes := by
  have hs : ∀ s ∈ spellings, s.source ∉ wrapperAttributes := by decide
  rcases markupName_cases name with hm | ⟨s, hm, -, he⟩
  · rwa [hm]
  · rw [he]
    exact hs s hm

theorem attributes_of_read {source : String} {doc : Document} (h : Document.read source = .ok doc) :
    doc.attributes.Valid := by
  obtain ⟨tokens, root, ht, hr, rfl⟩ := read_ok h
  exact (valid_ofTokens (valid_tokenize ht) hr root root.mem_preorder_self).attributes

def readStart? (loose : String → Option (String × Setting)) : List (Piece String) → Option (List (String × Setting))
  | .plain '<' :: .plain 's' :: .plain 'v' :: .plain 'g' :: .plain c :: ps =>
    if isBlank c then readSettings? loose (.plain c :: ps) else none
  | _ => none

theorem readStart?_append {loose : String → Option (String × Setting)} {ps : List (Piece String)} {c : Char}
    (hp : ps.head? = some (.plain c)) (hc : isBlank c = true) :
    readStart? loose ("<svg".toList.map .plain ++ ps) = readSettings? loose ps := by
  obtain ⟨qs, rfl⟩ := List.head?_eq_some_iff.mp hp
  simp [readStart?, hc]

end Markup

namespace Script

def interleave : List String → List String → List (Piece String)
  | t :: ts, e :: es => t.toList.map .plain ++ .item e :: interleave ts es
  | t :: _, [] => t.toList.map .plain
  | [], _ => []

def Template.pieces (t : Template) : List (Piece String) := interleave t.texts t.expressions

def optional? (code : String) : Option (String × Setting) :=
  (splitAt? " ? '' : ".toList code.toList).bind fun parts =>
    (readTemplate? parts.2).bind fun r =>
      match r.2, readSettings? (fun _ => none) (r.1.pieces ++ [.plain '>']) with
      | [], some [a] => some a
      | _, _ => none

def readCall? : List Char → Option (List (String × Setting))
  | 'h' :: '(' :: cs =>
    match readQuoted? (trimLeft cs) with
    | some ("svg", ',' :: cs) =>
      match trimLeft cs with
      | '\x7b' :: cs => readEntries? cs
      | _ => none
    | _ => none
  | _ => none

end Script

namespace Emit.Svelte

def braced? : List Char → Option (String × List Char)
  | '\x7b' :: cs =>
    let (code, rest) := cs.span fun c => c != '\x7d'
    some (String.ofList code, rest.drop 1)
  | _ => none

def shorthand? (code : String) : Option (String × Setting) :=
  if isIdentifier code then some (code, .computed code) else none

end Emit.Svelte

/-- The targets whose roots have the attribute names of markup. -/
inductive RootTarget where
  | vue
  | svelte
  | webComponent
  deriving DecidableEq, Repr

structure RootParts where
  size : String
  paint : String
  style : String
  viewBox : String

namespace RootTarget

def target : RootTarget → Target
  | .vue => .vue
  | .svelte => .svelte
  | .webComponent => .webComponent

def readRoot? : RootTarget → List Char → Option (List (String × Setting))
  | .vue, cs => readCall? cs
  | .svelte, cs => readStart? Svelte.shorthand? (scan Svelte.braced? cs)
  | .webComponent, cs => (readTemplate? cs).bind fun r => readStart? optional? r.1.pieces

def lead : RootTarget → String
  | .vue => "return "
  | .svelte => "</script>\n\n"
  | .webComponent => "this.innerHTML = "

def value : RootTarget → Value → Value
  | .vue, v => v
  | .svelte, v => .text v.display
  | .webComponent, v => .text v.display

def parts : RootTarget → Component → RootParts
  | .vue, c => ⟨"props.size", paintExpression c "props.color" "props.theme", "attrs.style", c.viewBox⟩
  | .svelte, c => ⟨"size", "paint", "style", c.viewBox⟩
  | .webComponent, c => ⟨"size", "paint", "escapeAttribute(style)", (CustomElement.shown c).viewBox⟩

end RootTarget

namespace RootParts

def front (r : RootParts) (p : Paint) : List (String × Setting) :=
  [("xmlns", .fixed (.text svgNamespace)), ("width", .computed r.size), ("height", .computed r.size),
    ("viewBox", .fixed (.text r.viewBox))] ++
    match p with
    | .fill => [("fill", .computed r.paint)]
    | .stroke => [("fill", .fixed (.text "none")), ("stroke", .computed r.paint)]

def back (r : RootParts) (style : Bool) : List (String × Setting) :=
  ("class", .computed "classes") :: if style then [("style", .computed r.style)] else []

theorem map_fst_front (r : RootParts) (p : Paint) :
    (r.front p).map Prod.fst =
      ["xmlns", "width", "height", "viewBox", "fill"] ++ onlyIf (p == .stroke) ["stroke"] := by
  cases p <;> rfl

theorem map_fst_back (r : RootParts) (style : Bool) :
    (r.back style).map Prod.fst = ["class"] ++ onlyIf style ["style"] := by
  cases style <;> rfl

theorem isName_of_mem_front {r : RootParts} {p : Paint} {a : String × Setting} (h : a ∈ r.front p) :
    isName a.1 = true := by
  have hn : ∀ name ∈ (r.front p).map Prod.fst, isName name = true := by
    rw [map_fst_front]
    cases p <;> decide
  exact hn a.1 (List.mem_map_of_mem h)

theorem text_of_mem_front {r : RootParts} {p : Paint} {a : String × Setting} (h : a ∈ r.front p) :
    ∀ v, a.2 = .fixed v → v = .text v.display := by
  revert a
  cases p <;> simp [front, Value.display]

end RootParts

theorem not_mem_wrapperAttributes {doc : Document} {name : String} (h : name ∈ doc.keptAttributes.names) :
    name ∉ wrapperAttributes := by
  obtain ⟨a, ha, rfl⟩ := List.mem_map.mp h
  have hf := List.of_mem_filter ha
  simp only [Bool.and_eq_true, Bool.not_eq_true', List.contains_eq_mem, decide_eq_false_iff_not] at hf
  exact hf.1

theorem nodup_keptNames {doc : Document} (h : doc.attributes.Valid) :
    (doc.keptAttributes.names.map markupName).Nodup := by
  have hnames : doc.keptAttributes.names.Nodup := h.nodup.sublist (List.filter_sublist.map Prod.fst)
  have hcanonical : ∀ name ∈ doc.keptAttributes.names, canonicalName name = name := by
    intro name hn
    obtain ⟨a, ha, rfl⟩ := List.mem_map.mp hn
    exact (h.entry a (List.mem_of_mem_filter ha)).canonical
  refine hnames.map_on ?_
  intro m hm n hn he
  exact markupName_inj (hcanonical m hm) (hcanonical n hn) he

namespace RootTarget

def keptSettings (t : RootTarget) (doc : Document) : List (String × Setting) :=
  doc.keptAttributes.entries.map fun a => (markupName a.1, .fixed (t.value a.2))

def settings (t : RootTarget) (doc : Document) (c : Component) : List (String × Setting) :=
  (t.parts c).front doc.paint ++ t.keptSettings doc ++ (t.parts c).back c.features.customStyle

theorem nodup_settings (t : RootTarget) {doc : Document} (h : doc.attributes.Valid) (c : Component) :
    ((t.settings doc c).map Prod.fst).Nodup := by
  have hkept : (t.keptSettings doc).map Prod.fst = doc.keptAttributes.names.map markupName := by
    rw [keptSettings, Attributes.names, List.map_map, List.map_map]
    rfl
  have hown : ∀ (p : Paint) (style : Bool),
      let names := ["xmlns", "width", "height", "viewBox", "fill"] ++ onlyIf (p == .stroke) ["stroke"] ++
        (["class"] ++ onlyIf style ["style"])
      names.Nodup ∧ ∀ name ∈ names, name ∈ wrapperAttributes := by
    intro p style
    cases p <;> cases style <;> decide
  obtain ⟨hnodup, hmem⟩ := hown doc.paint c.features.customStyle
  -- The kept attributes are moved behind the others, whose names are then one of a few fixed lists.
  rw [settings, List.map_append, List.map_append, RootParts.map_fst_front, RootParts.map_fst_back, hkept,
    List.append_assoc, (List.perm_append_comm.append_left _).nodup_iff, ← List.append_assoc, List.nodup_append]
  refine ⟨hnodup, nodup_keptNames h, ?_⟩
  rintro _ hn _ hk rfl
  obtain ⟨name, hname, rfl⟩ := List.mem_map.mp hk
  exact markupName_not_mem_wrapperAttributes (not_mem_wrapperAttributes hname) (hmem _ hn)

end RootTarget

end IconCompiler
