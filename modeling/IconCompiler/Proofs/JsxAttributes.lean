import IconCompiler.Emit.React
import IconCompiler.Proofs.AsciiWords
import IconCompiler.Proofs.RootSettings

namespace IconCompiler

open IconCompiler.Emit IconCompiler.Emit.React IconCompiler.Markup IconCompiler.Script IconCompiler.Text

namespace Script

def isJsxPart (c : Char) : Bool := isIdentifierPart c || c == '-'

def isJsxIdentifier (s : String) : Bool :=
  match s.toList with
  | [] => false
  | c :: cs => isIdentifierStart c && cs.all isJsxPart

def IsKey (s : String) : Prop := isIdentifier s = true ∨ ∃ value, IsQuoted s.toList value

theorem isJsxPart_toLower (c : Char) : isJsxPart c.toLower = isJsxPart c := apply_toLower (by decide +kernel) c

theorem isJsxIdentifier_lowerAscii (cs : List Char) :
    isJsxIdentifier (String.ofList (lowerAscii cs)) = isJsxIdentifier (String.ofList cs) := by
  unfold isJsxIdentifier
  rw [String.toList_ofList, String.toList_ofList]
  cases cs with
  | nil => rfl
  | cons c cs =>
    change (isIdentifierStart c.toLower && (lowerAscii cs).all isJsxPart) = (isIdentifierStart c && cs.all isJsxPart)
    rw [isIdentifierStart_toLower, all_lowerAscii isJsxPart_toLower]

end Script

namespace Emit.React

theorem lowerAscii_joinColons {cs : List Char} (h : IsAscii cs) (raise : Bool) :
    lowerAscii (joinColons raise cs) = lowerAscii (cs.filter fun c => c ≠ ':') := by
  induction cs generalizing raise with
  | nil => rfl
  | cons c cs ih =>
    obtain ⟨hc, hcs⟩ := List.forall_mem_cons.mp h
    have hrest := fun raise => ih hcs raise
    simp only [lowerAscii] at hrest ⊢
    by_cases hcolon : c = ':'
    · simp [joinColons, hcolon, hrest]
    · cases raise with
      | false => simp [joinColons, hcolon, hrest]
      | true => simp [joinColons, hcolon, hrest, upperChar_of_ascii hc, toLower_toUpper hc]

def withoutColons (name : String) : String := String.ofList (name.toList.filter fun c => c ≠ ':')

theorem isJsxIdentifier_jsxName {name : String} (h : IsAscii name.toList) :
    isJsxIdentifier (jsxName name) = isJsxIdentifier (withoutColons name) := by
  unfold jsxName
  split
  · next hn =>
    subst hn
    rfl
  · split
    · next hn =>
      subst hn
      rfl
    · rw [withoutColons, ← isJsxIdentifier_lowerAscii, lowerAscii_joinColons h, isJsxIdentifier_lowerAscii]

theorem isAscii_of_isName {name : String} (h : isName name = true) : IsAscii name.toList := by
  intro c hc
  have hb := isNamePart_bounds (isNamePart_of_isName h c hc)
  omega

theorem isJsxPart_iff {c : Char} (h : isNamePart c = true) (hc : c ≠ ':') : isJsxPart c = true ↔ c ≠ '.' := by
  constructor
  · rintro hp rfl
    exact absurd hp (by decide)
  · intro hd
    simp only [isNamePart, isJsxPart, isIdentifierPart, Bool.or_eq_true, beq_iff_eq] at h ⊢
    tauto

theorem isJsxIdentifier_jsxName_iff {name : String} (h : isName name = true) :
    isJsxIdentifier (jsxName name) = true ↔
      '.' ∉ name.toList ∧ ∃ c ∈ (withoutColons name).toList.head?, isIdentifierStart c = true := by
  have hparts : ∀ c ∈ (withoutColons name).toList, isNamePart c = true ∧ c ≠ ':' := by
    intro c hc
    simp only [withoutColons, String.toList_ofList, List.mem_filter, decide_eq_true_eq] at hc
    exact ⟨isNamePart_of_isName h c hc.1, hc.2⟩
  have hdot : '.' ∉ name.toList ↔ '.' ∉ (withoutColons name).toList := by
    simp [withoutColons]
  rw [isJsxIdentifier_jsxName (isAscii_of_isName h), hdot]
  unfold isJsxIdentifier
  cases hl : (withoutColons name).toList with
  | nil => simp
  | cons c cs =>
    rw [hl, List.forall_mem_cons] at hparts
    have hall : cs.all isJsxPart = true ↔ '.' ∉ cs := by
      rw [List.all_eq_true]
      constructor
      · intro hcs hm
        exact absurd (hcs '.' hm) (by decide)
      · intro hcs d hd
        rw [isJsxPart_iff (hparts.2 d hd).1 (hparts.2 d hd).2]
        rintro rfl
        exact hcs hd
    have hstart : isIdentifierStart c = true → c ≠ '.' := by
      rintro hs rfl
      exact absurd hs (by decide)
    simp only [Bool.and_eq_true, hall, List.mem_cons, not_or, List.head?_cons, Option.mem_some, exists_eq_left']
    constructor
    · rintro ⟨hs, hcs⟩
      exact ⟨⟨(hstart hs).symm, hcs⟩, hs⟩
    · rintro ⟨⟨-, hcs⟩, hs⟩
      exact ⟨hs, hcs⟩

theorem equals_not_mem_jsxName {name : String} (h : isName name = true) : '=' ∉ (jsxName name).toList := by
  unfold jsxName
  split
  · decide
  split
  · decide
  intro hm
  have hlower : '=' ∈ lowerAscii (name.toList.filter fun c => c ≠ ':') := by
    rw [← lowerAscii_joinColons (isAscii_of_isName h) false]
    exact List.mem_map.mpr ⟨'=', by simpa using hm, by decide⟩
  obtain ⟨c, hc, he⟩ := List.mem_map.mp hlower
  obtain rfl := eq_of_toLower_eq (by decide) he
  exact absurd (isNamePart_of_isName h _ (List.mem_of_mem_filter hc)) (by decide)

def styleProperty? (declaration : List Char) : Option (String × String) :=
  (splitAt? [':'] declaration).bind fun parts =>
    if trim parts.1 = [] ∨ trim parts.2 = [] then none
    else some (String.ofList (trim parts.1), String.ofList (trim parts.2))

def styleProperties (css : String) : List (String × String) :=
  (splitParts (fun c => c == ';') css.toList).filterMap styleProperty?

def isCustom (property : String) : Bool := ['-', '-'].isPrefixOf property.toList

def styleKey (property : String) : String := if isCustom property then quoted property else camelCase property

def styleText : List String → String
  | [] => "\x7b\x7d"
  | entries => "\x7b " ++ ", ".intercalate entries ++ " \x7d"

theorem styleEntry?_eq (declaration : List Char) :
    styleEntry? declaration = (styleProperty? declaration).map fun d => styleKey d.1 ++ ": " ++ quoted d.2 := by
  unfold styleEntry? styleProperty?
  cases splitAt? [':'] declaration with
  | none => rfl
  | some parts =>
    obtain ⟨property, value⟩ := parts
    simp only [Option.bind_some]
    by_cases hp : trim property = []
    · simp [hp]
    by_cases hv : trim value = []
    · simp [hv]
    simp [hp, hv, styleKey, isCustom]

theorem styleLiteral_eq (css : String) :
    styleLiteral css = styleText ((styleProperties css).map fun d => styleKey d.1 ++ ": " ++ quoted d.2) := by
  have he : (splitParts (fun c => c == ';') css.toList).filterMap styleEntry? =
      (styleProperties css).map fun d => styleKey d.1 ++ ": " ++ quoted d.2 := by
    rw [styleProperties, List.map_filterMap]
    congr 1
    funext declaration
    exact styleEntry?_eq declaration
  rw [styleLiteral, he]
  rfl

theorem isAscii_of_isIdentifier_joined {property : String} (h : isIdentifier (joined property) = true) :
    IsAscii property.toList := by
  intro c hc
  by_cases hs : isSeparatorChar c = true
  · simp only [isSeparatorChar, Bool.or_eq_true, beq_iff_eq] at hs
    obtain (rfl | rfl) | rfl := hs <;> decide
  · have hm : c ∈ (joined property).toList := by simp [joined, hc, hs]
    exact isIdentifierPart_bounds (isIdentifierPart_of_isIdentifier h c hm)

theorem isKey_styleKey {property : String} (h : isCustom property = true ∨ isIdentifier (joined property) = true) :
    IsKey (styleKey property) := by
  unfold styleKey
  by_cases hc : isCustom property = true
  · rw [if_pos hc]
    exact .inr ⟨property, isQuoted_quoted property⟩
  · have hj := h.resolve_left hc
    rw [if_neg hc]
    exact .inl ((isIdentifier_camelCase (isAscii_of_isIdentifier_joined hj)).trans hj)

theorem isKey_styleKey_iff {property : String} (ha : IsAscii property.toList) (hq : '\x27' ∉ property.toList) :
    IsKey (styleKey property) ↔ isCustom property = true ∨ isIdentifier (joined property) = true := by
  refine ⟨?_, isKey_styleKey⟩
  intro hk
  by_cases hc : isCustom property = true
  · exact .inl hc
  rw [styleKey, if_neg hc] at hk
  obtain hi | ⟨value, raw, hraw, -⟩ := hk
  · exact .inr ((isIdentifier_camelCase ha).symm.trans hi)
  -- A literal would begin with a quote, which camel case cannot bring in.
  · have hlower : '\x27' ∈ lowerAscii (property.toList.filter fun c => !isSeparatorChar c) := by
      rw [← lowerAscii_camelCase ha, hraw]
      exact List.mem_cons_self
    obtain ⟨c, hm, he⟩ := List.mem_map.mp hlower
    obtain rfl := eq_of_toLower_eq (by decide) he
    exact absurd (List.mem_of_mem_filter hm) hq

end Emit.React

def Markup.Document.Carries (doc : Document) (a : String × Value) : Prop :=
  a ∈ doc.keptAttributes.entries ∨ ∃ e ∈ Element.preorderList doc.children, a ∈ e.attributes.entries

theorem Markup.Document.Carries.isName {source : String} {doc : Document} (h : Document.read source = .ok doc)
    {a : String × Value} (ha : doc.Carries a) : isName a.1 = true := by
  obtain ha | ⟨e, he, ha⟩ := ha
  · exact ((attributes_of_read h).entry a (List.mem_of_mem_filter ha)).isName
  · exact (((children_of_read h).1 e he).attributes.entry a ha).isName

namespace Emit.React

theorem jsxAttribute_style {name : String} (h : jsxName name = "style") (css : String) :
    jsxAttribute name (.text css) = jsxName name ++ "=" ++ ("\x7b" ++ styleLiteral css ++ "\x7d") := by
  have hl : "style=\x7b" = "style" ++ "=" ++ "\x7b" := rfl
  simp only [jsxAttribute, h, if_true, hl, String.append_assoc]

theorem exists_jsxAttribute_eq (name : String) (value : Value) :
    ∃ text, jsxAttribute name value = jsxName name ++ "=" ++ text := by
  have hbrace : ∀ s : String,
      jsxName name ++ "=\x7b" ++ s ++ "\x7d" = jsxName name ++ "=" ++ ("\x7b" ++ s ++ "\x7d") := by
    intro s
    have hl : "=\x7b" = "=" ++ "\x7b" := rfl
    simp only [hl, String.append_assoc]
  cases value with
  | text s =>
    by_cases hn : jsxName name = "style"
    · exact ⟨_, jsxAttribute_style hn s⟩
    · have hl : "=\"" = "=" ++ "\"" := rfl
      refine ⟨"\"" ++ escapeAttribute s ++ "\"", ?_⟩
      simp only [jsxAttribute, if_neg hn, hl, String.append_assoc]
  | number x => exact ⟨_, hbrace _⟩
  | flag b => exact ⟨_, hbrace _⟩

/-- Every attribute is a name, an equals sign and a value. The name is an identifier of JSX exactly if it has no dot
and begins, after colons, with a letter or an underscore. A style is an object, and a key of it is an identifier or a
literal if its property is custom or a name; no other property of ASCII characters without a quote has such a key. -/
theorem jsxAttribute_of_read {source : String} {doc : Document} (h : Document.read source = .ok doc)
    {a : String × Value} (ha : doc.Carries a) :
    ∃ value, jsxAttribute a.1 a.2 = jsxName a.1 ++ "=" ++ value ∧ '=' ∉ (jsxName a.1).toList ∧
      (isJsxIdentifier (jsxName a.1) = true ↔
        '.' ∉ a.1.toList ∧ ∃ c ∈ (withoutColons a.1).toList.head?, isIdentifierStart c = true) ∧
      ∀ css, a.2 = .text css → jsxName a.1 = "style" →
        value = "\x7b" ++ styleText ((styleProperties css).map fun d => styleKey d.1 ++ ": " ++ quoted d.2) ++ "\x7d" ∧
          ∀ d ∈ styleProperties css,
            (isCustom d.1 = true ∨ isIdentifier (joined d.1) = true → IsKey (styleKey d.1)) ∧
              (IsAscii d.1.toList → '\x27' ∉ d.1.toList → IsKey (styleKey d.1) →
                isCustom d.1 = true ∨ isIdentifier (joined d.1) = true) := by
  have hn := ha.isName h
  obtain ⟨value, hvalue⟩ := exists_jsxAttribute_eq a.1 a.2
  refine ⟨value, hvalue, equals_not_mem_jsxName hn, isJsxIdentifier_jsxName_iff hn, ?_⟩
  intro css hcss hstyle
  rw [hcss, jsxAttribute_style hstyle, String.append_right_inj, styleLiteral_eq] at hvalue
  refine ⟨hvalue.symm, ?_⟩
  intro d _
  exact ⟨isKey_styleKey, fun hascii hq => (isKey_styleKey_iff hascii hq).mp⟩

theorem jsxAttribute_of_read_style :
    let style := "--x: y; stroke-width: 2"
    ∃ doc, Document.read ("<svg><g style=\"" ++ style ++ "\"/></svg>") = .ok doc ∧ doc.Carries ("style", .text style) ∧
      isJsxIdentifier (jsxName "style") = true ∧
      jsxAttribute "style" (.text style) = "style=\x7b\x7b '--x': 'y', strokeWidth: '2' \x7d\x7d" ∧
      IsKey (styleKey "--x") ∧ IsKey (styleKey "stroke-width") := by
  intro style
  let doc : Document :=
    ⟨.empty, [⟨"g", ⟨[("style", .text style)]⟩, [], none⟩], "<svg><g style=\"" ++ style ++ "\"/></svg>"⟩
  have hread : Document.read ("<svg><g style=\"" ++ style ++ "\"/></svg>") = .ok doc := by decide +kernel
  have hcarries : doc.Carries ("style", .text style) := .inr ⟨_, List.mem_cons_self, List.mem_cons_self⟩
  have hproperties : styleProperties style = [("--x", "y"), ("stroke-width", "2")] := by decide +kernel
  obtain ⟨value, -, -, hname, hstyle⟩ := jsxAttribute_of_read hread hcarries
  obtain ⟨-, hkeys⟩ := hstyle style rfl (by decide +kernel)
  rw [hproperties] at hkeys
  exact ⟨doc, hread, hcarries, hname.mpr ⟨by decide, 's', by decide, rfl⟩, by decide +kernel,
    (hkeys _ List.mem_cons_self).1 (.inl (by decide)),
    (hkeys ("stroke-width", "2") (by simp)).1 (.inr (by decide))⟩

theorem jsxAttribute_of_read_dotted :
    ∃ doc, Document.read "<svg><g a.b=\"c\" style=\"a.b: c\"/></svg>" = .ok doc ∧
      doc.Carries ("a.b", .text "c") ∧ jsxAttribute "a.b" (.text "c") = "a.b=\"c\"" ∧ isJsxIdentifier "a.b" = false ∧
      doc.Carries ("style", .text "a.b: c") ∧
      jsxAttribute "style" (.text "a.b: c") = "style=\x7b\x7b a.b: 'c' \x7d\x7d" ∧ ¬ IsKey "a.b" := by
  refine ⟨⟨.empty, [⟨"g", ⟨[("a.b", .text "c"), ("style", .text "a.b: c")]⟩, [], none⟩],
    "<svg><g a.b=\"c\" style=\"a.b: c\"/></svg>"⟩, by decide +kernel, ?_, by decide +kernel, by decide, ?_,
    by decide +kernel, ?_⟩
  · exact .inr ⟨_, List.mem_cons_self, List.mem_cons_self⟩
  · exact .inr ⟨_, List.mem_cons_self, by simp⟩
  · rintro (hi | ⟨value, raw, hraw, -⟩)
    · exact absurd hi (by decide)
    · exact absurd (List.cons.inj hraw).1 (by decide)

end Emit.React

end IconCompiler
