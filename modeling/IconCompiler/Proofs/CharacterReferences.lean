import IconCompiler.Proofs.Escaping
import Mathlib.Data.List.Basic

namespace IconCompiler.Markup

open IconCompiler.Text

def references : List (String × Char) :=
  [("&amp;", '&'), ("&quot;", '"'), ("&lt;", '<'), ("&gt;", '>'), ("&#123;", '\x7b'), ("&#125;", '\x7d')]

def reference? (cs : List Char) : Option (Char × List Char) :=
  references.findSome? fun r => (cs.dropPrefix? r.1.toList).map fun rest => (r.2, rest)

def resolvedChar : Piece Char → Char
  | .plain c => c
  | .item c => c

/-- References are resolved in one pass from the left; what they stand for is not looked at again. -/
def resolveChars (cs : List Char) : List Char := (scan reference? cs).map resolvedChar

def resolve (s : String) : String := String.ofList (resolveChars s.toList)

theorem exists_toList_reference : ∀ r ∈ references, ∃ tail, r.1.toList = '&' :: tail := by
  simp [references]

theorem resolveChars_cons {c : Char} (h : c ≠ '&') (cs : List Char) :
    resolveChars (c :: cs) = c :: resolveChars cs := by
  have hn : reference? (c :: cs) = none := by
    rw [reference?, List.findSome?_eq_none_iff]
    intro r hr
    obtain ⟨tail, ht⟩ := exists_toList_reference r hr
    rw [ht, List.dropPrefix?, if_neg (by simpa using h)]
    rfl
  rw [resolveChars, scan_cons_of_none hn]
  rfl

theorem reference?_append {r : String × Char} (h : r ∈ references) (cs : List Char) :
    reference? (r.1.toList ++ cs) = some (r.2, cs) := by
  simp only [references, List.mem_cons, List.not_mem_nil, or_false] at h
  rcases h with rfl | rfl | rfl | rfl | rfl | rfl <;> simp [reference?, references, List.dropPrefix?]

theorem resolveChars_reference {r : String × Char} (h : r ∈ references) (cs : List Char) :
    resolveChars (r.1.toList ++ cs) = r.2 :: resolveChars cs := by
  have hr := reference?_append h cs
  obtain ⟨tail, ht⟩ := exists_toList_reference r h
  rw [ht, List.cons_append] at hr ⊢
  rw [resolveChars, scan_cons_of_some hr (List.suffix_append tail cs)]
  rfl

structure Resolvable (es : List Entity) : Prop extends Escapes es where
  reserved : ∃ e ∈ es, e.char = '&'
  resolved : ∀ e ∈ es, (e.reference, e.char) ∈ references

theorem resolvable_textEntities : Resolvable textEntities :=
  ⟨escapes_textEntities, by decide, by decide⟩

theorem resolvable_attributeEntities : Resolvable attributeEntities :=
  ⟨escapes_attributeEntities, by decide, by decide⟩

namespace Resolvable

variable {es : List Entity} (h : Resolvable es)

include h

theorem resolveChars_flatMap_append (cs rest : List Char) :
    resolveChars (cs.flatMap (escapeChar es) ++ rest) = cs ++ resolveChars rest := by
  induction cs with
  | nil => rfl
  | cons c cs ih =>
    rw [List.flatMap_cons, List.append_assoc, List.cons_append]
    rcases escapeChar_cases es c with ⟨e, he, rfl, hr⟩ | ⟨hn, hs⟩
    · rw [hr, resolveChars_reference (h.resolved e he), ih]
    · have hc : c ≠ '&' := by
        rintro rfl
        obtain ⟨e, he, hc⟩ := h.reserved
        exact hn e he hc
      rw [hs, List.singleton_append, resolveChars_cons hc, ih]

theorem resolve_replaceEntities (s : String) : resolve (replaceEntities es s) = s := by
  have hr := h.resolveChars_flatMap_append s.toList []
  rw [List.append_nil] at hr
  rw [resolve, h.toList_replaceEntities, hr]
  simp [resolveChars]

end Resolvable

def textReference : Char → String
  | '&' => "&amp;"
  | '<' => "&lt;"
  | '>' => "&gt;"
  | '\x7b' => "&#123;"
  | '\x7d' => "&#125;"
  | c => String.singleton c

def attributeReference : Char → String
  | '"' => "&quot;"
  | c => textReference c

theorem escapeChar_textEntities (c : Char) : escapeChar textEntities c = (textReference c).toList := by
  fun_cases textReference c with
  | case6 c h₁ h₂ h₃ h₄ h₅ =>
    simp only [textEntities, escapeChar_cons, if_neg h₁, if_neg h₂, if_neg h₃, if_neg h₄, if_neg h₅]
    simp [escapeChar]
  | _ => simp [escapeChar, textEntities]

theorem escapeChar_attributeEntities (c : Char) :
    escapeChar attributeEntities c = (attributeReference c).toList := by
  fun_cases attributeReference c with
  | case1 => simp [escapeChar, attributeEntities]
  | case2 c h =>
    rw [← escapeChar_textEntities]
    simp only [attributeEntities, textEntities, escapeChar_cons, if_neg h]

theorem Escapes.replaceEntities_eq_join {es : List Entity} (h : Escapes es) {reference : Char → String}
    (hr : ∀ c, escapeChar es c = (reference c).toList) (s : String) :
    replaceEntities es s = String.join (s.toList.map reference) := by
  rw [← String.toList_inj, h.toList_replaceEntities, String.toList_join, List.flatMap_map]
  exact List.flatMap_congr fun c _ => hr c

/-- Escaping replaces every character on its own, although it goes over the whole text once for each reserved
character. What it gives is free of the characters that could end a value or a text or begin an expression, and
resolving the references gives the text back. -/
theorem escape_lossless (s t : String) :
    List.Disjoint ['"', '<', '>', '\x7b', '\x7d'] (escapeAttribute s).toList ∧
      List.Disjoint ['<', '>', '\x7b', '\x7d'] (escapeText s).toList ∧
      resolve (escapeAttribute s) = s ∧ resolve (escapeText s) = s ∧
      escapeAttribute s = String.join (s.toList.map attributeReference) ∧
      escapeText s = String.join (s.toList.map textReference) ∧
      escapeAttribute (s ++ t) = escapeAttribute s ++ escapeAttribute t ∧
      escapeText (s ++ t) = escapeText s ++ escapeText t := by
  have ha := escapes_attributeEntities
  have ht := escapes_textEntities
  refine ⟨?_, ?_, resolvable_attributeEntities.resolve_replaceEntities s,
    resolvable_textEntities.resolve_replaceEntities s, ha.replaceEntities_eq_join escapeChar_attributeEntities s,
    ht.replaceEntities_eq_join escapeChar_textEntities s, ha.replaceEntities_append s t, ht.replaceEntities_append s t⟩
  · exact ha.disjoint_replaceEntities (by simp [attributeEntities]) s
  · exact ht.disjoint_replaceEntities (by simp [textEntities]) s

end IconCompiler.Markup
