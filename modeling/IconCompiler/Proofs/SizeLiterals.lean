import IconCompiler.Component
import IconCompiler.Proofs.NumeralGrammar
import IconCompiler.Proofs.QuotedLiterals

namespace IconCompiler

open IconCompiler.Number IconCompiler.Script

namespace Script

inductive IsInteger : List Char → Prop
  | zero : IsInteger ['0']
  | digits {d : Char} (hd : d.isDigit = true) (hz : d ≠ '0') {ds : List Char} (h : IsDigits ds) : IsInteger (d :: ds)

inductive IsDecimal : List Char → Prop
  | integer {whole exponent : List Char} (hw : IsInteger whole) (he : IsExponent exponent) :
      IsDecimal (whole ++ exponent)
  | point {whole fraction exponent : List Char} (hw : IsInteger whole) (hf : IsDigits fraction)
      (he : IsExponent exponent) : IsDecimal (whole ++ '.' :: (fraction ++ exponent))
  | fraction {fraction exponent : List Char} (hf : IsDigits fraction) (hn : fraction ≠ []) (he : IsExponent exponent) :
      IsDecimal ('.' :: (fraction ++ exponent))

def IsSignedDecimal (cs : List Char) : Prop := ∃ sign literal, IsSign sign ∧ IsDecimal literal ∧ cs = sign ++ literal

def ZeroPadded (cs : List Char) : Prop :=
  ∃ sign d ds, IsSign sign ∧ d.isDigit = true ∧ cs = sign ++ '0' :: d :: ds

theorem IsInteger.isDigits {cs : List Char} (h : IsInteger cs) : IsDigits cs ∧ cs ≠ [] := by
  cases h with
  | zero => exact ⟨by simp [IsDigits], by simp⟩
  | digits hd hz h => exact ⟨List.forall_mem_cons.mpr ⟨hd, h⟩, by simp⟩

theorem IsInteger.not_padded {whole rest ds : List Char} {d : Char} (h : IsInteger whole)
    (hr : ∀ c ∈ rest.head?, c.isDigit = false) (hd : d.isDigit = true) : whole ++ rest ≠ '0' :: d :: ds := by
  intro he
  cases h with
  | zero =>
    have hrest : rest = d :: ds := (List.cons.inj he).2
    exact absurd hd (by simp [hr d (by simp [hrest])])
  | digits hdigit hz h => exact hz (List.cons.inj he).1

theorem IsDecimal.not_padded {cs ds : List Char} {d : Char} (h : IsDecimal cs) (hd : d.isDigit = true) :
    cs ≠ '0' :: d :: ds := by
  cases h with
  | integer hw he => exact hw.not_padded (fun c hc => (head?_of_isExponent he c hc).1) hd
  | point hw hf he => exact hw.not_padded (by simp) hd
  | fraction hf hn he => simp

theorem IsDecimal.head? {cs : List Char} (h : IsDecimal cs) : ∀ c ∈ cs.head?, isSignChar c = false := by
  have hinteger {whole : List Char} (hw : IsInteger whole) (rest : List Char) :
      ∀ c ∈ (whole ++ rest).head?, isSignChar c = false := by
    obtain ⟨hdigits, hne⟩ := hw.isDigits
    obtain ⟨d, ds, rfl⟩ := List.exists_cons_of_ne_nil hne
    exact fun c hc => head?_of_isDigits hdigits c hc
  cases h with
  | integer hw he => exact hinteger hw _
  | point hw hf he => exact hinteger hw _
  | fraction hf hn he =>
    rintro c ⟨⟩
    decide

theorem isInteger_of_not_padded {whole rest : List Char} (hw : IsDigits whole) (hn : whole ≠ [])
    (hp : ∀ d ds, d.isDigit = true → whole ++ rest ≠ '0' :: d :: ds) : IsInteger whole := by
  obtain ⟨c, cs, rfl⟩ := List.exists_cons_of_ne_nil hn
  obtain ⟨hc, hcs⟩ := List.forall_mem_cons.mp hw
  by_cases hz : c = '0'
  · subst hz
    cases cs with
    | nil => exact .zero
    | cons d ds => exact absurd rfl (hp d (ds ++ rest) (hcs d (by simp)))
  · exact .digits hc hz hcs

theorem isSignedDecimal_iff {cs : List Char} : IsSignedDecimal cs ↔ IsNumeral cs ∧ ¬ ZeroPadded cs := by
  constructor
  · rintro ⟨sign, literal, hs, hl, rfl⟩
    refine ⟨?_, ?_⟩
    · cases hl with
      | integer hw he => exact .whole hs hw.isDigits.1 hw.isDigits.2 he
      | point hw hf he => exact .point hs hw.isDigits.1 hf (by simp [hw.isDigits.2]) he
      | fraction hf hn he =>
        have hnil : IsDigits [] := by simp [IsDigits]
        exact .point hs hnil hf hn he
    · rintro ⟨sign', d, ds, hs', hd, he⟩
      -- Both signs are read off the text, so the literal begins with the zero.
      have hleft := readSign_append hs hl.head?
      have hright : (readSign (sign' ++ '0' :: d :: ds)).2 = '0' :: d :: ds :=
        readSign_append hs' (by simp; decide)
      rw [he, hright] at hleft
      exact hl.not_padded hd hleft.symm
  · rintro ⟨hn, hp⟩
    cases hn with
    | @whole sign whole exponent hs hw hne he =>
      have hi : IsInteger whole :=
        isInteger_of_not_padded hw hne fun d ds hd heq => hp ⟨sign, d, ds, hs, hd, by rw [heq]⟩
      exact ⟨sign, _, hs, .integer hi he, rfl⟩
    | @point sign whole fraction exponent hs hw hf hne he =>
      cases whole with
      | nil => exact ⟨sign, _, hs, .fraction hf hne he, rfl⟩
      | cons c cs =>
        have hi : IsInteger (c :: cs) :=
          isInteger_of_not_padded hw (by simp) fun d ds hd heq => hp ⟨sign, d, ds, hs, hd, by rw [heq]⟩
        exact ⟨sign, _, hs, .point hi hf he, rfl⟩

end Script

theorem Number.isNumeral_of_isFinite {cs : List Char} {x : Binary64} (h : Binary64.read? cs = some x)
    (hx : x.isFinite = true) : IsNumeral cs := by
  simp only [Binary64.read?] at h
  split at h
  · cases h
    cases hx
  · cases h
    cases hx
  · cases h
    cases hx
  · rw [isNumeral_iff]
    obtain ⟨d, hd, -⟩ := Option.map_eq_some_iff.mp h
    rw [hd]
    rfl

def Component.SizeFinite (c : Component) : Prop :=
  ∃ x, Binary64.read? c.defaultSize.toList = some x ∧ x.isFinite = true

theorem sizeExpression_literal (c : Component) :
    (c.SizeFinite ∧ c.sizeExpression = c.defaultSize ∧ IsNumeral c.defaultSize.toList ∧
        (IsSignedDecimal c.sizeExpression.toList ↔ ¬ ZeroPadded c.defaultSize.toList)) ∨
      (¬ c.SizeFinite ∧ IsQuoted c.sizeExpression.toList c.defaultSize) := by
  by_cases hfinite : c.SizeFinite
  · obtain ⟨x, hx, hf⟩ := hfinite
    have he : c.sizeExpression = c.defaultSize := by simp [Component.sizeExpression, hx, hf]
    have hn := isNumeral_of_isFinite hx hf
    refine .inl ⟨⟨x, hx, hf⟩, he, hn, ?_⟩
    rw [he, isSignedDecimal_iff]
    exact and_iff_right hn
  · have he : c.sizeExpression = quoted c.defaultSize := by
      unfold Component.sizeExpression
      split
      · next x hx => exact if_neg fun hf => hfinite ⟨x, hx, hf⟩
      · rfl
    refine .inr ⟨hfinite, ?_⟩
    rw [he]
    exact isQuoted_quoted c.defaultSize

theorem sizeExpression_padded :
    let c : Component := { Component.ofName "Home" with defaultSize := "007" }
    c.sizeExpression = c.defaultSize ∧ ¬ IsSignedDecimal c.sizeExpression.toList ∧
      ¬ ∃ value, IsQuoted c.sizeExpression.toList value := by
  intro c
  have he : c.sizeExpression = "007" := by decide +kernel
  rw [he]
  refine ⟨rfl, ?_, ?_⟩
  · rw [isSignedDecimal_iff]
    exact fun h => h.2 ⟨[], '0', ['7'], .none, rfl, rfl⟩
  · rintro ⟨value, raw, hq, -⟩
    exact absurd (List.cons.inj hq).1 (by decide)

end IconCompiler
