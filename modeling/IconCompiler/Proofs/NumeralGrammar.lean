import IconCompiler.Proofs.Scanning
import IconCompiler.Number.Decimal

namespace IconCompiler.Number

open IconCompiler.Text

inductive IsSign : List Char → Prop
  | none : IsSign []
  | plus : IsSign ['+']
  | minus : IsSign ['-']

def IsDigits (cs : List Char) : Prop := ∀ c ∈ cs, c.isDigit = true

inductive IsExponent : List Char → Prop
  | none : IsExponent []
  | power {mark : Char} (hm : mark = 'e' ∨ mark = 'E') {sign digits : List Char} (hs : IsSign sign)
      (hd : IsDigits digits) (hn : digits ≠ []) : IsExponent (mark :: (sign ++ digits))

inductive IsNumeral : List Char → Prop
  | whole {sign whole exponent : List Char} (hs : IsSign sign) (hw : IsDigits whole) (hn : whole ≠ [])
      (he : IsExponent exponent) : IsNumeral (sign ++ (whole ++ exponent))
  | point {sign whole fraction exponent : List Char} (hs : IsSign sign) (hw : IsDigits whole)
      (hf : IsDigits fraction) (hn : whole ++ fraction ≠ []) (he : IsExponent exponent) :
      IsNumeral (sign ++ (whole ++ '.' :: (fraction ++ exponent)))

inductive DenotesPower : List Char → Int → Prop
  | none : DenotesPower [] 0
  | power {mark : Char} (hm : mark = 'e' ∨ mark = 'E') {sign digits : List Char} (hs : IsSign sign)
      (hd : IsDigits digits) (hn : digits ≠ []) : DenotesPower (mark :: (sign ++ digits))
        (if sign = ['-'] then -(Nat.ofDigitChars 10 digits 0 : Int) else Nat.ofDigitChars 10 digits 0)

inductive Denotes : List Char → Decimal → Prop
  | whole {sign whole exponent : List Char} {e : Int} (hs : IsSign sign) (hw : IsDigits whole) (hn : whole ≠ [])
      (he : DenotesPower exponent e) :
      Denotes (sign ++ (whole ++ exponent)) ⟨sign = ['-'], Nat.ofDigitChars 10 whole 0, e⟩
  | point {sign whole fraction exponent : List Char} {e : Int} (hs : IsSign sign) (hw : IsDigits whole)
      (hf : IsDigits fraction) (hn : whole ++ fraction ≠ []) (he : DenotesPower exponent e) :
      Denotes (sign ++ (whole ++ '.' :: (fraction ++ exponent)))
        ⟨sign = ['-'], Nat.ofDigitChars 10 (whole ++ fraction) 0, e - fraction.length⟩

theorem IsExponent.exists_power {cs : List Char} (h : IsExponent cs) : ∃ e, DenotesPower cs e := by
  cases h with
  | none => exact ⟨0, .none⟩
  | power hm hs hd hn => exact ⟨_, .power hm hs hd hn⟩

theorem DenotesPower.isExponent {cs : List Char} {e : Int} (h : DenotesPower cs e) : IsExponent cs := by
  cases h with
  | none => exact .none
  | power hm hs hd hn => exact .power hm hs hd hn

theorem IsNumeral.exists_decimal {cs : List Char} (h : IsNumeral cs) : ∃ d, Denotes cs d := by
  cases h with
  | whole hs hw hn he =>
    obtain ⟨e, he⟩ := he.exists_power
    exact ⟨_, .whole hs hw hn he⟩
  | point hs hw hf hn he =>
    obtain ⟨e, he⟩ := he.exists_power
    exact ⟨_, .point hs hw hf hn he⟩

theorem Denotes.isNumeral {cs : List Char} {d : Decimal} (h : Denotes cs d) : IsNumeral cs := by
  cases h with
  | whole hs hw hn he => exact .whole hs hw hn he.isExponent
  | point hs hw hf hn he => exact .point hs hw hf hn he.isExponent

def isSignChar (c : Char) : Bool := c == '+' || c == '-'

theorem isSignChar_of_isDigit {c : Char} (h : c.isDigit = true) : isSignChar c = false := by
  rw [isSignChar, Bool.or_eq_false_iff, beq_eq_false_iff_ne, beq_eq_false_iff_ne]
  constructor
  · rintro rfl
    cases h
  · rintro rfl
    cases h

theorem exists_sign (cs : List Char) : ∃ sign, IsSign sign ∧ cs = sign ++ (readSign cs).2 := by
  unfold readSign
  split
  · exact ⟨_, .minus, rfl⟩
  · exact ⟨_, .plus, rfl⟩
  · exact ⟨_, .none, rfl⟩

theorem readSign_sign_append {sign cs : List Char} (hs : IsSign sign) (hc : ∀ c ∈ cs.head?, isSignChar c = false) :
    readSign (sign ++ cs) = (decide (sign = ['-']), cs) := by
  cases hs with
  | none =>
    rw [List.nil_append, readSign]
    · rfl
    · rintro ds rfl
      exact absurd (hc '-' rfl) (by decide)
    · rintro ds rfl
      exact absurd (hc '+' rfl) (by decide)
  | plus => rfl
  | minus => rfl

theorem readSign_append {sign cs : List Char} (hs : IsSign sign) (hc : ∀ c ∈ cs.head?, isSignChar c = false) :
    (readSign (sign ++ cs)).2 = cs := by
  rw [readSign_sign_append hs hc]

theorem head?_of_isDigits {cs : List Char} (hd : IsDigits cs) : ∀ c ∈ cs.head?, isSignChar c = false :=
  fun c hc => isSignChar_of_isDigit (hd c (List.mem_of_mem_head? hc))

theorem readExponent_of_denotes {cs : List Char} {e : Int} (h : DenotesPower cs e) : readExponent cs = some e := by
  cases h with
  | none => rfl
  | @power mark hm sign digits hs hd hn =>
    have hsign := readSign_sign_append hs (head?_of_isDigits hd)
    have hall : digits.all Char.isDigit = true := List.all_eq_true.mpr hd
    have hempty : digits.isEmpty = false := List.isEmpty_eq_false_iff.mpr hn
    simp only [readExponent, if_pos hm, hsign, hall, hempty, Bool.not_true, Bool.or_self, Bool.false_eq_true, if_false,
      decide_eq_true_eq]
    rfl

theorem isSome_readExponent_iff {cs : List Char} : (readExponent cs).isSome = true ↔ IsExponent cs := by
  constructor
  · intro h
    cases cs with
    | nil => exact .none
    | cons mark cs =>
      obtain ⟨sign, hs, hc⟩ := exists_sign cs
      simp only [readExponent] at h
      split at h
      · next hm =>
        split at h
        · cases h
        · next hd =>
          rw [Bool.or_eq_true, not_or, Bool.not_eq_true', Bool.not_eq_false, List.isEmpty_iff, List.all_eq_true] at hd
          rw [hc]
          exact .power hm hs hd.2 hd.1
      · cases h
  · intro h
    obtain ⟨e, he⟩ := h.exists_power
    rw [readExponent_of_denotes he]
    rfl

theorem head?_of_isExponent {cs : List Char} (h : IsExponent cs) :
    ∀ c ∈ cs.head?, c.isDigit = false ∧ c ≠ '.' ∧ isSignChar c = false := by
  cases h with
  | none => simp
  | power hm hs hd hn =>
    rintro c ⟨⟩
    rcases hm with rfl | rfl <;> decide

theorem readFraction_of_ne {cs : List Char} (h : '.' ∉ cs.head?) : readFraction cs = ([], cs) := by
  rw [readFraction]
  rintro ds rfl
  exact h rfl

theorem span_isDigit (cs : List Char) :
    IsDigits (cs.span Char.isDigit).1 ∧ (cs.span Char.isDigit).1 ++ (cs.span Char.isDigit).2 = cs := by
  refine ⟨fun c hc => of_mem_span_fst hc, ?_⟩
  rw [List.span_eq_takeWhile_dropWhile, List.takeWhile_append_dropWhile]

theorem isSome_read?_iff {cs : List Char} :
    (Decimal.read? cs).isSome = true ↔
      let digits := (readSign cs).2.span Char.isDigit
      let fraction := readFraction digits.2
      (digits.1 ≠ [] ∨ fraction.1 ≠ []) ∧ IsExponent fraction.2 := by
  simp only [Decimal.read?]
  split
  · next hn => simp_all
  · next hn =>
    rw [Option.isSome_map, isSome_readExponent_iff]
    rw [Bool.and_eq_true, List.isEmpty_iff, List.isEmpty_iff, not_and_or] at hn
    exact (and_iff_right hn).symm

theorem read?_of_denotes {cs : List Char} {d : Decimal} (h : Denotes cs d) : Decimal.read? cs = some d := by
  cases h with
  | @whole sign whole exponent e hs hw hn he =>
    have hhead := head?_of_isExponent he.isExponent
    have hsign : readSign (sign ++ (whole ++ exponent)) = (decide (sign = ['-']), whole ++ exponent) := by
      apply readSign_sign_append hs
      obtain ⟨d, ds, rfl⟩ := List.exists_cons_of_ne_nil hn
      exact fun c hc => head?_of_isDigits hw c hc
    have hspan : (whole ++ exponent).span Char.isDigit = (whole, exponent) :=
      span_append hw fun c hc => (hhead c hc).1
    have hpoint : readFraction exponent = ([], exponent) := readFraction_of_ne fun hc => (hhead '.' hc).2.1 rfl
    have hempty : whole.isEmpty = false := List.isEmpty_eq_false_iff.mpr hn
    simp only [Decimal.read?, hsign, hspan, hpoint, readExponent_of_denotes he, hempty, List.append_nil,
      List.length_nil, Int.natCast_zero, Int.sub_zero]
    rfl
  | @point sign whole fraction exponent e hs hw hf hn he =>
    have hhead := head?_of_isExponent he.isExponent
    have hsign : readSign (sign ++ (whole ++ '.' :: (fraction ++ exponent))) =
        (decide (sign = ['-']), whole ++ '.' :: (fraction ++ exponent)) := by
      apply readSign_sign_append hs
      intro c hc
      rw [List.head?_append] at hc
      cases whole with
      | nil =>
        cases hc
        decide
      | cons d ds => exact head?_of_isDigits hw c hc
    have hspan : (whole ++ '.' :: (fraction ++ exponent)).span Char.isDigit =
        (whole, '.' :: (fraction ++ exponent)) := span_append hw (by simp)
    have hpoint : readFraction ('.' :: (fraction ++ exponent)) = (fraction, exponent) :=
      span_append hf fun c hc => (hhead c hc).1
    have hempty : (whole.isEmpty && fraction.isEmpty) = false := by
      cases whole with
      | nil => exact List.isEmpty_eq_false_iff.mpr hn
      | cons d ds => rfl
    simp only [Decimal.read?, hsign, hspan, hpoint, readExponent_of_denotes he, hempty]
    rfl

theorem isNumeral_iff {cs : List Char} : IsNumeral cs ↔ (Decimal.read? cs).isSome = true := by
  constructor
  · intro h
    obtain ⟨d, hd⟩ := h.exists_decimal
    rw [read?_of_denotes hd]
    rfl
  · rw [isSome_read?_iff]
    rintro ⟨hn, he⟩
    obtain ⟨sign, hs, hc⟩ := exists_sign cs
    obtain ⟨hw, happend⟩ := span_isDigit (readSign cs).2
    generalize (readSign cs).2.span Char.isDigit = digits at hn he hw happend
    rw [hc, ← happend]
    unfold readFraction at hn he
    split at hn
    · next after hpoint =>
      rw [hpoint] at he ⊢
      obtain ⟨hf, hafter⟩ := span_isDigit after
      rw [← hafter]
      refine .point hs hw hf ?_ he
      rw [Ne, List.append_eq_nil_iff, not_and_or]
      exact hn
    · next hpoint =>
      split at he
      · next after hp => exact absurd hp (hpoint after)
      · exact .whole hs hw (hn.resolve_right (by simp)) he

theorem read?_eq_some_iff {cs : List Char} {d : Decimal} : Decimal.read? cs = some d ↔ Denotes cs d := by
  constructor
  · intro h
    have hn : IsNumeral cs := isNumeral_iff.mpr (by rw [h]; rfl)
    obtain ⟨d', hd⟩ := hn.exists_decimal
    have he := read?_of_denotes hd
    rw [h] at he
    cases he
    exact hd
  · exact read?_of_denotes

end IconCompiler.Number
