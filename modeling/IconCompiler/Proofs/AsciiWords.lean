import IconCompiler.Proofs.Names
import IconCompiler.Script.Literal
import IconCompiler.Text.Ascii
import IconCompiler.Text.Words

namespace IconCompiler.Text

open IconCompiler.Markup IconCompiler.Script

def IsAscii (cs : List Char) : Prop := ∀ c ∈ cs, c.toNat < 128

theorem of_ascii {p : Char → Prop} (h : ∀ n : Fin 128, p (Char.ofNat n)) {c : Char} (hc : c.toNat < 128) : p c := by
  have hp := h ⟨c.toNat, hc⟩
  rwa [Char.ofNat_toNat] at hp

def CaseRun.mapChar (r : CaseRun) (c : Char) : List Char :=
  if r.holds c.toNat then [Char.ofNat (c.toNat + r.offset).toNat] else [c]

theorem mapCase_of_ascii (r : CaseRun) (runs : List CaseRun) {expansions : List (Nat × List Nat)}
    (hr : ∀ s ∈ runs, 128 ≤ s.first) (he : ∀ e ∈ expansions, 128 ≤ e.1) {c : Char} (h : c.toNat < 128) :
    mapCase (r :: runs) expansions c = r.mapChar c := by
  have hruns : runs.find? (fun s => s.holds c.toNat) = none := by
    rw [List.find?_eq_none]
    intro s hs
    have hfirst := hr s hs
    simp only [CaseRun.holds, Bool.and_eq_true, decide_eq_true_eq]
    omega
  have hlookup : expansions.lookup c.toNat = none := by
    rw [List.lookup_eq_none_iff]
    intro e hm
    have hfirst := he e hm
    rw [bne_iff_ne]
    omega
  unfold mapCase CaseRun.mapChar
  rw [List.find?_cons]
  cases r.holds c.toNat with
  | false => simp [hruns, hlookup]
  | true => simp

theorem lowerChar_of_ascii {c : Char} (h : c.toNat < 128) : lowerChar c = [c.toLower] := by
  have hmap : lowerChar c = CaseRun.mapChar ⟨0x41, 0x5A, 1, 32⟩ c :=
    mapCase_of_ascii _ lowerRuns.tail (by decide +kernel) (by decide +kernel) h
  rw [hmap]
  exact of_ascii (p := fun c => CaseRun.mapChar ⟨0x41, 0x5A, 1, 32⟩ c = [c.toLower]) (by decide +kernel) h

theorem upperChar_of_ascii {c : Char} (h : c.toNat < 128) : upperChar c = [c.toUpper] := by
  have hmap : upperChar c = CaseRun.mapChar ⟨0x61, 0x7A, 1, -32⟩ c :=
    mapCase_of_ascii _ upperRuns.tail (by decide +kernel) (by decide +kernel) h
  rw [hmap]
  exact of_ascii (p := fun c => CaseRun.mapChar ⟨0x61, 0x7A, 1, -32⟩ c = [c.toUpper]) (by decide +kernel) h

theorem toLower_toUpper {c : Char} (h : c.toNat < 128) : c.toUpper.toLower = c.toLower :=
  of_ascii (p := fun c => c.toUpper.toLower = c.toLower) (by decide +kernel) h

theorem toLower_toLower {c : Char} (h : c.toNat < 128) : c.toLower.toLower = c.toLower :=
  of_ascii (p := fun c => c.toLower.toLower = c.toLower) (by decide +kernel) h

theorem lower_eq_lowerAscii {w : List Char} (h : IsAscii w) : lower w = lowerAscii w := by
  have hfrom (before : List Char) : lowerFrom before w = lowerAscii w := by
    induction w generalizing before with
    | nil => rfl
    | cons c w ih =>
      obtain ⟨hc, hw⟩ := List.forall_mem_cons.mp h
      have hsigma : c ≠ 'Σ' := by
        rintro rfl
        exact absurd hc (by decide)
      rw [lowerFrom, if_neg hsigma, lowerChar_of_ascii hc, ih hw]
      rfl
  exact hfrom []

theorem inRanges_of_ascii {ranges : List (Nat × Nat)} (hr : ∀ r ∈ ranges, 128 ≤ r.1) {c : Char} (h : c.toNat < 128) :
    inRanges ranges c = false := by
  rw [inRanges, List.any_eq_false]
  intro r hm
  have hfirst := hr r hm
  simp only [Bool.and_eq_true, decide_eq_true_eq]
  omega

inductive AsciiClass : Char → BreakClass → Prop
  | carriageReturn : AsciiClass '\r' .carriageReturn
  | lineFeed : AsciiClass '\n' .lineFeed
  | control {c : Char} (hr : c ≠ '\r') (hn : c ≠ '\n') : AsciiClass c .control
  | other {c : Char} (hr : c ≠ '\r') (hn : c ≠ '\n') : AsciiClass c .other

theorem asciiClass_breakClass {c : Char} (h : c.toNat < 128) : AsciiClass c (breakClass c) := by
  by_cases hr : c = '\r'
  · subst hr
    exact .carriageReturn
  by_cases hn : c = '\n'
  · subst hn
    exact .lineFeed
  have hr' : c.toNat ≠ 0xD := fun he => hr (Char.toNat_inj.mp he)
  have hn' : c.toNat ≠ 0xA := fun he => hn (Char.toNat_inj.mp he)
  have hlinker : inRanges linkerRanges c = false := inRanges_of_ascii (by decide +kernel) h
  have hextend : inRanges extendRanges c = false := inRanges_of_ascii (by decide +kernel) h
  have hspacing : inRanges spacingMarkRanges c = false := inRanges_of_ascii (by decide +kernel) h
  have hprepend : inRanges prependRanges c = false := inRanges_of_ascii (by decide +kernel) h
  have hpictograph : inRanges pictographRanges c = false := inRanges_of_ascii (by decide +kernel) h
  have hconsonant : inRanges consonantRanges c = false := inRanges_of_ascii (by decide +kernel) h
  have hjamo : jamoClass? c.toNat = none := of_ascii (p := fun c => jamoClass? c.toNat = none) (by decide +kernel) h
  have hjoin : c.toNat ≠ 0x200C ∧ c.toNat ≠ 0x200D ∧ ¬ 0x1F1E6 ≤ c.toNat := by omega
  have hclass : breakClass c = if inRanges controlRanges c then .control else .other := by
    simp [breakClass, hlinker, hextend, hspacing, hprepend, hpictograph, hconsonant, hjamo, hjoin, hr', hn']
  rw [hclass]
  split
  · exact .control hr hn
  · exact .other hr hn

theorem joins_of_ascii {c d : Char} (hc : c.toNat < 128) (hd : d.toNat < 128) :
    (ClusterEnd.start (breakClass c)).joins (breakClass d) = true ↔ c = '\r' ∧ d = '\n' := by
  have hk := asciiClass_breakClass hc
  have hl := asciiClass_breakClass hd
  generalize breakClass c = k at hk
  generalize breakClass d = l at hl
  cases hk <;> cases hl <;> simp [ClusterEnd.joins, ClusterEnd.start, isLineOrControl, *]

theorem clusters_cons_of_ascii {c : Char} {cs : List Char} (h : IsAscii (c :: cs)) (hn : c = '\r' → '\n' ∉ cs.head?) :
    clusters (c :: cs) = [c] :: clusters cs := by
  cases cs with
  | nil => rfl
  | cons d cs =>
    have hj : (ClusterEnd.start (breakClass c)).joins (breakClass d) = false := by
      rw [← Bool.not_eq_true, joins_of_ascii (h c (by simp)) (h d (by simp))]
      rintro ⟨hc, rfl⟩
      exact hn hc rfl
    simp [clusters, clustersFrom, hj]

theorem clusters_lineEnd (cs : List Char) : clusters ('\r' :: '\n' :: cs) = ['\r', '\n'] :: clusters cs := by
  have hj : ∀ k, (ClusterEnd.start .lineFeed).joins k = false := by
    intro k
    cases k <;> rfl
  cases cs with
  | nil => rfl
  | cons d cs =>
    change clustersFrom (ClusterEnd.start .lineFeed) ['\n', '\r'] (d :: cs) = _
    rw [clustersFrom, hj]
    rfl

def isSeparatorChar (c : Char) : Bool := c == '_' || c == '-' || c == ' '

theorem flatten_splitWords (before : Shape) (word : List Char) (gs : List (List Char)) :
    (splitWords before word gs).flatten = word ++ (gs.filter fun g => !isSeparator g).flatten := by
  induction gs generalizing before word with
  | nil => simp [splitWords]
  | cons g gs ih =>
    unfold splitWords
    cases hs : isSeparator g with
    | true => simp [hs, ih]
    | false =>
      simp only [Bool.false_eq_true, if_false]
      split <;> simp [hs, ih]

theorem isSeparator_singleton (c : Char) : isSeparator [c] = isSeparatorChar c := by
  simp [isSeparator, isSeparatorChar, Bool.beq_eq_decide_eq]

theorem flatten_filter_clusters : ∀ cs : List Char, IsAscii cs →
    ((clusters cs).filter fun g => !isSeparator g).flatten = cs.filter fun c => !isSeparatorChar c
  | [], _ => rfl
  | c :: cs, h => by
    obtain ⟨hc, hcs⟩ := List.forall_mem_cons.mp h
    by_cases hl : c = '\r' ∧ '\n' ∈ cs.head?
    · obtain ⟨rfl, hl⟩ := hl
      obtain ⟨ds, rfl⟩ := List.head?_eq_some_iff.mp hl
      have ih := flatten_filter_clusters ds (List.forall_mem_cons.mp hcs).2
      have hline : isSeparator ['\r', '\n'] = false := rfl
      have hchars : isSeparatorChar '\r' = false ∧ isSeparatorChar '\n' = false := by decide
      rw [clusters_lineEnd]
      simp [hline, hchars, ih]
    · have ih := flatten_filter_clusters cs hcs
      have hn : c = '\r' → '\n' ∉ cs.head? := fun hr hm => hl ⟨hr, hm⟩
      rw [clusters_cons_of_ascii h hn, List.filter_cons, List.filter_cons, isSeparator_singleton]
      cases isSeparatorChar c <;> simp [ih]
termination_by cs => cs.length

theorem flatten_words {s : String} (h : IsAscii s.toList) :
    (words s).flatten = s.toList.filter fun c => !isSeparatorChar c := by
  rw [words, List.flatten_filter_not_isEmpty, flatten_splitWords, List.nil_append, flatten_filter_clusters _ h]

theorem isAscii_of_mem_words {s : String} (h : IsAscii s.toList) {w : List Char} (hw : w ∈ words s) : IsAscii w := by
  intro c hc
  have hm : c ∈ (words s).flatten := List.mem_flatten.mpr ⟨w, hw, hc⟩
  rw [flatten_words h] at hm
  exact h c (List.mem_filter.mp hm).1

theorem lowerAscii_lower {w : List Char} (h : IsAscii w) : lowerAscii (lower w) = lowerAscii w := by
  rw [lower_eq_lowerAscii h, lowerAscii, lowerAscii, List.map_map]
  apply List.map_congr_left
  intro c hc
  exact toLower_toLower (h c hc)

theorem lowerAscii_capitalize {w : List Char} (h : IsAscii w) : lowerAscii (capitalize w) = lowerAscii w := by
  cases w with
  | nil => rfl
  | cons c w =>
    obtain ⟨hc, hw⟩ := List.forall_mem_cons.mp h
    have hl := lowerAscii_lower hw
    simp only [lowerAscii] at hl ⊢
    rw [capitalize, upperChar_of_ascii hc, List.singleton_append, List.map_cons, hl, toLower_toUpper hc, List.map_cons]

theorem lowerAscii_camelCase {s : String} (h : IsAscii s.toList) :
    lowerAscii (camelCase s).toList = lowerAscii (s.toList.filter fun c => !isSeparatorChar c) := by
  have hascii : ∀ w ∈ words s, IsAscii w := fun w => isAscii_of_mem_words h
  rw [← flatten_words h, camelCase]
  cases hw : words s with
  | nil => rfl
  | cons w ws =>
    rw [hw, List.forall_mem_cons] at hascii
    have htail : lowerAscii (ws.flatMap capitalize) = lowerAscii ws.flatten := by
      simp only [lowerAscii, List.map_flatten, List.flatMap_def, List.map_map]
      congr 1
      apply List.map_congr_left
      intro v hv
      exact lowerAscii_capitalize (hascii.2 v hv)
    have hhead := lowerAscii_lower hascii.1
    simp only [lowerAscii, String.toList_ofList, List.map_append, List.flatten_cons] at hhead htail ⊢
    rw [hhead, htail]

theorem toLower_of_not_ascii {c : Char} (h : ¬ c.toNat < 128) : c.toLower = c := by
  rw [← Char.toNat_inj, toNat_toLower, if_neg (by omega)]

theorem isIdentifierPart_bounds {c : Char} (h : isIdentifierPart c = true) : c.toNat < 128 := by
  simp only [isIdentifierPart, Bool.or_eq_true, beq_iff_eq] at h
  rcases h with (h | rfl) | rfl
  · have := isAlphanum_bounds h
    omega
  · decide
  · decide

theorem apply_toLower {p : Char → Bool} (h : ∀ n : Fin 128, p (Char.ofNat n).toLower = p (Char.ofNat n)) (c : Char) :
    p c.toLower = p c := by
  by_cases hc : c.toNat < 128
  · exact of_ascii (p := fun c => p c.toLower = p c) h hc
  · rw [toLower_of_not_ascii hc]

theorem isIdentifierStart_toLower (c : Char) : isIdentifierStart c.toLower = isIdentifierStart c :=
  apply_toLower (by decide +kernel) c

theorem isIdentifierPart_toLower (c : Char) : isIdentifierPart c.toLower = isIdentifierPart c :=
  apply_toLower (by decide +kernel) c

theorem all_lowerAscii {p : Char → Bool} (h : ∀ c, p c.toLower = p c) (cs : List Char) :
    (lowerAscii cs).all p = cs.all p := by
  rw [lowerAscii, List.all_map]
  congr 1
  funext c
  exact h c

theorem isIdentifier_lowerAscii (cs : List Char) :
    isIdentifier (String.ofList (lowerAscii cs)) = isIdentifier (String.ofList cs) := by
  unfold isIdentifier
  rw [String.toList_ofList, String.toList_ofList]
  cases cs with
  | nil => rfl
  | cons c cs =>
    change (isIdentifierStart c.toLower && (lowerAscii cs).all isIdentifierPart) =
      (isIdentifierStart c && cs.all isIdentifierPart)
    rw [isIdentifierStart_toLower, all_lowerAscii isIdentifierPart_toLower]

def joined (s : String) : String := String.ofList (s.toList.filter fun c => !isSeparatorChar c)

theorem isIdentifier_camelCase {s : String} (h : IsAscii s.toList) :
    isIdentifier (camelCase s) = isIdentifier (joined s) := by
  rw [joined, ← isIdentifier_lowerAscii, ← lowerAscii_camelCase h, isIdentifier_lowerAscii, String.ofList_toList]

end IconCompiler.Text
