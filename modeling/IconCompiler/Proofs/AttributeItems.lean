import IconCompiler.Proofs.AttributeSection

namespace IconCompiler.Markup

open IconCompiler.Text

inductive WrittenValue (value : List Char) : List Char → Prop
  | quoted {quote : Char} (hq : quote = '"' ∨ quote = '\x27') (h : quote ∉ value) :
      WrittenValue value (quote :: (value ++ [quote]))
  | bare (hn : value ≠ []) (h : ∀ c ∈ value, isBlank c = false ∧ c ∉ "\"'=<>`".toList) : WrittenValue value value

inductive WrittenItem : Option RawAttribute → List Char → Prop
  | word {name : String} (hn : isName name = true) : WrittenItem none name.toList
  | pair {a : RawAttribute} {before after value : List Char} (hn : isName a.name = true)
      (hb : ∀ c ∈ before, isBlank c = true) (ha : ∀ c ∈ after, isBlank c = true)
      (hv : WrittenValue a.value.toList value) :
      WrittenItem (some a) (a.name.toList ++ (before ++ '=' :: (after ++ value)))

inductive WrittenSection : List (Option RawAttribute) → List Char → Prop
  | nil : WrittenSection [] []
  | blank {items : List (Option RawAttribute)} {ws cs : List Char} (hw : ∀ c ∈ ws, isBlank c = true)
      (h : WrittenSection items cs) : WrittenSection items (ws ++ cs)
  | last {item : Option RawAttribute} {cs : List Char} (h : WrittenItem item cs) : WrittenSection [item] cs
  | cons {item : Option RawAttribute} {items : List (Option RawAttribute)} {cs gap ds : List Char}
      (h : WrittenItem item cs) (hg : Gap gap) (hs : WrittenSection items ds) :
      WrittenSection (item :: items) (cs ++ (gap ++ ds))

theorem isBare_iff {c : Char} : isBare c = true ↔ isBlank c = false ∧ c ∉ "\"'=<>`".toList := by
  rw [String.toList_ofList]
  simp [isBare, and_assoc]

theorem WrittenValue.value? {value written : List Char} (h : WrittenValue value written) {rest : List Char}
    (hr : ∀ c ∈ rest.head?, isBlank c = true) : value? (written ++ rest) = some (value, rest) := by
  cases h with
  | quoted hq h => simpa using value?_quoted hq h rest
  | bare hn h =>
    have hs : (value ++ rest).span isBare = (value, rest) := by
      apply span_append
      · intro c hc
        exact isBare_iff.mpr (h c hc)
      · intro c hc
        simp [isBare, hr c hc]
    obtain ⟨c, cs, rfl⟩ := List.exists_cons_of_ne_nil hn
    have hc := isBare_iff.mpr (h c List.mem_cons_self)
    have hq : ¬ (c = '"' ∨ c = '\x27') := by
      rintro (rfl | rfl) <;> cases hc
    simp only [List.cons_append] at hs ⊢
    simp only [Markup.value?, if_neg hq, bareValue?, hs]

theorem WrittenValue.head {value written : List Char} (h : WrittenValue value written) (rest : List Char) :
    ∀ c ∈ (written ++ rest).head?, isBlank c = false := by
  cases h with
  | quoted hq h => rcases hq with rfl | rfl <;> simp [isBlank]
  | bare hn h =>
    obtain ⟨c, cs, rfl⟩ := List.exists_cons_of_ne_nil hn
    simpa using (h c List.mem_cons_self).1

theorem rawAttributes_word_append {word : List Char} (hw : ∀ c ∈ word, isNamePart c = true) {rest : List Char}
    (hr : ∀ c ∈ rest.head?, isNamePart c = false) (he : (trimLeft rest).head? ≠ some '=') :
    rawAttributes (word ++ rest) = rawAttributes rest := by
  induction word with
  | nil => rfl
  | cons c word ih =>
    -- A name that began here would reach to the end of the word.
    have hs := span_append hw hr
    have hn : rawAttribute? (c :: (word ++ rest)) = none := by
      rw [List.cons_append] at hs
      simp only [rawAttribute?, hs]
      split
      · split
        · next ht => simp [ht] at he
        · rfl
      · rfl
    rw [List.cons_append, rawAttributes, scan_cons_of_none hn]
    exact ih fun d hd => hw d (List.mem_cons_of_mem _ hd)

theorem WrittenItem.exists_cons {item : Option RawAttribute} {cs : List Char} (h : WrittenItem item cs) :
    ∃ c ds, cs = c :: ds ∧ isNameStart c = true := by
  cases h with
  | word hn =>
    obtain ⟨c, ds, hs, hc, -⟩ := isName_iff.mp hn
    exact ⟨c, ds, hs, hc⟩
  | pair hn hb ha hv =>
    obtain ⟨c, ds, hs, hc, -⟩ := isName_iff.mp hn
    rw [hs]
    exact ⟨c, _, rfl, hc⟩

theorem WrittenItem.rawAttributes_append {item : Option RawAttribute} {cs : List Char} (h : WrittenItem item cs)
    {rest : List Char} (hr : ∀ c ∈ rest.head?, isBlank c = true)
    (hs : ∀ c ∈ (trimLeft rest).head?, isNameStart c = true) :
    rawAttributes (cs ++ rest) = item.toList ++ rawAttributes rest := by
  cases h with
  | word hn =>
    apply rawAttributes_word_append (isNamePart_of_isName hn)
    · intro c hc
      rw [Bool.eq_false_iff]
      intro hp
      exact absurd (hr c hc) (by simp [isBlank_of_isNamePart hp])
    · intro he
      exact absurd (hs _ he) (by decide)
  | @pair a before after value hn hb ha hv =>
    have hraw := rawAttribute?_append hn hb ha (hv.value? hr) (hv.head rest)
    rw [String.ofList_toList] at hraw
    obtain ⟨c, ds, hc, -⟩ := isName_iff.mp hn
    simp only [hc, List.append_assoc, List.cons_append] at hraw ⊢
    exact rawAttributes_cons_of_some hraw ⟨ds ++ (before ++ '=' :: (after ++ value)), by simp⟩

theorem WrittenSection.head?_trimLeft {items : List (Option RawAttribute)} {cs : List Char}
    (h : WrittenSection items cs) : ∀ c ∈ (trimLeft cs).head?, isNameStart c = true := by
  have hitem {item : Option RawAttribute} {cs : List Char} (h : WrittenItem item cs) (rest : List Char) :
      ∀ c ∈ (trimLeft (cs ++ rest)).head?, isNameStart c = true := by
    obtain ⟨c, ds, rfl, hc⟩ := h.exists_cons
    have hb : isBlank c = false := isBlank_of_isNamePart (isNamePart_of_isNameStart hc)
    simpa [trimLeft, hb] using hc
  induction h with
  | nil => simp [trimLeft]
  | blank hw _ ih =>
    rw [trimLeft, List.dropWhile_append_of_pos hw]
    exact ih
  | last h => simpa using hitem h []
  | cons h hg _ _ => exact hitem h _

theorem WrittenSection.rawAttributes_eq {items : List (Option RawAttribute)} {cs : List Char}
    (h : WrittenSection items cs) : rawAttributes cs = items.filterMap id := by
  induction h with
  | nil => rfl
  | blank hw _ ih => rw [rawAttributes_blank_append hw, ih]
  | @last item cs h =>
    have hr : rawAttributes (cs ++ []) = item.toList ++ rawAttributes [] :=
      h.rawAttributes_append (by simp) (by simp [trimLeft])
    rw [← List.append_nil cs, hr]
    cases item <;> rfl
  | @cons item items cs gap ds h hg hs ih =>
    have hgap : ∀ c ∈ (gap ++ ds).head?, isBlank c = true := by
      rw [List.head?_append_of_ne_nil _ hg.ne_nil]
      intro c hc
      exact hg.blank c (List.mem_of_mem_head? hc)
    rw [h.rawAttributes_append hgap (WrittenSection.blank hg.blank hs).head?_trimLeft,
      rawAttributes_blank_append hg.blank, ih]
    cases item <;> rfl

namespace Attributes

theorem lookup_entry_cons (e : String × Value) (es : List (String × Value)) (name : String) :
    (e :: es).lookup name = if name = e.1 then some e.2 else es.lookup name := by
  rw [List.lookup_cons]
  by_cases h : name = e.1
  · simp [h]
  · simp [h, beq_false_of_ne h]

theorem get?_insert (as : Attributes) (name : String) (value : Value) (other : String) :
    (as.insert name value).get? other = if other = name then some value else as.get? other := by
  obtain ⟨es⟩ := as
  simp only [insert, get?]
  induction es with
  | nil => exact lookup_entry_cons (name, value) [] other
  | cons e es ih =>
    rw [insertEntry]
    split
    · next h =>
      rw [lookup_entry_cons, lookup_entry_cons, h]
      split <;> rfl
    · next h =>
      rw [lookup_entry_cons, lookup_entry_cons, ih]
      by_cases hn : other = name
      · rw [if_neg (fun he => h (he.symm.trans hn)), if_pos hn, if_pos hn]
      · rw [if_neg hn, if_neg hn]

theorem eraseDups_concat (names : List String) (name : String) :
    (names ++ [name]).eraseDups = if name ∈ names then names.eraseDups else names.eraseDups ++ [name] := by
  rw [List.eraseDups_append]
  by_cases h : name ∈ names <;> simp [List.removeAll, h, List.eraseDups_cons]

theorem names_foldl_insertRaw (raws : List RawAttribute) :
    (raws.foldl insertRaw empty).names = (raws.map fun a => canonicalName a.name).eraseDups := by
  induction raws using List.reverseRecOn with
  | nil => rfl
  | append_singleton raws a ih =>
    rw [List.foldl_append, List.foldl_cons, List.foldl_nil, insertRaw, names_insert, ih, List.map_append,
      List.map_singleton, eraseDups_concat]
    simp only [List.mem_eraseDups]

theorem get?_foldl_insertRaw (as : Attributes) {a : RawAttribute} {after : List RawAttribute}
    (h : ∀ b ∈ after, canonicalName b.name ≠ canonicalName a.name) :
    ((a :: after).foldl insertRaw as).get? (canonicalName a.name) =
      some (readValue (canonicalName a.name) a.value) := by
  have hkeep (bs : Attributes) : (after.foldl insertRaw bs).get? (canonicalName a.name) =
      bs.get? (canonicalName a.name) := by
    induction after generalizing bs with
    | nil => rfl
    | cons b after ih =>
      rw [List.forall_mem_cons] at h
      rw [List.foldl_cons, ih h.2, insertRaw, get?_insert, if_neg (Ne.symm h.1)]
  rw [List.foldl_cons, hkeep, insertRaw, get?_insert, if_pos rfl]

end Attributes

/-- An attribute section is read item by item. Words are passed over; of a canonical name that comes more than once
the first place and the last value count. -/
theorem readAttributes_written {items : List (Option RawAttribute)} {text : String}
    (h : WrittenSection items text.toList) :
    readAttributes text = (items.filterMap id).foldl (fun as a =>
        as.insert (canonicalName a.name) (readValue (canonicalName a.name) a.value)) .empty ∧
      (readAttributes text).names = ((items.filterMap id).map fun a => canonicalName a.name).eraseDups ∧
      ∀ before a after, items.filterMap id = before ++ a :: after →
        (∀ b ∈ after, canonicalName b.name ≠ canonicalName a.name) →
        (readAttributes text).get? (canonicalName a.name) = some (readValue (canonicalName a.name) a.value) := by
  have hr : readAttributes text = (items.filterMap id).foldl Attributes.insertRaw .empty := by
    rw [readAttributes, h.rawAttributes_eq]
  refine ⟨hr, ?_, ?_⟩
  · rw [hr, Attributes.names_foldl_insertRaw]
  · intro before a after he hn
    rw [hr, he, List.foldl_append]
    exact Attributes.get?_foldl_insertRaw _ hn

theorem readAttributes_written_repeated :
    let items : List (Option RawAttribute) :=
      [none, some ⟨"viewbox", "d='a'"⟩, some ⟨"d", "b"⟩, some ⟨"VIEWBOX", "\""⟩]
    let text := "x viewbox=\"d='a'\" d = b VIEWBOX='\"'"
    WrittenSection items text.toList ∧ (readAttributes text).names = ["viewBox", "d"] ∧
      (readAttributes text).get? "viewBox" = some (.text "\"") := by
  intro items text
  have hgap : Gap [' '] := gap_singleton rfl
  have hnil : ∀ c ∈ ([] : List Char), isBlank c = true := by simp
  have hquoted : WrittenValue "d='a'".toList _ := .quoted (.inl rfl) (by decide)
  have hbare : WrittenValue "b".toList _ := .bare (by decide) (by simp [isBlank])
  have hsingle : WrittenValue "\"".toList _ := .quoted (.inr rfl) (by decide)
  have hs := WrittenSection.cons (.word (show isName "x" = true by decide)) hgap
    (.cons (.pair (a := ⟨"viewbox", "d='a'"⟩) (by decide) hnil hnil hquoted) hgap
      (.cons (.pair (a := ⟨"d", "b"⟩) (by decide) hgap.blank hgap.blank hbare) hgap
        (.last (.pair (a := ⟨"VIEWBOX", "\""⟩) (by decide) hnil hnil hsingle))))
  have h : WrittenSection items text.toList := Eq.subst (motive := WrittenSection items) (by decide) hs
  obtain ⟨-, hnames, hlast⟩ := readAttributes_written h
  have hv := hlast [⟨"viewbox", "d='a'"⟩, ⟨"d", "b"⟩] ⟨"VIEWBOX", "\""⟩ [] rfl (by simp)
  refine ⟨h, ?_, ?_⟩
  · rw [hnames]
    decide +kernel
  · rw [show canonicalName "VIEWBOX" = "viewBox" by decide +kernel] at hv
    exact hv

end IconCompiler.Markup
