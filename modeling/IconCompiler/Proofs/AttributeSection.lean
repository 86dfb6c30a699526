import IconCompiler.Proofs.Names
import IconCompiler.Proofs.Spacing

namespace IconCompiler.Markup

open IconCompiler.Text

def attributeChars (name : String) (value : Value) : List Char :=
  (markupName name).toList ++ '=' :: '"' :: (value.display.toList ++ ['"'])

def sectionChars (as : Attributes) : List Char :=
  as.entries.flatMap fun a => ' ' :: attributeChars a.1 a.2

structure PlainEntry (name : String) (value : Value) : Prop where
  isName : isName name = true
  canonical : canonicalName name = name
  text : ∀ c ∈ value.display.toList, c ≠ '<' ∧ c ≠ '>' ∧ c ≠ '"'
  spaced : Spaced value.display.toList
  read : readValue name value.display = value

structure Attributes.Plain (as : Attributes) : Prop where
  nodup : as.names.Nodup
  entry : ∀ e ∈ as.entries, PlainEntry e.1 e.2

theorem value?_quoted {quote : Char} (hq : quote = '"' ∨ quote = '\x27') {value : List Char} (h : quote ∉ value)
    (rest : List Char) : value? (quote :: (value ++ quote :: rest)) = some (value, rest) := by
  have hs : (value ++ quote :: rest).span (fun c => c != quote) = (value, quote :: rest) :=
    span_append (fun c hc => by simpa using ne_of_mem_of_not_mem hc h) (by simp)
  simp only [value?, if_pos hq, quotedValue?, hs]

theorem rawAttribute?_append {name : String} (hn : isName name = true) {before after : List Char}
    (hb : ∀ c ∈ before, isBlank c = true) (ha : ∀ c ∈ after, isBlank c = true) {cs value rest : List Char}
    (hv : value? cs = some (value, rest)) (hc : ∀ c ∈ cs.head?, isBlank c = false) :
    rawAttribute? (name.toList ++ (before ++ '=' :: (after ++ cs))) =
      some (⟨name, String.ofList value⟩, rest) := by
  have hsign : trimLeft (before ++ '=' :: (after ++ cs)) = '=' :: (after ++ cs) :=
    trimLeft_append hb (by simp [isBlank])
  have hvalue : trimLeft (after ++ cs) = cs := trimLeft_append ha hc
  have hend : ∀ d ∈ (before ++ '=' :: (after ++ cs)).head?, isNamePart d = false := by
    cases before with
    | nil => simp [isNamePart]
    | cons w ws =>
      intro d hd
      cases hd
      rw [Bool.eq_false_iff]
      intro hp
      exact absurd (hb w List.mem_cons_self) (by simp [isBlank_of_isNamePart hp])
  have hname := span_append (isNamePart_of_isName hn) hend
  obtain ⟨c, cs', hs, hstart, -⟩ := isName_iff.mp hn
  rw [hs] at hname ⊢
  simp only [List.cons_append] at hname ⊢
  simp only [rawAttribute?, hstart, if_true, hname, hsign, hvalue, hv, Option.map_some, ← hs,
    String.ofList_toList]

theorem attributeChars_append (name : String) (value : Value) (rest : List Char) :
    attributeChars name value ++ rest =
      (markupName name).toList ++ '=' :: '"' :: (value.display.toList ++ '"' :: rest) := by
  simp [attributeChars]

theorem rawAttribute?_attributeChars {name : String} {value : Value} (h : PlainEntry name value)
    (rest : List Char) :
    rawAttribute? (attributeChars name value ++ rest) =
      some (⟨markupName name, value.display⟩, rest) := by
  have hvalue := value?_quoted (.inl rfl) (fun hm => (h.text _ hm).2.2 rfl) rest
  have hnil : ∀ c ∈ ([] : List Char), isBlank c = true := by simp
  have hr := rawAttribute?_append (isName_markupName h.isName) hnil hnil hvalue (by simp [isBlank])
  rw [String.ofList_toList] at hr
  rw [attributeChars_append]
  exact hr

theorem rawAttributes_cons_of_some {c : Char} {cs rest : List Char} {a : RawAttribute}
    (h : rawAttribute? (c :: cs) = some (a, rest)) (hr : rest <:+ cs) :
    rawAttributes (c :: cs) = a :: rawAttributes rest := by
  rw [rawAttributes, scan_cons_of_some h hr]
  rfl

theorem rawAttributes_cons_of_not_isNameStart {c : Char} (hc : isNameStart c = false) (cs : List Char) :
    rawAttributes (c :: cs) = rawAttributes cs := by
  have hn : rawAttribute? (c :: cs) = none := by simp [rawAttribute?, hc]
  rw [rawAttributes, scan_cons_of_none hn]
  rfl

theorem isNameStart_of_isBlank {c : Char} (h : isBlank c = true) : isNameStart c = false := by
  rw [Bool.eq_false_iff]
  intro hs
  rw [isBlank_of_isNamePart (isNamePart_of_isNameStart hs)] at h
  cases h

theorem rawAttributes_blank_append {ws : List Char} (hw : ∀ c ∈ ws, isBlank c = true) (cs : List Char) :
    rawAttributes (ws ++ cs) = rawAttributes cs := by
  induction ws with
  | nil => rfl
  | cons w ws ih =>
    rw [List.forall_mem_cons] at hw
    rw [List.cons_append, rawAttributes_cons_of_not_isNameStart (isNameStart_of_isBlank hw.1), ih hw.2]

theorem rawAttributes_trimLeft (cs : List Char) : rawAttributes (trimLeft cs) = rawAttributes cs := by
  have hw : ∀ c ∈ cs.takeWhile isBlank, isBlank c = true := fun c hc => List.mem_takeWhile_imp hc
  have h := rawAttributes_blank_append hw (trimLeft cs)
  rw [trimLeft, List.takeWhile_append_dropWhile] at h
  exact h.symm

theorem attributeChars_cons {name : String} (h : isName name = true) (value : Value) :
    ∃ c cs, attributeChars name value = c :: cs ∧ isBlank c = false := by
  obtain ⟨c, cs, hs, hc, -⟩ := isName_iff.mp (isName_markupName h)
  refine ⟨c, cs ++ '=' :: '"' :: (value.display.toList ++ ['"']), by simp [attributeChars, hs], ?_⟩
  exact isBlank_of_isNamePart (isNamePart_of_isNameStart hc)

theorem rawAttributes_append {name : String} {value : Value} (h : PlainEntry name value)
    (rest : List Char) :
    rawAttributes (attributeChars name value ++ rest) =
      ⟨markupName name, value.display⟩ :: rawAttributes rest := by
  have hr := rawAttribute?_attributeChars h rest
  obtain ⟨c, cs, hs, -⟩ := attributeChars_cons h.isName value
  rw [hs, List.cons_append] at hr ⊢
  exact rawAttributes_cons_of_some hr (List.suffix_append _ _)

theorem rawAttributes_sectionChars {as : Attributes} (h : ∀ e ∈ as.entries, PlainEntry e.1 e.2) :
    rawAttributes (sectionChars as) = as.entries.map fun a => ⟨markupName a.1, a.2.display⟩ := by
  obtain ⟨es⟩ := as
  induction es with
  | nil => rfl
  | cons a es ih =>
    have hi := ih fun e he => h e (List.mem_cons_of_mem _ he)
    rw [sectionChars] at hi ⊢
    rw [List.flatMap_cons, List.cons_append,
      rawAttributes_cons_of_not_isNameStart rfl, rawAttributes_append (h a (by simp)), hi]
    rfl

namespace Attributes

theorem insertEntry_of_not_mem {name : String} {es : List (String × Value)}
    (h : name ∉ es.map Prod.fst) (value : Value) :
    insertEntry name value es = es ++ [(name, value)] := by
  induction es with
  | nil => rfl
  | cons e es ih =>
    rw [List.map_cons, List.mem_cons, not_or] at h
    rw [insertEntry, if_neg (Ne.symm h.1), ih h.2]
    rfl

theorem insertRaw_of_plain {as : Attributes} {name : String} {value : Value}
    (h : PlainEntry name value) (hn : name ∉ as.names) :
    as.insertRaw ⟨markupName name, value.display⟩ = ⟨as.entries ++ [(name, value)]⟩ := by
  rw [insertRaw, canonicalName_markupName h.canonical, h.read, insert, insertEntry_of_not_mem hn]

theorem foldl_insertRaw {as : Attributes} {es : List (String × Value)}
    (h : ∀ e ∈ es, PlainEntry e.1 e.2) (hn : (as.names ++ es.map Prod.fst).Nodup) :
    (es.map fun a => (⟨markupName a.1, a.2.display⟩ : RawAttribute)).foldl insertRaw as =
      ⟨as.entries ++ es⟩ := by
  induction es generalizing as with
  | nil => simp
  | cons e es ih =>
    have hnew : e.1 ∉ as.names := fun hm => (List.nodup_append.mp hn).2.2 e.1 hm e.1 (by simp) rfl
    rw [List.map_cons, List.foldl_cons, insertRaw_of_plain (h e (by simp)) hnew,
      ih (fun d hd => h d (List.mem_cons_of_mem _ hd)) (by simpa [names] using hn)]
    simp

end Attributes

theorem readAttributes_sectionChars {as : Attributes} (h : as.Plain) :
    readAttributes (String.ofList (trimLeft (sectionChars as))) = as := by
  rw [readAttributes, String.toList_ofList, rawAttributes_trimLeft, rawAttributes_sectionChars h.entry,
    Attributes.foldl_insertRaw h.entry]
  · rfl
  · exact h.nodup

theorem singleSpaced_attributeChars {name : String} {value : Value} (h : PlainEntry name value) :
    SingleSpaced (attributeChars name value) := by
  have hn : Spaced (markupName name).toList := .of_not_blank fun c hc =>
    isBlank_of_isNamePart (isNamePart_of_isName (isName_markupName h.isName) c hc)
  have hq : Spaced ([] ++ '"' :: (value.display.toList ++ '"' :: [])) :=
    Spaced.nil.append_cons (by decide) (h.spaced.append_cons (by decide) .nil)
  refine ⟨hn.append_cons (by decide) hq, ?_, ?_⟩
  · obtain ⟨c, cs, hs, hc⟩ := attributeChars_cons h.isName value
    rw [hs]
    simpa using hc
  · have hl : attributeChars name value =
        ((markupName name).toList ++ '=' :: '"' :: value.display.toList) ++ ['"'] := by
      simp [attributeChars]
    rw [hl, List.getLast?_concat]
    simp [isBlank]

theorem singleSpaced_append_sectionChars {cs : List Char} (hc : SingleSpaced cs) (hn : cs ≠ [])
    {as : Attributes} (h : ∀ e ∈ as.entries, PlainEntry e.1 e.2) :
    SingleSpaced (cs ++ sectionChars as) := by
  obtain ⟨es⟩ := as
  induction es generalizing cs with
  | nil => simpa [sectionChars] using hc
  | cons a es ih =>
    have ha := h a (by simp)
    have hne : attributeChars a.1 a.2 ≠ [] := by
      obtain ⟨c, cs, hs, -⟩ := attributeChars_cons ha.isName a.2
      simp [hs]
    have hi := ih (hc.append_space hn (singleSpaced_attributeChars ha) hne) (by simp)
      (fun e he => h e (List.mem_cons_of_mem _ he))
    simpa [sectionChars] using hi

theorem of_mem_sectionChars {as : Attributes} (h : ∀ e ∈ as.entries, PlainEntry e.1 e.2) {c : Char}
    (hc : c ∈ sectionChars as) : c ≠ '<' ∧ c ≠ '>' := by
  obtain ⟨a, ha, hm⟩ := List.mem_flatMap.mp hc
  have he := h a ha
  simp only [attributeChars, List.mem_cons, List.mem_append, List.not_mem_nil, or_false] at hm
  rcases hm with rfl | hm | rfl | rfl | hm | rfl
  · decide
  · exact ne_of_isNamePart (isNamePart_of_isName (isName_markupName he.isName) c hm)
  · decide
  · decide
  · exact ⟨(he.text c hm).1, (he.text c hm).2.1⟩
  · decide

end IconCompiler.Markup
