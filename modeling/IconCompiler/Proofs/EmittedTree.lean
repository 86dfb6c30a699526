import IconCompiler.Proofs.Escaping
import IconCompiler.Proofs.MarkedTree
import IconCompiler.Proofs.NumberRoundTrip
import IconCompiler.Proofs.Representation

namespace IconCompiler.Markup

open IconCompiler.Text IconCompiler.Number

def Value.emitted : Value → Value
  | .text s => .text (escapeAttribute s)
  | .number x => .number x
  | .flag b => .flag b

def Attributes.emitted (as : Attributes) : Attributes :=
  ⟨(as.filter fun name => !isPaint name).entries.map fun e => (e.1, e.2.emitted)⟩

mutual
def Element.emitted : Element → Element
  | ⟨tag, attributes, children, content⟩ =>
    ⟨tag, attributes.emitted, emittedList children,
      if children.isEmpty then content.map escapeText else none⟩

def Element.emittedList : List Element → List Element
  | [] => []
  | e :: es => e.emitted :: emittedList es
end

theorem Element.emittedList_eq_map (es : List Element) : emittedList es = es.map emitted := by
  induction es with
  | nil => rfl
  | cons e es ih => rw [emittedList, ih, List.map_cons]

mutual
theorem Element.height_emitted : ∀ e : Element, e.emitted.height = e.height
  | ⟨_, _, children, _⟩ => by simp only [emitted, height, heightList_emittedList children]

theorem Element.heightList_emittedList : ∀ es : List Element, heightList (emittedList es) = heightList es
  | [] => rfl
  | e :: es => by simp only [emittedList, heightList, height_emitted e, heightList_emittedList es]
end

def NameText (s : String) : Prop := ∀ c ∈ s.toList, isNamePart c = true

theorem NameText.escapeAttribute_eq {s : String} (h : NameText s) : escapeAttribute s = s := by
  refine escapes_attributeEntities.replaceEntities_eq_self fun e he hm => ?_
  have hn : ∀ e ∈ attributeEntities, isNamePart e.char = false := by decide
  have hc := h e.char hm
  rw [hn e he] at hc
  cases hc

theorem NameText.text {s : String} (h : NameText s) : ∀ c ∈ s.toList, c ≠ '<' ∧ c ≠ '>' ∧ c ≠ '"' := by
  intro c hc
  have hp := h c hc
  refine ⟨?_, ?_, ?_⟩ <;> rintro rfl <;> exact absurd hp (by decide)

theorem NameText.spaced {s : String} (h : NameText s) : Spaced s.toList :=
  .of_not_blank fun c hc => isBlank_of_isNamePart (h c hc)

theorem nameText_of_finite {x : Binary64} (h : x.isFinite = true) : NameText x.text := by
  intro c hc
  rw [Binary64.text, String.toList_ofList] at hc
  rcases of_mem_chars h hc with hd | rfl | rfl
  · simp [isNamePart, Char.isAlphanum, hd]
  · decide
  · decide

theorem nameText_number (x : Binary64) : NameText x.text := by
  cases x with
  | finite negative rank => exact nameText_of_finite rfl
  | nan => exact List.all_eq_true.mp rfl
  | infinite negative =>
    have hall : (Binary64.infinite negative).text.toList.all isNamePart = true := by cases negative <;> rfl
    exact List.all_eq_true.mp hall

theorem nameText_flagText (b : Bool) : NameText (Value.flagText b) := by
  have hall : (Value.flagText b).toList.all isNamePart = true := by cases b <;> rfl
  exact List.all_eq_true.mp hall

theorem number?_text {x : Binary64} (h : x.isFinite = true) : number? x.text = some x := by
  have hs : trim x.text.toList = x.chars := by
    rw [(show SingleSpaced x.text.toList from ?_).trim, Binary64.text, String.toList_ofList]
    have hb : ∀ c ∈ x.text.toList, isBlank c = false :=
      fun c hc => isBlank_of_isNamePart (nameText_of_finite h c hc)
    exact ⟨.of_not_blank hb, fun c hc => hb c (List.mem_of_mem_head? hc),
      fun c hc => hb c (List.mem_of_mem_getLast? hc)⟩
  rw [number?, hs, read?_chars h]
  simp [h]

theorem number?_escapeAttribute {s : String} (h : number? s = none) : number? (escapeAttribute s) = none := by
  rcases escapes_attributeEntities.replaceEntities_cases s with he | hm
  · rw [escapeAttribute, he]
    exact h
  · rw [number?, escapeAttribute, read?_eq_none (mem_trim (by decide) hm)]
    rfl

theorem of_mem_escapeAttribute {s : String} {c : Char} (hc : c ∈ (escapeAttribute s).toList) :
    c ≠ '<' ∧ c ≠ '>' ∧ c ≠ '"' := by
  refine ⟨?_, ?_, ?_⟩ <;> rintro rfl <;>
    exact escapes_attributeEntities.not_mem_replaceEntities (by decide) (.inr (by decide)) hc

theorem ValidEntry.escapeAttribute_display {name : String} {value : Value} (h : ValidEntry name value) :
    escapeAttribute value.display = value.emitted.display := by
  cases value with
  | text s => rfl
  | number x => exact (nameText_of_finite (h.number x rfl).2).escapeAttribute_eq
  | flag b => exact (nameText_flagText b).escapeAttribute_eq

theorem ValidEntry.plain {name : String} {value : Value} (h : ValidEntry name value) :
    PlainEntry name value.emitted := by
  have hk := h.flag
  cases value with
  | text s =>
    obtain ⟨hn, hg, hs⟩ := h.text s rfl
    refine ⟨h.isName, h.canonical, fun c hc => of_mem_escapeAttribute hc,
      escapes_attributeEntities.spaced_replaceEntities hs, ?_⟩
    simp only [Value.emitted, Value.display, readValue]
    cases hc : kindOf name with
    | text => rfl
    | number => simp only [number?_escapeAttribute (hn hc)]
    | flag => cases hk.mpr hc
  | number x =>
    obtain ⟨hn, hf⟩ := h.number x rfl
    have ht := nameText_of_finite hf
    refine ⟨h.isName, h.canonical, ht.text, ht.spaced, ?_⟩
    simp only [Value.emitted, Value.display, readValue, hn, number?_text hf]
  | flag b =>
    have ht := nameText_flagText b
    refine ⟨h.isName, h.canonical, ht.text, ht.spaced, ?_⟩
    simp only [Value.emitted, Value.display, readValue, hk.mp rfl]
    cases b <;> decide

theorem Attributes.Valid.plain {as : Attributes} (h : as.Valid) : as.emitted.Plain := by
  refine ⟨?_, fun e he => ?_⟩
  · have hn : as.emitted.names = (as.entries.filter fun e => !isPaint e.1).map Prod.fst := by
      simp [names, emitted, filter]
    rw [hn]
    exact h.nodup.sublist (List.filter_sublist.map _)
  · obtain ⟨d, hd, rfl⟩ := List.mem_map.mp he
    exact (h.entry d (List.mem_of_mem_filter hd)).plain

theorem ValidText.escapeText {s : String} (h : ValidText s) : ValidText (escapeText s) where
  nonempty := escapes_textEntities.replaceEntities_ne_empty h.nonempty
  plain := escapes_textEntities.not_mem_replaceEntities (.inl rfl) (.inl h.plain)
  spaced := escapes_textEntities.singleSpaced_replaceEntities h.spaced

theorem Element.Valid.plain {e : Element} (h : e.Valid) (ht : isName e.tag = true) : e.emitted.Plain := by
  obtain ⟨tag, attributes, children, content⟩ := e
  refine ⟨ht, h.attributes.plain, ?_, ?_⟩
  · intro hv
    obtain ⟨hc, hs⟩ := h.void hv
    subst hc hs
    exact ⟨rfl, rfl⟩
  · intro s hs
    simp only [emitted] at hs
    split at hs
    · next hc =>
      obtain ⟨r, hr, rfl⟩ := Option.map_eq_some_iff.mp hs
      rw [List.isEmpty_iff] at hc
      subst hc
      exact ⟨rfl, (h.content r hr).escapeText⟩
    · cases hs

end IconCompiler.Markup
