import IconCompiler.Proofs.Names
import IconCompiler.Proofs.Spacing

namespace IconCompiler.Markup

open IconCompiler.Text

theorem quotedValue?_isInfix {quote : Char} {cs value rest : List Char}
    (h : quotedValue? quote cs = some (value, rest)) : value <:+: cs := by
  have hp := span_fst_isPrefix (fun c => c != quote) cs
  unfold quotedValue? at h
  split at h
  · next hs =>
    cases h
    rw [hs] at hp
    exact hp.isInfix
  · cases h

theorem bareValue?_isInfix {cs value rest : List Char} (h : bareValue? cs = some (value, rest)) :
    value <:+: cs := by
  have hp := span_fst_isPrefix isBare cs
  unfold bareValue? at h
  split at h
  · cases h
  · next hs =>
    cases h
    rw [hs] at hp
    exact hp.isInfix

theorem value?_isInfix {cs value rest : List Char} (h : value? cs = some (value, rest)) :
    value <:+: cs := by
  cases cs with
  | nil => cases h
  | cons c cs =>
    simp only [value?] at h
    split at h
    · exact (quotedValue?_isInfix h).trans (List.suffix_cons c cs).isInfix
    · exact bareValue?_isInfix h

theorem rawAttribute?_spec {cs rest : List Char} {a : RawAttribute}
    (h : rawAttribute? cs = some (a, rest)) : isName a.name = true ∧ a.value.toList <:+: cs := by
  cases cs with
  | nil => cases h
  | cons c cs =>
    have hs : (cs.dropWhile isNamePart) <:+ c :: cs :=
      (List.dropWhile_suffix _).trans (List.suffix_cons c cs)
    simp only [rawAttribute?] at h
    split at h
    · next hc =>
      have hp := isNamePart_of_isNameStart hc
      simp only [List.span_eq_takeWhile_dropWhile, List.takeWhile_cons, List.dropWhile_cons, hp,
        if_true] at h
      split at h
      · next after ht =>
        obtain ⟨r, hr, he⟩ := Option.map_eq_some_iff.mp h
        cases he
        refine ⟨?_, ?_⟩
        · exact isName_iff.mpr ⟨c, _, String.toList_ofList, hc, fun d hd => List.mem_takeWhile_imp hd⟩
        · rw [String.toList_ofList]
          have ha : after <:+ c :: cs := by
            have hb := trimLeft_isSuffix (cs.dropWhile isNamePart)
            rw [ht] at hb
            exact ((List.suffix_cons _ _).trans hb).trans hs
          exact (value?_isInfix hr).trans ((trimLeft_isSuffix after).trans ha).isInfix
      · cases h
    · cases h

structure ValidEntry (name : String) (value : Value) : Prop where
  isName : isName name = true
  canonical : canonicalName name = name
  flag : value.kind = .flag ↔ kindOf name = .flag
  number : ∀ x, value = .number x → kindOf name = .number ∧ x.isFinite = true
  text : ∀ s, value = .text s →
    (kindOf name = .number → number? s = none) ∧ '>' ∉ s.toList ∧ Spaced s.toList

structure Attributes.Valid (as : Attributes) : Prop where
  nodup : as.names.Nodup
  entry : ∀ e ∈ as.entries, ValidEntry e.1 e.2

theorem isFinite_of_number? {raw : String} {x : Number.Binary64} (h : number? raw = some x) :
    x.isFinite = true := by
  unfold number? at h
  exact (Option.filter_eq_some_iff.mp h).2

theorem validEntry_readValue {name raw : String} (hn : isName name = true)
    (hc : canonicalName name = name) (hg : '>' ∉ raw.toList) (hs : Spaced raw.toList) :
    ValidEntry name (readValue name raw) := by
  unfold readValue
  cases hk : kindOf name with
  | number =>
    cases hx : number? raw with
    | none => exact ⟨hn, hc, by simp [hk, Value.kind], by simp, by simp [hx, hg, hs]⟩
    | some x => exact ⟨hn, hc, by simp [hk, Value.kind], by simp [hk, isFinite_of_number? hx], by simp⟩
  | flag => exact ⟨hn, hc, by simp [hk, Value.kind], by simp, by simp⟩
  | text => exact ⟨hn, hc, by simp [hk, Value.kind], by simp, by simp [hk, hg, hs]⟩

namespace Attributes

theorem mem_insertEntry {name : String} {value : Value} {es : List (String × Value)}
    {e : String × Value} (h : e ∈ insertEntry name value es) : e = (name, value) ∨ e ∈ es := by
  induction es with
  | nil => simpa [insertEntry] using h
  | cons d es ih =>
    simp only [insertEntry] at h
    split at h
    · rcases List.mem_cons.mp h with h | h
      · exact .inl h
      · exact .inr (List.mem_cons_of_mem _ h)
    · rcases List.mem_cons.mp h with h | h
      · exact .inr (h ▸ List.mem_cons_self)
      · exact (ih h).imp id (List.mem_cons_of_mem _)

theorem valid_empty : Attributes.empty.Valid := ⟨by simp [names, empty], by simp [empty]⟩

theorem Valid.insert {as : Attributes} (h : as.Valid) {name : String} {value : Value}
    (hv : ValidEntry name value) : (as.insert name value).Valid := by
  refine ⟨nodup_names_insert h.nodup name value, ?_⟩
  intro e he
  rcases mem_insertEntry he with rfl | he
  · exact hv
  · exact h.entry e he

theorem Valid.insertRaw {as : Attributes} (h : as.Valid) {a : RawAttribute}
    (hn : isName a.name = true) (hg : '>' ∉ a.value.toList) (hs : Spaced a.value.toList) :
    (as.insertRaw a).Valid :=
  h.insert (validEntry_readValue (isName_canonicalName hn) (canonicalName_canonicalName _) hg hs)

end Attributes

theorem valid_readAttributes {text : String} (hg : '>' ∉ text.toList) (hs : Spaced text.toList) :
    (readAttributes text).Valid := by
  have hr : ∀ a ∈ rawAttributes text.toList,
      isName a.name = true ∧ '>' ∉ a.value.toList ∧ Spaced a.value.toList := by
    intro a ha
    obtain ⟨ds, rest, hd, hr⟩ := exists_of_mem_items ha
    obtain ⟨hn, hv⟩ := rawAttribute?_spec hr
    have hi := hv.trans hd.isInfix
    exact ⟨hn, fun hm => hg (hi.subset hm), hs.of_isInfix hi⟩
  refine List.foldlRecOn _ _ Attributes.valid_empty ?_
  intro as h a ha
  obtain ⟨hn, hg, hs⟩ := hr a ha
  exact h.insertRaw hn hg hs

end IconCompiler.Markup
