import IconCompiler.Proofs.EmittedMarkup
import IconCompiler.Proofs.QuotedLiterals

namespace IconCompiler

open IconCompiler.Markup IconCompiler.Number IconCompiler.Text

namespace Emit.Vue

def valueText : Value → String
  | .text s => Script.quoted s
  | .number x => x.text
  | .flag b => Value.flagText b

theorem entry_eq (name : String) (value : Value) :
    entry name value = Script.objectKey (markupName name) ++ ": " ++ valueText value := by
  cases value <;> rfl

theorem number_text_ne_flagText (x : Binary64) (b : Bool) : x.text ≠ Value.flagText b := by
  intro h
  have hc : x.chars = (Value.flagText b).toList := by rw [← h, Binary64.text, String.toList_ofList]
  cases x with
  | nan => cases b <;> exact absurd hc (by decide)
  | infinite negative => cases b <;> cases negative <;> exact absurd hc (by decide)
  | finite negative rank =>
    have he : 'e' ∈ (Value.flagText b).toList := by cases b <;> decide
    rw [← hc] at he
    exact absurd (of_mem_chars rfl he) (by decide)

def Bare : Value → Prop
  | .text _ => False
  | _ => True

theorem bare_or_text (v : Value) : Bare v ∨ ∃ s, v = .text s := by
  cases v with
  | text s => exact .inr ⟨s, rfl⟩
  | number x => exact .inl trivial
  | flag b => exact .inl trivial

theorem Bare.nameText {v : Value} (h : Bare v) : NameText (valueText v) := by
  cases v with
  | text s => cases h
  | number x => exact nameText_number x
  | flag b => exact nameText_flagText b

theorem Bare.valueText_inj {v w : Value} (hv : Bare v) (hw : Bare w) (h : valueText v = valueText w) : v = w := by
  cases v with
  | text s => cases hv
  | number x =>
    cases w with
    | text s => cases hw
    | number y => rw [chars_injective (String.ofList_injective h)]
    | flag b => exact absurd h (number_text_ne_flagText x b)
  | flag b =>
    cases w with
    | text s => cases hw
    | number y => exact absurd h.symm (number_text_ne_flagText y b)
    | flag b' =>
      have hb : ∀ b b', Value.flagText b = Value.flagText b' → b = b' := by decide
      rw [hb b b' h]

def EndsEntry (r : List Char) : Prop := ∀ c ∈ r.head?, c = ',' ∨ c = ' '

theorem EndsEntry.not_namePart {r : List Char} (h : EndsEntry r) : ∀ c ∈ r.head?, isNamePart c = false := by
  intro c hc
  rcases h c hc with rfl | rfl <;> decide

theorem Bare.ne_quoted_append {v : Value} (hv : Bare v) {r : List Char} (hr : EndsEntry r) (s : String)
    (r' : List Char) : (valueText v).toList ++ r ≠ (Script.quoted s).toList ++ r' :=
  Script.ne_quoted_append (fun hm => absurd (hv.nameText _ hm) (by decide))
    (fun hm => absurd (hr _ hm) (by decide)) s r'

theorem valueText_append_inj {v w : Value} {r r' : List Char} (hr : EndsEntry r) (hr' : EndsEntry r')
    (h : (valueText v).toList ++ r = (valueText w).toList ++ r') : v = w ∧ r = r' := by
  rcases bare_or_text v with hv | ⟨s, rfl⟩ <;> rcases bare_or_text w with hw | ⟨t, rfl⟩
  · obtain ⟨ht, hr⟩ := append_inj_of_all hv.nameText hw.nameText hr.not_namePart hr'.not_namePart h
    exact ⟨hv.valueText_inj hw (String.toList_inj.mp ht), hr⟩
  · exact absurd h (hv.ne_quoted_append hr t r')
  · exact absurd h.symm (hw.ne_quoted_append hr' s r)
  · obtain ⟨rfl, hr⟩ := Script.quoted_append_inj h
    exact ⟨rfl, hr⟩

theorem entry_append_inj {a b : String × Value} (ha : canonicalName a.1 = a.1) (hb : canonicalName b.1 = b.1)
    {r r' : List Char} (hr : EndsEntry r) (hr' : EndsEntry r')
    (h : (entry a.1 a.2).toList ++ r = (entry b.1 b.2).toList ++ r') : a = b ∧ r = r' := by
  simp only [entry_eq, String.toList_append, List.append_assoc] at h
  obtain ⟨hn, ht⟩ := Script.objectKey_append_inj h
  obtain ⟨hv, hr⟩ := valueText_append_inj hr hr' (List.cons.inj ht).2
  have hm : a.1 = b.1 := by rw [← canonicalName_markupName ha, hn, canonicalName_markupName hb]
  exact ⟨Prod.ext hm hv, hr⟩

def entriesChars (as : List (String × Value)) : List Char :=
  as.flatMap fun a => ',' :: ' ' :: (entry a.1 a.2).toList

theorem endsEntry_entriesChars (as : List (String × Value)) (r : List Char) :
    EndsEntry (entriesChars as ++ ' ' :: r) := by
  intro c hc
  cases as with
  | nil => exact .inr (by simpa [entriesChars, eq_comm] using hc)
  | cons a as => exact .inl (by simpa [entriesChars, eq_comm] using hc)

def Canonical (as : List (String × Value)) : Prop := ∀ a ∈ as, canonicalName a.1 = a.1

theorem entriesChars_append_inj {as bs : List (String × Value)} (ha : Canonical as) (hb : Canonical bs)
    {r r' : List Char} (h : entriesChars as ++ ' ' :: r = entriesChars bs ++ ' ' :: r') : as = bs ∧ r = r' := by
  induction as generalizing bs with
  | nil =>
    cases bs with
    | nil => exact ⟨rfl, (List.cons.inj h).2⟩
    | cons b bs => cases h
  | cons a as ih =>
    cases bs with
    | nil => cases h
    | cons b bs =>
      simp only [entriesChars, List.flatMap_cons, List.cons_append, List.append_assoc, List.cons.injEq,
        true_and] at h
      obtain ⟨hab, ht⟩ := entry_append_inj (ha a (by simp)) (hb b (by simp))
        (endsEntry_entriesChars as r) (endsEntry_entriesChars bs r') h
      obtain ⟨has, hr⟩ := ih (fun c hc => ha c (by simp [hc])) (fun c hc => hb c (by simp [hc])) ht
      exact ⟨by rw [hab, has], hr⟩

def objectText (as : List (String × Value)) : String :=
  if attributes as = "" then "null" else attributes as

theorem attributes_ne_empty {as : List (String × Value)} (h : as ≠ []) : attributes as ≠ "" := by
  obtain ⟨a, as, rfl⟩ := List.exists_cons_of_ne_nil h
  rw [← String.toList_inj.ne]
  simp [attributes]

theorem toList_objectText {as : List (String × Value)} (h : as ≠ []) : ∃ inside : List Char,
    (objectText as).toList = '\x7b' :: ' ' :: (inside ++ [' ', '\x7d']) ∧
      ',' :: ' ' :: inside = entriesChars as := by
  refine ⟨(", ".intercalate (as.map fun a => entry a.1 a.2)).toList, ?_, ?_⟩
  · rw [objectText, if_neg (attributes_ne_empty h)]
    obtain ⟨a, as, rfl⟩ := List.exists_cons_of_ne_nil h
    simp [attributes]
  · have hn : (as.map fun a => entry a.1 a.2) ≠ [] := by simpa using h
    have hl := toList_intercalate ", " hn
    rw [List.flatMap_map] at hl
    exact hl

theorem objectText_append_inj {as bs : List (String × Value)} (ha : Canonical as) (hb : Canonical bs)
    {r r' : List Char} (h : (objectText as).toList ++ r = (objectText bs).toList ++ r') : as = bs ∧ r = r' := by
  by_cases hna : as = [] <;> by_cases hnb : bs = []
  · subst hna hnb
    exact ⟨rfl, List.append_cancel_left h⟩
  · obtain ⟨inside, hi, -⟩ := toList_objectText hnb
    rw [hi, hna] at h
    cases h
  · obtain ⟨inside, hi, -⟩ := toList_objectText hna
    rw [hi, hnb] at h
    cases h
  · obtain ⟨inside, hi, he⟩ := toList_objectText hna
    obtain ⟨inside', hi', he'⟩ := toList_objectText hnb
    rw [hi, hi'] at h
    have hin : inside ++ [' ', '\x7d'] ++ r = inside' ++ [' ', '\x7d'] ++ r' :=
      (List.cons.inj (List.cons.inj h).2).2
    have hent : entriesChars as ++ ' ' :: '\x7d' :: r = entriesChars bs ++ ' ' :: '\x7d' :: r' := by
      rw [← he, ← he']
      simpa using hin
    obtain ⟨hab, hr⟩ := entriesChars_append_inj ha hb hent
    exact ⟨hab, (List.cons.inj hr).2⟩

def bodyChars (depth : Nat) : Body → List Char
  | .empty => [')']
  | .text s => ',' :: ' ' :: ((Script.quoted s).toList ++ [')'])
  | .children cs => ',' :: ' ' :: '[' :: '\n' ::
      ((cs.flatMap fun c => c.toList ++ [',', '\n']) ++ ((indent depth).toList ++ [']', ')']))

theorem bodyChars_children_ne_text (depth : Nat) (cs : List String) (s : String) (r r' : List Char) :
    bodyChars depth (.children cs) ++ r ≠ bodyChars depth (.text s) ++ r' := by
  intro h
  simp only [bodyChars, List.cons_append, List.append_assoc, List.cons.injEq, true_and] at h
  exact Script.ne_quoted_append List.not_mem_nil (by simp) s _ h

def argumentsChars (depth : Nat) (as : List (String × Value)) (body : Body) : List Char :=
  if as = [] ∧ body = .empty then [')']
  else ',' :: ' ' :: ((objectText as).toList ++ bodyChars depth body)

theorem argumentsChars_append_inj {as bs : List (String × Value)} (ha : Canonical as) (hb : Canonical bs)
    {body body' : Body} {depth : Nat} {r r' : List Char}
    (h : argumentsChars depth as body ++ r = argumentsChars depth bs body' ++ r') :
    as = bs ∧ bodyChars depth body ++ r = bodyChars depth body' ++ r' := by
  unfold argumentsChars at h
  split_ifs at h with hn hn' hn'
  · rw [hn.1, hn.2, hn'.1, hn'.2]
    exact ⟨rfl, h⟩
  · cases h
  · cases h
  · simp only [List.cons_append, List.append_assoc, List.cons.injEq, true_and] at h
    exact objectText_append_inj ha hb h

theorem toList_intercalate_append (separator : String) {ss : List String} (h : ss ≠ []) :
    (separator.intercalate ss).toList ++ separator.toList =
      ss.flatMap fun s => s.toList ++ separator.toList := by
  induction ss with
  | nil => exact absurd rfl h
  | cons s ss ih =>
    cases ss with
    | nil => simp
    | cons r ss =>
      rw [String.intercalate_cons_of_ne_nil (by simp), String.toList_append, String.toList_append,
        List.flatMap_cons, List.append_assoc, ih (by simp)]

theorem toList_node (tag : String) (as : List (String × Value)) {body : Body} (hb : body ≠ .children [])
    (depth : Nat) :
    (node tag (attributes as) body depth).toList =
      (indent depth).toList ++ 'h' :: '(' :: ((Script.quoted tag).toList ++ argumentsChars depth as body) := by
  cases body with
  | empty =>
    by_cases ha : as = []
    · subst ha
      simp [node, attributes, argumentsChars]
    · simp [node, argumentsChars, bodyChars, objectText, attributes_ne_empty ha, ha]
  | text s => simp [node, argumentsChars, bodyChars, objectText]
  | children cs =>
    have hn : cs ≠ [] := fun hn => hb (by rw [hn])
    have hl := toList_intercalate_append ",\n" hn
    have ht : (node tag (attributes as) (.children cs) depth).toList =
        (indent depth).toList ++ 'h' :: '(' :: ((Script.quoted tag).toList ++ ',' :: ' ' ::
          ((objectText as).toList ++ ',' :: ' ' :: '[' :: '\n' ::
            ((",\n".intercalate cs).toList ++ ",\n".toList ++ ((indent depth).toList ++ [']', ')'])))) := by
      simp [node, objectText]
    rw [ht, hl]
    simp [argumentsChars, bodyChars]

end Emit.Vue

end IconCompiler
