import IconCompiler.Proofs.AttributeSection
import IconCompiler.Proofs.TaggedText

namespace IconCompiler.Markup

open IconCompiler.Text

def startBody (tag : String) (as : Attributes) : List Char := tag.toList ++ sectionChars as

def endBody (tag : String) : List Char := '/' :: tag.toList

theorem isBlank_of_isName {tag : String} (h : isName tag = true) :
    ∀ c ∈ tag.toList, isBlank c = false :=
  fun c hc => isBlank_of_isNamePart (isNamePart_of_isName h c hc)

theorem toList_ne_nil_of_isName {tag : String} (h : isName tag = true) : tag.toList ≠ [] := by
  obtain ⟨c, cs, hs, -⟩ := isName_iff.mp h
  simp [hs]

theorem singleSpaced_of_isName {tag : String} (h : isName tag = true) : SingleSpaced tag.toList where
  toSpaced := .of_not_blank (isBlank_of_isName h)
  head := fun c hc => isBlank_of_isName h c (List.mem_of_mem_head? hc)
  last := fun c hc => isBlank_of_isName h c (List.mem_of_mem_getLast? hc)

section Start

variable {tag : String} (ht : isName tag = true)

include ht

theorem exists_startBody_cons (as : Attributes) :
    ∃ c cs, startBody tag as = c :: cs ∧ isNameStart c = true := by
  obtain ⟨c, cs, hs, hc, -⟩ := isName_iff.mp ht
  exact ⟨c, cs ++ sectionChars as, by simp [startBody, hs], hc⟩

theorem head?_startBody (as : Attributes) : (startBody tag as).head? ≠ some '/' := by
  obtain ⟨c, cs, hs, hc⟩ := exists_startBody_cons ht as
  rw [hs]
  rintro ⟨⟩
  cases hc

theorem getLast?_startBody (as : Attributes) : (startBody tag as).getLast? ≠ some '/' := by
  intro hl
  rcases List.eq_nil_or_concat as.entries with hn | ⟨es, a, hc⟩
  · rw [startBody, sectionChars, hn, List.flatMap_nil, List.append_nil] at hl
    exact absurd (isNamePart_of_isName ht _ (List.mem_of_getLast? hl)) (by decide)
  · have hs : startBody tag as = (tag.toList ++ (es.flatMap (fun a => ' ' :: attributeChars a.1 a.2) ++
        ' ' :: ((markupName a.1).toList ++ '=' :: '"' :: a.2.display.toList))) ++ ['"'] := by
      simp [startBody, sectionChars, hc, attributeChars]
    rw [hs, List.getLast?_concat] at hl
    cases hl

variable {as : Attributes} (ha : as.Plain)

include ha

theorem singleSpaced_startBody : SingleSpaced (startBody tag as) :=
  singleSpaced_append_sectionChars (singleSpaced_of_isName ht) (toList_ne_nil_of_isName ht) ha.entry

theorem of_mem_startBody {c : Char} (hc : c ∈ startBody tag as) : c ≠ '<' ∧ c ≠ '>' := by
  rcases List.mem_append.mp hc with hc | hc
  · exact ne_of_isNamePart (isNamePart_of_isName ht c hc)
  · exact of_mem_sectionChars ha.entry hc

theorem splitTag_startBody {body : List Char} (hb : trim body = startBody tag as) :
    splitTag body = (tag, String.ofList (trimLeft (sectionChars as))) := by
  have hs : (tag.toList ++ sectionChars as).span (fun c => !isBlank c) = (tag.toList, sectionChars as) := by
    refine span_append (fun c hc => by simp [isBlank_of_isName ht c hc]) ?_
    intro d hd
    obtain ⟨es⟩ := as
    cases es with
    | nil => cases hd
    | cons a es =>
      cases hd
      decide
  simp only [splitTag, hb, startBody, hs, String.ofList_toList]

theorem openingTag_startBody {body : List Char} (hb : trim body = startBody tag as) (selfClosing : Bool)
    (position : Nat) : openingTag body selfClosing position = .opening tag as selfClosing position := by
  simp only [openingTag, splitTag_startBody ht ha hb, readAttributes_sectionChars ha]

theorem tagToken_startBody (position : Nat) :
    tagToken (startBody tag as) position = .opening tag as false position := by
  have hs := singleSpaced_startBody ht ha
  rw [tagToken_of_not_slash (head?_startBody ht as)]
  · exact openingTag_startBody ht ha hs.trim false position
  · rw [trimRight_eq_self hs.last]
    exact getLast?_startBody ht as

theorem tagToken_selfClosing (position : Nat) :
    tagToken (startBody tag as ++ [' ', '/']) position = .opening tag as true position := by
  have hs := singleSpaced_startBody ht ha
  have hne : startBody tag as ≠ [] := by
    obtain ⟨c, cs, hc, -⟩ := exists_startBody_cons ht as
    simp [hc]
  have hr : trimRight (startBody tag as ++ [' ', '/']) = (startBody tag as ++ [' ']) ++ ['/'] := by
    rw [trimRight_eq_self]
    · simp
    · simp [isBlank]
  have ht' : trim (startBody tag as ++ [' ']) = startBody tag as := by
    rw [trim, trimLeft_eq_self, trimRight_append (by simp [isBlank]) hs.last]
    rw [List.head?_append_of_ne_nil _ hne]
    exact hs.head
  rw [tagToken_of_slash _ hr]
  · exact openingTag_startBody ht ha ht' true position
  · rw [List.head?_append_of_ne_nil _ hne]
    exact head?_startBody ht as

end Start

theorem tagToken_endBody {tag : String} (ht : isName tag = true) (position : Nat) :
    tagToken (endBody tag) position = .closing tag position := by
  simp only [endBody, tagToken, (singleSpaced_of_isName ht).trim, String.ofList_toList]

theorem ne_of_isNameStart {c : Char} (h : isNameStart c = true) : c ≠ '!' ∧ c ≠ '?' := by
  constructor <;> rintro rfl <;> exact absurd h (by decide)

section Runs

variable {run : List Char} (hr : '<' ∉ run) {tag : String} (ht : isName tag = true)

include hr ht

theorem valid_startRun {as : Attributes} (ha : as.Plain) : TaggedRun.Valid ⟨run, startBody tag as⟩ where
  run := hr
  body := fun _ hc => of_mem_startBody ht ha hc
  spaced := (singleSpaced_startBody ht ha).toSpaced
  head := by
    obtain ⟨c, cs, hc, hn⟩ := exists_startBody_cons ht as
    rw [hc]
    simpa using ne_of_isNameStart hn

theorem valid_selfClosingRun {as : Attributes} (ha : as.Plain) :
    TaggedRun.Valid ⟨run, startBody tag as ++ [' ', '/']⟩ where
  run := hr
  body := by
    intro c hc
    rcases List.mem_append.mp hc with hc | hc
    · exact of_mem_startBody ht ha hc
    · simp only [List.mem_cons, List.not_mem_nil, or_false] at hc
      rcases hc with rfl | rfl <;> decide
  spaced := by
    obtain ⟨c, cs, hc, -⟩ := exists_startBody_cons ht as
    have hslash : SingleSpaced ['/'] :=
      ⟨.of_not_blank (by simp [isBlank]), by simp [isBlank], by simp [isBlank]⟩
    exact ((singleSpaced_startBody ht ha).append_space (by simp [hc]) hslash (by simp)).toSpaced
  head := by
    obtain ⟨c, cs, hc, hn⟩ := exists_startBody_cons ht as
    rw [hc]
    simpa using ne_of_isNameStart hn

theorem valid_endRun : TaggedRun.Valid ⟨run, endBody tag⟩ where
  run := hr
  body := by
    intro c hc
    rcases List.mem_cons.mp hc with rfl | hc
    · decide
    · exact ne_of_isNamePart (isNamePart_of_isName ht c hc)
  spaced := Spaced.nil.append_cons (by decide) (singleSpaced_of_isName ht).toSpaced
  head := by simp [endBody]

end Runs

end IconCompiler.Markup
