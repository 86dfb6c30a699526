import IconCompiler.Proofs.Names
import Mathlib.Data.List.Forall2
import Mathlib.Data.Set.Function

namespace IconCompiler

namespace Text

def SameLetter (c d : Char) : Prop :=
  c = d ∨ (c.isAlpha = true ∧ d.isAlpha = true ∧ (c.toNat = d.toNat + 32 ∨ d.toNat = c.toNat + 32))

theorem toLower_eq_toLower_iff {c d : Char} : c.toLower = d.toLower ↔ SameLetter c d := by
  rw [← Char.toNat_inj, toNat_toLower, toNat_toLower, SameLetter, isAlpha_iff, isAlpha_iff, ← Char.toNat_inj]
  split <;> split <;> omega

def SameLetters (s t : String) : Prop := List.Forall₂ SameLetter s.toList t.toList

theorem asciiLower_eq_asciiLower_iff {s t : String} : asciiLower s = asciiLower t ↔ SameLetters s t := by
  have hrel : SameLetter = fun c d => c.toLower = d.toLower := by
    funext c d
    exact propext toLower_eq_toLower_iff.symm
  rw [asciiLower, asciiLower, String.ofList_inj, lowerAscii, lowerAscii, ← List.forall₂_eq_eq_eq,
    List.forall₂_map_left_iff, List.forall₂_map_right_iff, SameLetters, hrel]

end Text

namespace Markup

open IconCompiler.Text

def Tabled (name : String) : Prop := ∃ s ∈ spellings, SameLetters s.source name

theorem asciiLower_source : ∀ s ∈ spellings, asciiLower s.source = s.source := by
  decide +kernel

theorem source_eq_asciiLower_iff {s : Spelling} (hs : s ∈ spellings) {name : String} :
    s.source = asciiLower name ↔ SameLetters s.source name := by
  rw [← asciiLower_eq_asciiLower_iff, asciiLower_source s hs]

theorem canonicalName_lookup (name : String) :
    (∃ s ∈ spellings, SameLetters s.source name ∧ canonicalName name = s.canonical) ∨
      (¬ Tabled name ∧ canonicalName name = name) := by
  unfold canonicalName
  split
  · next s hs =>
    have hm := List.mem_of_find?_eq_some hs
    have hsource := List.find?_some hs
    rw [beq_iff_eq, source_eq_asciiLower_iff hm] at hsource
    exact .inl ⟨s, hm, hsource, rfl⟩
  · next hs =>
    refine .inr ⟨?_, rfl⟩
    rintro ⟨s, hm, hl⟩
    exact List.find?_eq_none.mp hs s hm (beq_iff_eq.mpr ((source_eq_asciiLower_iff hm).mpr hl))

theorem canonicalName_of_sameLetters {s : Spelling} (hs : s ∈ spellings) {name : String}
    (h : SameLetters s.source name) : canonicalName name = s.canonical := by
  rcases canonicalName_lookup name with ⟨r, hr, hl, hname⟩ | ⟨hn, -⟩
  · -- The entry that is found has the same source, and the table gives a source one canonical name.
    have hsource : r.source = s.source :=
      ((source_eq_asciiLower_iff hr).mpr hl).trans ((source_eq_asciiLower_iff hs).mpr h).symm
    rw [hname, ← (spellings_valid r hr).2.2.1, hsource, (spellings_valid s hs).2.2.1]
  · exact absurd ⟨s, hs, h⟩ hn

theorem canonicalName_eq_self_iff {name : String} :
    canonicalName name = name ↔ ¬ Tabled name ∨ ∃ s ∈ spellings, s.canonical = name := by
  constructor
  · intro h
    rcases canonicalName_lookup name with ⟨s, hs, -, hname⟩ | ⟨hn, -⟩
    · exact .inr ⟨s, hs, hname.symm.trans h⟩
    · exact .inl hn
  · rintro (h | ⟨s, hs, rfl⟩)
    · rcases canonicalName_lookup name with ⟨s, hs, hl, -⟩ | ⟨-, hname⟩
      · exact absurd ⟨s, hs, hl⟩ h
      · exact hname
    · exact (spellings_valid s hs).2.2.2

/-- The canonical name of a canonical name is the name itself, and so is that of its spelling in markup, which
therefore tells canonical names apart. A name of the table has its canonical name in any case of its letters; the
canonical names are the names outside the table and those that the table gives. -/
theorem spelling_maps (name : String) :
    canonicalName (canonicalName name) = canonicalName name ∧
      canonicalName (markupName (canonicalName name)) = canonicalName name ∧
      Set.InjOn markupName {c | canonicalName c = c} ∧
      (canonicalName name = name ↔ ¬ Tabled name ∨ ∃ s ∈ spellings, s.canonical = name) ∧
      (∀ s ∈ spellings, SameLetters s.source name → canonicalName name = s.canonical) ∧
      ∀ other, Tabled name → Tabled other → SameLetters name other →
        canonicalName name = canonicalName other ∧ kindOf (canonicalName name) = kindOf (canonicalName other) := by
  refine ⟨canonicalName_canonicalName name, canonicalName_markupName (canonicalName_canonicalName name),
    fun m hm n hn h => markupName_inj hm hn h, canonicalName_eq_self_iff,
    fun s hs h => canonicalName_of_sameLetters hs h, ?_⟩
  rintro other ⟨s, hs, hname⟩ - hsame
  have hother : SameLetters s.source other := by
    rw [← asciiLower_eq_asciiLower_iff] at hname hsame ⊢
    exact hname.trans hsame
  have heq : canonicalName name = canonicalName other := by
    rw [canonicalName_of_sameLetters hs hname, canonicalName_of_sameLetters hs hother]
  exact ⟨heq, congrArg kindOf heq⟩

theorem spelling_maps_mixedCase :
    Tabled "STROKE-width" ∧ Tabled "Stroke-Width" ∧ SameLetters "STROKE-width" "Stroke-Width" ∧
      canonicalName "STROKE-width" = canonicalName "Stroke-Width" ∧
      kindOf (canonicalName "STROKE-width") = kindOf (canonicalName "Stroke-Width") := by
  have hs : ⟨"stroke-width", "strokeWidth"⟩ ∈ spellings := by decide
  have hupper : Tabled "STROKE-width" := ⟨_, hs, asciiLower_eq_asciiLower_iff.mp (by decide +kernel)⟩
  have hmixed : Tabled "Stroke-Width" := ⟨_, hs, asciiLower_eq_asciiLower_iff.mp (by decide +kernel)⟩
  have hsame : SameLetters "STROKE-width" "Stroke-Width" := asciiLower_eq_asciiLower_iff.mp (by decide +kernel)
  exact ⟨hupper, hmixed, hsame, (spelling_maps "STROKE-width").2.2.2.2.2 "Stroke-Width" hupper hmixed hsame⟩

end Markup

end IconCompiler
