import IconCompiler.Text.Scan
import Mathlib.Data.List.TakeDrop
import Mathlib.Data.List.TakeWhile

namespace IconCompiler.Text

theorem span_append {p : Char → Bool} {cs ds : List Char} (hc : ∀ c ∈ cs, p c = true)
    (hd : ∀ d ∈ ds.head?, p d = false) : (cs ++ ds).span p = (cs, ds) := by
  rw [List.span_eq_takeWhile_dropWhile, List.takeWhile_append_of_pos hc,
    List.dropWhile_append_of_pos hc]
  cases ds with
  | nil => simp
  | cons d ds => simp [hd d rfl]

theorem append_inj_of_all {p : Char → Bool} {cs ds r r' : List Char} (hc : ∀ c ∈ cs, p c = true)
    (hd : ∀ c ∈ ds, p c = true) (hr : ∀ c ∈ r.head?, p c = false) (hr' : ∀ c ∈ r'.head?, p c = false)
    (h : cs ++ r = ds ++ r') : cs = ds ∧ r = r' := by
  have hs := span_append hc hr
  rw [h, span_append hd hr'] at hs
  exact ⟨(Prod.mk.inj hs).1.symm, (Prod.mk.inj hs).2.symm⟩

theorem span_eq_self {p : Char → Bool} {cs : List Char} (hc : ∀ c ∈ cs, p c = true) :
    cs.span p = (cs, []) := by
  have h := span_append hc (show ∀ d ∈ ([] : List Char).head?, p d = false by simp)
  rwa [List.append_nil] at h

theorem span_fst_isPrefix (p : Char → Bool) (cs : List Char) : (cs.span p).1 <+: cs := by
  rw [List.span_eq_takeWhile_dropWhile]
  exact List.takeWhile_prefix p

theorem span_snd_isSuffix (p : Char → Bool) (cs : List Char) : (cs.span p).2 <:+ cs := by
  rw [List.span_eq_takeWhile_dropWhile]
  exact List.dropWhile_suffix p

theorem of_mem_span_fst {p : Char → Bool} {cs : List Char} {c : Char} (h : c ∈ (cs.span p).1) :
    p c = true := by
  rw [List.span_eq_takeWhile_dropWhile] at h
  exact List.mem_takeWhile_imp h

theorem mem_dropWhile {p : Char → Bool} {c : Char} (hp : p c = false) {cs : List Char} (h : c ∈ cs) :
    c ∈ cs.dropWhile p := by
  rw [← List.takeWhile_append_dropWhile (p := p) (l := cs)] at h
  rcases List.mem_append.mp h with ht | hd
  · rw [List.mem_takeWhile_imp ht] at hp
    cases hp
  · exact hd

theorem mem_span_snd {p : Char → Bool} {c : Char} (hp : p c = false) {cs : List Char} (h : c ∈ cs) :
    c ∈ (cs.span p).2 := by
  rw [List.span_eq_takeWhile_dropWhile]
  exact mem_dropWhile hp h

theorem exists_of_item_mem_scanFrom {α : Type} {read? : List Char → Option (α × List Char)}
    {skip : Nat} {cs : List Char} {a : α} (h : Piece.item a ∈ scanFrom read? skip cs) :
    ∃ ds rest, ds <:+ cs ∧ read? ds = some (a, rest) := by
  induction cs generalizing skip with
  | nil => simp [scanFrom] at h
  | cons c cs ih =>
    have hs : cs <:+ c :: cs := List.suffix_cons c cs
    cases skip with
    | succ skip =>
      obtain ⟨ds, rest, hd, hr⟩ := ih h
      exact ⟨ds, rest, hd.trans hs, hr⟩
    | zero =>
      simp only [scanFrom] at h
      split at h
      · next b rest hr =>
        rcases List.mem_cons.mp h with he | h
        · cases he
          exact ⟨c :: cs, rest, List.suffix_rfl, hr⟩
        · obtain ⟨ds, rest, hd, hr⟩ := ih h
          exact ⟨ds, rest, hd.trans hs, hr⟩
      · rcases List.mem_cons.mp h with he | h
        · cases he
        · obtain ⟨ds, rest, hd, hr⟩ := ih h
          exact ⟨ds, rest, hd.trans hs, hr⟩

theorem exists_of_mem_items {α : Type} {read? : List Char → Option (α × List Char)}
    {cs : List Char} {a : α} (h : a ∈ (scan read? cs).filterMap Piece.item?) :
    ∃ ds rest, ds <:+ cs ∧ read? ds = some (a, rest) := by
  obtain ⟨piece, hp, ha⟩ := List.mem_filterMap.mp h
  cases piece with
  | plain c => cases ha
  | item b =>
    cases ha
    exact exists_of_item_mem_scanFrom hp

theorem scan_eq_plain {α : Type} {read? : List Char → Option (α × List Char)} {cs : List Char}
    (h : ∀ ds, ds <:+ cs → read? ds = none) : scan read? cs = cs.map Piece.plain := by
  induction cs with
  | nil => rfl
  | cons c cs ih =>
    rw [scan_cons_of_none (h _ List.suffix_rfl), ih fun ds hd => h ds (hd.trans (List.suffix_cons c cs))]
    rfl

end IconCompiler.Text
