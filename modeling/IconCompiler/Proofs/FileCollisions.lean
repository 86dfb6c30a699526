import IconCompiler.Proofs.BatchOutcome
import IconCompiler.Proofs.QuotedLiterals
import Mathlib.Data.List.Flatten

namespace IconCompiler

open IconCompiler.Markup

def OutputFile.place (f : OutputFile) : Option Target × String := (f.target, f.path)

theorem isIdentifier_of_compile {c : Config} {icon : Icon} {out : IconOutput} (h : c.compile icon = .ok out) :
    Script.isIdentifier out.componentName = true := by
  have hc := compileResult_compile c icon
  rw [h] at hc
  cases hc with
  | compiled hr hn => exact hn

theorem mem_icons_compileAll {c : Config} {icons : List Icon} {out : IconOutput} :
    out ∈ (c.compileAll icons).icons ↔ ∃ icon ∈ icons, c.compile icon = .ok out := by
  simp only [icons_compileAll, List.mem_filterMap, success?_eq_some_iff]

inductive ComponentFile (c : Config) (name : String) : OutputFile → Prop
  | component {t : Target} {ext : String} (ht : t ∈ c.targets) (he : (t, c.typescript, ext) ∈ componentExtensions)
      (source : String) : ComponentFile c name ⟨some t, name ++ "." ++ ext, source, .component⟩
  | declaration {t : Target} (ht : t ∈ c.targets) (hd : c.Declares t) (text : String) :
    ComponentFile c name ⟨some t, name ++ ".d.ts", text, .declaration⟩

section

variable {c : Config} {icon : Icon} {out : IconOutput} (h : c.compile icon = .ok out)
include h

theorem componentFile_of_mem_files {f : OutputFile} (hf : f ∈ out.files) :
    ComponentFile c out.componentName f := by
  obtain ⟨alone, ha⟩ := assembled_of_compile h
  obtain ⟨order, ho, hfiles⟩ := ha.files
  rw [hfiles] at hf
  obtain ⟨t, ht, hf⟩ := List.mem_flatMap.mp hf
  have ht : t ∈ c.targets := (ho.mem t).mp ht
  have hb := ha.block t
  generalize (alone t).files = fs at hb hf
  cases hb with
  | plain ext source he hd =>
    rw [List.mem_singleton.mp hf]
    exact .component ht he source
  | declared ext source text he hd =>
    rcases List.mem_cons.mp hf with rfl | hf
    · exact .component ht he source
    · rw [List.mem_singleton.mp hf]
      exact .declaration ht hd text

theorem exists_componentFile_mem_files {t : Target} (ht : t ∈ c.targets) :
    out.componentName = c.naming.resolved icon.name ∧
      ∃ doc, t.componentFile doc (c.component icon.name doc) ∈ out.files := by
  have hc := compileResult_compile c icon
  rw [h] at hc
  cases hc with
  | @compiled doc hr hn =>
    have ht : t ∈ c.distinctTargets := ((firstOccurrences_distinctTargets c.targets).mem t).mpr ht
    exact ⟨rfl, doc, List.mem_flatMap.mpr ⟨t, ht, mem_block_iff.mpr (.inl rfl)⟩⟩

end

theorem append_dot_inj {n m r s : String} (hn : Script.isIdentifier n = true) (hm : Script.isIdentifier m = true)
    (h : n ++ "." ++ r = m ++ "." ++ s) : n = m ∧ r = s := by
  rw [String.append_assoc, String.append_assoc, ← String.toList_inj] at h
  simp only [String.toList_append] at h
  have hdot : Script.isIdentifierPart '.' = false := by decide
  obtain ⟨hnm, hrs⟩ := Text.append_inj_of_all (Script.isIdentifierPart_of_isIdentifier hn)
    (Script.isIdentifierPart_of_isIdentifier hm) (by simpa using hdot) (by simpa using hdot) h
  refine ⟨String.toList_inj.mp hnm, String.toList_inj.mp ?_⟩
  simpa using hrs

theorem ComponentFile.eq_of_place {c : Config} {n m : String} {f g : OutputFile} (hf : ComponentFile c n f)
    (hg : ComponentFile c m g) (hn : Script.isIdentifier n = true) (hm : Script.isIdentifier m = true)
    (h : f.place = g.place) : n = m ∧ f.kind = g.kind := by
  cases hf with
  | component ht he source =>
    cases hg with
    | component hu he text =>
      simp only [OutputFile.place, Prod.mk.injEq] at h
      exact ⟨(append_dot_inj hn hm h.2).1, rfl⟩
    | declaration hu hd text =>
      simp only [OutputFile.place, Prod.mk.injEq, append_dts] at h
      exact absurd (append_dot_inj hn hm h.2).2 (extension_ne he)
  | declaration ht hd source =>
    cases hg with
    | component hu he text =>
      simp only [OutputFile.place, Prod.mk.injEq, append_dts] at h
      exact absurd (append_dot_inj hn hm h.2).2.symm (extension_ne he)
    | declaration hu hd text =>
      simp only [OutputFile.place, Prod.mk.injEq, append_dts] at h
      exact ⟨(append_dot_inj hn hm h.2).1, rfl⟩

structure BatchOutput.Clash (r : BatchOutput) (f g : OutputFile) : Prop where
  icons : ∃ a b, [a, b].Sublist r.icons ∧ a.componentName = b.componentName ∧ f ∈ a.files ∧ g ∈ b.files
  kind : f.kind = g.kind

theorem nodup_place_of_compile {c : Config} {icon : Icon} {out : IconOutput} (h : c.compile icon = .ok out) :
    out.files.Pairwise fun f g => f.place ≠ g.place := by
  obtain ⟨alone, ha⟩ := assembled_of_compile h
  exact List.pairwise_map.mp ha.nodup

theorem clash_of_place (c : Config) (icons : List Icon) :
    (c.compileAll icons).files.Pairwise fun f g => f.place = g.place → (c.compileAll icons).Clash f g := by
  rw [files_compileAll, List.pairwise_append, List.pairwise_flatMap]
  refine ⟨⟨?_, ?_⟩, ?_, ?_⟩
  · intro a ha
    obtain ⟨icon, -, hc⟩ := mem_icons_compileAll.mp ha
    exact (nodup_place_of_compile hc).imp fun hne he => absurd he hne
  · rw [List.pairwise_iff_forall_sublist]
    intro a b hab f hf g hg h
    obtain ⟨i, -, hi⟩ := mem_icons_compileAll.mp (hab.subset List.mem_cons_self)
    obtain ⟨j, -, hj⟩ := mem_icons_compileAll.mp (hab.subset (List.mem_cons_of_mem a List.mem_cons_self))
    have hnames := (componentFile_of_mem_files hi hf).eq_of_place (componentFile_of_mem_files hj hg)
      (isIdentifier_of_compile hi) (isIdentifier_of_compile hj) h
    exact ⟨⟨a, b, hab, hnames.1, hf, hg⟩, hnames.2⟩
  · split_ifs with hg hts
    · exact List.pairwise_pair.mpr fun h => absurd (Prod.mk.inj h).2 (show "icons.css" ≠ "theme.ts" by decide)
    · exact List.pairwise_pair.mpr fun h => absurd (Prod.mk.inj h).2 (show "icons.css" ≠ "theme.js" by decide)
    · exact .nil
  · intro f hf g hg h
    obtain ⟨a, ha, hf⟩ := List.mem_flatMap.mp hf
    obtain ⟨icon, -, hc⟩ := mem_icons_compileAll.mp ha
    have hnone : g.target = none := by
      split at hg
      · rcases List.mem_pair.mp hg with rfl | rfl <;> rfl
      · cases hg
    have hsome : f.target ≠ none := by
      cases componentFile_of_mem_files hc hf with
      | component ht he source => exact Option.some_ne_none _
      | declaration ht hd text => exact Option.some_ne_none _
    exact absurd ((Prod.mk.inj h).1.trans hnone) hsome

theorem sublist_flatMap {α β : Type} {f : α → List β} {l : List α} {a b : α} (h : [a, b].Sublist l) {x y : β}
    (hx : x ∈ f a) (hy : y ∈ f b) : [x, y].Sublist (l.flatMap f) := by
  have hab : ([a, b].flatMap f).Sublist (l.flatMap f) := h.flatMap f
  have hxy : ([x] ++ [y]).Sublist (f a ++ f b) :=
    (List.singleton_sublist.mpr hx).append (List.singleton_sublist.mpr hy)
  exact hxy.trans (by simpa using hab)

/-- Two files of a batch go to the same place exactly if there is a target and two components of the batch
have one name. Then they are files of the same kind for these two components; the style sheet and the theme
share their places with nothing. -/
theorem compileAll_collisions (c : Config) (icons : List Icon) :
    ((∃ f g, [f, g].Sublist (c.compileAll icons).files ∧ f.place = g.place) ↔
        c.targets ≠ [] ∧ ∃ a b, [a, b].Sublist (c.compileAll icons).icons ∧ a.componentName = b.componentName) ∧
      ∀ f g, [f, g].Sublist (c.compileAll icons).files → f.place = g.place → (c.compileAll icons).Clash f g := by
  have hclash : ∀ f g, [f, g].Sublist (c.compileAll icons).files → f.place = g.place →
      (c.compileAll icons).Clash f g :=
    fun f g => List.pairwise_iff_forall_sublist.mp (clash_of_place c icons)
  refine ⟨⟨?_, ?_⟩, hclash⟩
  · rintro ⟨f, g, hfg, h⟩
    obtain ⟨⟨a, b, hab, hnames, hf, -⟩, -⟩ := hclash f g hfg h
    obtain ⟨icon, -, hc⟩ := mem_icons_compileAll.mp (hab.subset List.mem_cons_self)
    refine ⟨?_, a, b, hab, hnames⟩
    cases componentFile_of_mem_files hc hf with
    | component ht he source => exact List.ne_nil_of_mem ht
    | declaration ht hd text => exact List.ne_nil_of_mem ht
  · rintro ⟨ht, a, b, hab, hnames⟩
    obtain ⟨t, ht⟩ := List.exists_mem_of_ne_nil _ ht
    obtain ⟨i, -, hi⟩ := mem_icons_compileAll.mp (hab.subset List.mem_cons_self)
    obtain ⟨j, -, hj⟩ := mem_icons_compileAll.mp (hab.subset (List.mem_cons_of_mem a List.mem_cons_self))
    obtain ⟨hin, d, hf⟩ := exists_componentFile_mem_files hi ht
    obtain ⟨hjn, e, hg⟩ := exists_componentFile_mem_files hj ht
    refine ⟨t.componentFile d (c.component i.name d), t.componentFile e (c.component j.name e), ?_, ?_⟩
    · rw [files_compileAll]
      exact (sublist_flatMap hab hf hg).trans (List.sublist_append_left _ _)
    · exact congrArg (fun name => (some t, name ++ "." ++ t.extension c.typescript))
        ((hin.symm.trans hnames).trans hjn)

theorem read_blank : Document.read "<svg></svg>" = .ok ⟨.empty, [], "<svg></svg>"⟩ := by decide +kernel

theorem compileAll_collisions_repeated :
    let c : Config := { Config.standard with targets := [.vue], features := { Features.none with rtl := true } }
    let icons : List Icon := [⟨"x", "<svg></svg>"⟩, ⟨"y", "<svg>"⟩, ⟨"X", "<svg><g/></svg>"⟩]
    ∃ f g, [f, g].Sublist (c.compileAll icons).files ∧ f.place = g.place ∧ (c.compileAll icons).Clash f g := by
  intro c icons
  have hfirst : ∃ out, c.compile ⟨"x", "<svg></svg>"⟩ = .ok out ∧ out.componentName = "X" := by
    have hn : c.naming.resolved "x" = "X" := by decide +kernel
    exact ⟨_, compile_of_isIdentifier read_blank (by rw [hn]; decide), hn⟩
  have hsecond : ∃ out, c.compile ⟨"X", "<svg><g/></svg>"⟩ = .ok out ∧ out.componentName = "X" := by
    have hr : Document.read "<svg><g/></svg>" = .ok ⟨.empty, [⟨"g", .empty, [], none⟩], "<svg><g/></svg>"⟩ := by
      decide +kernel
    have hn : c.naming.resolved "X" = "X" := by decide +kernel
    exact ⟨_, compile_of_isIdentifier hr (by rw [hn]; decide), hn⟩
  obtain ⟨a, ha, han⟩ := hfirst
  obtain ⟨b, hb, hbn⟩ := hsecond
  have hicons : [⟨"x", "<svg></svg>"⟩, ⟨"X", "<svg><g/></svg>"⟩].Sublist icons := by decide
  have hab := hicons.filterMap fun i => success? (c.compile i)
  rw [← icons_compileAll c icons] at hab
  simp only [List.filterMap_cons, List.filterMap_nil, ha, hb, success?_ok] at hab
  obtain ⟨hiff, hclash⟩ := compileAll_collisions c icons
  obtain ⟨f, g, hfg, h⟩ := hiff.mpr ⟨List.cons_ne_nil _ _, a, b, hab, han.trans hbn.symm⟩
  exact ⟨f, g, hfg, h, hclash f g hfg h⟩

end IconCompiler
