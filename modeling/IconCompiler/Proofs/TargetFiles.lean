import IconCompiler.Icon
import Mathlib.Data.List.Nodup

namespace IconCompiler

open IconCompiler.Markup

structure FirstOccurrences (ts us : List Target) : Prop where
  mem : ∀ t, t ∈ us ↔ t ∈ ts
  order : us.Pairwise fun a b => ts.idxOf a < ts.idxOf b

theorem FirstOccurrences.nodup {ts us : List Target} (h : FirstOccurrences ts us) : us.Nodup :=
  h.order.imp fun {a b} hlt hab => by
    rw [hab] at hlt
    exact Nat.lt_irrefl _ hlt

theorem FirstOccurrences.unique {ts us vs : List Target} (hu : FirstOccurrences ts us) (hv : FirstOccurrences ts vs) :
    us = vs := by
  have hp : us.Perm vs := (List.perm_ext_iff_of_nodup hu.nodup hv.nodup).mpr fun t => (hu.mem t).trans (hv.mem t).symm
  exact hp.eq_of_pairwise (fun a b _ _ hab hba => absurd hba (Nat.lt_asymm hab)) hu.order hv.order

theorem firstOccurrences_distinctTargets (ts : List Target) : FirstOccurrences ts (distinctTargets ts) := by
  induction ts with
  | nil => exact ⟨fun t => Iff.rfl, .nil⟩
  | cons t ts ih =>
    refine ⟨fun u => ?_, ?_⟩
    · by_cases hu : u = t <;> simp [distinctTargets, ih.mem, hu]
    · have hne : ∀ u ∈ (distinctTargets ts).filter fun u => u ≠ t, u ≠ t := by simp
      have hidx : ∀ u, u ≠ t → (t :: ts).idxOf u = ts.idxOf u + 1 :=
        fun u hu => List.idxOf_cons_ne ts (Ne.symm hu)
      rw [distinctTargets, List.pairwise_cons]
      refine ⟨fun u hu => ?_, ?_⟩
      · rw [List.idxOf_cons_self, hidx u (hne u hu)]
        exact Nat.succ_pos _
      · refine (ih.order.filter _).imp_of_mem fun {a b} ha hb hlt => ?_
        rw [hidx a (hne a ha), hidx b (hne b hb)]
        exact Nat.succ_lt_succ hlt

def Naming.resolved (n : Naming) (icon : String) : String := n.lead ++ Text.pascalCase icon ++ n.trail

def Config.component (c : Config) (icon : String) (doc : Document) : Component where
  name := c.naming.resolved icon
  viewBox := doc.viewBox?.getD defaultViewBox
  features := ⟨c.features.animation, c.features.theming, c.defaults.customClass, c.defaults.customStyle,
    c.features.rtl⟩
  typescript := c.typescript
  defaultSize := c.defaults.size
  defaultColor := c.defaults.color
  baseClass := c.baseClass

theorem Component.ofIcon_eq (c : Config) (icon : String) (doc : Document) :
    Component.ofIcon c icon doc =
      if Script.isIdentifier (c.naming.resolved icon) then .ok (c.component icon doc)
      else .error (.invalidName icon (c.naming.resolved icon)) := by
  unfold Component.ofIcon Naming.componentName
  dsimp only
  split <;> rename_i h <;> simp [Naming.resolved, h, Except.map, Config.component]

def Config.block (c : Config) (icon : String) (doc : Document) (t : Target) : List OutputFile :=
  t.files doc (c.component icon doc) c.separateDeclarations

inductive CompileResult (c : Config) (icon : Icon) : Except CompileError IconOutput → Prop
  | source {e : SourceError} (hr : Document.read icon.svg = .error e) : CompileResult c icon (.error (.source e))
  | name {doc : Document} (hr : Document.read icon.svg = .ok doc)
      (hn : Script.isIdentifier (c.naming.resolved icon.name) = false) :
      CompileResult c icon (.error (.generation (.invalidName icon.name (c.naming.resolved icon.name))))
  | compiled {doc : Document} (hr : Document.read icon.svg = .ok doc)
      (hn : Script.isIdentifier (c.naming.resolved icon.name) = true) :
      CompileResult c icon (.ok ⟨icon.name, c.naming.resolved icon.name, doc.digest, doc.review.warnings,
        c.distinctTargets.flatMap (c.block icon.name doc)⟩)

section

variable {c : Config} {icon : Icon}

theorem compile_of_error {e : SourceError} (hr : Document.read icon.svg = .error e) :
    c.compile icon = .error (.source e) := by
  simp [Config.compile, hr]

variable {doc : Document} (hr : Document.read icon.svg = .ok doc)
include hr

theorem compile_of_not_isIdentifier (hn : Script.isIdentifier (c.naming.resolved icon.name) = false) :
    c.compile icon = .error (.generation (.invalidName icon.name (c.naming.resolved icon.name))) := by
  simp [Config.compile, hr, Component.ofIcon_eq, hn]

theorem compile_of_isIdentifier (hn : Script.isIdentifier (c.naming.resolved icon.name) = true) :
    c.compile icon = .ok ⟨icon.name, c.naming.resolved icon.name, doc.digest, doc.review.warnings,
      c.distinctTargets.flatMap (c.block icon.name doc)⟩ := by
  simp only [Config.compile, hr, Component.ofIcon_eq, if_pos hn]
  rfl

theorem compile_single (hn : Script.isIdentifier (c.naming.resolved icon.name) = true) (t : Target) :
    ({ c with targets := [t] } : Config).compile icon = .ok ⟨icon.name, c.naming.resolved icon.name,
      doc.digest, doc.review.warnings, c.block icon.name doc t⟩ := by
  rw [compile_of_isIdentifier (c := { c with targets := [t] }) hr hn]
  simp only [Config.distinctTargets, distinctTargets, List.filter_nil, List.flatMap_singleton]
  rfl

end

theorem compileResult_compile (c : Config) (icon : Icon) : CompileResult c icon (c.compile icon) := by
  cases hr : Document.read icon.svg with
  | error e =>
    rw [compile_of_error hr]
    exact .source hr
  | ok doc =>
    cases hn : Script.isIdentifier (c.naming.resolved icon.name) with
    | false =>
      rw [compile_of_not_isIdentifier hr hn]
      exact .name hr hn
    | true =>
      rw [compile_of_isIdentifier hr hn]
      exact .compiled hr hn

def Config.Declares (c : Config) (t : Target) : Prop :=
  c.features.dts = true ∧ c.typescript = false ∧ t ≠ .svelte

def componentExtensions : List (Target × Bool × String) :=
  [(.react, true, "tsx"), (.react, false, "jsx"), (.vue, true, "ts"), (.vue, false, "js"),
    (.svelte, true, "svelte"), (.svelte, false, "svelte"), (.webComponent, true, "ts"), (.webComponent, false, "js")]

theorem extension_mem_componentExtensions (t : Target) (typescript : Bool) :
    (t, typescript, t.extension typescript) ∈ componentExtensions := by
  cases t <;> cases typescript <;> decide

theorem extension_ne {t : Target} {typescript : Bool} {ext : String} (h : (t, typescript, ext) ∈ componentExtensions) :
    ext ≠ "d.ts" := by
  have hall : ∀ row ∈ componentExtensions, row.2.2 ≠ "d.ts" := by decide
  exact hall _ h

theorem append_dts (name : String) : name ++ ".d.ts" = name ++ "." ++ "d.ts" := by
  rw [String.append_assoc]
  rfl

inductive Block (c : Config) (name : String) (t : Target) : List OutputFile → Prop
  | plain (ext source : String) (he : (t, c.typescript, ext) ∈ componentExtensions) (h : ¬ c.Declares t) :
    Block c name t [⟨some t, name ++ "." ++ ext, source, .component⟩]
  | declared (ext source declaration : String) (he : (t, c.typescript, ext) ∈ componentExtensions)
      (h : c.Declares t) :
    Block c name t [⟨some t, name ++ "." ++ ext, source, .component⟩,
      ⟨some t, name ++ ".d.ts", declaration, .declaration⟩]

theorem Target.exists_declarations {t : Target} (h : t ≠ .svelte) (component : Component) :
    ∃ text, t.declarations? component = some text := by
  cases t with
  | react => exact ⟨_, rfl⟩
  | vue => exact ⟨_, rfl⟩
  | svelte => exact absurd rfl h
  | webComponent => exact ⟨_, rfl⟩

theorem separateDeclarations_iff {c : Config} {icon : String} {doc : Document} :
    (c.separateDeclarations && !(c.component icon doc).typescript) = true ↔
      c.features.dts = true ∧ c.typescript = false := by
  simp [Config.separateDeclarations, Config.component]

theorem block_of_config (c : Config) (icon : String) (doc : Document) (t : Target) :
    Block c (c.naming.resolved icon) t (c.block icon doc t) := by
  have he := extension_mem_componentExtensions t c.typescript
  unfold Config.block Target.files
  by_cases h : c.Declares t
  · obtain ⟨text, ht⟩ := Target.exists_declarations h.2.2 (c.component icon doc)
    rw [if_pos (separateDeclarations_iff.mpr ⟨h.1, h.2.1⟩), Target.declarationFile?, ht]
    exact .declared _ _ text he h
  · split_ifs with hs
    · have ht : t = .svelte := by
        by_contra hn
        obtain ⟨hd, hts⟩ := separateDeclarations_iff.mp hs
        exact h ⟨hd, hts, hn⟩
      subst ht
      exact .plain _ _ he h
    · exact .plain _ _ he h

namespace Block

variable {c : Config} {name : String} {t : Target} {fs : List OutputFile}

theorem target_eq (h : Block c name t fs) : ∀ f ∈ fs, f.target = some t := by
  cases h <;> simp

theorem nodup (h : Block c name t fs) : (fs.map fun f => (f.target, f.path)).Nodup := by
  cases h with
  | plain ext source he h => simp
  | declared ext source declaration he h =>
    simpa [append_dts] using extension_ne he

theorem filter_target (h : Block c name t fs) (u : Target) :
    (fs.filter fun f => f.target == some u) = if t = u then fs else [] := by
  split_ifs with hu
  · exact List.filter_eq_self.mpr fun f hf => by simp [h.target_eq f hf, hu]
  · exact List.filter_eq_nil_iff.mpr fun f hf => by simp [h.target_eq f hf, hu]

end Block

theorem flatMap_ite_of_nodup {α β : Type} [DecidableEq β] {f : β → List α} {us : List β} (hn : us.Nodup) (t : β) :
    (us.flatMap fun u => if u = t then f u else []) = if t ∈ us then f t else [] := by
  induction us with
  | nil => simp
  | cons u us ih =>
    obtain ⟨hu, hn⟩ := List.nodup_cons.mp hn
    rw [List.flatMap_cons, ih hn]
    by_cases ht : u = t
    · subst ht
      simp [hu]
    · simp [ht, Ne.symm ht]

structure Assembled (c : Config) (icon : Icon) (out : IconOutput) (alone : Target → IconOutput) : Prop where
  name : out.componentName = c.naming.resolved icon.name
  compiled : ∀ t, ({ c with targets := [t] } : Config).compile icon = .ok (alone t)
  files : ∃ order, FirstOccurrences c.targets order ∧ out.files = order.flatMap fun t => (alone t).files
  block : ∀ t, Block c out.componentName t (alone t).files
  nodup : (out.files.map fun f => (f.target, f.path)).Nodup
  filesFor : ∀ t, out.filesFor t = if t ∈ c.targets then (alone t).files else []

theorem assembled_of_compile {c : Config} {icon : Icon} {out : IconOutput}
    (h : c.compile icon = .ok out) : ∃ alone, Assembled c icon out alone := by
  have hc := compileResult_compile c icon
  rw [h] at hc
  cases hc with
  | @compiled doc hr hn =>
    have ho := firstOccurrences_distinctTargets c.targets
    have hb := block_of_config c icon.name doc
    let alone (t : Target) : IconOutput := ⟨icon.name, c.naming.resolved icon.name, doc.digest,
      doc.review.warnings, c.block icon.name doc t⟩
    refine ⟨alone, rfl, compile_single hr hn, ⟨_, ho, rfl⟩, hb, ?_, fun t => ?_⟩
    · rw [List.map_flatMap, List.nodup_flatMap]
      refine ⟨fun t _ => (hb t).nodup, ho.nodup.imp fun {t u} htu => ?_⟩
      intro key ht hu
      obtain ⟨f, hf, rfl⟩ := List.mem_map.mp ht
      obtain ⟨g, hg, he⟩ := List.mem_map.mp hu
      apply htu
      have := (Prod.mk.inj he).1
      rw [(hb t).target_eq f hf, (hb u).target_eq g hg] at this
      exact (Option.some.inj this).symm
    · rw [IconOutput.filesFor, List.filter_flatMap]
      simp only [(hb _).filter_target]
      rw [Config.distinctTargets, flatMap_ite_of_nodup ho.nodup]
      simp only [ho.mem, alone]

/-- An icon is compiled exactly when its source can be read and its component has an identifier for its
name; a source that cannot be read is reported first. Its files are then those that it has for each of its
targets alone, in the order of the targets. -/
theorem compile_targets (c : Config) (icon : Icon) :
    ((∃ out, c.compile icon = .ok out) ↔
        (∃ doc, Document.read icon.svg = .ok doc) ∧
          Script.isIdentifier (c.naming.resolved icon.name) = true) ∧
      (∀ e, Document.read icon.svg = .error e → c.compile icon = .error (.source e)) ∧
      (∀ doc, Document.read icon.svg = .ok doc →
        Script.isIdentifier (c.naming.resolved icon.name) = false →
          c.compile icon = .error (.generation (.invalidName icon.name (c.naming.resolved icon.name)))) ∧
      ∀ out, c.compile icon = .ok out → ∃ alone, Assembled c icon out alone := by
  refine ⟨⟨?_, ?_⟩, fun e => compile_of_error, fun doc => compile_of_not_isIdentifier,
    fun out => assembled_of_compile⟩
  · rintro ⟨out, h⟩
    have hc := compileResult_compile c icon
    rw [h] at hc
    cases hc with
    | compiled hr hn => exact ⟨⟨_, hr⟩, hn⟩
  · rintro ⟨⟨doc, hr⟩, hn⟩
    exact ⟨_, compile_of_isIdentifier hr hn⟩

theorem compile_targets_repeated :
    let c : Config := { Config.standard with
      targets := [.vue, .svelte, .vue], typescript := false, features := { Features.none with dts := true } }
    let icon : Icon := ⟨"home", "<svg><path/></svg>"⟩
    ∃ out alone, c.compile icon = .ok out ∧ Assembled c icon out alone ∧ out.componentName = "Home" ∧
      out.files.map (fun f => (f.target, f.path, f.kind)) = [(some .vue, "Home.js", .component),
        (some .vue, "Home.d.ts", .declaration), (some .svelte, "Home.svelte", .component)] ∧
      out.filesFor .vue = (alone .vue).files ∧ out.filesFor .react = [] := by
  intro c icon
  have hr : Document.read icon.svg =
      .ok ⟨.empty, [⟨"path", .empty, [], none⟩], "<svg><path/></svg>"⟩ := by
    decide +kernel
  have hn : c.naming.resolved icon.name = "Home" := by decide +kernel
  obtain ⟨hi, -, -, ha⟩ := compile_targets c icon
  obtain ⟨out, ho⟩ := hi.mpr ⟨⟨_, hr⟩, by rw [hn]; decide⟩
  obtain ⟨alone, hs⟩ := ha out ho
  have hname := hs.name.trans hn
  have hvue {fs : List OutputFile} (hb : Block c "Home" .vue fs) : fs.map (fun f => (f.target, f.path, f.kind)) =
      [(some .vue, "Home.js", .component), (some .vue, "Home.d.ts", .declaration)] := by
    cases hb with
    | plain ext source he h => exact absurd ⟨rfl, rfl, by decide⟩ h
    | declared ext source declaration he h =>
      obtain rfl : ext = "js" := by simpa [componentExtensions, c] using he
      rfl
  have hsvelte {fs : List OutputFile} (hb : Block c "Home" .svelte fs) :
      fs.map (fun f => (f.target, f.path, f.kind)) = [(some .svelte, "Home.svelte", .component)] := by
    cases hb with
    | plain ext source he h =>
      obtain rfl : ext = "svelte" := by simpa [componentExtensions, c] using he
      rfl
    | declared ext source declaration he h => exact absurd rfl h.2.2
  refine ⟨out, alone, ho, hs, hname, ?_, hs.filesFor .vue, hs.filesFor .react⟩
  have hb := hs.block
  rw [hname] at hb
  obtain ⟨order, horder, hfiles⟩ := hs.files
  obtain rfl : order = [.vue, .svelte] := horder.unique (firstOccurrences_distinctTargets c.targets)
  rw [hfiles, List.map_flatMap, List.flatMap_cons, List.flatMap_singleton, hvue (hb .vue), hsvelte (hb .svelte)]
  rfl

end IconCompiler
