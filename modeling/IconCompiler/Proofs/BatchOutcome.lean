import IconCompiler.Proofs.TargetFiles

namespace IconCompiler

open IconCompiler.Markup

theorem icon?_of_compile {c : Config} {icon : Icon} {e : CompileError} (h : c.compile icon = .error e) :
    e.icon? = none := by
  have hc := compileResult_compile c icon
  rw [h] at hc
  cases hc with
  | source hr => rfl
  | name hr hn => rfl

theorem name_of_compile {c : Config} {icon : Icon} {out : IconOutput} (h : c.compile icon = .ok out) :
    out.name = icon.name := by
  have hc := compileResult_compile c icon
  rw [h] at hc
  cases hc with
  | compiled hr hn => rfl

theorem CompileError.named_of_icon? {e : CompileError} (h : e.icon? = none) (name : String) :
    e.named name = .icon name e := by
  cases e with
  | source e => rfl
  | generation e => rfl
  | icon other inner => cases h

@[simp]
theorem success?_ok (out : IconOutput) : success? (.ok out) = some out := rfl

@[simp]
theorem success?_error (e : CompileError) : success? (.error e) = none := rfl

@[simp]
theorem failure?_ok (out : IconOutput) : failure? (.ok out) = none := rfl

@[simp]
theorem failure?_error (e : CompileError) : failure? (.error e) = some e := rfl

theorem success?_attempt (c : Config) (icon : Icon) : success? (c.attempt icon) = success? (c.compile icon) := by
  unfold Config.attempt
  cases c.compile icon <;> rfl

theorem failure?_attempt (c : Config) (icon : Icon) :
    failure? (c.attempt icon) = (failure? (c.compile icon)).map (.icon icon.name) := by
  unfold Config.attempt
  cases h : c.compile icon with
  | ok out => rfl
  | error e => exact congrArg some (CompileError.named_of_icon? (icon?_of_compile h) icon.name)

theorem icons_compileAll (c : Config) (icons : List Icon) :
    (c.compileAll icons).icons = icons.filterMap fun i => success? (c.compile i) := by
  simp only [Config.compileAll, List.filterMap_map, Function.comp_def, success?_attempt]

theorem failures_compileAll (c : Config) (icons : List Icon) :
    (c.compileAll icons).failures = icons.filterMap fun i => (failure? (c.compile i)).map (.icon i.name) := by
  simp only [Config.compileAll, List.filterMap_map, Function.comp_def, failure?_attempt]

def CompileError.verdict? : CompileError → Option (String × Except CompileError IconOutput)
  | .icon name e => some (name, .error e)
  | _ => none

def BatchOutput.verdicts (r : BatchOutput) : List (String × Except CompileError IconOutput) :=
  r.icons.map (fun o => (o.name, .ok o)) ++ r.failures.filterMap CompileError.verdict?

theorem verdicts_compileAll (c : Config) (icons : List Icon) :
    (c.compileAll icons).verdicts.Perm (icons.map fun i => (i.name, c.compile i)) := by
  rw [BatchOutput.verdicts, icons_compileAll, failures_compileAll]
  induction icons with
  | nil => exact .nil
  | cons icon icons ih =>
    cases h : c.compile icon with
    | ok out =>
      simp only [List.filterMap_cons, List.map_cons, h, success?_ok, failure?_ok, Option.map_none,
        name_of_compile h]
      exact ih.cons _
    | error e =>
      simp only [List.filterMap_cons, List.map_cons, h, success?_error, failure?_error, Option.map_some,
        CompileError.verdict?]
      -- a failure stands behind all compiled icons, also behind those that come after it in the batch
      exact List.perm_middle.trans (ih.cons _)

theorem files_compileAll (c : Config) (icons : List Icon) :
    (c.compileAll icons).files = (c.compileAll icons).icons.flatMap IconOutput.files ++
      if c.features.animation ∨ c.features.theming ∨ c.features.rtl then
        [⟨none, "icons.css", Stylesheet.text c, .stylesheet⟩,
          ⟨none, if c.typescript then "theme.ts" else "theme.js", ThemeModule.text c, .theme⟩]
      else [] := by
  have hg : c.needsGlue = true ↔ c.features.animation ∨ c.features.theming ∨ c.features.rtl := by
    simp [Config.needsGlue, or_assoc]
  rw [BatchOutput.files]
  congr 1
  change (c.glue?.map Glue.files).getD [] = _
  simp only [Config.glue?, hg]
  split <;> rfl

theorem success?_eq_some_iff {r : Except CompileError IconOutput} {out : IconOutput} :
    success? r = some out ↔ r = .ok out := by
  cases r <;> simp

theorem mem_block_iff {c : Config} {icon : String} {doc : Document} {t : Target} {f : OutputFile} :
    f ∈ c.block icon doc t ↔ f = t.componentFile doc (c.component icon doc) ∨
      (c.features.dts = true ∧ c.typescript = false) ∧
        t.declarationFile? (c.component icon doc) = some f := by
  rw [Config.block, Target.files, List.mem_cons]
  simp only [separateDeclarations_iff]
  split_ifs with h <;> simp [h]

/-- A batch gives what every icon gives alone, in the order of the icons: the compiled ones, and for every
other one its error under its name. The files are those of the icons, with the style sheet and the theme
after them if a feature needs these. So a batch of two parts is one after the other. -/
theorem compileAll_outcome (c : Config) (icons : List Icon) :
    (c.compileAll icons).icons = icons.filterMap (fun i => success? (c.compile i)) ∧
      (c.compileAll icons).failures = icons.filterMap (fun i => (failure? (c.compile i)).map (.icon i.name)) ∧
      (∀ i e, c.compile i = .error e → e.icon? = none) ∧
      (c.compileAll icons).verdicts.Perm (icons.map fun i => (i.name, c.compile i)) ∧
      ((c.compileAll icons).files = (c.compileAll icons).icons.flatMap IconOutput.files ++
        if c.features.animation ∨ c.features.theming ∨ c.features.rtl then
          [⟨none, "icons.css", Stylesheet.text c, .stylesheet⟩,
            ⟨none, if c.typescript then "theme.ts" else "theme.js", ThemeModule.text c, .theme⟩]
        else []) ∧
      ∀ more, (c.compileAll (icons ++ more)).icons = (c.compileAll icons).icons ++ (c.compileAll more).icons ∧
        (c.compileAll (icons ++ more)).failures =
          (c.compileAll icons).failures ++ (c.compileAll more).failures := by
  refine ⟨icons_compileAll c icons, failures_compileAll c icons, fun i e => icon?_of_compile,
    verdicts_compileAll c icons, files_compileAll c icons, fun more => ⟨?_, ?_⟩⟩
  · simp only [icons_compileAll, List.filterMap_append]
  · simp only [failures_compileAll, List.filterMap_append]

theorem compileAll_outcome_mixed :
    let bad : Icon := ⟨"bad", "<div></div>"⟩
    let good : Icon := ⟨"home", "<svg></svg>"⟩
    let r := Config.standard.compileAll [bad, good, bad]
    r.icons.map IconOutput.name = ["home"] ∧
      r.failures = [.icon "bad" (.source (.rootElement "div")), .icon "bad" (.source (.rootElement "div"))] ∧
      r.verdicts.length = 3 ∧ CompileError.icon? (.source (.rootElement "div")) = none ∧
      r.files = r.icons.flatMap IconOutput.files := by
  intro bad good r
  have hbad : Config.standard.compile bad = .error (.source (.rootElement "div")) :=
    compile_of_error (by decide +kernel)
  have hread : Document.read good.svg = .ok ⟨.empty, [], "<svg></svg>"⟩ := by decide +kernel
  have hname : Script.isIdentifier (Config.standard.naming.resolved good.name) = true := by decide +kernel
  have hgood := compile_of_isIdentifier hread hname
  obtain ⟨hi, hf, hn, hv, hfiles, -⟩ := compileAll_outcome Config.standard [bad, good, bad]
  refine ⟨?_, ?_, hv.length_eq, hn bad _ hbad, ?_⟩
  · rw [hi]
    simp only [List.filterMap_cons, List.filterMap_nil, hbad, hgood, success?_ok, success?_error]
    rfl
  · rw [hf]
    simp only [List.filterMap_cons, List.filterMap_nil, hbad, hgood, failure?_ok, failure?_error]
    rfl
  · rw [hfiles]
    exact List.append_nil _

end IconCompiler
