import IconCompiler.Proofs.FileCollisions
import IconCompiler.Proofs.ThemeImports

namespace IconCompiler

open IconCompiler.Emit IconCompiler.Markup IconCompiler.Script

namespace Script

def declaredName? (keyword : String) (line : List Char) : Option String :=
  (line.dropPrefix? keyword.toList).map fun rest => String.ofList (rest.takeWhile isIdentifierPart)

/-- The names that the lines of a module declare. The lines after the name of its function are those of the function. -/
def declaredNames : List (List Char) → List String
  | [] => []
  | l :: ls =>
    match declaredName? "export interface " l with
    | some name => name :: declaredNames ls
    | none =>
      match (declaredName? "export function " l).or (declaredName? "export declare function " l) with
      | some name => [name]
      | none => declaredNames ls

def boundNames (s : String) : List String := (imports s).flatMap Import.names ++ declaredNames (linesOf s)

theorem declaredName?_append (keyword : String) {name : String} (h : isIdentifier name = true) {rest : List Char}
    (hr : ∀ c ∈ rest.head?, isIdentifierPart c = false) :
    declaredName? keyword (keyword.toList ++ (name.toList ++ rest)) = some name := by
  have hdrop : (keyword.toList ++ (name.toList ++ rest)).dropPrefix? keyword.toList = some (name.toList ++ rest) :=
    List.dropPrefix?_append_of_beq _ (beq_self_eq_true _)
  have htake : (name.toList ++ rest).takeWhile isIdentifierPart = name.toList := by
    have hspan := Text.span_append (isIdentifierPart_of_isIdentifier h) hr
    rw [List.span_eq_takeWhile_dropWhile] at hspan
    exact (Prod.mk.inj hspan).1
  rw [declaredName?, hdrop, Option.map_some, htake, String.ofList_toList]

theorem declaredName?_eq_none {keyword : String} {x : Char} {more : List Char} (hk : keyword.toList = x :: more)
    {line : List Char} (hl : x ∉ line.head?) : declaredName? keyword line = none := by
  rw [declaredName?, hk]
  cases line with
  | nil => rfl
  | cons c cs =>
    have hc : (c == x) = false := by
      rw [beq_eq_false_iff_ne]
      rintro rfl
      exact hl rfl
    simp [List.dropPrefix?, hc]

theorem newline_not_mem_of_isIdentifier {name : String} (h : isIdentifier name = true) : '\n' ∉ name.toList := by
  intro hm
  exact absurd (isIdentifierPart_of_isIdentifier h _ hm) (by decide)

structure Silent (l : String) : Prop where
  line : '\n' ∉ l.toList
  head : 'e' ∉ l.toList.head?

theorem silent_indented {l : String} (h : '\n' ∉ l.toList) : Silent ("  " ++ l) := by
  constructor
  · simpa [String.toList_append] using h
  · simp [String.toList_append]

structure Tail (s : String) : Prop where
  line : '\n' ∉ s.toList
  head : ∀ c ∈ s.toList.head?, isIdentifierPart c = false

section

variable {ls : List String} (hs : ls ≠ [])
include hs

theorem declaredNames_silent {l : String} (hl : Silent l) :
    declaredNames (linesOf (lines (l :: ls))) = declaredNames (linesOf (lines ls)) := by
  rw [linesOf_lines_cons hl.line hs, declaredNames, declaredName?_eq_none rfl hl.head,
    declaredName?_eq_none rfl hl.head, declaredName?_eq_none rfl hl.head]
  rfl

theorem declaredNames_append {quiet : List String} (hq : ∀ l ∈ quiet, Silent l) :
    declaredNames (linesOf (lines (quiet ++ ls))) = declaredNames (linesOf (lines ls)) := by
  induction quiet with
  | nil => rfl
  | cons l quiet ih =>
    rw [List.forall_mem_cons] at hq
    rw [List.cons_append, declaredNames_silent (by simp [hs]) hq.1, ih hq.2]

variable {name tail : String} (h : isIdentifier name = true) (ht : Tail tail)
include h ht

theorem linesOf_declaration {keyword : String} (hk : '\n' ∉ keyword.toList) :
    linesOf (lines ((keyword ++ name ++ tail) :: ls)) =
      (keyword.toList ++ (name.toList ++ tail.toList)) :: linesOf (lines ls) := by
  have hn := newline_not_mem_of_isIdentifier h
  have hl : '\n' ∉ (keyword ++ name ++ tail).toList := by
    simp [String.toList_append, hk, hn, ht.line]
  rw [linesOf_lines_cons hl hs, String.toList_append, String.toList_append, List.append_assoc]

theorem declaredNames_interface :
    declaredNames (linesOf (lines (("export interface " ++ name ++ tail) :: ls))) =
      name :: declaredNames (linesOf (lines ls)) := by
  rw [linesOf_declaration hs h ht (by decide), declaredNames, declaredName?_append _ h ht.head]

theorem declaredNames_function :
    declaredNames (linesOf (lines (("export function " ++ name ++ tail) :: ls))) = [name] := by
  have hi : declaredName? "export interface " ("export function ".toList ++ (name.toList ++ tail.toList)) = none :=
    rfl
  rw [linesOf_declaration hs h ht (by decide), declaredNames, hi, declaredName?_append _ h ht.head]
  rfl

theorem declaredNames_declaredFunction :
    declaredNames (linesOf (lines (("export declare function " ++ name ++ tail) :: ls))) = [name] := by
  have hi : declaredName? "export interface "
      ("export declare function ".toList ++ (name.toList ++ tail.toList)) = none := rfl
  have hf : declaredName? "export function "
      ("export declare function ".toList ++ (name.toList ++ tail.toList)) = none := rfl
  rw [linesOf_declaration hs h ht (by decide), declaredNames, hi, hf, declaredName?_append _ h ht.head]
  rfl

end

end Script

namespace Emit

theorem mem_of_mem_onlyIf {condition : Bool} {items : List String} {l : String} (h : l ∈ onlyIf condition items) :
    l ∈ items := by
  cases condition with
  | false => cases h
  | true => exact h

theorem isIdentifier_append {s t : String} (hs : isIdentifier s = true)
    (ht : t.toList.all isIdentifierPart = true) : isIdentifier (s ++ t) = true := by
  unfold isIdentifier at *
  cases hl : s.toList with
  | nil => simp [hl] at hs
  | cons c cs =>
    simp only [hl, Bool.and_eq_true] at hs
    simp only [String.toList_append, hl, List.cons_append, List.all_append, Bool.and_eq_true]
    exact ⟨hs.1, hs.2, ht⟩

theorem silent_colorImport (c : Component) : ∀ l ∈ colorImport c, Silent l := by
  intro l hl
  obtain rfl := List.mem_singleton.mp (mem_of_mem_onlyIf hl)
  split <;> exact ⟨by decide, by decide⟩

theorem silent_typeImport (c : Component) : ∀ l ∈ typeImport c, Silent l := by
  intro l hl
  obtain rfl := List.mem_singleton.mp (mem_of_mem_onlyIf hl)
  exact ⟨by decide, by decide⟩

theorem newline_not_mem_propertySignatures (c : Component) : ∀ l ∈ propertySignatures c, '\n' ∉ l.toList := by
  intro l hl
  simp only [propertySignatures, List.mem_append] at hl
  obtain (hl | hl) | hl := hl
  · revert l
    decide
  · replace hl := mem_of_mem_onlyIf hl
    revert l
    decide
  · replace hl := mem_of_mem_onlyIf hl
    revert l
    decide

namespace React

def interfaceBody (c : Component) : List String :=
  (propertySignatures c).map (fun p => "  " ++ p) ++ onlyIf c.features.customClass ["  className?: string;"] ++
    onlyIf c.features.customStyle ["  style?: React.CSSProperties;"] ++ ["\x7d"]

theorem propertyInterface_eq (c : Component) :
    propertyInterface c = ("export interface " ++ (c.name ++ "Props") ++ " \x7b") :: interfaceBody c := by
  have hl : "export interface " ++ c.name ++ "Props \x7b" = "export interface " ++ (c.name ++ "Props") ++ " \x7b" := by
    simp only [String.append_assoc]
    rfl
  simp only [propertyInterface, interfaceBody, hl, List.append_assoc, List.cons_append, List.nil_append]

theorem silent_interfaceBody (c : Component) : ∀ l ∈ interfaceBody c, Silent l := by
  intro l hl
  simp only [interfaceBody, List.mem_append] at hl
  obtain ((hl | hl) | hl) | hl := hl
  · obtain ⟨p, hp, rfl⟩ := List.mem_map.mp hl
    exact silent_indented (newline_not_mem_propertySignatures c p hp)
  · rw [List.mem_singleton.mp (mem_of_mem_onlyIf hl)]
    exact ⟨by decide, by decide⟩
  · rw [List.mem_singleton.mp (mem_of_mem_onlyIf hl)]
    exact ⟨by decide, by decide⟩
  · rw [List.mem_singleton.mp hl]
    exact ⟨by decide, by decide⟩

section

variable {c : Component} (h : isIdentifier c.name = true)
include h

theorem declaredNames_propertyInterface {ls : List String} (hs : ls ≠ []) :
    declaredNames (linesOf (lines (propertyInterface c ++ "" :: ls))) =
      (c.name ++ "Props") :: declaredNames (linesOf (lines ls)) := by
  have hname : isIdentifier (c.name ++ "Props") = true := isIdentifier_append h (by decide)
  rw [propertyInterface_eq, List.cons_append, declaredNames_interface (by simp) hname ⟨by decide, by rintro _ ⟨⟩; rfl⟩,
    declaredNames_append (by simp) (silent_interfaceBody c), declaredNames_silent hs ⟨by decide, by decide⟩]

theorem boundNames_enclose (doc : Document) (children : List String) :
    boundNames (enclose doc c children) =
      "React" :: (colorImports c.features.theming c.typescript).flatMap Import.names ++
        onlyIf c.typescript [c.name ++ "Props"] ++ [c.name] := by
  have hd : declaredNames (linesOf (enclose doc c children)) = onlyIf c.typescript [c.name ++ "Props"] ++ [c.name] := by
    simp only [enclose, List.append_assoc, List.cons_append, List.nil_append]
    rw [declaredNames_silent (by simp) ⟨by decide, by decide⟩, declaredNames_append (by simp) (silent_colorImport c),
      declaredNames_silent (by simp) ⟨by decide, by decide⟩]
    have hf : ∀ ls : List String, ls ≠ [] →
        declaredNames (linesOf (lines (("export function " ++ c.name ++ "(\x7b") :: ls))) = [c.name] :=
      fun ls hs => declaredNames_function hs h ⟨by decide, by rintro _ ⟨⟩; rfl⟩
    cases c.typescript with
    | false => exact hf _ (by simp)
    | true =>
      simp only [onlyIf, if_true, List.append_assoc, List.cons_append, List.nil_append]
      rw [declaredNames_propertyInterface h (by simp), hf _ (by simp)]
  rw [boundNames, imports_react, hd, List.flatMap_cons]
  simp

theorem boundNames_declarations :
    boundNames (declarations c) =
      "React" :: (typeImports c.features.theming).flatMap Import.names ++ [c.name ++ "Props", c.name] := by
  have hd : declaredNames (linesOf (declarations c)) = [c.name ++ "Props", c.name] := by
    have hl : "export declare function " ++ c.name ++ "(props: " ++ c.name ++ "Props): React.JSX.Element;" =
        "export declare function " ++ c.name ++ ("(props: " ++ c.name ++ "Props): React.JSX.Element;") := by
      simp only [String.append_assoc]
    have ht : Tail ("(props: " ++ c.name ++ "Props): React.JSX.Element;") := by
      constructor
      · simp [String.toList_append, newline_not_mem_of_isIdentifier h]
      · intro d hd
        rw [String.toList_append, String.toList_append, List.append_assoc] at hd
        cases hd
        rfl
    simp only [declarations, hl, List.append_assoc, List.cons_append, List.nil_append]
    rw [declaredNames_silent (by simp) ⟨by decide, by decide⟩, declaredNames_append (by simp) (silent_typeImport c),
      declaredNames_silent (by simp) ⟨by decide, by decide⟩, declaredNames_propertyInterface h (by simp),
      declaredNames_declaredFunction (by simp) h ht]
  rw [boundNames, imports_reactDeclarations, hd, List.flatMap_cons]
  simp

end

end React

end Emit

namespace Config

def reactImports (c : Config) : FileKind → List String
  | .component => "React" :: (colorImports c.features.theming c.typescript).flatMap Import.names
  | _ => "React" :: (typeImports c.features.theming).flatMap Import.names

def typesProperties (c : Config) (kind : FileKind) : Bool := c.typescript || kind == .declaration

theorem reactImports_subset (c : Config) (kind : FileKind) :
    c.reactImports kind ⊆ ["React", "resolveIconColor", "IconTheme"] := by
  unfold reactImports
  cases c.features.theming <;> cases c.typescript <;> cases kind <;> decide

theorem nodup_reactImports (c : Config) (kind : FileKind) : (c.reactImports kind).Nodup := by
  unfold reactImports
  cases c.features.theming <;> cases c.typescript <;> cases kind <;> decide

theorem append_not_mem_reactImports (c : Config) (kind : FileKind) (name : String) :
    name ++ "Props" ∉ c.reactImports kind := by
  intro h
  have hlast : (name ++ "Props").toList.getLast? = some 's' := by
    rw [String.toList_append, List.getLast?_append]
    rfl
  have hne : ∀ m ∈ ["React", "resolveIconColor", "IconTheme"], m.toList.getLast? ≠ some 's' := by decide
  exact hne _ (c.reactImports_subset kind h) hlast

theorem nodup_names_iff (c : Config) (kind : FileKind) (name : String) :
    (c.reactImports kind ++ onlyIf (c.typesProperties kind) [name ++ "Props"] ++ [name]).Nodup ↔
      name ∉ c.reactImports kind := by
  have hp : name ++ "Props" ≠ name := by
    intro h
    have hl := congrArg String.length h
    simp at hl
  have hi := c.append_not_mem_reactImports kind name
  have hn := c.nodup_reactImports kind
  rw [List.nodup_append, List.nodup_append]
  constructor
  · rintro ⟨-, -, hd⟩ hm
    exact hd name (List.mem_append_left _ hm) name (List.mem_singleton_self _) rfl
  · intro hm
    refine ⟨⟨hn, ?_, ?_⟩, List.nodup_singleton _, ?_⟩
    · cases c.typesProperties kind with
      | false => exact List.nodup_nil
      | true => exact List.nodup_singleton _
    · rintro _ hl _ hr rfl
      rw [List.mem_singleton.mp (mem_of_mem_onlyIf hr)] at hl
      exact hi hl
    · rintro m hl _ hr rfl
      rw [List.mem_singleton.mp hr] at hl
      obtain hl | hl := List.mem_append.mp hl
      · exact hm hl
      · exact hp (List.mem_singleton.mp (mem_of_mem_onlyIf hl)).symm

end Config

theorem boundNames_of_mem_block {c : Config} {icon : String} {doc : Document} {f : OutputFile}
    (hn : isIdentifier (c.naming.resolved icon) = true) (hf : f ∈ c.block icon doc .react) :
    boundNames f.content =
      c.reactImports f.kind ++ onlyIf (c.typesProperties f.kind) [c.naming.resolved icon ++ "Props"] ++
        [c.naming.resolved icon] := by
  obtain rfl | ⟨⟨-, hts⟩, hd⟩ := mem_block_iff.mp hf
  · have ht : c.typesProperties .component = c.typescript := Bool.or_false _
    have hcontent : (Target.react.componentFile doc (c.component icon doc)).content =
        React.enclose doc (c.component icon doc) (Target.elements .react Target.react.contentDepth doc.children) := rfl
    have hb := React.boundNames_enclose (c := c.component icon doc) hn doc
      (Target.elements .react Target.react.contentDepth doc.children)
    rw [hcontent, hb, Target.componentFile, ht]
    rfl
  · obtain ⟨text, htext, rfl⟩ := Option.map_eq_some_iff.mp hd
    obtain rfl := Option.some.inj htext
    have ht : c.typesProperties .declaration = true := Bool.or_true _
    rw [ht, List.append_assoc]
    exact React.boundNames_declarations hn

section

variable {c : Config} {icon : Icon} {out : IconOutput} (h : c.compile icon = .ok out)
include h

theorem mem_block_of_compile {t : Target} {f : OutputFile} (hf : f ∈ out.files) (ht : f.target = some t) :
    out.componentName = c.naming.resolved icon.name ∧ ∃ doc, f ∈ c.block icon.name doc t := by
  have hc := compileResult_compile c icon
  rw [h] at hc
  cases hc with
  | @compiled doc hr hn =>
    obtain ⟨u, -, hu⟩ := List.mem_flatMap.mp hf
    have he := (block_of_config c icon.name doc u).target_eq f hu
    rw [ht] at he
    obtain rfl := Option.some.inj he
    exact ⟨rfl, doc, hu⟩

theorem boundNames_of_compile {f : OutputFile} (hf : f ∈ out.files) (ht : f.target = some .react) :
    boundNames f.content =
      c.reactImports f.kind ++ onlyIf (c.typesProperties f.kind) [out.componentName ++ "Props"] ++
        [out.componentName] := by
  have hn := isIdentifier_of_compile h
  obtain ⟨he, doc, hf⟩ := mem_block_of_compile h hf ht
  rw [he] at hn ⊢
  exact boundNames_of_mem_block hn hf

/-- The names that a React module binds are those that it imports, the type of the properties and the component. No two
of them are equal, unless the component has the name of something imported. -/
theorem compile_react_names (ht : .react ∈ c.targets) :
    (∃ f ∈ out.files, f.target = some .react ∧ f.kind = .component) ∧
      ∀ f ∈ out.files, f.target = some .react →
        boundNames f.content =
            c.reactImports f.kind ++ onlyIf (c.typesProperties f.kind) [out.componentName ++ "Props"] ++
              [out.componentName] ∧
          ((boundNames f.content).Nodup ↔ out.componentName ∉ c.reactImports f.kind) := by
  constructor
  · obtain ⟨-, doc, hf⟩ := exists_componentFile_mem_files h ht
    exact ⟨_, hf, rfl, rfl⟩
  · intro f hf hr
    have hb := boundNames_of_compile h hf hr
    refine ⟨hb, ?_⟩
    rw [hb]
    exact c.nodup_names_iff f.kind out.componentName

end

theorem compile_react_names_theme :
    let c : Config := { Config.standard with
      typescript := false, features := { Features.none with theming := true, dts := true }, naming := ⟨"Icon", ""⟩ }
    .react ∈ c.targets ∧ ∃ out, c.compile ⟨"theme", "<svg></svg>"⟩ = .ok out ∧ out.componentName = "IconTheme" ∧
      (∃ f ∈ out.files, f.target = some .react ∧ f.kind = .component) ∧
        ∀ f ∈ out.files, f.target = some .react → ((boundNames f.content).Nodup ↔ f.kind = .component) := by
  intro c
  have hn : c.naming.resolved "theme" = "IconTheme" := by decide +kernel
  obtain ⟨out, hc, ho⟩ : ∃ out, c.compile ⟨"theme", "<svg></svg>"⟩ = .ok out ∧ out.componentName = "IconTheme" :=
    ⟨_, compile_of_isIdentifier read_blank (by rw [hn]; decide), hn⟩
  obtain ⟨he, hf⟩ := compile_react_names hc List.mem_cons_self
  refine ⟨List.mem_cons_self, out, hc, ho, he, ?_⟩
  intro f hm hr
  rw [(hf f hm hr).2, ho]
  cases f.kind <;> decide

theorem compile_react_names_repeated :
    ∃ out, Config.standard.compile ⟨"react", "<svg></svg>"⟩ = .ok out ∧
      ∃ f ∈ out.files, f.target = some .react ∧ boundNames f.content = ["React", "ReactProps", "React"] := by
  have hn : Config.standard.naming.resolved "react" = "React" := by decide +kernel
  obtain ⟨out, hc, ho⟩ :
      ∃ out, Config.standard.compile ⟨"react", "<svg></svg>"⟩ = .ok out ∧ out.componentName = "React" :=
    ⟨_, compile_of_isIdentifier read_blank (by rw [hn]; decide), hn⟩
  obtain ⟨-, doc, hf⟩ := exists_componentFile_mem_files hc (t := .react) List.mem_cons_self
  refine ⟨out, hc, _, hf, rfl, ?_⟩
  rw [boundNames_of_compile hc hf rfl, ho]
  rfl

end IconCompiler
