import IconCompiler.Proofs.BatchOutcome
import IconCompiler.Proofs.ScriptModules

namespace IconCompiler

open IconCompiler.Emit IconCompiler.Markup IconCompiler.Script

namespace Emit

def colorImports (theming typescript : Bool) : List Import :=
  if theming then [⟨"resolveIconColor" :: onlyIf typescript ["IconTheme"], themeModule⟩] else []

def typeImports (theming : Bool) : List Import := if theming then [⟨["IconTheme"], themeModule⟩] else []

theorem colorImport_cases (c : Component) :
    (colorImport c = [] ∧ colorImports c.features.theming c.typescript = []) ∨
      ∃ l i, ImportLine l i ∧ colorImport c = [l] ∧ colorImports c.features.theming c.typescript = [i] := by
  unfold colorImport colorImports
  cases c.features.theming with
  | false => exact .inl ⟨rfl, rfl⟩
  | true => cases c.typescript <;> exact .inr ⟨_, _, by decide, rfl, rfl⟩

theorem importLine_colorImport (c : Component) :
    List.Forall₂ ImportLine (colorImport c) (colorImports c.features.theming c.typescript) := by
  obtain ⟨hl, hi⟩ | ⟨l, i, h, hl, hi⟩ := colorImport_cases c
  · rw [hl, hi]
    exact .nil
  · rw [hl, hi]
    exact .cons h .nil

theorem importLine_typeImport (c : Component) :
    List.Forall₂ ImportLine (typeImport c) (typeImports c.features.theming) := by
  unfold typeImport typeImports
  cases c.features.theming with
  | false => exact .nil
  | true => exact .cons (by decide) .nil

section

variable (doc : Document) (c : Component) (children : List String)

theorem imports_react :
    imports (React.enclose doc c children) =
      ⟨["React"], "react"⟩ :: colorImports c.features.theming c.typescript := by
  simp only [React.enclose, List.append_assoc, List.cons_append, List.nil_append]
  exact imports_lines (by decide) (importLine_colorImport c) _

theorem imports_reactDeclarations :
    imports (React.declarations c) = ⟨["React"], "react"⟩ :: typeImports c.features.theming := by
  simp only [React.declarations, List.append_assoc, List.cons_append, List.nil_append]
  exact imports_lines (by decide) (importLine_typeImport c) _

end

end Emit

namespace ThemeModule

def entryLine (base : String) (t : Theme) : String :=
  "  " ++ t.name ++ ": " ++ quoted (t.color base) ++ ","

theorem linesOf_entry (base : String) {t : Theme} (h : '\n' ∉ t.name.toList) :
    linesOf (entry base t) = [(entryLine base t).toList, []] := by
  have he : entry base t = entryLine base t ++ "\n" ++ "" := by
    rw [entry, entryLine, String.append_empty, show ",\n" = "," ++ "\n" from rfl, ← String.append_assoc]
  have hl : '\n' ∉ (entryLine base t).toList := by
    simp [entryLine, String.toList_append, h, newline_not_mem_quoted]
  rw [he, linesOf_append, linesOf_eq_self hl]
  rfl

theorem newline_not_mem_name : ∀ t ∈ themes, '\n' ∉ t.name.toList := by decide

theorem getLast?_entry (base : String) (t : Theme) : (entry base t).toList.getLast? = some '\n' := by
  rw [entry, String.toList_append, List.getLast?_append]
  rfl

theorem typedHeader_eq :
    "export type IconTheme = " ++ (" | ".intercalate (themes.map fun t => quoted t.name) ++
        ";\n\nexport const ICON_THEME_COLORS: Record<IconTheme, string> = \x7b\n") =
      "export type IconTheme = 'primary' | 'secondary' | 'success' | 'warning' | 'danger';\n\n" ++
        "export const ICON_THEME_COLORS: Record<IconTheme, string> = \x7b\n" := by
  decide +kernel

end ThemeModule

section

variable (c : Config) (icons : List Icon)

variable {c icons} {f : OutputFile} (hf : f ∈ (c.compileAll icons).files)
include hf

end

end IconCompiler
