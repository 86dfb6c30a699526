import IconCompiler.Emit.Output

namespace IconCompiler

structure Theme where
  name : String
  fallback : String
  deriving DecidableEq, Repr

def themes : List Theme :=
  [⟨"primary", "#3b82f6"⟩, ⟨"secondary", "#64748b"⟩, ⟨"success", "#22c55e"⟩, ⟨"warning", "#f59e0b"⟩,
    ⟨"danger", "#ef4444"⟩]

def Theme.color (t : Theme) (base : String) : String :=
  "var(--" ++ base ++ "-" ++ t.name ++ ", " ++ t.fallback ++ ")"

namespace Stylesheet

def baseRule (base : String) : String :=
  "." ++ base ++ " \x7b\n" ++
    "  display: inline-block;\n" ++
    "  vertical-align: middle;\n" ++
    "  flex-shrink: 0;\n" ++
    "\x7d\n"

def animationRules (base : String) : String :=
  "\n@keyframes " ++ base ++ "-spin \x7b\n" ++
    "  from \x7b transform: rotate(0deg); \x7d\n" ++
    "  to \x7b transform: rotate(360deg); \x7d\n" ++
    "\x7d\n" ++
    "\n@keyframes " ++ base ++ "-pulse \x7b\n" ++
    "  0%, 100% \x7b opacity: 1; \x7d\n" ++
    "  50% \x7b opacity: 0.5; \x7d\n" ++
    "\x7d\n" ++
    "\n." ++ base ++ "-spin \x7b\n" ++
    "  animation: " ++ base ++ "-spin 1s linear infinite;\n" ++
    "\x7d\n" ++
    "\n." ++ base ++ "-pulse \x7b\n" ++
    "  animation: " ++ base ++ "-pulse 2s ease-in-out infinite;\n" ++
    "\x7d\n"

def themeRule (base : String) (t : Theme) : String :=
  "\n." ++ base ++ "-theme-" ++ t.name ++ " \x7b\n" ++
    "  color: " ++ t.color base ++ ";\n" ++
    "\x7d\n"

def rtlRule (base : String) : String :=
  "\n[dir=\"rtl\"] ." ++ base ++ "-rtl \x7b\n" ++
    "  transform: scaleX(-1);\n" ++
    "\x7d\n"

def text (c : Config) : String :=
  baseRule c.baseClass ++
    (if c.features.animation then animationRules c.baseClass else "") ++
    (if c.features.theming then String.join (themes.map (themeRule c.baseClass)) else "") ++
    (if c.features.rtl then rtlRule c.baseClass else "")

end Stylesheet

namespace ThemeModule

def entry (base : String) (t : Theme) : String :=
  "  " ++ t.name ++ ": " ++ Script.quoted (t.color base) ++ ",\n"

def text (c : Config) : String :=
  (if c.typescript then
      "export type IconTheme = " ++ " | ".intercalate (themes.map fun t => Script.quoted t.name) ++
        ";\n\nexport const ICON_THEME_COLORS: Record<IconTheme, string> = \x7b\n"
    else "export const ICON_THEME_COLORS = \x7b\n") ++
    String.join (themes.map (entry c.baseClass)) ++
    "\x7d;\n\n" ++
    (if c.typescript then
      "export function resolveIconColor(color: string, theme?: IconTheme): string \x7b\n"
    else "export function resolveIconColor(color, theme) \x7b\n") ++
    "  return theme && theme in ICON_THEME_COLORS ? ICON_THEME_COLORS[theme] : color;\n" ++
    "\x7d\n"

end ThemeModule

structure Glue where
  stylesheet : String
  theme : String
  themePath : String
  deriving DecidableEq, Repr

def stylesheetPath : String := "icons.css"

def Config.glue? (c : Config) : Option Glue :=
  if c.needsGlue then
    some ⟨Stylesheet.text c, ThemeModule.text c, if c.typescript then "theme.ts" else "theme.js"⟩
  else none

def Glue.files (g : Glue) : List OutputFile :=
  [⟨none, stylesheetPath, g.stylesheet, .stylesheet⟩, ⟨none, g.themePath, g.theme, .theme⟩]

end IconCompiler
