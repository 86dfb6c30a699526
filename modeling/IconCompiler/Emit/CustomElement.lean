import IconCompiler.Emit.Layout

namespace IconCompiler.Emit.CustomElement

open IconCompiler.Markup

def node (tag attributes : String) (body : Body) (depth : Nat) : String :=
  markupElement escapeText tag attributes body depth

def hostClass : String := "icon-class"

def hostStyle : String := "icon-style"

def observed (c : Component) : List String :=
  ["size", "color"] ++ onlyIf c.features.animation ["spin", "pulse"] ++
    onlyIf c.features.theming ["theme"] ++ onlyIf c.features.customClass [hostClass] ++
    onlyIf c.features.customStyle [hostStyle]

def elementsConstant (children : List String) : List String :=
  if children.isEmpty then ["const template = ``;"]
  else ["const template = `", Script.templateText (lines children), "`;"]

def rootAttributes (doc : Document) (c : Component) : List String :=
  ["xmlns=\"" ++ svgNamespace ++ "\"", "width=\"$\x7bsize\x7d\"", "height=\"$\x7bsize\x7d\"",
    "viewBox=\"" ++ Script.templateText (escapeAttribute c.viewBox) ++ "\""] ++
    (match doc.paint with
      | .fill => ["fill=\"$\x7bpaint\x7d\""]
      | .stroke => ["fill=\"none\"", "stroke=\"$\x7bpaint\x7d\""]) ++
    doc.keptAttributes.entries.map (fun a => Script.templateText (markupAttribute a.1 a.2)) ++
    ["class=\"$\x7bclasses\x7d\""]

def styleExpression (c : Component) : String :=
  if c.features.customStyle then
    "$\x7bstyle === null ? '' : ` style=\"$\x7bescapeAttribute(style)\x7d\"`\x7d"
  else ""

def assignment (doc : Document) (c : Component) : String :=
  "    this.innerHTML = `<svg " ++ " ".intercalate (rootAttributes doc c) ++ styleExpression c ++
    ">$\x7btemplate\x7d</svg>`;"

def reads (c : Component) : List String :=
  ["    const size = escapeAttribute(this.getAttribute('size') ?? " ++
      Script.quoted c.defaultSize ++ ");",
    "    const color = this.getAttribute('color') ?? " ++ Script.quoted c.defaultColor ++ ";"] ++
    onlyIf c.features.animation [
      "    const spin = this.hasAttribute('spin');",
      "    const pulse = this.hasAttribute('pulse');"] ++
    onlyIf c.features.theming [
      if c.typescript then
        "    const theme = (this.getAttribute('theme') ?? undefined) as IconTheme | undefined;"
      else "    const theme = this.getAttribute('theme') ?? undefined;"] ++
    onlyIf c.features.customClass [
      "    const className = this.getAttribute('" ++ hostClass ++ "');"] ++
    onlyIf c.features.customStyle [
      "    const style = this.getAttribute('" ++ hostStyle ++ "');"]

def classOpening (c : Component) : List String :=
  let typed (text : String) : String := if c.typescript then text else ""
  ["",
    "function escapeAttribute(value" ++ typed ": string" ++ ")" ++ typed ": string" ++ " \x7b",
    "  return value.replace(/&/g, '&amp;').replace(/\"/g, '&quot;').replace(/</g, '&lt;');",
    "\x7d",
    "",
    "export class " ++ c.name ++ " extends HTMLElement \x7b",
    "  static get observedAttributes()" ++ typed ": string[]" ++ " \x7b",
    "    return [" ++ ", ".intercalate ((observed c).map Script.quoted) ++ "];",
    "  \x7d",
    "",
    "  connectedCallback()" ++ typed ": void" ++ " \x7b",
    "    this.render();",
    "  \x7d",
    "",
    "  attributeChangedCallback()" ++ typed ": void" ++ " \x7b",
    "    this.render();",
    "  \x7d",
    "",
    "  " ++ typed "private " ++ "render()" ++ typed ": void" ++ " \x7b"] ++
    reads c ++
    ["    const classes = escapeAttribute(" ++
        joinedClasses (classExpressions c id ++ onlyIf c.features.customClass ["className"]) ++ ");",
      "    const paint = escapeAttribute(" ++ paintExpression c "color" "theme" ++ ");"]

def registration (c : Component) : List String :=
  ["if (!customElements.get(" ++ Script.quoted c.customTag ++ ")) \x7b",
    "  customElements.define(" ++ Script.quoted c.customTag ++ ", " ++ c.name ++ ");",
    "\x7d"]

def enclose (doc : Document) (c : Component) (children : List String) : String :=
  lines (
    (colorImport c).flatMap (fun i => [i, ""]) ++
    elementsConstant children ++
    classOpening c ++
    [assignment doc c, "  \x7d", "\x7d", ""] ++
    registration c ++
    ["", defaultExport c, ""])

def declarations (c : Component) : String :=
  lines [
    "export declare class " ++ c.name ++ " extends HTMLElement \x7b",
    "  static get observedAttributes(): string[];",
    "  connectedCallback(): void;",
    "  attributeChangedCallback(): void;",
    "\x7d",
    "",
    "declare global \x7b",
    "  interface HTMLElementTagNameMap \x7b",
    "    " ++ Script.quoted c.customTag ++ ": " ++ c.name ++ ";",
    "  \x7d",
    "\x7d",
    "",
    defaultExport c,
    ""]

end IconCompiler.Emit.CustomElement
