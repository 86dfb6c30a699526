import IconCompiler.Emit.Layout
import IconCompiler.Text.Scan

namespace IconCompiler.Emit.React

open IconCompiler.Markup IconCompiler.Text

def joinColons (raise : Bool) : List Char → List Char
  | [] => []
  | c :: cs =>
    if c = ':' then joinColons true cs
    else (if raise then upperChar c else [c]) ++ joinColons false cs

def jsxName (name : String) : String :=
  if name = "class" then "className"
  else if name = "for" then "htmlFor"
  else String.ofList (joinColons false name.toList)

def styleEntry? (declaration : List Char) : Option String :=
  match splitAt? [':'] declaration with
  | none => none
  | some (property, value) =>
    let property := trim property
    let value := String.ofList (trim value)
    if property = [] || value = "" then none
    else
      let key :=
        if ['-', '-'].isPrefixOf property then Script.quoted (String.ofList property)
        else camelCase (String.ofList property)
      some (key ++ ": " ++ Script.quoted value)

def styleLiteral (css : String) : String :=
  match (splitParts (fun c => c == ';') css.toList).filterMap styleEntry? with
  | [] => "\x7b\x7d"
  | entries => "\x7b " ++ ", ".intercalate entries ++ " \x7d"

def jsxAttribute (name : String) (value : Value) : String :=
  let name := jsxName name
  match value with
  | .text s =>
    if name = "style" then "style=\x7b" ++ styleLiteral s ++ "\x7d"
    else name ++ "=\"" ++ escapeAttribute s ++ "\""
  | .number _ => name ++ "=\x7b" ++ value.display ++ "\x7d"
  | .flag _ => name ++ "=\x7b" ++ value.display ++ "\x7d"

def attributes (as : List (String × Value)) : String :=
  " ".intercalate (as.map fun a => jsxAttribute a.1 a.2)

def node (tag attributes : String) (body : Body) (depth : Nat) : String :=
  markupElement (fun s => "\x7b" ++ Script.quoted s ++ "\x7d") tag attributes body depth

def propertyInterface (c : Component) : List String :=
  ["export interface " ++ c.name ++ "Props \x7b"] ++
    (propertySignatures c).map (fun p => "  " ++ p) ++
    onlyIf c.features.customClass ["  className?: string;"] ++
    onlyIf c.features.customStyle ["  style?: React.CSSProperties;"] ++
    ["\x7d"]

def parameters (c : Component) : List String :=
  ["size = " ++ c.sizeExpression, "color = " ++ Script.quoted c.defaultColor] ++
    onlyIf c.features.animation ["spin = false", "pulse = false"] ++
    onlyIf c.features.theming ["theme"] ++
    onlyIf c.features.customClass ["className"] ++
    onlyIf c.features.customStyle ["style"]

def computesClasses (c : Component) : Bool :=
  c.features.animation || c.features.theming || c.features.customClass

def classesLine (c : Component) : List String :=
  onlyIf (computesClasses c) [
    "  const classes = " ++
      joinedClasses (classExpressions c id ++ onlyIf c.features.customClass ["className"]) ++ ";"]

def classAttribute (c : Component) : String :=
  if computesClasses c then "className=\x7bclasses\x7d"
  else "className=\"" ++ escapeAttribute (" ".intercalate c.fixedClasses) ++ "\""

def rootAttributes (doc : Document) (c : Component) : List String :=
  let color := paintExpression c "color" "theme"
  ["xmlns=\"" ++ svgNamespace ++ "\"", "width=\x7bsize\x7d", "height=\x7bsize\x7d",
    "viewBox=\"" ++ escapeAttribute c.viewBox ++ "\""] ++
    (match doc.paint with
      | .fill => ["fill=\x7b" ++ color ++ "\x7d"]
      | .stroke => ["fill=\"none\"", "stroke=\x7b" ++ color ++ "\x7d"]) ++
    doc.keptAttributes.entries.map (fun a => jsxAttribute a.1 a.2) ++
    [classAttribute c] ++
    onlyIf c.features.customStyle ["style=\x7bstyle\x7d"]

def enclose (doc : Document) (c : Component) (children : List String) : String :=
  lines (
    ["import React from 'react';"] ++ colorImport c ++ [""] ++
    onlyIf c.typescript (propertyInterface c ++ [""]) ++
    ["export function " ++ c.name ++ "(\x7b"] ++
    (parameters c).map (fun p => "  " ++ p ++ ",") ++
    [if c.typescript then "\x7d: " ++ c.name ++ "Props) \x7b" else "\x7d) \x7b"] ++
    classesLine c ++
    ["  return (", "    <svg"] ++
    (rootAttributes doc c).map (fun a => "      " ++ a) ++
    (if children.isEmpty then ["    />"] else ["    >"] ++ children ++ ["    </svg>"]) ++
    ["  );", "\x7d", "", defaultExport c, ""])

def declarations (c : Component) : String :=
  lines (
    ["import React from 'react';"] ++ typeImport c ++ [""] ++
    propertyInterface c ++
    ["", "export declare function " ++ c.name ++ "(props: " ++ c.name ++
      "Props): React.JSX.Element;",
      defaultExport c, ""])

end IconCompiler.Emit.React
