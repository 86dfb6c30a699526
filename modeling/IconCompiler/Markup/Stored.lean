import IconCompiler.Json.Reader
import IconCompiler.Markup.Element

namespace IconCompiler.Markup

def Value.ofJson? : Json → Option Value
  | .string s => some (.text s)
  | .number n => n.toBinary64?.map .number
  | .bool b => some (.flag b)
  | _ => none

def Attributes.ofJson? : Json → Option Attributes
  | .object fields =>
    (fields.mapM fun f => (Value.ofJson? f.2).map fun v => (f.1, v)).map Attributes.ofList
  | _ => none

def contentOfJson? : Option Json → Option (Option String)
  | none => some none
  | some .null => some none
  | some (.string s) => some (some s)
  | some _ => none

def hasAllItems (count : Nat) : Json → Bool
  | .array items => items.length == count
  | _ => true

def maxStoredDepth : Nat := 62

def Element.ofJson? : (depth : Nat) → Json → Option Element
  | 0, _ => none
  | depth + 1, j =>
    if hasAllItems 4 j then
      match j.record? ["tag", "attributes", "children", "text_content"] with
      | some [some tag, some attributes, some children, content] => do
        let tag ← tag.string?
        let attributes ← Attributes.ofJson? attributes
        let children ← (← children.array?).mapM (Element.ofJson? depth)
        let content ← contentOfJson? content
        return ⟨tag, attributes, children, content⟩
      | _ => none
    else none

def Document.ofJson? (j : Json) : Option Document :=
  if hasAllItems 3 j then
    match j.record? ["attributes", "children", "raw_content"] with
    | some [some attributes, some children, some source] => do
      let attributes ← Attributes.ofJson? attributes
      let children ← (← children.array?).mapM (Element.ofJson? maxStoredDepth)
      let source ← source.string?
      return ⟨attributes, children, source⟩
    | _ => none
  else none

def Document.load? (text : String) : Option Document := (Json.read? text).bind Document.ofJson?

end IconCompiler.Markup
