import IconCompiler.Emit.CustomElement
import IconCompiler.Emit.React
import IconCompiler.Emit.Svelte
import IconCompiler.Emit.Vue

namespace IconCompiler

open IconCompiler.Emit IconCompiler.Markup

namespace Target

def attributesText : Target → List (String × Value) → String
  | .react => React.attributes
  | .vue => Vue.attributes
  | .svelte => markupAttributes
  | .webComponent => markupAttributes

def nodeText : Target → (tag attributes : String) → Body → (depth : Nat) → String
  | .react => React.node
  | .vue => Vue.node
  | .svelte => Svelte.node
  | .webComponent => CustomElement.node

def bodyOf (children : List String) (content : Option String) : Body :=
  match children, content with
  | [], none => .empty
  | [], some s => if s = "" then .empty else .text s
  | _ :: _, _ => .children children

mutual
def element (t : Target) (depth : Nat) : Element → String
  | ⟨tag, attributes, children, content⟩ =>
    t.nodeText tag (t.attributesText (attributes.filter fun name => !isPaint name).entries)
      (bodyOf (elements t (depth + 1) children) content) depth

def elements (t : Target) (depth : Nat) : List Element → List String
  | [] => []
  | e :: es => element t depth e :: elements t depth es
end

def enclose : Target → Document → Component → (children : List String) → String
  | .react => React.enclose
  | .vue => Vue.enclose
  | .svelte => Svelte.enclose
  | .webComponent => CustomElement.enclose

def declarations? : Target → Component → Option String
  | .react, c => some (React.declarations c)
  | .vue, c => some (Vue.declarations c)
  | .svelte, _ => none
  | .webComponent, c => some (CustomElement.declarations c)

def sourceText (t : Target) (doc : Document) (c : Component) : String :=
  t.enclose doc c (t.elements t.contentDepth doc.children)

end Target

inductive FileKind where
  | component
  | declaration
  | stylesheet
  | theme
  deriving DecidableEq, Repr

/-- A generated file; one that components of all targets share has no target. -/
structure OutputFile where
  target : Option Target
  path : String
  content : String
  kind : FileKind
  deriving DecidableEq, Repr

namespace Target

def componentFile (t : Target) (doc : Document) (c : Component) : OutputFile :=
  ⟨some t, c.name ++ "." ++ t.extension c.typescript, t.sourceText doc c, .component⟩

def declarationFile? (t : Target) (c : Component) : Option OutputFile :=
  (t.declarations? c).map fun content => ⟨some t, c.name ++ ".d.ts", content, .declaration⟩

def files (t : Target) (doc : Document) (c : Component) (declarations : Bool) : List OutputFile :=
  t.componentFile doc c ::
    (if declarations && !c.typescript then (t.declarationFile? c).toList else [])

end Target

end IconCompiler
