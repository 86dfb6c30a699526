import IconCompiler.Json.Value
import IconCompiler.Number.Shortest
import IconCompiler.Script.Literal
import IconCompiler.Text.Words

namespace IconCompiler.Template

/-- A way into the value at hand, or into the value that many repetitions further out. -/
structure Reference where
  outward : Nat
  names : List String
  deriving DecidableEq, Repr

inductive Argument where
  | reference (r : Reference)
  | literal (j : Json)
  deriving Repr

inductive Helper where
  | kebabCase
  | quoted
  | join
  deriving DecidableEq, Repr

/-- A block shows its first part if its argument holds, or once for every item of its argument; its
second part is shown when the first is not. -/
inductive Block where
  | cond
  | each
  deriving DecidableEq, Repr

inductive Node where
  | text (s : String)
  | value (r : Reference)
  | call (h : Helper) (arguments : List Argument)
  | block (b : Block) (a : Argument) (first second : List Node)
  deriving Repr

abbrev Scope := List Json

def Reference.start? (r : Reference) (scope : Scope) : Option Json :=
  scope[r.outward]?.or scope.head?

def Reference.resolve? (r : Reference) (scope : Scope) : Option Json :=
  (r.start? scope).bind fun j => r.names.foldlM Json.member? j

def Argument.resolve? (scope : Scope) : Argument → Option Json
  | .reference r => r.resolve? scope
  | .literal j => some j

def holds : Json → Bool
  | .null => false
  | .bool b => b
  | .number n => !n.isZero
  | .string s => s ≠ ""
  | .array items => !items.isEmpty
  | .object fields => !fields.isEmpty
  | .illFormed => false

mutual
def display : Json → String
  | .string s => s
  | .bool b => if b then "true" else "false"
  | .number n => (n.toBinary64?.map Number.Binary64.text).getD ""
  | .array items => "[" ++ ", ".intercalate (displayItems items) ++ "]"
  | .object _ => "[object]"
  | .null => ""
  | .illFormed => ""

def displayItems : List Json → List String
  | [] => []
  | j :: js => display j :: displayItems js
end

def stringArgument (scope : Scope) (argument : Option Argument) : String :=
  ((argument.bind (Argument.resolve? scope)).bind Json.string?).getD ""

def joinArguments (scope : Scope) (arguments : List Argument) : String :=
  let separator := ((arguments[1]?.bind (Argument.resolve? scope)).bind Json.string?).getD ", "
  match (arguments[0]?.bind (Argument.resolve? scope)).bind Json.array? with
  | some items => separator.intercalate (items.filterMap Json.string?)
  | none => ""

def Helper.apply (scope : Scope) (arguments : List Argument) : Helper → String
  | .kebabCase => Text.kebabCase (stringArgument scope arguments[0]?)
  | .quoted => Script.quoted (stringArgument scope arguments[0]?)
  | .join => joinArguments scope arguments

def Block.scopes (scope : Scope) (argument : Option Json) : Block → List Scope
  | .cond => if (argument.map holds).getD false then [scope] else []
  | .each => ((argument.bind Json.array?).getD []).map fun item => item :: scope

mutual
def Node.render (scope : Scope) : Node → String
  | .text s => s
  | .value r => ((r.resolve? scope).map display).getD ""
  | .call h arguments => h.apply scope arguments
  | .block b a first second =>
    match b.scopes scope (a.resolve? scope) with
    | [] => renderList scope second
    | scopes => String.join (scopes.map fun s => renderList s first)

def renderList (scope : Scope) : List Node → String
  | [] => ""
  | n :: ns => n.render scope ++ renderList scope ns
end

end IconCompiler.Template

namespace IconCompiler

structure Template where
  nodes : List Template.Node
  deriving Repr

def Template.render (t : Template) (data : Json) : String := Template.renderList [data] t.nodes

end IconCompiler
