import IconCompiler.Json.Token
import IconCompiler.Template.Basic
import IconCompiler.Text.Ascii
import IconCompiler.Text.Scan

/-!
Reading templates. Tags stand between double braces: a value, a helper with its arguments, or the
beginning, the middle or the end of a block. A backslash before the braces makes them text. A line
that holds nothing but such a part of a block leaves no trace in the output.
-/

namespace IconCompiler.Template

open IconCompiler.Text

inductive Tag where
  | insert (n : Node)
  | start (b : Block) (a : Argument)
  | middle
  | finish (b : Block)
  deriving Repr

def Tag.isPartOfBlock : Tag → Bool
  | .insert _ => false
  | _ => true

def isSymbol (c : Char) : Bool :=
  c.isAlphanum || c == '_' || c == '-' || c == '$' || 0x80 ≤ c.toNat

def isPathSeparator (c : Char) : Bool := c == '.' || c == '/'

def pathNames? (cs : List Char) : Option (List String) :=
  let parts := splitParts isPathSeparator cs
  if parts.any List.isEmpty then none
  else some ((parts.map String.ofList).filter fun name => name ≠ "this")

def reference? : List Char → Option Reference
  | '.' :: '.' :: '/' :: cs => (reference? cs).map fun r => { r with outward := r.outward + 1 }
  | '.' :: '/' :: cs => (pathNames? cs).map fun names => ⟨0, names⟩
  | cs => (pathNames? cs).map fun names => ⟨0, names⟩

def constant? : List Char → Option Json
  | [] => none
  | c :: cs =>
    match Json.scalar? c cs with
    | some (j, []) => some j
    | _ => none

def wordArgument? (word : List Char) : Option Argument :=
  match constant? word with
  | some j => some (.literal j)
  | none => (reference? word).map .reference

def readWord (cs : List Char) : List Char × List Char :=
  cs.span fun c => isSymbol c || isPathSeparator c

def argument? : List Char → Option (Argument × List Char)
  | '\x22' :: cs => do
    let (units, rest) ← Json.readUnits cs
    let text ← Json.unitsText? units
    return (.literal (.string text), rest)
  | cs =>
    let (word, rest) := readWord cs
    (wordArgument? word).map fun a => (a, rest)

def readArguments : (fuel : Nat) → List Char → List Argument × List Char
  | 0, cs => ([], cs)
  | fuel + 1, cs =>
    match argument? (skipSpace cs) with
    | some (a, rest) =>
      let (as, rest) := readArguments fuel rest
      (a :: as, rest)
    | none => ([], cs)

def helper? : String → Option Helper
  | "kebab_case" => some .kebabCase
  | "js_string" => some .quoted
  | "join" => some .join
  | _ => none

def block? : String → Option Block
  | "if" => some .cond
  | "each" => some .each
  | _ => none

def readStart (cs : List Char) : Option (Tag × List Char) := do
  let (name, rest) := cs.span isSymbol
  let b ← block? (String.ofList name)
  match readArguments rest.length rest with
  | ([a], rest) => return (.start b a, rest)
  | _ => none

def readFinish (cs : List Char) : Option (Tag × List Char) := do
  let (name, rest) := cs.span isSymbol
  let b ← block? (String.ofList name)
  return (.finish b, rest)

def readInsert (cs : List Char) : Option (Tag × List Char) :=
  let (word, rest) := readWord cs
  if String.ofList word = "else" then some (.middle, rest)
  else
    match helper? (String.ofList word) with
    | some h =>
      let (arguments, rest) := readArguments rest.length rest
      some (.insert (.call h arguments), rest)
    | none => (reference? word).map fun r => (.insert (.value r), rest)

def readTag (cs : List Char) : Option (Tag × List Char) :=
  match skipSpace cs with
  | '#' :: cs => readStart (skipSpace cs)
  | '/' :: cs => readFinish (skipSpace cs)
  | cs => readInsert cs

def closeTag? (cs : List Char) : Option (Tag × List Char) := do
  let (t, rest) ← readTag cs
  match skipSpace rest with
  | '\x7d' :: '\x7d' :: rest => return (t, rest)
  | _ => none

inductive Mark where
  | text (cs : List Char)
  | tag (t : Option Tag)
  deriving Repr

/-- Backslashes right before double braces. A single one makes the braces text; of several one is
left out, and the braces begin a tag. -/
def escaped? (cs : List Char) : Option (List Char × List Char) :=
  match cs.span fun c => c == '\\' with
  | ([_], '\x7b' :: '\x7b' :: '\x7b' :: '\x7b' :: rest) =>
    some (['\x7b', '\x7b', '\x7b', '\x7b'], rest)
  | ([_], '\x7b' :: '\x7b' :: rest) => some (['\x7b', '\x7b'], rest)
  | (_ :: slashes, '\x7b' :: '\x7b' :: rest) => some (slashes, '\x7b' :: '\x7b' :: rest)
  | _ => none

def mark? : List Char → Option (Mark × List Char)
  | '\x7b' :: '\x7b' :: cs =>
    match closeTag? cs with
    | some (t, rest) => some (.tag (some t), rest)
    | none => some (.tag none, [])
  | cs => (escaped? cs).map fun r => (.text r.1, r.2)

structure Pieces where
  tagged : List (List Char × Option Tag)
  last : List Char
  deriving Repr

def Pieces.prependText (cs : List Char) (ps : Pieces) : Pieces :=
  match ps.tagged with
  | [] => { ps with last := cs ++ ps.last }
  | (text, t) :: rest => { ps with tagged := (cs ++ text, t) :: rest }

def Pieces.cons (p : Piece Mark) (ps : Pieces) : Pieces :=
  match p with
  | .plain c => ps.prependText [c]
  | .item (.text cs) => ps.prependText cs
  | .item (.tag t) => { ps with tagged := ([], t) :: ps.tagged }

def readPieces (cs : List Char) : Pieces := (scan mark? cs).foldr Pieces.cons ⟨[], []⟩

def isGap (c : Char) : Bool := c == ' ' || c == '\t'

def isLineEnd (c : Char) : Bool := c == '\n' || c == '\r'

def endsLine (cs : List Char) : Bool := ((cs.dropWhile isGap).head?.map isLineEnd).getD false

def dropLine (cs : List Char) : List Char :=
  match cs.dropWhile isGap with
  | '\r' :: '\n' :: rest => rest
  | '\n' :: rest => rest
  | rest => rest

def beginsLine (isFirst : Bool) (cs : List Char) : Bool :=
  ((cs.reverse.dropWhile isGap).head?.map isLineEnd).getD isFirst

inductive Part where
  | text (cs : List Char)
  | tag (t : Tag)
  deriving Repr

/-- `before` is the text before the first tag, and `shown` what is left of it to show. -/
def trimLines (isFirst : Bool) (before shown : List Char) (tag : Option Tag)
    (rest : List (List Char × Option Tag)) (last : List Char) : Option (List Part) :=
  match tag with
  | none => none
  | some t =>
    let after := (rest.head?.map Prod.fst).getD last
    let alone := t.isPartOfBlock && beginsLine isFirst before && endsLine after
    let head := if alone then (shown.reverse.dropWhile isGap).reverse else shown
    let next := if alone then dropLine after else after
    match rest with
    | [] => some [.text head, .tag t, .text next]
    | (text, u) :: rest =>
      (trimLines false text next u rest last).map fun ps => .text head :: .tag t :: ps

def readParts (cs : List Char) : Option (List Part) :=
  match readPieces cs with
  | ⟨[], last⟩ => some [.text last]
  | ⟨(text, t) :: rest, last⟩ => trimLines true text text t rest last

structure Frame where
  block : Block
  argument : Argument
  outer : List Node
  first : Option (List Node)
  deriving Repr

def Frame.node (f : Frame) (part : List Node) : Node :=
  match f.first with
  | none => .block f.block f.argument part []
  | some first => .block f.block f.argument first part

def assemble : List Frame → List Node → List Part → Option (List Node)
  | [], done, [] => some done
  | _ :: _, _, [] => none
  | frames, done, .text cs :: parts => assemble frames (done ++ [.text (String.ofList cs)]) parts
  | frames, done, .tag (.insert n) :: parts => assemble frames (done ++ [n]) parts
  | frames, done, .tag (.start b a) :: parts => assemble (⟨b, a, done, none⟩ :: frames) [] parts
  | ⟨b, a, outer, none⟩ :: frames, done, .tag .middle :: parts =>
    assemble (⟨b, a, outer, some done⟩ :: frames) [] parts
  | f :: frames, done, .tag (.finish b) :: parts =>
    if f.block = b then assemble frames (f.outer ++ [f.node done]) parts else none
  | _, _, _ => none

end IconCompiler.Template

namespace IconCompiler

open IconCompiler.Template

def Template.read? (text : String) : Option Template :=
  ((readParts text.toList).bind (assemble [] [])).map fun nodes => ⟨nodes⟩

inductive TemplateError where
  | invalid
  | unknownName
  deriving DecidableEq, Repr

structure TemplateSet where
  entries : List (String × Template)
  deriving Repr

namespace TemplateSet

def empty : TemplateSet := ⟨[]⟩

def register (s : TemplateSet) (name text : String) : Except TemplateError TemplateSet :=
  match Template.read? text with
  | some t => .ok ⟨(name, t) :: s.entries⟩
  | none => .error .invalid

def render (s : TemplateSet) (name : String) (data : Json) : Except TemplateError String :=
  match s.entries.lookup name with
  | some t => .ok (t.render data)
  | none => .error .unknownName

end TemplateSet

end IconCompiler
