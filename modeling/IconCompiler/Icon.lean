import IconCompiler.Glue
import IconCompiler.CompileError
import IconCompiler.Markup.Report

namespace IconCompiler

open IconCompiler.Markup

structure Icon where
  name : String
  svg : String
  deriving DecidableEq, Repr

structure IconOutput where
  name : String
  componentName : String
  digest : UInt64
  warnings : List Warning
  files : List OutputFile
  deriving DecidableEq, Repr

def IconOutput.filesFor (i : IconOutput) (t : Target) : List OutputFile :=
  i.files.filter fun f => f.target == some t

def distinctTargets : List Target → List Target
  | [] => []
  | t :: ts => t :: (distinctTargets ts).filter fun u => u ≠ t

def Config.distinctTargets (c : Config) : List Target := IconCompiler.distinctTargets c.targets

def Config.compile (c : Config) (icon : Icon) : Except CompileError IconOutput :=
  match Document.read icon.svg with
  | .error e => .error (.source e)
  | .ok doc =>
    match Component.ofIcon c icon.name doc with
    | .error e => .error (.generation e)
    | .ok component =>
      .ok {
        name := icon.name
        componentName := component.name
        digest := doc.digest
        warnings := doc.review.warnings
        files := c.distinctTargets.flatMap fun t => t.files doc component c.separateDeclarations }

structure BatchOutput where
  icons : List IconOutput
  failures : List CompileError
  glue : Option Glue
  deriving DecidableEq, Repr

namespace BatchOutput

def isSuccess (r : BatchOutput) : Bool := r.failures.isEmpty

def warningCount (r : BatchOutput) : Nat := r.icons.foldr (fun i n => i.warnings.length + n) 0

def files (r : BatchOutput) : List OutputFile :=
  r.icons.flatMap IconOutput.files ++ (r.glue.map Glue.files).getD []

end BatchOutput

def Config.attempt (c : Config) (icon : Icon) : Except CompileError IconOutput :=
  (c.compile icon).mapError (CompileError.named icon.name)

def success? : Except CompileError IconOutput → Option IconOutput
  | .ok i => some i
  | .error _ => none

def failure? : Except CompileError IconOutput → Option CompileError
  | .ok _ => none
  | .error e => some e

def Config.compileAll (c : Config) (icons : List Icon) : BatchOutput :=
  let outcomes := icons.map c.attempt
  ⟨outcomes.filterMap success?, outcomes.filterMap failure?, c.glue?⟩

end IconCompiler
