import IconCompiler.Markup.SourceError
import IconCompiler.Target

namespace IconCompiler

open IconCompiler.Markup

inductive CompileError where
  | source (e : SourceError)
  | generation (e : GenerationError)
  | icon (name : String) (inner : CompileError)
  deriving DecidableEq, Repr

namespace CompileError

def named (name : String) : CompileError → CompileError
  | .icon other inner => .icon other inner
  | e => .icon name e

def icon? : CompileError → Option String
  | .icon name _ => some name
  | _ => none

def cause : CompileError → CompileError
  | .icon _ inner => inner.cause
  | e => e

def offset? (e : CompileError) : Option Nat :=
  match e.cause with
  | .source e => e.offset?
  | _ => none

def message : CompileError → String
  | .source e => e.message
  | .generation e => e.message
  | .icon name inner => "icon '" ++ name ++ "': " ++ inner.message

end CompileError

end IconCompiler
