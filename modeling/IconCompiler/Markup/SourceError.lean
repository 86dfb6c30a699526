/-!
Why a source text is refused. Offsets count bytes of the clean text.
-/

namespace IconCompiler.Markup

inductive SourceError where
  | emptyInput
  | unclosedTag (offset : Nat)
  | nestingTooDeep (depth offset : Nat)
  | rootElement (found : String)
  deriving DecidableEq, Repr

namespace SourceError

def message : SourceError → String
  | .emptyInput => "SVG source is empty"
  | .unclosedTag offset =>
    "Unclosed tag starting at offset " ++ toString offset ++ " in preprocessed source"
  | .nestingTooDeep depth offset =>
    "Element nesting exceeds " ++ toString depth ++ " levels at offset " ++ toString offset ++
      " in preprocessed source"
  | .rootElement found => "Root element must be <svg>, found <" ++ found ++ ">"

def offset? : SourceError → Option Nat
  | .unclosedTag offset => some offset
  | .nestingTooDeep _ offset => some offset
  | _ => none

end SourceError

end IconCompiler.Markup
