/-!
Escaping of markup. Reserved characters are replaced one after the other by character references;
braces count as reserved, so that escaped text is literal in markup with embedded expressions too.
-/

namespace IconCompiler.Markup

structure Entity where
  char : Char
  reference : String
  deriving DecidableEq, Repr

def Entity.replace (e : Entity) (cs : List Char) : List Char :=
  cs.flatMap fun c => if c = e.char then e.reference.toList else [c]

/-- The ampersand comes first, since every reference holds one. -/
def textEntities : List Entity :=
  [⟨'&', "&amp;"⟩, ⟨'<', "&lt;"⟩, ⟨'>', "&gt;"⟩, ⟨'\x7b', "&#123;"⟩, ⟨'\x7d', "&#125;"⟩]

def attributeEntities : List Entity :=
  [⟨'&', "&amp;"⟩, ⟨'"', "&quot;"⟩, ⟨'<', "&lt;"⟩, ⟨'>', "&gt;"⟩, ⟨'\x7b', "&#123;"⟩,
    ⟨'\x7d', "&#125;"⟩]

def replaceEntities (es : List Entity) (s : String) : String :=
  String.ofList (es.foldl (fun cs e => e.replace cs) s.toList)

def escapeAttribute (s : String) : String := replaceEntities attributeEntities s

def escapeText (s : String) : String := replaceEntities textEntities s

end IconCompiler.Markup
