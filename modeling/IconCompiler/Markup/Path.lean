import IconCompiler.Markup.Element

namespace IconCompiler.Markup

structure Step where
  tag : String
  index : Nat
  deriving DecidableEq, Repr

structure Path where
  steps : List Step
  deriving DecidableEq, Repr

namespace Path

def root : Path := ⟨[]⟩

def child (p : Path) (tag : String) (index : Nat) : Path := ⟨p.steps ++ [⟨tag, index⟩]⟩

def depth (p : Path) : Nat := p.steps.length

end Path

def Step.text (s : Step) : String := "/" ++ s.tag ++ "[" ++ toString s.index ++ "]"

def Path.text (p : Path) : String := "svg" ++ String.join (p.steps.map Step.text)

end IconCompiler.Markup
