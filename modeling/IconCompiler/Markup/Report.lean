import IconCompiler.Markup.Path
import IconCompiler.Markup.Tree

namespace IconCompiler.Markup

inductive Warning where
  | missingViewBox
  | unrecognized (tag : String) (path : Path)
  | childrenAndText (tag : String) (path : Path)
  deriving DecidableEq, Repr

def Warning.message : Warning → String
  | .missingViewBox => "Missing viewBox attribute on root <svg>"
  | .unrecognized tag path => "Unrecognized element <" ++ tag ++ "> at " ++ path.text
  | .childrenAndText tag path =>
    "Element <" ++ tag ++ "> at " ++ path.text ++
      " has both children and text; only the children are rendered"

structure DepthError where
  tag : String
  deriving DecidableEq, Repr

def DepthError.message (e : DepthError) : String :=
  "Element <" ++ e.tag ++ "> is nested deeper than " ++ toString maxDepth ++
    " levels; its subtree was not checked"

structure Report where
  errors : List DepthError
  warnings : List Warning
  deriving DecidableEq, Repr

namespace Report

def empty : Report := ⟨[], []⟩

def append (a b : Report) : Report := ⟨a.errors ++ b.errors, a.warnings ++ b.warnings⟩

def isValid (r : Report) : Bool := r.errors.isEmpty

def hasWarnings (r : Report) : Bool := !r.warnings.isEmpty

end Report

def Element.warnings (e : Element) (path : Path) : List Warning :=
  (if isRecognized e.tag then [] else [.unrecognized e.tag path]) ++
    (if e.hasChildren && e.text?.isSome then [.childrenAndText e.tag path] else [])

mutual
def Element.review (path : Path) : Element → Report
  | ⟨tag, attributes, children, content⟩ =>
    if maxDepth ≤ path.depth then ⟨[⟨tag⟩], []⟩
    else
      Report.append ⟨[], Element.warnings ⟨tag, attributes, children, content⟩ path⟩
        (Element.reviewList path 0 children)

def Element.reviewList (path : Path) (index : Nat) : List Element → Report
  | [] => .empty
  | e :: es =>
    Report.append (Element.review (path.child e.tag index) e)
      (Element.reviewList path (index + 1) es)
end

def Document.review (d : Document) : Report :=
  Report.append ⟨[], if (d.attribute? "viewBox").isNone then [.missingViewBox] else []⟩
    (Element.reviewList .root 0 d.children)

end IconCompiler.Markup
