import IconCompiler.Markup.Element
import IconCompiler.Markup.Source
import IconCompiler.Markup.Token

/-!
The element tree of a list of tokens. An end tag closes the element being filled if it has its name
and is passed over otherwise; the end of the tokens closes every element that is still open.
-/

namespace IconCompiler.Markup

/-- The most levels of elements, the root counted as the first. -/
def maxDepth : Nat := 512

structure Content where
  children : List Element
  runs : List String
  deriving DecidableEq, Repr

namespace Content

def empty : Content := ⟨[], []⟩

def consChild (c : Content) (e : Element) : Content := { c with children := e :: c.children }

def consRun (c : Content) (s : String) : Content := { c with runs := s :: c.runs }

def text? (c : Content) : Option String :=
  if c.runs.isEmpty then none else some (" ".intercalate c.runs)

def toElement (c : Content) (tag : String) (attributes : Attributes) : Element :=
  ⟨tag, attributes, c.children, c.text?⟩

end Content

def admits (cap : Option Nat) (depth : Nat) : Bool :=
  match cap with
  | none => true
  | some limit => depth < limit

def tooDeep (cap : Option Nat) (position : Nat) : SourceError := .nestingTooDeep (cap.getD 0) position

/-- Fills the open element `name`, which lies inside `depth - 1` others, and returns the tokens
after it. Every step takes a token, so that `fuel` need not exceed their number. -/
def fill (cap : Option Nat) :
    (fuel depth : Nat) → (name : String) → List Token → Except SourceError (Content × List Token)
  | 0, _, _, tokens => .ok (.empty, tokens)
  | _ + 1, _, _, [] => .ok (.empty, [])
  | fuel + 1, depth, name, .text s _ :: tokens => do
    let (content, rest) ← fill cap fuel depth name tokens
    return (content.consRun s, rest)
  | fuel + 1, depth, name, .closing other _ :: tokens =>
    if other = name then .ok (.empty, tokens) else fill cap fuel depth name tokens
  | fuel + 1, depth, name, .opening tag attributes selfClosing position :: tokens =>
    if !admits cap depth then .error (tooDeep cap position)
    else do
      let (inner, tokens) ←
        if selfClosing || isVoid tag then .ok (.empty, tokens)
        else fill cap fuel (depth + 1) tag tokens
      let (content, rest) ← fill cap fuel depth name tokens
      return (content.consChild (inner.toElement tag attributes), rest)

def Element.ofTokensWithin (cap : Option Nat) : List Token → Except SourceError Element
  | [] => .error .emptyInput
  | token :: tokens =>
    match token with
    | .opening tag attributes selfClosing _ =>
      if tag = "svg" then
        if selfClosing then .ok (Content.empty.toElement tag attributes)
        else (fill cap tokens.length 1 tag tokens).map fun r => r.1.toElement tag attributes
      else .error (.rootElement tag)
    | .closing tag _ => .error (.rootElement tag)
    | .text _ _ => .error (.rootElement "text")

def Element.ofTokens (tokens : List Token) : Except SourceError Element :=
  Element.ofTokensWithin (some maxDepth) tokens

def Document.read (source : String) : Except SourceError Document :=
  let text := clean source
  if text = "" then .error .emptyInput
  else do
    let root ← Element.ofTokens (← tokenize text)
    return ⟨root.attributes, root.children, source⟩

end IconCompiler.Markup
