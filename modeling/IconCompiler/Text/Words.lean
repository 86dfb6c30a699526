import IconCompiler.Text.Cluster

/-!
Names as sequences of words. A word ends at a separator and at each change between small letters,
capitals and digits, except that the first capital of a word stays with the small letters after it;
the last of several capitals before a small letter starts a word. Kebab, Pascal and camel case write
the words of a name again in one spelling.
-/

namespace IconCompiler.Text

inductive Shape where
  | upper
  | lower
  | digit
  | other
  deriving DecidableEq, Repr

def shape (g : List Char) : Shape :=
  if g.all Char.isDigit then .digit
  else if upper g = lower g then .other
  else if g = upper g then .upper
  else if g = lower g then .lower
  else .other

def isSeparator (g : List Char) : Bool := g == ['_'] || g == ['-'] || g == [' ']

def startsWord : Shape → Shape → Shape → Bool
  | .lower, .upper, _ => true
  | .upper, .digit, _ => true
  | .digit, .upper, _ => true
  | .digit, .lower, _ => true
  | .lower, .digit, _ => true
  | .upper, .upper, .lower => true
  | _, _, _ => false

def headShape : List (List Char) → Shape
  | [] => .other
  | g :: _ => shape g

def splitWords (before : Shape) (word : List Char) : List (List Char) → List (List Char)
  | [] => [word]
  | g :: gs =>
    if isSeparator g then word :: splitWords .other [] gs
    else if startsWord before (shape g) (headShape gs) then word :: splitWords (shape g) g gs
    else splitWords (shape g) (word ++ g) gs

def words (s : String) : List (List Char) :=
  (splitWords .other [] (clusters s.toList)).filter fun w => !w.isEmpty

def capitalize : List Char → List Char
  | [] => []
  | c :: cs => upperChar c ++ lower cs

def kebabCase (s : String) : String :=
  "-".intercalate ((words s).map fun w => String.ofList (lower w))

def pascalCase (s : String) : String :=
  String.ofList ((words s).flatMap capitalize)

def camelCase (s : String) : String :=
  match words s with
  | [] => ""
  | w :: ws => String.ofList (lower w ++ ws.flatMap capitalize)

end IconCompiler.Text
