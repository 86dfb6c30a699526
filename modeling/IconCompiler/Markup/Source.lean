import IconCompiler.Text.Ascii
import IconCompiler.Text.Blank
import IconCompiler.Text.Scan

/-!
Source text before it is cut into tokens. Processing instructions, document type declarations and
comments are taken out, the text of character data sections is set free, and white space is brought
to one form. Each kind of section is taken out of the whole text before the next.
-/

namespace IconCompiler.Markup

open IconCompiler.Text

/-- A kind of section: how it begins and ends, whether its beginning may be written in any letter case
(it is given in lower case then), and whether its body stays in the text. -/
structure Section where
  opening : List Char
  closing : List Char
  anyCase : Bool
  keepsBody : Bool
  deriving DecidableEq, Repr

namespace Section

def instruction : Section := ⟨['<', '?'], ['?', '>'], false, false⟩

def doctype : Section := ⟨['<', '!', 'd', 'o', 'c', 't', 'y', 'p', 'e'], ['>'], true, false⟩

def comment : Section := ⟨['<', '!', '-', '-'], ['-', '-', '>'], false, false⟩

def characterData : Section :=
  ⟨['<', '!', '[', 'C', 'D', 'A', 'T', 'A', '['], [']', ']', '>'], false, true⟩

def opens (s : Section) (cs : List Char) : Bool :=
  let head := cs.take s.opening.length
  (if s.anyCase then lowerAscii head else head) == s.opening

def read? (s : Section) (cs : List Char) : Option (List Char × List Char) :=
  if s.opens cs then splitAt? s.closing (cs.drop s.opening.length) else none

def remains (s : Section) : Piece (List Char) → List Char
  | .plain c => [c]
  | .item body => if s.keepsBody then body else []

def strip (s : Section) (cs : List Char) : List Char := (scan s.read? cs).flatMap s.remains

end Section

def cleanChars (cs : List Char) : List Char :=
  trim (collapse (Section.characterData.strip (Section.comment.strip
    (Section.doctype.strip (Section.instruction.strip cs)))))

def clean (source : String) : String := String.ofList (cleanChars source.toList)

end IconCompiler.Markup
