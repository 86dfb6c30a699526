import IconCompiler.Markup.Vocabulary
import IconCompiler.Text.Blank
import IconCompiler.Text.Scan

/-!
The attribute section of a tag. Whatever looks like a name, an equals sign and a value is an
attribute; everything else is passed over.
-/

namespace IconCompiler.Markup

open IconCompiler.Number IconCompiler.Text

def isNameStart (c : Char) : Bool := c.isAlpha || c == '_' || c == ':'

def isNamePart (c : Char) : Bool := c.isAlphanum || c == '_' || c == ':' || c == '-' || c == '.'

def isBare (c : Char) : Bool :=
  !(isBlank c || c == '\x22' || c == '\x27' || c == '=' || c == '<' || c == '>' || c == '\x60')

def quotedValue? (quote : Char) (cs : List Char) : Option (List Char × List Char) :=
  match cs.span fun c => c != quote with
  | (value, _ :: rest) => some (value, rest)
  | (_, []) => none

def bareValue? (cs : List Char) : Option (List Char × List Char) :=
  match cs.span isBare with
  | ([], _) => none
  | (value, rest) => some (value, rest)

def value? : List Char → Option (List Char × List Char)
  | [] => none
  | c :: cs => if c = '\x22' ∨ c = '\x27' then quotedValue? c cs else bareValue? (c :: cs)

structure RawAttribute where
  name : String
  value : String
  deriving DecidableEq, Repr

def rawAttribute? (cs : List Char) : Option (RawAttribute × List Char) :=
  match cs with
  | [] => none
  | c :: _ =>
    if isNameStart c then
      let (name, rest) := cs.span isNamePart
      match trimLeft rest with
      | '=' :: rest =>
        (value? (trimLeft rest)).map fun r => (⟨String.ofList name, String.ofList r.1⟩, r.2)
      | _ => none
    else none

def rawAttributes (cs : List Char) : List RawAttribute :=
  (scan rawAttribute? cs).filterMap Piece.item?

def number? (raw : String) : Option Binary64 :=
  ((Decimal.read? (trim raw.toList)).map Decimal.toBinary64).filter Binary64.isFinite

def readValue (canonical raw : String) : Value :=
  match kindOf canonical with
  | .number =>
    match number? raw with
    | some x => .number x
    | none => .text raw
  | .flag => .flag (asciiLower (trimmed raw) != "false")
  | .text => .text raw

def Attributes.insertRaw (as : Attributes) (a : RawAttribute) : Attributes :=
  as.insert (canonicalName a.name) (readValue (canonicalName a.name) a.value)

def readAttributes (text : String) : Attributes :=
  (rawAttributes text.toList).foldl Attributes.insertRaw .empty

end IconCompiler.Markup
