import IconCompiler.Markup.Attribute
import IconCompiler.Markup.SourceError

namespace IconCompiler.Markup

open IconCompiler.Text

/-- Positions are byte offsets of where the token begins. -/
inductive Token where
  | opening (name : String) (attributes : Attributes) (selfClosing : Bool) (position : Nat)
  | closing (name : String) (position : Nat)
  | text (content : String) (position : Nat)
  deriving DecidableEq, Repr

namespace Token

def position : Token → Nat
  | .opening _ _ _ position => position
  | .closing _ position => position
  | .text _ position => position

def name? : Token → Option String
  | .opening name _ _ _ => some name
  | .closing name _ => some name
  | .text _ _ => none

end Token

/-- A stretch of clean markup: the inside of a tag, a run without tags, or all that follows the
beginning of a tag that never ends. -/
inductive Segment where
  | tag (body : List Char)
  | run (text : List Char)
  | unclosed (rest : List Char)
  deriving DecidableEq, Repr

def Segment.read? : List Char → Option (Segment × List Char)
  | [] => none
  | c :: cs =>
    if c = '<' then
      match cs.span fun d => d != '>' with
      | (body, _ :: rest) => some (.tag body, rest)
      | (rest, []) => some (.unclosed rest, [])
    else
      let (text, rest) := (c :: cs).span fun d => d != '<'
      some (.run text, rest)

def segments (cs : List Char) : List Segment := (scan Segment.read? cs).filterMap Piece.item?

def splitTag (body : List Char) : String × String :=
  let (name, rest) := (trim body).span fun c => !isBlank c
  (String.ofList name, String.ofList (trimLeft rest))

def openingTag (body : List Char) (selfClosing : Bool) (position : Nat) : Token :=
  let (name, attributes) := splitTag body
  .opening name (readAttributes attributes) selfClosing position

def tagToken (body : List Char) (position : Nat) : Token :=
  match body with
  | '/' :: name => .closing (String.ofList (trim name)) position
  | _ =>
    match (trimRight body).getLast? with
    | some '/' => openingTag (trimRight body).dropLast true position
    | _ => openingTag body false position

def runTokens (text : List Char) (position : Nat) : List Token :=
  if trim text = [] then [] else [.text (String.ofList (trim text)) position]

def tokensFrom (position : Nat) : List Segment → Except SourceError (List Token)
  | [] => .ok []
  | .unclosed _ :: _ => .error (.unclosedTag position)
  | .tag body :: rest =>
    (tokensFrom (position + byteLength body + 2) rest).map fun ts => tagToken body position :: ts
  | .run text :: rest =>
    (tokensFrom (position + byteLength text) rest).map fun ts => runTokens text position ++ ts

def tokenize (text : String) : Except SourceError (List Token) := tokensFrom 0 (segments text.toList)

end IconCompiler.Markup
