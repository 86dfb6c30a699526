namespace IconCompiler.Script

def isIdentifierStart (c : Char) : Bool := c.isAlpha || c == '_' || c == '$'

def isIdentifierPart (c : Char) : Bool := c.isAlphanum || c == '_' || c == '$'

def isIdentifier (s : String) : Bool :=
  match s.toList with
  | [] => false
  | c :: cs => isIdentifierStart c && cs.all isIdentifierPart

def quotedChar (c : Char) : List Char :=
  if c = '\\' then ['\\', '\\']
  else if c = '\x27' then ['\\', '\x27']
  else if c = '\n' then ['\\', 'n']
  else if c = '\r' then ['\\', 'r']
  else if c = '\u2028' then ['\\', 'u', '2', '0', '2', '8']
  else if c = '\u2029' then ['\\', 'u', '2', '0', '2', '9']
  else [c]

def quoted (s : String) : String :=
  String.ofList ('\x27' :: s.toList.flatMap quotedChar ++ ['\x27'])

def guardChar (c : Char) (cs : List Char) : List Char :=
  cs.flatMap fun d => if d = c then ['\\', d] else [d]

def guardInterpolation : List Char → List Char
  | [] => []
  | '$' :: '\x7b' :: cs => '\\' :: '$' :: '\x7b' :: guardInterpolation cs
  | c :: cs => c :: guardInterpolation cs

def templateText (s : String) : String :=
  String.ofList (guardInterpolation (guardChar '\x60' (guardChar '\\' s.toList)))

def objectKey (name : String) : String :=
  if isIdentifier name then name else quoted name

end IconCompiler.Script
