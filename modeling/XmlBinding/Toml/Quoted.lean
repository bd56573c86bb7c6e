import XmlBinding.Toml.Scalar

/-!
# Quoted TOML strings

Each reader gets the characters after the opening quotes and answers the text and what follows the
closing quotes.

* `basicText`, `literalText` : strings on one line;
* `multilineText`, `multilineLiteral` : strings over several lines.
-/

namespace XmlBinding.Toml

/-- Control characters that no document may hold as they are. -/
def isControl (c : Char) : Bool := (c.toNat < 0x20 && c != '\t') || c.toNat == 0x7F

/-- The character of an escape with one letter. -/
def simpleEscape? : Char → Option Char
  | 'b' => some (Char.ofNat 0x08)
  | 't' => some '\t'
  | 'n' => some '\n'
  | 'f' => some (Char.ofNat 0x0C)
  | 'r' => some '\r'
  | 'e' => some (Char.ofNat 0x1B)
  | '"' => some '"'
  | '\\' => some '\\'
  | _ => none

/-- The character of an escape with hexadecimal digits. Surrogates are no characters. -/
def hexEscape? (digits : List Char) : Option Char :=
  if digits.all (digitValue · < 16) then
    let n := valueIn 16 digits
    if n < 0xD800 ∨ (0xE000 ≤ n ∧ n < 0x110000) then some (Char.ofNat n) else none
  else none

/-- One more character in front of a text that has been read. -/
def consText (c : Char) (r : Except Fault (List Char × List Char)) :
    Except Fault (List Char × List Char) :=
  r.map fun (text, rest) => (c :: text, rest)

/-- A character that an escape stands for, in front of a text that has been read. -/
def consEscape (c : Option Char) (r : Except Fault (List Char × List Char)) :
    Except Fault (List Char × List Char) :=
  match c with
  | some c => consText c r
  | none => .error .badEscape

def basicText : List Char → Except Fault (List Char × List Char)
  | [] => .error .unexpectedEnd
  | '"' :: rest => .ok ([], rest)
  | '\\' :: 'u' :: a :: b :: c :: d :: rest => consEscape (hexEscape? [a, b, c, d]) (basicText rest)
  | '\\' :: 'U' :: a :: b :: c :: d :: e :: f :: g :: h :: rest =>
    consEscape (hexEscape? [a, b, c, d, e, f, g, h]) (basicText rest)
  | '\\' :: 'x' :: a :: b :: rest => consEscape (hexEscape? [a, b]) (basicText rest)
  | '\\' :: c :: rest => consEscape (simpleEscape? c) (basicText rest)
  | c :: rest => if isControl c then .error (.unexpected c) else consText c (basicText rest)

def literalText : List Char → Except Fault (List Char × List Char)
  | [] => .error .unexpectedEnd
  | '\'' :: rest => .ok ([], rest)
  | c :: rest => if isControl c then .error (.unexpected c) else consText c (literalText rest)

/-- The text without a line end at its start. -/
def dropLineEnd : List Char → List Char
  | '\n' :: rest => rest
  | '\r' :: '\n' :: rest => rest
  | rest => rest

/-- Whether a line holds nothing more than blanks. -/
def endsLine (cs : List Char) : Bool :=
  match cs.dropWhile fun c => c == ' ' || c == '\t' with
  | '\n' :: _ => true
  | '\r' :: '\n' :: _ => true
  | _ => false

/-- The body of a basic string over several lines. While `joining`, blanks and line ends are passed
over: a backslash at the end of a line joins the next text to it. -/
def multilineBody (joining : Bool) : List Char → Except Fault (List Char × List Char)
  | [] => .error .unexpectedEnd
  | '"' :: '"' :: '"' :: '"' :: '"' :: rest => .ok (['"', '"'], rest)
  | '"' :: '"' :: '"' :: '"' :: rest => .ok (['"'], rest)
  | '"' :: '"' :: '"' :: rest => .ok ([], rest)
  | '\r' :: '\n' :: rest =>
    if joining then multilineBody true rest
    else consText '\r' (consText '\n' (multilineBody false rest))
  | '\\' :: 'u' :: a :: b :: c :: d :: rest =>
    consEscape (hexEscape? [a, b, c, d]) (multilineBody false rest)
  | '\\' :: 'U' :: a :: b :: c :: d :: e :: f :: g :: h :: rest =>
    consEscape (hexEscape? [a, b, c, d, e, f, g, h]) (multilineBody false rest)
  | '\\' :: 'x' :: a :: b :: rest => consEscape (hexEscape? [a, b]) (multilineBody false rest)
  | '\\' :: c :: rest =>
    if endsLine (c :: rest) then multilineBody true (c :: rest)
    else consEscape (simpleEscape? c) (multilineBody false rest)
  | c :: rest =>
    if joining && (c == ' ' || c == '\t' || c == '\n') then multilineBody true rest
    else if isControl c && c != '\n' then .error (.unexpected c)
    else consText c (multilineBody false rest)

/-- A basic string over several lines. -/
def multilineText (cs : List Char) : Except Fault (List Char × List Char) :=
  multilineBody false (dropLineEnd cs)

/-- The body of a literal string over several lines. -/
def multilineLiteralBody : List Char → Except Fault (List Char × List Char)
  | [] => .error .unexpectedEnd
  | '\'' :: '\'' :: '\'' :: '\'' :: '\'' :: rest => .ok (['\'', '\''], rest)
  | '\'' :: '\'' :: '\'' :: '\'' :: rest => .ok (['\''], rest)
  | '\'' :: '\'' :: '\'' :: rest => .ok ([], rest)
  | '\r' :: '\n' :: rest => consText '\r' (consText '\n' (multilineLiteralBody rest))
  | c :: rest =>
    if isControl c && c != '\n' then .error (.unexpected c)
    else consText c (multilineLiteralBody rest)

/-- A literal string over several lines. -/
def multilineLiteral (cs : List Char) : Except Fault (List Char × List Char) :=
  multilineLiteralBody (dropLineEnd cs)

end XmlBinding.Toml
