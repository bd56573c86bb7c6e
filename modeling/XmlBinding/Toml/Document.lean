import XmlBinding.Toml.Quoted
import XmlBinding.Toml.Tree

/-!
# TOML documents

The grammar of TOML 1.1, over lists of characters. A reader answers what it has read and the rest of
the text; one that goes on checks that the rest has become shorter, which ends every loop.

* `Toml.parse text` : the table of a document;
* `depthLimit` : how many parts a key may have, and how deep values may nest.
-/

namespace XmlBinding.Toml

/-- The text without blanks at its start. -/
def skipBlanks (cs : List Char) : List Char := cs.dropWhile fun c => c == ' ' || c == '\t'

/-- What follows a comment: the line end stays. -/
def skipComment : List Char → Except Fault (List Char)
  | [] => .ok []
  | '\n' :: rest => .ok ('\n' :: rest)
  | '\r' :: '\n' :: rest => .ok ('\r' :: '\n' :: rest)
  | c :: rest => if isControl c then .error (.unexpected c) else skipComment rest

theorem length_lt_of_skipBlanks {cs rest : List Char} {c : Char} (h : skipBlanks cs = c :: rest) :
    rest.length < cs.length := by
  have : (skipBlanks cs).length ≤ cs.length := (List.dropWhile_suffix _).length_le
  rw [h, List.length_cons] at this
  omega

theorem length_le_of_skipComment {cs rest : List Char} (h : skipComment cs = .ok rest) :
    rest.length ≤ cs.length := by
  fun_induction skipComment cs with
  | case1 | case2 | case3 => cases h; simp
  | case4 => cases h
  | case5 c cs _ _ _ ih =>
    have := ih h
    simp only [List.length_cons]
    omega

/-- The text without blanks, comments and line ends at its start. -/
def skipLines (cs : List Char) : Except Fault (List Char) :=
  match _h : skipBlanks cs with
  | '\n' :: rest => skipLines rest
  | '\r' :: '\n' :: rest => skipLines rest
  | '#' :: comment =>
    match _hc : skipComment comment with
    | .ok rest => skipLines rest
    | .error fault => .error fault
  | rest => .ok rest
termination_by cs.length
decreasing_by
  · exact length_lt_of_skipBlanks _h
  · have := length_lt_of_skipBlanks _h
    rw [List.length_cons] at this
    omega
  · have := length_lt_of_skipBlanks _h
    have := length_le_of_skipComment _hc
    omega

/-- What follows the end of a line, which may hold blanks and a comment. -/
def lineEnd (cs : List Char) : Except Fault (List Char) := do
  let cs ← match skipBlanks cs with
    | '#' :: rest => skipComment rest
    | rest => pure rest
  match cs with
  | [] => .ok []
  | '\n' :: rest => .ok rest
  | '\r' :: '\n' :: rest => .ok rest
  | c :: _ => .error (.unexpected c)

/-! ## Keys -/

/-- A character of a key without quotes. -/
def isBareKeyChar (c : Char) : Bool := c.isAlphanum || c == '_' || c == '-'

/-- One part of a dotted key. -/
def simpleKey (cs : List Char) : Except Fault (String × List Char) :=
  match cs with
  | [] => .error .unexpectedEnd
  | '"' :: rest => (basicText rest).map fun (key, rest) => (String.ofList key, rest)
  | '\'' :: rest => (literalText rest).map fun (key, rest) => (String.ofList key, rest)
  | c :: _ =>
    let key := cs.takeWhile isBareKeyChar
    if key.isEmpty then .error (.unexpected c)
    else .ok (String.ofList key, cs.dropWhile isBareKeyChar)

/-- Most parts of a dotted key, and most arrays and inline tables around a value. -/
def depthLimit : Nat := 80

/-- The parts of a dotted key, with blanks around its dots, in order. -/
def keyParts (cs : List Char) : Except Fault (List String × List Char) := do
  let (key, rest) ← simpleKey (skipBlanks cs)
  match skipBlanks rest with
  | '.' :: rest =>
    if _h : rest.length < cs.length then
      let (keys, rest) ← keyParts rest
      .ok (key :: keys, rest)
    else .error .unexpectedEnd
  | rest => .ok ([key], rest)
termination_by cs.length

/-- A dotted key of no more parts than the limit. -/
def dottedKey (cs : List Char) : Except Fault (List String × List Char) := do
  let (keys, rest) ← keyParts cs
  if keys.length ≤ depthLimit then .ok (keys, rest) else .error .tooDeep

/-! ## Values -/

/-- A character of a word: a value without quotes. -/
def isWordChar (c : Char) : Bool :=
  !(['=', ',', '[', ']', '\x7b', '\x7d', '#', ' ', '\t', '\r', '\n'].contains c)

/-- Whether a text starts with a word. -/
def startsWord (cs : List Char) : Bool :=
  cs.head?.any fun c => isWordChar c && c != '"' && c != '\'' && c != '.'

/-- A value without quotes. A second word after blanks belongs to it, as the time does to a date. -/
def unquoted (cs : List Char) : Except Fault (Value × List Char) :=
  let word := cs.takeWhile isWordChar
  let rest := cs.dropWhile isWordChar
  let next := skipBlanks rest
  match word, rest with
  | [], [] => .error .unexpectedEnd
  | [], c :: _ => .error (.unexpected c)
  | _, _ =>
    if next.length < rest.length && startsWord next then
      let blanks := rest.take (rest.length - next.length)
      let second := next.takeWhile isWordChar
      (scalar (word ++ blanks ++ second)).map (·, next.dropWhile isWordChar)
    else (scalar word).map (·, rest)

/-- A string value from the text and the rest. -/
def stringValue (r : Except Fault (List Char × List Char)) : Except Fault (Value × List Char) :=
  r.map fun (text, rest) => (.string (String.ofList text), rest)

/-- Expects one character. -/
def expect (c : Char) : List Char → Except Fault (List Char)
  | [] => .error .unexpectedEnd
  | d :: rest => if d = c then .ok rest else .error (.unexpected d)

mutual

/-- A value. `depth` is the number of arrays and inline tables that may still open. -/
def value (depth : Nat) (cs : List Char) : Except Fault (Value × List Char) :=
  match cs, depth with
  | '"' :: '"' :: '"' :: rest, _ => stringValue (multilineText rest)
  | '"' :: rest, _ => stringValue (basicText rest)
  | '\'' :: '\'' :: '\'' :: rest, _ => stringValue (multilineLiteral rest)
  | '\'' :: rest, _ => stringValue (literalText rest)
  | '[' :: rest, depth + 1 => items depth [] rest
  | '\x7b' :: rest, depth + 1 => fields depth [] rest
  | '[' :: _, 0 | '\x7b' :: _, 0 => .error .tooDeep
  | cs, _ => unquoted cs
termination_by 2 * cs.length

/-- The items of an array up to its closing bracket, after those in `before`. -/
def items (depth : Nat) (before : List Value) (cs : List Char) :
    Except Fault (Value × List Char) := do
  match ← skipLines cs with
  | ']' :: rest => .ok (.array before, rest)
  | start =>
    if _h : start.length ≤ cs.length then
      let (v, rest) ← value depth start
      match ← skipLines rest with
      | ',' :: rest =>
        if _h : rest.length < cs.length then items depth (before ++ [v]) rest
        else .error .unexpectedEnd
      | rest => (expect ']' rest).map (.array (before ++ [v]), ·)
    else .error .unexpectedEnd
termination_by 2 * cs.length + 1

/-- The entries of an inline table up to its closing brace, after those in `before`. Line ends and
comments may stand wherever blanks may, but for the dots of a key. -/
def fields (depth : Nat) (before : Tree) (cs : List Char) : Except Fault (Value × List Char) := do
  match ← skipLines cs with
  | '\x7d' :: rest => .ok (.table (Tree.freeze before), rest)
  | start =>
    let (keys, rest) ← dottedKey start
    let start ← skipLines (← expect '=' (← skipLines rest))
    if _h : start.length ≤ cs.length then
      let (v, rest) ← value depth start
      let tree ← before.set v (keys.getLastD "") keys.dropLast
      match ← skipLines rest with
      | ',' :: rest =>
        if _h : rest.length < cs.length then fields depth tree rest else .error .unexpectedEnd
      | rest => (expect '\x7d' rest).map (.table (Tree.freeze tree), ·)
    else .error .unexpectedEnd
termination_by 2 * cs.length + 1

end

/-! ## Documents -/

/-- The lines of a document, read into `tree`; `path` is that of the last header. -/
def readLines (path : List String) (tree : Tree) (cs : List Char) : Except Fault Tree := do
  match ← skipLines cs with
  | [] => .ok tree
  | start =>
    let (path, tree, rest) ← match start with
      | '[' :: '[' :: rest => do
        let (keys, rest) ← dottedKey rest
        let rest ← expect ']' rest
        let rest ← expect ']' rest
        pure (keys, ← tree.openRow keys, rest)
      | '[' :: rest => do
        let (keys, rest) ← dottedKey rest
        let rest ← expect ']' rest
        pure (keys, ← tree.openTable keys, rest)
      | start => do
        let (keys, rest) ← dottedKey start
        let rest ← expect '=' rest
        let (v, rest) ← value depthLimit (skipBlanks rest)
        pure (path, ← tree.within (Tree.set v (keys.getLastD "") keys.dropLast) path, rest)
    let rest ← lineEnd rest
    if rest.isEmpty then .ok tree
    else if _h : rest.length < cs.length then readLines path tree rest
    else .error .unexpectedEnd
termination_by cs.length

/-- The table of a document. A byte order mark may precede it. -/
def parse (text : String) : Except Fault Table :=
  let cs := match text.toList with
    | c :: rest => if c.toNat = 0xFEFF then rest else c :: rest
    | [] => []
  (readLines [] [] cs).map Tree.freeze

end XmlBinding.Toml
