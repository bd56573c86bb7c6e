import XmlBinding.Name
import XmlBinding.Text.Blank
import XmlBinding.Text.Split
import XmlBinding.Text.WordChar

/-!
# Java types

A type is a primitive, a class by its qualified name, or an array.

* `JavaType.parse package text` : reads a type reference; a simple name that is not well known
  belongs to `package`;
* `JavaType.qualifiedName`, `simpleName`, `wrapperName`, `importName?` : how generated code names
  it;
* `JavaType.isMap`, `isCollection` : membership in the known classes of `java.util`.
-/

namespace XmlBinding

/-- The primitive types. -/
inductive Primitive where
  | boolean
  | byte
  | char
  | short
  | int
  | long
  | float
  | double
  deriving DecidableEq, Repr

namespace Primitive

def all : List Primitive := [boolean, byte, char, short, int, long, float, double]

def name : Primitive → String
  | boolean => "boolean"
  | byte => "byte"
  | char => "char"
  | short => "short"
  | int => "int"
  | long => "long"
  | float => "float"
  | double => "double"

/-- Simple name of the wrapper class. -/
def wrapper : Primitive → String
  | boolean => "Boolean"
  | byte => "Byte"
  | char => "Character"
  | short => "Short"
  | int => "Integer"
  | long => "Long"
  | float => "Float"
  | double => "Double"

def ofName? (s : String) : Option Primitive := all.find? (·.name == s)

end Primitive

/-! ## Known classes -/

/-- Classes of `java.lang`, which need no import. -/
def langClasses : List String :=
  ["java.lang.Object", "java.lang.String", "java.lang.Boolean", "java.lang.Byte",
   "java.lang.Character", "java.lang.Short", "java.lang.Integer", "java.lang.Long",
   "java.lang.Float", "java.lang.Double", "java.lang.Number"]

/-- Classes assignable to `java.util.Map`. -/
def mapClasses : List String :=
  ["java.util.Map", "java.util.HashMap", "java.util.TreeMap", "java.util.LinkedHashMap",
   "java.util.SortedMap", "java.util.NavigableMap", "java.util.Hashtable", "java.util.WeakHashMap",
   "java.util.IdentityHashMap", "java.util.Properties", "java.util.concurrent.ConcurrentMap",
   "java.util.concurrent.ConcurrentHashMap"]

/-- Classes assignable to `java.util.Collection`. -/
def collectionClasses : List String :=
  ["java.util.Collection", "java.util.List", "java.util.ArrayList", "java.util.LinkedList",
   "java.util.Vector", "java.util.Stack", "java.util.Set", "java.util.HashSet",
   "java.util.LinkedHashSet", "java.util.TreeSet", "java.util.SortedSet", "java.util.NavigableSet",
   "java.util.Queue", "java.util.Deque", "java.util.ArrayDeque", "java.util.PriorityQueue",
   "java.util.concurrent.CopyOnWriteArrayList", "java.util.concurrent.CopyOnWriteArraySet"]

/-- Other classes of `java.util` known by their simple names. -/
def utilClasses : List String := ["java.util.Date", "java.util.Locale", "java.util.UUID"]

/-- The well known class of a simple name. -/
def wellKnown? (simple : String) : Option String :=
  (langClasses ++ mapClasses ++ collectionClasses ++ utilClasses).find? (simpleName · == simple)

/-! ## Types -/

/-- A static type of a bean property. -/
inductive JavaType where
  | primitive (p : Primitive)
  | reference (qualified : String)
  | array (component : JavaType)
  deriving DecidableEq, Repr

/-- Why a text is no type reference. -/
inductive TypeFault where
  | emptyName
  | invalidName (text : String)
  deriving DecidableEq, Repr

namespace JavaType

/-- A character of a type name. -/
def isNameChar (c : Char) : Bool := Text.isWordChar c || c == '_' || c == '$'

/-- A dotted sequence of non-empty segments of name characters. -/
def isDottedName (cs : List Char) : Bool :=
  (Text.cut '.' cs).all fun segment => !segment.isEmpty && segment.all isNameChar

/-- The type of a reference without array brackets. -/
def base (package : String) (cs : List Char) : Except TypeFault JavaType :=
  let text := String.ofList cs
  if !isDottedName cs then .error (.invalidName text)
  else
    match Primitive.ofName? text with
    | some p => .ok (.primitive p)
    | none =>
      if cs.contains '.' then .ok (.reference text)
      else .ok (.reference ((wellKnown? text).getD (qualify package text)))

/-- The type of a reference given from its last character to its first. White space may precede each
pair of brackets. -/
def ofReversed (package : String) (reversed : List Char) : Except TypeFault JavaType :=
  match _h : reversed.dropWhile Text.isBlank with
  | [] => .error .emptyName
  | ']' :: '[' :: rest => (ofReversed package rest).map .array
  | c :: rest => base package (c :: rest).reverse
termination_by reversed.length
decreasing_by
  have := (List.dropWhile_suffix Text.isBlank (l := reversed)).length_le
  rw [_h] at this
  simp only [List.length_cons] at this
  omega

/-- Reads a type reference. Simple names that are not well known belong to `package`. -/
def parse (package text : String) : Except TypeFault JavaType :=
  ofReversed package (Text.trimStart text.toList).reverse

def qualifiedName : JavaType → String
  | primitive p => p.name
  | reference q => q
  | array c => c.qualifiedName ++ "[]"

def simpleName : JavaType → String
  | primitive p => p.name
  | reference q => XmlBinding.simpleName q
  | array c => c.simpleName ++ "[]"

/-- Simple name, that of the wrapper class for a primitive. -/
def wrapperName : JavaType → String
  | primitive p => p.wrapper
  | t => t.simpleName

def isPrimitive : JavaType → Bool
  | primitive _ => true
  | _ => false

def component? : JavaType → Option JavaType
  | array c => some c
  | _ => none

def isArray (t : JavaType) : Bool := t.component?.isSome

/-- Whether the type is assignable to `java.util.Map`. -/
def isMap : JavaType → Bool
  | reference q => mapClasses.contains q
  | _ => false

/-- Whether the type is assignable to `java.util.Collection`. -/
def isCollection : JavaType → Bool
  | reference q => collectionClasses.contains q
  | _ => false

/-- The class that Java code must import to use the simple name. -/
def importName? : JavaType → Option String
  | primitive _ => none
  | reference q => if langClasses.contains q then none else some q
  | array c => c.importName?

end JavaType

end XmlBinding
