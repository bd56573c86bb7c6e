import XmlBinding.Config
import XmlBinding.Property

/-!
# Access styles

How generated code gets at one value, and the frame of a class in each language.

* `AccessStyle.dom4j`, `as3` : the primary styles, whose access is a statement on the bean;
* `dom4jText`, `dom4jKey`, `as3Text` : the value styles, whose access is an expression;
* `AccessStyle.access?` : the access itself;
* `packageHeader`, `classHeader`, `classFooter`, `docComment` : the frame of a class.
-/

namespace XmlBinding

/-- Styles of access. -/
inductive AccessStyle where
  | dom4j
  | dom4jText
  | dom4jKey
  | as3
  | as3Text
  deriving DecidableEq, Repr

/-- Attribute that holds the key of a map entry. -/
def mapKeyAttribute : String := "KEY"

/-- Element of an entry in an array, a collection or a map. -/
def entryElement : String := "e"

/-- Documentation block at a level. -/
def docComment (c : Config) (text : String) (level : Nat) : String :=
  let indent := c.indent level
  let line (l : String) := if l.isEmpty then indent ++ " *\n" else indent ++ " * " ++ l ++ "\n"
  indent ++ "/**\n" ++ String.join ((Text.linesOf text).map line) ++ indent ++ " */\n"

namespace AccessStyle

/-- Whether access is a statement on the bean. -/
def isPrimary : AccessStyle → Bool
  | dom4j | as3 => true
  | dom4jText | dom4jKey | as3Text => false

def isJava : AccessStyle → Bool
  | dom4j | dom4jText | dom4jKey => true
  | as3 | as3Text => false

def classLevel (s : AccessStyle) : Nat := if s.isJava then 0 else 1

def methodLevel (s : AccessStyle) : Nat := s.classLevel + 1

def bodyLevel (s : AccessStyle) : Nat := s.classLevel + 2

/-- How the dom4j element is asked for a value. Attributes are always read as attributes. -/
def dom4jAccessor (node : NodeBinding) (placement : Option Placement) : String :=
  if node.isAttribute then "attributeValue"
  else if placement = some .element then "element"
  else "elementTextTrim"

/-- Statement or expression that reads one value from `var`, wrapped in `lead` and `tail`. A primary
style has none for a property without a setter. -/
def access? (s : AccessStyle) (c : Config) (var : String) (p : Property) (lead tail : String)
    (placement : Option Placement) : Option String :=
  match s with
  | dom4j =>
    p.setter.map fun setter =>
      c.indent s.bodyLevel ++ var ++ "." ++ setter ++ "(" ++ lead ++ "el." ++
        dom4jAccessor p.node placement ++ "(\"" ++ p.node.name ++ "\")" ++ tail ++ ");\n"
  | dom4jText => some (lead ++ var ++ ".getTextTrim()" ++ tail)
  | dom4jKey => some (lead ++ var ++ ".attributeValue(\"" ++ mapKeyAttribute ++ "\")" ++ tail)
  | as3 =>
    if p.isReadOnly then none
    else
      some (c.indent s.bodyLevel ++ var ++ "." ++ p.name ++ " = " ++ lead ++ "nod." ++
        p.node.e4xPath ++ tail ++ ";\n")
  | as3Text => some (lead ++ var ++ tail)

def packageHeader (s : AccessStyle) (c : Config) (package : String) (imports : List String) :
    String :=
  let blank := if imports.isEmpty then "" else "\n"
  if s.isJava then
    (if package.isEmpty then "" else "package " ++ package ++ ";\n\n") ++
      String.join (imports.map fun i => "import " ++ i ++ ";\n") ++ blank
  else
    "package" ++ (if package.isEmpty then "" else " " ++ package) ++ c.openBrace 0 ++ blank ++
      String.join (imports.map fun i => c.indent 1 ++ "import " ++ i ++ ";\n") ++ blank

/-- Class header up to its opening brace. -/
def classHeader (s : AccessStyle) (c : Config) (name : String) (superclass : Option String)
    (interfaces : List String) : String :=
  c.indent s.classLevel ++ "public class " ++ name ++
    (match superclass with
      | some base => " extends " ++ base
      | none => "") ++
    (if interfaces.isEmpty then "" else " implements " ++ ", ".intercalate interfaces) ++
    c.openBrace s.classLevel

/-- Closing brace of the class, and of the package where the package is a block. -/
def classFooter (s : AccessStyle) (c : Config) : String :=
  if s.isJava then "\x7d\n" else c.indent 1 ++ "\x7d\n\x7d\n"

end AccessStyle

end XmlBinding
