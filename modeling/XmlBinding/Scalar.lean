import XmlBinding.JavaType
import XmlBinding.Number.Decimal
import XmlBinding.Number.Integer

/-!
# Scalars

The types whose values are written as XML text: booleans, integers, floating point and strings, each
but the last as a primitive and as a wrapper class.

* `ScalarKind.of? t` : the scalar kind of a type;
* `ScalarKind.javaParse k` : what Java code puts around an XML text to get the value;
* `ScalarKind.clientName k` : the type of the value in client code;
* `ScalarKind.read k text` : the value that a literal denotes; `ScalarValue.render v` writes it
  back;
* `JavaType.clientName t` : the type in client code of values that are no entities.
-/

namespace XmlBinding

/-- Types with a conversion between XML text and value. -/
inductive ScalarKind where
  | boolean
  | boxedBoolean
  | short
  | boxedShort
  | int
  | integer
  | long
  | boxedLong
  | float
  | boxedFloat
  | double
  | boxedDouble
  | string
  deriving DecidableEq, Repr

/-- A scalar value. -/
inductive ScalarValue where
  | bool (v : Bool)
  | short (v : Int16)
  | int (v : Int32)
  | long (v : Int64)
  | float (v : BinaryFloat)
  | double (v : BinaryFloat)
  | text (v : String)
  deriving DecidableEq, Repr

/-- Why a text is no literal of a scalar kind. -/
inductive LiteralFault where
  | notBoolean (text : String)
  | integer (kind : ScalarKind) (fault : IntegerFault)
  | float (kind : ScalarKind) (fault : FloatFault)
  deriving DecidableEq, Repr

namespace ScalarKind

def of? : JavaType → Option ScalarKind
  | .primitive .boolean => some boolean
  | .primitive .short => some short
  | .primitive .int => some int
  | .primitive .long => some long
  | .primitive .float => some float
  | .primitive .double => some double
  | .reference "java.lang.Boolean" => some boxedBoolean
  | .reference "java.lang.Short" => some boxedShort
  | .reference "java.lang.Integer" => some integer
  | .reference "java.lang.Long" => some boxedLong
  | .reference "java.lang.Float" => some boxedFloat
  | .reference "java.lang.Double" => some boxedDouble
  | .reference "java.lang.String" => some string
  | _ => none

def javaName : ScalarKind → String
  | boolean => "boolean"
  | boxedBoolean => "Boolean"
  | short => "short"
  | boxedShort => "Short"
  | int => "int"
  | integer => "Integer"
  | long => "long"
  | boxedLong => "Long"
  | float => "float"
  | boxedFloat => "Float"
  | double => "double"
  | boxedDouble => "Double"
  | string => "String"

/-- What precedes and what follows the XML text in a Java expression for the value. -/
def javaParse : ScalarKind → String × String
  | boolean => ("\"true\".equals(", ")")
  | boxedBoolean => ("Boolean.valueOf(", ")")
  | short => ("Short.parseShort(", ")")
  | boxedShort => ("Short.valueOf(", ")")
  | int => ("Integer.parseInt(", ")")
  | integer => ("Integer.valueOf(", ")")
  | long => ("Long.parseLong(", ")")
  | boxedLong => ("Long.valueOf(", ")")
  | float => ("Float.parseFloat(", ")")
  | boxedFloat => ("Float.valueOf(", ")")
  | double => ("Double.parseDouble(", ")")
  | boxedDouble => ("Double.valueOf(", ")")
  | string => ("", "")

/-- Type of the value in client code. -/
def clientName : ScalarKind → String
  | boolean | boxedBoolean => "Boolean"
  | short | boxedShort | int | integer => "int"
  | long | boxedLong | float | boxedFloat | double | boxedDouble => "Number"
  | string => "String"

end ScalarKind

namespace LiteralFault

def message : LiteralFault → String
  | notBoolean text => s!"not a valid boolean: '{text}'"
  | integer kind fault => s!"not a valid {kind.javaName}: {fault.message}"
  | float kind fault => s!"not a valid {kind.javaName}: {fault.message}"

end LiteralFault

namespace ScalarKind

def readInteger (k : ScalarKind) (w : IntegerWidth) (text : String) : Except LiteralFault Int :=
  (w.read text).mapError (.integer k)

/-- The value of a decimal literal of the kind. -/
def readFloat (k : ScalarKind) (f : FloatFormat) (text : String) :
    Except LiteralFault BinaryFloat :=
  (f.read text).mapError (.float k)

/-- The value that a literal denotes. Booleans are `true` and `false` alone. -/
def read (k : ScalarKind) (text : String) : Except LiteralFault ScalarValue :=
  match k with
  | boolean | boxedBoolean =>
    match text with
    | "true" => .ok (.bool true)
    | "false" => .ok (.bool false)
    | _ => .error (.notBoolean text)
  | short | boxedShort => (k.readInteger .w16 text).map fun n => .short (Int16.ofInt n)
  | int | integer => (k.readInteger .w32 text).map fun n => .int (Int32.ofInt n)
  | long | boxedLong => (k.readInteger .w64 text).map fun n => .long (Int64.ofInt n)
  | float | boxedFloat => (k.readFloat .single text).map .float
  | double | boxedDouble => (k.readFloat .double text).map .double
  | string => .ok (.text text)

end ScalarKind

def ScalarValue.render : ScalarValue → String
  | bool true => "true"
  | bool false => "false"
  | short v => toString v.toInt
  | int v => toString v.toInt
  | long v => toString v.toInt
  | float v => FloatFormat.single.render v
  | double v => FloatFormat.double.render v
  | text v => v

/-- Type in client code of a value that is no entity. -/
def JavaType.clientName (t : JavaType) : String :=
  if t.isArray || t.isCollection then "Array"
  else if t.isMap then "Dictionary"
  else ((ScalarKind.of? t).map ScalarKind.clientName).getD t.simpleName

end XmlBinding
