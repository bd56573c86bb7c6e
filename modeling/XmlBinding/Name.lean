import XmlBinding.Text.Casing

/-!
# Names of classes, packages and accessors

* `capitalize s` : `s` with its first character in upper case;
* `accessorName lead property` : `get` and `name` give `getName`;
* `simpleName q`, `packageOf q` : what follows and what precedes the last dot of `q`;
* `qualify package simple` : the two joined again.
-/

namespace XmlBinding

/-- The text with its first character in upper case. -/
def capitalize (s : String) : String :=
  match s.toList with
  | [] => ""
  | c :: rest => String.ofList (Text.upperChar c ++ rest)

def accessorName (lead property : String) : String := lead ++ capitalize property

/-- What follows the last dot. -/
def simpleName (qualified : String) : String :=
  String.ofList (qualified.toList.reverse.takeWhile (· ≠ '.')).reverse

/-- What precedes the last dot; empty without a dot. -/
def packageOf (qualified : String) : String :=
  String.ofList ((qualified.toList.reverse.dropWhile (· ≠ '.')).drop 1).reverse

/-- Qualified name of a class; in the default package it is the simple name. -/
def qualify (package simple : String) : String :=
  if package.isEmpty then simple else package ++ "." ++ simple

end XmlBinding
