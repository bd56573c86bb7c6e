/-!
# XML nodes of properties

* `NodeBinding.resolve property marker` : `@x` binds the attribute `x`, any other marker the element
  of that name, no marker the element named like the property;
* `NodeBinding.e4xPath` : the node as a step of an E4X path.
-/

namespace XmlBinding

/-- Where a value stands in the XML. -/
inductive Placement where
  | attribute
  | element
  /-- The trimmed text of a child element. -/
  | text
  deriving DecidableEq, Repr

/-- Name and place of a property's value in the XML. -/
structure NodeBinding where
  placement : Placement
  name : String
  deriving DecidableEq, Repr

namespace NodeBinding

def attributeSigil : Char := '@'

def resolve (property : String) (marker : Option String) : NodeBinding :=
  match marker with
  | none => ⟨.element, property⟩
  | some value =>
    match value.toList with
    | c :: name =>
      if c = attributeSigil then ⟨.attribute, String.ofList name⟩ else ⟨.element, value⟩
    | [] => ⟨.element, value⟩

def isAttribute (n : NodeBinding) : Bool := n.placement = .attribute

/-- Step of an E4X path: `@id` or `name`. -/
def e4xPath (n : NodeBinding) : String :=
  if n.isAttribute then String.ofList (attributeSigil :: n.name.toList) else n.name

end NodeBinding

end XmlBinding
