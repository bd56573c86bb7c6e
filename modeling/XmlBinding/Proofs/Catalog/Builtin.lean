import XmlBinding.Proofs.Catalog.Names
import XmlBinding.Proofs.Template

/-!
# Names in the built-in catalogs

The French bundle has documentation only, so without a layer of the user every locale has the
English names.

* `Catalog.lastName entries key` : the name that entries end up with;
* `nameOf_load` : a built-in catalog has the English name of every method; `nameOf_load_plain`,
  `nameOf_load_around` : names without arguments and with one.
-/

namespace XmlBinding

namespace Catalog

/-! ## Layers -/

/-- The name of a key behind entries, where `earlier` is that before them. -/
def lastName (entries : List (String × MethodText)) (key : String) (earlier : Option String) :
    Option String :=
  entries.foldl (fun name entry => if entry.1 = key then entry.2.name <|> name else name) earlier

theorem lastName_cons (entry : String × MethodText) (entries : List (String × MethodText))
    (key : String) (earlier : Option String) :
    lastName (entry :: entries) key earlier =
      lastName entries key (if entry.1 = key then entry.2.name <|> earlier else earlier) := rfl

theorem lastName_eq_or (entries : List (String × MethodText)) (key : String)
    (earlier : Option String) :
    lastName entries key earlier = (lastSaid (ofKey key (·.get .name)) entries).or earlier := by
  induction entries generalizing earlier with
  | nil => rfl
  | cons entry entries ih =>
    rw [lastName_cons, ih, lastSaid_cons, Option.or_assoc, ofKey]
    congr 1
    split
    · exact Option.orElse_eq_or ..
    · exact (Option.none_or ..).symm

/-- Template for the English name of a method. -/
def englishName? (key : String) : Option String := lastName english.methods key none

theorem englishName?_eq (key : String) : englishName? key = english.template? .name key := by
  unfold englishName?
  rw [lastName_eq_or, Option.or_none]
  rfl

/-- A built-in catalog has the English name of every method, whatever the locale. -/
theorem nameOf_load (locale : String) {key name : String} (hkey : englishName? key = some name)
    (args : List String) : (load locale none).nameOf key args = Template.fill args name := by
  have htemplate : (load locale none).nameTemplate? key = some name :=
    (template?_name_load locale key).trans ((englishName?_eq key).symm.trans hkey)
  rw [nameOf, htemplate]
  rfl

/-- A name without arguments. -/
theorem nameOf_load_plain (locale key name : String) (hkey : englishName? key = some name)
    (hname : '\x7b' ∉ name.toList) : (load locale none).nameOf key [] = name := by
  rw [nameOf_load locale hkey, Template.fill_of_not_mem [] hname]

/-- A name around its argument. -/
theorem nameOf_load_around (locale key before after : String)
    (hkey : englishName? key = some (before ++ "\x7b0\x7d" ++ after))
    (hbefore : '\x7b' ∉ before.toList) (hafter : '\x7b' ∉ after.toList) (arg : String) :
    (load locale none).nameOf key [arg] = before ++ arg ++ after := by
  rw [nameOf_load locale hkey, Template.fill_single hbefore hafter]

end Catalog

end XmlBinding
