import XmlBinding.Proofs.Catalog.Layers

/-!
# The catalog names every method

The English bundle names every method, and no later layer takes a name away. So a loaded catalog has
a name for each key that a builder uses.

* `Catalog.IsMethodKey key` : a method that the English bundle names;
* `Catalog.NamesMethods c` : every such method has a name in `c`;
* `namesMethods_load` : loaded catalogs name them all;
* `NamesMethods.methodName_eq` : so their names are found.
-/

namespace XmlBinding.Catalog

/-- Whether the English bundle names a method. -/
def IsMethodKey (key : String) : Prop :=
  ∃ text ∈ english.methods, text.1 = key ∧ text.2.name.isSome

instance (key : String) : Decidable (IsMethodKey key) :=
  inferInstanceAs (Decidable (∃ text ∈ english.methods, _))

def nameTemplate? (c : Catalog) (key : String) : Option String :=
  (c.methods.find? key).bind (·.name)

def nameOf (c : Catalog) (key : String) (args : List String) : String :=
  ((c.nameTemplate? key).map (Template.fill args)).getD ""

/-- Every method that the English bundle names has a name. -/
def NamesMethods (c : Catalog) : Prop := ∀ key, IsMethodKey key → (c.nameTemplate? key).isSome

theorem NamesMethods.methodName_eq {c : Catalog} (h : c.NamesMethods) {key : String}
    (hk : IsMethodKey key) (args : List String) :
    c.methodName key args = .ok (c.nameOf key args) := by
  obtain ⟨template, ht⟩ := Option.isSome_iff_exists.1 (h key hk)
  rw [nameOf, ht]
  rw [nameTemplate?] at ht
  rw [methodName, ht]
  rfl

theorem IsMethodKey.isSome_template? {key : String} (hk : IsMethodKey key) :
    (english.template? .name key).isSome = true := by
  obtain ⟨entry, hentry, hkey, hname⟩ := hk
  refine isSome_lastSaid_iff.2 ⟨entry, hentry, ?_⟩
  rw [ofKey, if_pos hkey]
  exact hname

/-- A loaded catalog names every method, whatever the locale and the layer of the user. -/
theorem namesMethods_load (locale : String) (user : Option Bundle) :
    (load locale user).NamesMethods := fun _ hk =>
  isSome_name_load locale user hk.isSome_template?

end XmlBinding.Catalog
