import XmlBinding.Proofs.Server.Served

/-!
# Identities of helpers in a server builder

* `JavaType.eq_of_simpleName_eq` : types have one name where they are arrays of one depth, of
  classes of one name;
* `Server.Alike` : helpers of one kind, for types that go by the same names; `identity_eq_iff` :
  these are the helpers of one identity;
* `Server.capitalize_eq_of_mapTypes_eq` : scalars as keys are always told apart;
* `Server.ToldApart` : the names under which two helpers are asked for tell their types apart, but
  for a primitive and its wrapper; `toldApart_of_classes` : so do the names of arrays and of
  collections, where classes of one name are one class;
* `Server.boxed_eq_of_alike` : then helpers of one identity are for the same types.
-/

namespace XmlBinding

namespace JavaType

/-- The wrapper class in place of a primitive. -/
def boxed : JavaType → JavaType
  | .primitive p => .reference ("java.lang." ++ p.wrapper)
  | t => t

/-- The name with a wrapper for a primitive is that of the class it is replaced by. -/
theorem simpleName_boxed (t : JavaType) : t.boxed.simpleName = t.wrapperName := by
  cases t with
  | primitive p => cases p <;> decide
  | reference q => rfl
  | array c => rfl

/-- The class or the primitive that a type is made of. -/
def innermost : JavaType → JavaType
  | .array c => c.innermost
  | t => t

/-- The class in a type does not end in the brackets of an array itself. -/
def IsUnbracketed (t : JavaType) : Prop := '[' ∉ t.innermost.simpleName.toList

/-- No array has the name of a type that is none. -/
theorem IsUnbracketed.simpleName_ne_array {u : JavaType} (hu : u.IsUnbracketed)
    (hbase : u.innermost = u) (c : JavaType) : u.simpleName ≠ (array c).simpleName := by
  intro h
  unfold IsUnbracketed at hu
  rw [hbase, h] at hu
  exact hu (by simp [simpleName])

/-- Where classes of one name are one class, types of one name are one type. -/
theorem eq_of_simpleName_eq {t u : JavaType} (ht : t.IsUnbracketed) (hu : u.IsUnbracketed)
    (hbase : t.innermost.simpleName = u.innermost.simpleName → t.innermost = u.innermost)
    (h : t.simpleName = u.simpleName) : t = u := by
  induction t generalizing u with
  | array c ih =>
    cases u with
    | array c' =>
      have hname : c.simpleName = c'.simpleName := (String.append_left_inj "[]").1 h
      have hsame : c = c' := ih ht hu hbase hname
      rw [hsame]
    | primitive p => exact absurd h.symm (hu.simpleName_ne_array rfl c)
    | reference q => exact absurd h.symm (hu.simpleName_ne_array rfl c)
  | primitive p =>
    cases u with
    | array c' => exact absurd h (ht.simpleName_ne_array rfl c')
    | _ => exact hbase h
  | reference q =>
    cases u with
    | array c' => exact absurd h (ht.simpleName_ne_array rfl c')
    | _ => exact hbase h

end JavaType

namespace ServerHelper

/-- The helper for the wrapper classes in place of primitives. -/
def boxed : ServerHelper → ServerHelper
  | .readArray t => .readArray t.boxed
  | .readCollection t => .readCollection t.boxed
  | .readMap key entry => .readMap key.boxed entry.boxed
  | .writeArray t => .writeArray t.boxed
  | .writeCollection => .writeCollection
  | .writeMap => .writeMap

end ServerHelper

namespace Server

/-- Helpers of one kind for types of the same names. -/
inductive Alike : ServerHelper → ServerHelper → Prop
  | readArray {t u : JavaType} (h : t.simpleName = u.simpleName) :
      Alike (.readArray t) (.readArray u)
  | readCollection {t u : JavaType} (h : t.wrapperName = u.wrapperName) :
      Alike (.readCollection t) (.readCollection u)
  | readMap {key entry key' entry' : JavaType} (h : mapTypes key entry = mapTypes key' entry') :
      Alike (.readMap key entry) (.readMap key' entry')
  | writeArray {t u : JavaType} (h : t.simpleName = u.simpleName) :
      Alike (.writeArray t) (.writeArray u)
  | writeCollection : Alike .writeCollection .writeCollection
  | writeMap : Alike .writeMap .writeMap

variable {j k : ServerHelper}

/-- An identity says which kind a helper is of, and what its types are called. -/
theorem identity_eq_iff : identity j = identity k ↔ Alike j k := by
  constructor
  · intro h
    cases j with
    | readArray t =>
      obtain ⟨u, rfl, hu⟩ := eq_readArray h.symm
      exact .readArray hu.symm
    | readCollection t =>
      obtain ⟨u, rfl, hu⟩ := eq_readCollection h.symm
      exact .readCollection hu.symm
    | readMap key entry =>
      obtain ⟨key', entry', rfl, hu⟩ := eq_readMap h.symm
      exact .readMap hu.symm
    | writeArray t =>
      obtain ⟨u, rfl, hu⟩ := eq_writeArray h.symm
      exact .writeArray hu.symm
    | writeCollection =>
      obtain rfl := eq_writeCollection h.symm
      exact .writeCollection
    | writeMap =>
      obtain rfl := eq_writeMap h.symm
      exact .writeMap
  · intro h
    cases h with
    | readArray h | readCollection h | readMap h | writeArray h => exact congrArg (HelperId.mk _) h
    | writeCollection => rfl
    | writeMap => rfl

/-! ## Keys of maps -/

/-- Names of the wrapper classes of scalars. -/
def scalarWrappers : List String :=
  ["Boolean", "Short", "Integer", "Long", "Float", "Double", "String"]

theorem wrapperName_mem_scalarWrappers {t : JavaType} (h : (ScalarKind.of? t).isSome = true) :
    t.wrapperName ∈ scalarWrappers := by
  unfold ScalarKind.of? at h
  split at h <;> first | decide | cases h

/-- No name of a scalar's wrapper class begins with another. -/
theorem eq_of_isPrefix_scalarWrappers :
    ∀ a ∈ scalarWrappers, ∀ b ∈ scalarWrappers,
      (capitalize a).toList.isPrefixOf (capitalize b).toList = true → a = b := by
  decide

/-- Scalars as keys keep their names behind those of any entries. -/
theorem capitalize_eq_of_mapTypes_eq {key entry key' entry' : JavaType}
    (hkey : (ScalarKind.of? key).isSome = true) (hkey' : (ScalarKind.of? key').isSome = true)
    (h : mapTypes key entry = mapTypes key' entry') :
    capitalize key.wrapperName = capitalize key'.wrapperName := by
  have hlists := congrArg String.toList h
  unfold mapTypes at hlists
  rw [String.toList_append, String.toList_append] at hlists
  have hleft : (capitalize key.wrapperName).toList <+: (capitalize key'.wrapperName).toList ++
      (capitalize entry'.wrapperName).toList := ⟨_, hlists⟩
  rcases List.prefix_or_prefix_of_prefix hleft (List.prefix_append _ _) with hp | hp
  · rw [eq_of_isPrefix_scalarWrappers _ (wrapperName_mem_scalarWrappers hkey) _
      (wrapperName_mem_scalarWrappers hkey') (List.isPrefixOf_iff_prefix.2 hp)]
  · rw [eq_of_isPrefix_scalarWrappers _ (wrapperName_mem_scalarWrappers hkey') _
      (wrapperName_mem_scalarWrappers hkey) (List.isPrefixOf_iff_prefix.2 hp)]

/-! ## Types told apart -/

/-- The names under which two helpers are asked for tell their types apart, but for a primitive and
its wrapper. In the name for a map those of its key and its entry stand one behind the other; where
both keys are scalars it is clear where they end. -/
def ToldApart : ServerHelper → ServerHelper → Prop
  | .readArray t, .readArray u | .writeArray t, .writeArray u =>
    t.simpleName = u.simpleName → t.boxed = u.boxed
  | .readCollection t, .readCollection u => t.wrapperName = u.wrapperName → t.boxed = u.boxed
  | .readMap key entry, .readMap key' entry' =>
    (capitalize key.wrapperName = capitalize key'.wrapperName → key.boxed = key'.boxed) ∧
    (capitalize entry.wrapperName = capitalize entry'.wrapperName → entry.boxed = entry'.boxed) ∧
    (((ScalarKind.of? key).isSome && (ScalarKind.of? key').isSome) = false →
      mapTypes key entry = mapTypes key' entry' →
        capitalize key.wrapperName = capitalize key'.wrapperName)
  | _, _ => True

/-- Where classes of one name are one class, the names of arrays and collections tell them apart. -/
theorem toldApart_of_classes {t u : JavaType} :
    (t.IsUnbracketed → u.IsUnbracketed →
      (t.innermost.simpleName = u.innermost.simpleName → t.innermost = u.innermost) →
      ToldApart (.readArray t) (.readArray u) ∧ ToldApart (.writeArray t) (.writeArray u)) ∧
    (t.boxed.IsUnbracketed → u.boxed.IsUnbracketed →
      (t.boxed.innermost.simpleName = u.boxed.innermost.simpleName →
        t.boxed.innermost = u.boxed.innermost) →
      ToldApart (.readCollection t) (.readCollection u)) := by
  constructor
  · intro ht hu hbase
    have htold : t.simpleName = u.simpleName → t.boxed = u.boxed := fun h =>
      congrArg JavaType.boxed (JavaType.eq_of_simpleName_eq ht hu hbase h)
    exact ⟨htold, htold⟩
  · intro ht hu hbase h
    rw [← t.simpleName_boxed, ← u.simpleName_boxed] at h
    exact JavaType.eq_of_simpleName_eq ht hu hbase h

/-- Where names tell types apart, helpers of one identity are for the same types. -/
theorem boxed_eq_of_alike (hapart : ToldApart j k) (h : Alike j k) : j.boxed = k.boxed := by
  cases h with
  | readArray h => exact congrArg ServerHelper.readArray (hapart h)
  | readCollection h => exact congrArg ServerHelper.readCollection (hapart h)
  | @readMap key entry key' entry' h =>
    obtain ⟨hkeys, hentries, hends⟩ := hapart
    have hkey : capitalize key.wrapperName = capitalize key'.wrapperName := by
      cases hs : (ScalarKind.of? key).isSome && (ScalarKind.of? key').isSome with
      | true =>
        obtain ⟨hs, hs'⟩ := Bool.and_eq_true_iff.1 hs
        exact capitalize_eq_of_mapTypes_eq hs hs' h
      | false => exact hends hs h
    have hentry : capitalize entry.wrapperName = capitalize entry'.wrapperName := by
      unfold mapTypes at h
      rw [hkey] at h
      exact (String.append_right_inj _).1 h
    show ServerHelper.readMap key.boxed entry.boxed = .readMap key'.boxed entry'.boxed
    rw [hkeys hkey, hentries hentry]
  | writeArray h => exact congrArg ServerHelper.writeArray (hapart h)
  | writeCollection => rfl
  | writeMap => rfl

end Server

end XmlBinding
