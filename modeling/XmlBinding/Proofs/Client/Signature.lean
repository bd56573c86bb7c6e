import XmlBinding.Proofs.Catalog.Builtin
import XmlBinding.Proofs.Client.Call
import XmlBinding.Proofs.Signature

/-!
# Names of methods in a client builder

With a built-in catalog the method of a helper that reads values is named `get`, then by their type,
then by its kind.

* `Client.subject`, `ending` : the parts of the name of a helper's method; `nameOf_reference`;
* `Client.methodName_eq_iff` : helpers of one name are of one identity;
* `Client.mem_standingNames_iff` : helpers with the name of a method of every builder;
* `Client.nodup_names_iff` : where names are told apart;
* `Client.isIdentifier_names_iff` : where names are identifiers.
-/

namespace XmlBinding.Client

variable {j k : ClientHelper} {scope : Scope} {t u : JavaType}

/-! ## Names -/

/-- What stands for the type in the name of a helper's method. -/
def subject : ClientHelper → String
  | .readArray t | .readMap t => capitalize t.clientName
  | .readString | .writeMap => ""

/-- What stands behind the type in the name of a helper's method. -/
def ending : ClientHelper → String
  | .readString => "String"
  | .readArray _ => "Array"
  | .readMap _ => "Map"
  | .writeMap => "BasicMapXML"

def methodName (j : ClientHelper) : String := "get" ++ subject j ++ ending j

theorem nameOf_reference (locale : String) (j : ClientHelper) :
    (Catalog.load locale none).nameOf (reference j).key (reference j).args = methodName j := by
  cases j with
  | readString =>
    exact Catalog.nameOf_load_plain locale getString "getString" (by decide) (by decide)
  | readArray t =>
    exact Catalog.nameOf_load_around locale getBasicArray "get" "Array" (by decide) (by decide)
      (by decide) _
  | readMap t =>
    exact Catalog.nameOf_load_around locale getBasicMap "get" "Map" (by decide) (by decide)
      (by decide) _
  | writeMap =>
    exact Catalog.nameOf_load_plain locale getBasicMapXml "getBasicMapXML" (by decide) (by decide)

/-- Endings of the names of helpers' methods. -/
def endings : List String := ["String", "Array", "Map", "BasicMapXML"]

theorem ending_mem_endings (j : ClientHelper) : ending j ∈ endings := by
  cases j <;> simp [ending, endings]

theorem methodName_eq_get_iff {s e : String} (he : e ∈ endings) :
    methodName j = "get" ++ s ++ e ↔ subject j = s ∧ ending j = e := by
  unfold methodName
  rw [append_eq_append_iff (by decide) (ending_mem_endings j) he, String.append_right_inj]

/-- The name of a helper's method says which identity it is of. -/
theorem methodName_eq_iff : methodName j = methodName k ↔ identity j = identity k := by
  rw [identity_eq_iff]
  constructor
  · intro h
    obtain ⟨hsubject, hending⟩ := (methodName_eq_get_iff (ending_mem_endings k)).1 h
    cases j with
    | readString =>
      cases k with
      | readString => exact .readString
      | _ => simp [ending] at hending
    | readArray t =>
      cases k with
      | readArray u => exact .readArray hsubject
      | _ => simp [ending] at hending
    | readMap t =>
      cases k with
      | readMap u => exact .readMap hsubject
      | _ => simp [ending] at hending
    | writeMap =>
      cases k with
      | writeMap => exact .writeMap
      | _ => simp [ending] at hending
  · intro h
    cases h with
    | readArray h | readMap h => simp [methodName, subject, ending, h]
    | readString | writeMap => rfl

/-! ## Methods of every builder -/

def standingNames : List String :=
  ["getInstance", "getXML", "getBasicXML", "getEntityArray", "getEntityXMLList",
    "getBasicXMLList", "getEntityMap", "getEntityMapXML"]

theorem map_standingDefinitions_name (locale : String) (scope : Scope) :
    (standingDefinitions scope).map (fun d =>
      (Catalog.load locale none).nameOf d.1.key d.1.args) = standingNames := by
  have hname (key name : String) (hkey : Catalog.englishName? key = some name)
      (hname : '\x7b' ∉ name.toList) :=
    Catalog.nameOf_load_plain locale key name hkey hname
  simp only [standingDefinitions, standingNames, List.map_cons, List.map_nil,
    hname getInstance "getInstance" (by decide) (by decide),
    hname getXml "getXML" (by decide) (by decide),
    hname getBasicXml "getBasicXML" (by decide) (by decide),
    hname getEntityArray "getEntityArray" (by decide) (by decide),
    hname getEntityXmlList "getEntityXMLList" (by decide) (by decide),
    hname getBasicXmlList "getBasicXMLList" (by decide) (by decide),
    hname getEntityMap "getEntityMap" (by decide) (by decide),
    hname getEntityMapXml "getEntityMapXML" (by decide) (by decide)]

/-- Helpers with the name of a method of every builder. -/
theorem mem_standingNames_iff : methodName j ∈ standingNames ↔
    ∃ t, (j = .readArray t ∨ j = .readMap t) ∧ capitalize t.clientName = "Entity" := by
  simp only [standingNames, List.mem_cons, List.not_mem_nil, or_false]
  constructor
  · have hparts {e : String} (he : e ∈ endings) (hn : methodName j = "get" ++ "Entity" ++ e) :=
      (methodName_eq_get_iff he).1 hn
    rintro (hn | hn | hn | hn | hn | hn | hn | hn)
    · exact absurd hn (append_ne (by decide) (ending_mem_endings j) _)
    · exact absurd hn (append_ne (by decide) (ending_mem_endings j) _)
    · exact absurd hn (append_ne (by decide) (ending_mem_endings j) _)
    · obtain ⟨hs, he⟩ := hparts (e := "Array") (by decide) hn
      cases j with
      | readArray t => exact ⟨t, .inl rfl, hs⟩
      | _ => simp [ending] at he
    · exact absurd hn (append_ne (by decide) (ending_mem_endings j) _)
    · exact absurd hn (append_ne (by decide) (ending_mem_endings j) _)
    · obtain ⟨hs, he⟩ := hparts (e := "Map") (by decide) hn
      cases j with
      | readMap t => exact ⟨t, .inr rfl, hs⟩
      | _ => simp [ending] at he
    · exact absurd hn (append_ne (by decide) (ending_mem_endings j) _)
  · rintro ⟨t, rfl | rfl, ht⟩ <;> simp [methodName, subject, ending, ht]

/-! ## Bodies -/

/-- Helpers ask for the one that reads a text, or for none. -/
theorem eq_readString_of_mem_helperRequests {s : Session} (h : k ∈ helperRequests s j) :
    k = .readString := by
  have hvalue {t : JavaType} (h : k ∈ valueRequests s t) : k = .readString := by
    unfold valueRequests at h
    split at h
    · exact absurd h List.not_mem_nil
    · split at h
      · exact List.mem_singleton.1 h
      · exact absurd h List.not_mem_nil
  cases j with
  | readString | writeMap => exact absurd h List.not_mem_nil
  | readArray t | readMap t => exact hvalue h

section Body
variable {s : Session} {code : Code} {asked jobs : List ClientHelper}
  (hcode : code.definitions = standingDefinitions scope ++ jobs.map definition)
  (closed : IsClosure identity asked (helperRequests s) jobs) (locale : String)

include hcode

theorem names_eq : code.names (Catalog.load locale none) =
    standingNames ++ jobs.map methodName := by
  have hname (j : ClientHelper) :
      (Catalog.load locale none).nameOf (definition j).1.key (definition j).1.args =
        methodName j := by
    rw [definition, nameOf_reference]
  unfold Code.names
  rw [hcode, List.map_append, map_standingDefinitions_name, List.map_map]
  refine congrArg (standingNames ++ ·) ?_
  refine List.map_congr_left fun j _ => ?_
  rw [Function.comp_apply, hname]

include closed

/-- The methods of a builder have names of their own exactly where no helper that is asked for reads
arrays or maps of a type by the name of entities. -/
theorem nodup_names_iff : (code.names (Catalog.load locale none)).Nodup ↔
    ∀ t, .readArray t ∈ asked ∨ .readMap t ∈ asked → capitalize t.clientName ≠ "Entity" := by
  rw [names_eq hcode, closed.nodup_iff (by decide) (fun _ _ => methodName_eq_iff.2)]
  · simp only [methodName_eq_iff, mem_standingNames_iff]
    constructor
    · rintro ⟨-, hnone⟩ t (ht | ht) he
      · exact hnone _ ht ⟨t, .inl rfl, he⟩
      · exact hnone _ ht ⟨t, .inr rfl, he⟩
    · refine fun h => ⟨fun _ _ _ _ => id, ?_⟩
      rintro j hj ⟨t, rfl | rfl, he⟩
      · exact h t (.inl hj) he
      · exact h t (.inr hj) he
  · intro i j hj
    rw [eq_readString_of_mem_helperRequests hj]
    exact ⟨fun _ => methodName_eq_iff.1, by decide⟩

/-- The names of methods are identifiers exactly where the types in the names of the helpers that
are asked for are made of characters of identifiers. -/
theorem isIdentifier_names_iff (l : Lexicon) :
    (∀ name ∈ code.names (Catalog.load locale none), l.IsIdentifier name) ↔
      ∀ j ∈ asked, l.IsMade (subject j) := by
  have hstanding : ∀ name ∈ standingNames, l.IsIdentifier name := by
    have hletters : ∀ name ∈ standingNames,
        name.toList.all Char.isAlpha = true ∧ name.toList.head?.isSome = true := by decide
    exact fun name hname =>
      l.isIdentifier_of_letters (hletters name hname).1 (hletters name hname).2
  have hending : ∀ e ∈ endings, e.toList.all Char.isAlpha = true := by decide
  have hjobs : (∀ name ∈ jobs.map methodName, l.IsIdentifier name) ↔
      ∀ j ∈ jobs, l.IsMade (subject j) := by
    rw [List.forall_mem_map]
    exact forall₂_congr fun j _ =>
      l.isIdentifier_around_iff (hending _ (ending_mem_endings j))
  rw [names_eq hcode, List.forall_mem_append, hjobs,
    closed.forall_iff (P := fun j => l.IsMade (subject j))]
  · exact and_iff_right hstanding
  · intro i j hid hi
    have hname := (methodName_eq_get_iff (ending_mem_endings j)).1 (methodName_eq_iff.2 hid)
    rwa [← hname.1]
  · intro i j hj
    rw [eq_readString_of_mem_helperRequests hj]
    exact l.isMade_of_letters rfl

end Body

end XmlBinding.Client
