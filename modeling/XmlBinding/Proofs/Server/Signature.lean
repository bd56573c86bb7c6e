import XmlBinding.Proofs.Catalog.Builtin
import XmlBinding.Proofs.Server.Call
import XmlBinding.Proofs.Signature

/-!
# Names and signatures in a server builder

With a built-in catalog the method of a helper is named `get`, then by the types, then by its kind.

* `Server.subject`, `ending` : the parts of the name of a helper's method; `nameOf_reference`;
* `Server.SameSignature` : helpers of one name and of the same types of parameters;
  `signature_eq_iff` : these are the helpers of one signature;
* `Server.mem_standingSignatures_iff` : helpers with the signature of a method of every builder;
* `Server.SignaturesApart bean jobs`, `nodup_signatures_iff` : where signatures are told apart;
* `Server.isIdentifier_names_iff` : where names are identifiers, `not_isMade_subject_of_array`.
-/

namespace XmlBinding.Server

variable {j k : ServerHelper} {scope : Scope} {t u : JavaType} {b : String}

/-! ## Names -/

/-- What stands for the types in the name of a helper's method. -/
def subject : ServerHelper → String
  | .readArray t | .writeArray t => capitalize t.simpleName
  | .readCollection t => capitalize t.wrapperName
  | .readMap key entry => mapTypes key entry
  | .writeCollection | .writeMap => ""

/-- What stands behind the types in the name of a helper's method. -/
def ending : ServerHelper → String
  | .readArray _ => "Array"
  | .readCollection _ => "Collection"
  | .readMap _ _ => "Map"
  | .writeArray _ => "ArrayElement"
  | .writeCollection => "CollectionElement"
  | .writeMap => "MapElement"

def methodName (j : ServerHelper) : String := "get" ++ subject j ++ ending j

theorem nameOf_reference (locale : String) (j : ServerHelper) :
    (Catalog.load locale none).nameOf (reference j).key (reference j).args = methodName j := by
  cases j with
  | readArray t =>
    exact Catalog.nameOf_load_around locale getArray "get" "Array" (by decide) (by decide)
      (by decide) _
  | readCollection t =>
    exact Catalog.nameOf_load_around locale getCollection "get" "Collection" (by decide)
      (by decide) (by decide) _
  | readMap key entry =>
    exact Catalog.nameOf_load_around locale getMap "get" "Map" (by decide) (by decide)
      (by decide) _
  | writeArray t =>
    exact Catalog.nameOf_load_around locale getArrayElement "get" "ArrayElement" (by decide)
      (by decide) (by decide) _
  | writeCollection =>
    exact Catalog.nameOf_load_plain locale getCollectionElement "getCollectionElement"
      (by decide) (by decide)
  | writeMap =>
    exact Catalog.nameOf_load_plain locale getMapElement "getMapElement" (by decide) (by decide)

/-- Endings of the names of helpers' methods. -/
def endings : List String :=
  ["Array", "Collection", "Map", "ArrayElement", "CollectionElement", "MapElement"]

theorem ending_mem_endings (j : ServerHelper) : ending j ∈ endings := by
  cases j <;> simp [ending, endings]

theorem methodName_eq_get_iff {s e : String} (he : e ∈ endings) :
    methodName j = "get" ++ s ++ e ↔ subject j = s ∧ ending j = e := by
  unfold methodName
  rw [append_eq_append_iff (by decide) (ending_mem_endings j) he, String.append_right_inj]

theorem methodName_eq_iff :
    methodName j = methodName k ↔ subject j = subject k ∧ ending j = ending k :=
  methodName_eq_get_iff (ending_mem_endings k)

/-! ## Signatures -/

def signature (j : ServerHelper) : String × List String :=
  (methodName j, (parameters j).map (·.type))

/-- Helpers whose methods have one name and the same types of parameters. -/
inductive SameSignature : ServerHelper → ServerHelper → Prop
  | readArray {t u : JavaType} (h : capitalize t.simpleName = capitalize u.simpleName) :
      SameSignature (.readArray t) (.readArray u)
  | readCollection {t u : JavaType} (h : capitalize t.wrapperName = capitalize u.wrapperName) :
      SameSignature (.readCollection t) (.readCollection u)
  | readMap {key entry key' entry' : JavaType} (h : mapTypes key entry = mapTypes key' entry') :
      SameSignature (.readMap key entry) (.readMap key' entry')
  | writeArray {t u : JavaType} (h : t.simpleName = u.simpleName) :
      SameSignature (.writeArray t) (.writeArray u)
  | writeCollection : SameSignature .writeCollection .writeCollection
  | writeMap : SameSignature .writeMap .writeMap

theorem signature_eq_iff : signature j = signature k ↔ SameSignature j k := by
  constructor
  · intro h
    obtain ⟨hname, htypes⟩ := Prod.mk.inj h
    obtain ⟨hsubject, hending⟩ := methodName_eq_iff.1 hname
    cases j with
    | readArray t =>
      cases k with
      | readArray u => exact .readArray hsubject
      | _ => simp [ending] at hending
    | readCollection t =>
      cases k with
      | readCollection u => exact .readCollection hsubject
      | _ => simp [ending] at hending
    | readMap key entry =>
      cases k with
      | readMap key' entry' => exact .readMap hsubject
      | _ => simp [ending] at hending
    | writeArray t =>
      cases k with
      | writeArray u => exact .writeArray (by simpa [parameters] using htypes)
      | _ => simp [ending] at hending
    | writeCollection =>
      cases k with
      | writeCollection => exact .writeCollection
      | _ => simp [ending] at hending
    | writeMap =>
      cases k with
      | writeMap => exact .writeMap
      | _ => simp [ending] at hending
  · intro h
    cases h with
    | readArray h | readCollection h | readMap h | writeArray h =>
      simp [signature, methodName, subject, ending, parameters, h]
    | writeCollection | writeMap => rfl

theorem signature_eq_of_identity_eq (h : identity j = identity k) : signature j = signature k := by
  refine signature_eq_iff.2 ?_
  cases identity_eq_iff.1 h with
  | readArray hn => exact .readArray (congrArg capitalize hn)
  | readCollection hn => exact .readCollection (congrArg capitalize hn)
  | readMap hn => exact .readMap hn
  | writeArray hn => exact .writeArray hn
  | writeCollection => exact .writeCollection
  | writeMap => exact .writeMap

/-! ## Methods of every builder -/

/-- Signatures of the methods of every builder of a bean. -/
def standingSignatures (b : String) : List (String × List String) :=
  [("getInstance", ["Element"]), ("getElement", [b]), ("getEntityCollection", ["T", "Element"]),
    ("getEntityArrayElement", [b ++ "[]"]),
    ("getEntityCollectionElement", ["Collection<" ++ b ++ ">"]),
    ("getEntityMapElement", ["Map<?, " ++ b ++ ">"])]

theorem nodup_standingSignatures (b : String) : (standingSignatures b).Nodup := by
  have hnames : ["getInstance", "getElement", "getEntityCollection", "getEntityArrayElement",
      "getEntityCollectionElement", "getEntityMapElement"].Nodup := by decide
  exact List.Nodup.of_map Prod.fst hnames

theorem map_standingDefinitions_signature (locale : String) (scope : Scope) :
    (standingDefinitions scope).map (fun d =>
      ((Catalog.load locale none).nameOf d.1.key d.1.args, d.2.map (·.type))) =
      standingSignatures (bean scope) := by
  have hname (key name : String) (hkey : Catalog.englishName? key = some name)
      (hname : '\x7b' ∉ name.toList) :=
    Catalog.nameOf_load_plain locale key name hkey hname
  simp only [standingDefinitions, standingSignatures, List.map_cons, List.map_nil,
    hname getInstance "getInstance" (by decide) (by decide),
    hname getElement "getElement" (by decide) (by decide),
    hname getEntityCollection "getEntityCollection" (by decide) (by decide),
    hname getEntityArrayElement "getEntityArrayElement" (by decide) (by decide),
    hname getEntityCollectionElement "getEntityCollectionElement" (by decide) (by decide),
    hname getEntityMapElement "getEntityMapElement" (by decide) (by decide)]

/-- Helpers with the signature of a method of every builder. -/
theorem mem_standingSignatures_iff : signature j ∈ standingSignatures b ↔
    (∃ t, j = .readCollection t ∧ capitalize t.wrapperName = "Entity") ∨
      ∃ t, j = .writeArray t ∧ capitalize t.simpleName = "Entity" ∧ t.simpleName = b := by
  simp only [standingSignatures, signature, List.mem_cons, List.not_mem_nil, or_false,
    Prod.mk.injEq]
  constructor
  · have hparts {e : String} (he : e ∈ endings) (hn : methodName j = "get" ++ "Entity" ++ e) :=
      (methodName_eq_get_iff he).1 hn
    rintro (⟨hn, -⟩ | ⟨hn, -⟩ | ⟨hn, -⟩ | ⟨hn, ht⟩ | ⟨hn, -⟩ | ⟨hn, -⟩)
    · exact absurd hn (append_ne (by decide) (ending_mem_endings j) _)
    · exact absurd hn (append_ne (by decide) (ending_mem_endings j) _)
    · obtain ⟨hs, he⟩ := hparts (e := "Collection") (by decide) hn
      cases j with
      | readCollection t => exact .inl ⟨t, rfl, hs⟩
      | _ => simp [ending] at he
    · obtain ⟨hs, he⟩ := hparts (e := "ArrayElement") (by decide) hn
      cases j with
      | writeArray t => exact .inr ⟨t, rfl, hs, by simpa [parameters] using ht⟩
      | _ => simp [ending] at he
    · obtain ⟨hs, he⟩ := hparts (e := "CollectionElement") (by decide) hn
      cases j with
      | writeCollection => simp [subject] at hs
      | _ => simp [ending] at he
    · obtain ⟨hs, he⟩ := hparts (e := "MapElement") (by decide) hn
      cases j with
      | writeMap => simp [subject] at hs
      | _ => simp [ending] at he
  · rintro (⟨t, rfl, ht⟩ | ⟨t, rfl, ht, hb⟩)
    · refine .inr (.inr (.inl ⟨?_, rfl⟩))
      simp [methodName, subject, ending, ht]
    · refine .inr (.inr (.inr (.inl ⟨?_, ?_⟩)))
      · simp [methodName, subject, ending, ht]
      · simp [parameters, hb]

/-! ## Signatures told apart -/

/-- The methods of some helpers have signatures of their own in a builder of a bean. -/
structure SignaturesApart (b : String) (jobs : List ServerHelper) : Prop where
  arrays : ∀ t u, .readArray t ∈ jobs → .readArray u ∈ jobs →
    capitalize t.simpleName = capitalize u.simpleName → t.simpleName = u.simpleName
  collections : ∀ t u, .readCollection t ∈ jobs → .readCollection u ∈ jobs →
    capitalize t.wrapperName = capitalize u.wrapperName → t.wrapperName = u.wrapperName
  entities : ∀ t, .readCollection t ∈ jobs → capitalize t.wrapperName ≠ "Entity"
  beans : ∀ t, .writeArray t ∈ jobs → capitalize t.simpleName = "Entity" → t.simpleName ≠ b

theorem signaturesApart_iff {jobs : List ServerHelper} : SignaturesApart b jobs ↔
    (∀ j ∈ jobs, ∀ k ∈ jobs, signature j = signature k → identity j = identity k) ∧
      ∀ j ∈ jobs, signature j ∉ standingSignatures b := by
  simp only [signature_eq_iff, identity_eq_iff, mem_standingSignatures_iff, not_or]
  constructor
  · intro h
    refine ⟨fun j hj k hk hsame => ?_, fun j hj => ⟨?_, ?_⟩⟩
    · cases hsame with
      | readArray hn => exact .readArray (h.arrays _ _ hj hk hn)
      | readCollection hn => exact .readCollection (h.collections _ _ hj hk hn)
      | readMap hn => exact .readMap hn
      | writeArray hn => exact .writeArray hn
      | writeCollection => exact .writeCollection
      | writeMap => exact .writeMap
    · rintro ⟨t, rfl, ht⟩
      exact h.entities t hj ht
    · rintro ⟨t, rfl, ht, hb⟩
      exact h.beans t hj ht hb
  · rintro ⟨hsame, hnone⟩
    refine ⟨fun t u ht hu hn => ?_, fun t u ht hu hn => ?_, fun t ht hn => ?_,
      fun t ht hn hb => ?_⟩
    · cases hsame _ ht _ hu (.readArray hn) with
      | readArray hn => exact hn
    · cases hsame _ ht _ hu (.readCollection hn) with
      | readCollection hn => exact hn
    · exact (hnone _ ht).1 ⟨t, rfl, hn⟩
    · exact (hnone _ ht).2 ⟨t, rfl, hn, hb⟩

/-! ## Bodies -/

section Body
variable {code : Code} {asked jobs : List ServerHelper}
  (hcode : code.definitions = standingDefinitions scope ++ jobs.map definition)
  (closed : IsClosure identity asked (fun _ => []) jobs) (locale : String)
include hcode

theorem signatures_eq : code.signatures (Catalog.load locale none) =
    standingSignatures (bean scope) ++ jobs.map signature := by
  have hsignature (j : ServerHelper) :
      ((Catalog.load locale none).nameOf (definition j).1.key (definition j).1.args,
        (definition j).2.map (·.type)) = signature j := by
    rw [definition, nameOf_reference, signature]
  unfold Code.signatures
  rw [hcode, List.map_append, map_standingDefinitions_signature, List.map_map]
  exact congrArg (_ ++ ·) (List.map_congr_left fun j _ => hsignature j)

include closed

/-- The methods of a builder have signatures of their own exactly where those of the helpers that
are asked for have. -/
theorem nodup_signatures_iff : (code.signatures (Catalog.load locale none)).Nodup ↔
    SignaturesApart (bean scope) asked := by
  rw [signatures_eq hcode, signaturesApart_iff]
  exact closed.nodup_iff (nodup_standingSignatures _) (fun _ _ => signature_eq_of_identity_eq)
    fun _ _ hj => nomatch hj

/-- The names of methods are identifiers exactly where the types in the names of the helpers that
are asked for are made of characters of identifiers. -/
theorem isIdentifier_names_iff (l : Lexicon) :
    (∀ name ∈ code.names (Catalog.load locale none), l.IsIdentifier name) ↔
      ∀ j ∈ asked, l.IsMade (subject j) := by
  have hstanding : ∀ name ∈ (standingSignatures (bean scope)).map Prod.fst,
      l.IsIdentifier name := by
    have hletters : ∀ name ∈ ["getInstance", "getElement", "getEntityCollection",
        "getEntityArrayElement", "getEntityCollectionElement", "getEntityMapElement"],
        name.toList.all Char.isAlpha = true ∧ name.toList.head?.isSome = true := by decide
    exact fun name hname =>
      l.isIdentifier_of_letters (hletters name hname).1 (hletters name hname).2
  have hending : ∀ e ∈ endings, e.toList.all Char.isAlpha = true := by decide
  have hjobs : (∀ name ∈ (jobs.map signature).map Prod.fst, l.IsIdentifier name) ↔
      ∀ j ∈ jobs, l.IsMade (subject j) := by
    rw [List.map_map, List.forall_mem_map]
    exact forall₂_congr fun j _ =>
      l.isIdentifier_around_iff (hending _ (ending_mem_endings j))
  rw [← Code.map_signatures, signatures_eq hcode, List.map_append, List.forall_mem_append, hjobs,
    closed.forall_iff (P := fun j => l.IsMade (subject j)) ?_ (fun _ _ hj => nomatch hj)]
  · exact and_iff_right hstanding
  · intro i j hid hi
    have hname := (Prod.mk.inj (signature_eq_of_identity_eq hid)).1
    rwa [← (methodName_eq_iff.1 hname).1]

end Body

/-- Readers of collections and maps of arrays do not have identifiers for names. -/
theorem not_isMade_subject_of_array (l : Lexicon) (c : JavaType) :
    ¬l.IsMade (subject (.readCollection (.array c))) ∧
      ∀ key, ¬l.IsMade (subject (.readMap key (.array c))) :=
  ⟨l.not_isMade_capitalize_array c, fun _ h =>
    l.not_isMade_capitalize_array c (l.isMade_append.1 h).2⟩

end XmlBinding.Server
