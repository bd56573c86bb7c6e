import XmlBinding.Proofs.Client.Reference
import XmlBinding.Proofs.Linking
import XmlBinding.Proofs.Server.Reference

/-!
# Values that helpers read

The helpers for arrays, collections and maps run over elements. For each they have a statement
around the expression for a value, which is put together by the writers of properties. No writer
takes a type without a conversion, and so no expression is left then.

* `TakesText var target e` : what a helper takes of an element;
* `ReadsVariable s target t var e` : an expression reads a variable as a value of a type;
* `Reading` : a value that a helper reads, in its statement; `Reading.Fits` : its expression is
  there where its type can be read;
* `Server.readings`, `Client.readings` : those of a helper;
* `ReadsValues s e t c rs` : the values that the helpers of a builder read;
* `Generator.Reachable.reads_values_iff` : in a run, which of them have an expression;
* `Generator.reads_no_date` : dates do not.
-/

namespace XmlBinding

/-! ## Expressions -/

/-- What a helper takes of the element in a variable: in Java its text or the attribute for keys, in
ActionScript the node itself. -/
inductive TakesText (var : String) : Target → String → Prop
  | text : TakesText var .serverBuilder (var ++ ".getTextTrim()")
  | key :
      TakesText var .serverBuilder (var ++ (".attributeValue(\"" ++ mapKeyAttribute ++ "\")"))
  | node : TakesText var .clientBuilder var

/-- The function that a builder calls to convert a text. -/
def Session.conversion? (s : Session) : Target → ScalarKind → Option String
  | .serverBuilder, .boolean => some "\"true\".equals"
  | .serverBuilder, .boxedBoolean => some "Boolean.valueOf"
  | .serverBuilder, .short => some "Short.parseShort"
  | .serverBuilder, .boxedShort => some "Short.valueOf"
  | .serverBuilder, .int => some "Integer.parseInt"
  | .serverBuilder, .integer => some "Integer.valueOf"
  | .serverBuilder, .long => some "Long.parseLong"
  | .serverBuilder, .boxedLong => some "Long.valueOf"
  | .serverBuilder, .float => some "Float.parseFloat"
  | .serverBuilder, .boxedFloat => some "Float.valueOf"
  | .serverBuilder, .double => some "Double.parseDouble"
  | .serverBuilder, .boxedDouble => some "Double.valueOf"
  | .clientBuilder, .short | .clientBuilder, .boxedShort => some "int"
  | .clientBuilder, .int | .clientBuilder, .integer => some "int"
  | .clientBuilder, .long | .clientBuilder, .boxedLong => some "Number"
  | .clientBuilder, .float | .clientBuilder, .boxedFloat => some "Number"
  | .clientBuilder, .double | .clientBuilder, .boxedDouble => some "Number"
  | .clientBuilder, .string => some (s.catalog.nameOf Client.getString [])
  | _, _ => none

/-- Java code calls the function for all scalars but strings. -/
theorem Session.javaParse_eq (s : Session) (kind : ScalarKind) :
    kind = .string ∨ ∃ call, s.conversion? .serverBuilder kind = some call ∧
      kind.javaParse = (call ++ "(", ")") := by
  cases kind with
  | string => exact .inl rfl
  | _ => exact .inr ⟨_, rfl, rfl⟩

/-- The method by which a builder of a target reads a bean or a model. -/
def instanceKey : Target → String
  | .serverBuilder => Server.getInstance
  | .clientBuilder | .clientModel => Client.getInstance

/-- Expressions that read a variable as a value of a type: the builder of an entity reads it, or
what is taken of it is converted. A string of Java is not converted, and a truth value of
ActionScript is compared. -/
inductive ReadsVariable (s : Session) (target : Target) (t : JavaType) (var : String) :
    String → Prop
  | bean (he : s.isEntity t = true) :
      ReadsVariable s target t var (s.refName target t ++ "." ++
        s.catalog.nameOf (instanceKey target) [] ++ "(" ++ var ++ ")")
  | converted {kind : ScalarKind} {call e : String} (hk : ScalarKind.of? t = some kind)
      (hcall : s.conversion? target kind = some call) (h : TakesText var target e) :
      ReadsVariable s target t var (call ++ "(" ++ e ++ ")")
  | text {e : String} (hk : ScalarKind.of? t = some .string) (htarget : target = .serverBuilder)
      (h : TakesText var target e) : ReadsVariable s target t var e
  | compared {kind : ScalarKind} {e : String} (hk : ScalarKind.of? t = some kind)
      (hkind : kind = .boolean ∨ kind = .boxedBoolean) (htarget : target = .clientBuilder)
      (h : TakesText var target e) : ReadsVariable s target t var ("(" ++ e ++ " == \"true\")")

theorem TakesText.occurs {var e : String} {target : Target} (h : TakesText var target e) :
    Occurs var e := by
  cases h with
  | text | key => exact (Occurs.refl var).append_right _
  | node => exact .refl var

namespace ReadsVariable

variable {s : Session} {target : Target} {t : JavaType} {var e : String}

/-- The variable is a part of what reads it. -/
theorem occurs (h : ReadsVariable s target t var e) : Occurs var e := by
  cases h with
  | bean he => exact ((Occurs.refl var).append_left _).append_right _
  | converted hk hcall h => exact (h.occurs.append_left _).append_right _
  | text hk htarget h => exact h.occurs
  | compared hk hkind htarget h => exact (h.occurs.append_left _).append_right _

theorem ne_empty (h : ReadsVariable s target t var e) (hvar : var ≠ "") : e ≠ "" := by
  rintro rfl
  obtain ⟨before, after, heq⟩ := h.occurs
  have hnone := String.append_eq_empty_iff.1 heq.symm
  exact hvar (String.append_eq_empty_iff.1 hnone.1).2

/-- What Java code puts around a text to convert it. -/
theorem javaParse {kind : ScalarKind} (hk : ScalarKind.of? t = some kind)
    (h : TakesText var .serverBuilder e) :
    ReadsVariable s .serverBuilder t var (kind.javaParse.1 ++ e ++ kind.javaParse.2) := by
  rcases s.javaParse_eq kind with rfl | ⟨call, hcall, hparse⟩
  · show ReadsVariable s .serverBuilder t var ("" ++ e ++ "")
    rw [String.empty_append, String.append_empty]
    exact .text hk rfl h
  · rw [hparse]
    exact .converted hk hcall h

end ReadsVariable

/-- Types whose values can be read from an element: entities and scalars. -/
def Session.IsReadable (s : Session) (t : JavaType) : Prop :=
  s.isEntity t = true ∨ (ScalarKind.of? t).isSome = true

theorem Session.not_isReadable_iff {s : Session} {t : JavaType} :
    ¬s.IsReadable t ↔ s.isEntity t = false ∧ ScalarKind.of? t = none := by
  unfold IsReadable
  rw [not_or, Bool.not_eq_true, Option.not_isSome_iff_eq_none]

/-- A value that a helper takes from an element, in its statement. -/
structure Reading where
  type : JavaType
  /-- The variable that holds the element. -/
  var : String
  before : String
  /-- The expression for the value. -/
  value : String
  after : String
  deriving DecidableEq, Repr

namespace Reading

/-- The statement that takes the value. -/
def statement (r : Reading) : String := r.before ++ r.value ++ r.after

/-- The expression reads the element where the type can be read, and is empty elsewhere. -/
structure Fits (s : Session) (target : Target) (r : Reading) : Prop where
  named : r.var ≠ ""
  reads : s.IsReadable r.type → ReadsVariable s target r.type r.var r.value
  empty : ¬s.IsReadable r.type → r.value = ""

theorem Fits.reads_iff {s : Session} {target : Target} {r : Reading} (h : r.Fits s target) :
    r.value ≠ "" ∧ ReadsVariable s target r.type r.var r.value ↔ s.IsReadable r.type := by
  refine ⟨fun hr => ?_, fun hr => ⟨(h.reads hr).ne_empty h.named, h.reads hr⟩⟩
  by_contra hnone
  exact hr.1 (h.empty hnone)

end Reading

/-- Types of the elements, keys and entries of a property. -/
def Category.parts : Category → List JavaType
  | basic | entity => []
  | array t | collection _ t _ => [t]
  | map key t _ => [key, t]

/-! ## Server -/

namespace Server

variable {X : Type} {scope : Scope} {t : JavaType}

/-- The values that a helper reads. -/
def readings (scope : Scope) : ServerHelper → List Reading
  | .readArray t => [⟨t, "e", "items[i] = ", valueText scope .dom4jText "e" t, ";"⟩]
  | .readCollection t => [⟨t, "el", "coll.add(", valueText scope .dom4jText "el" t, ");"⟩]
  | .readMap key t =>
    let keyValue := valueText scope .dom4jKey "el" key
    -- A bean stands on a line of its own.
    let gap :=
      if scope.session.isEntity t then "\n" ++ scope.session.config.indent 5 else ""
    [⟨key, "el", "map.put(", keyValue, ", " ++ entryText scope t ++ ");"⟩,
      ⟨t, "el", "map.put(" ++ keyValue ++ ", " ++ gap, valueText scope .dom4jText "el" t, ");"⟩]
  | .writeArray _ | .writeCollection | .writeMap => []

theorem entryText_eq (scope : Scope) (t : JavaType) :
    entryText scope t =
      (if scope.session.isEntity t then "\n" ++ scope.session.config.indent 5 else "") ++
        valueText scope .dom4jText "el" t := by
  unfold entryText
  cases scope.session.isEntity t with
  | true => rfl
  | false => exact String.empty_append.symm

/-- The statements of a helper stand in its method. -/
theorem occurs_statement {j : ServerHelper} {r : Reading} (hr : r ∈ readings scope j) :
    Occurs r.statement (helperAddition scope j : Addition (Job X)).text := by
  cases j with
  | readArray t =>
    cases List.mem_singleton.1 hr
    exact (((((Occurs.refl _).lineText scope.session.config 3).append_left _).append_right
      _).append_right _).append_right _
  | readCollection t =>
    cases List.mem_singleton.1 hr
    refine Occurs.append_left (occurs_fillText_statement _ (.refl _) ?_) _
    exact List.mem_cons_of_mem _ List.mem_cons_self
  | readMap key t =>
    have hmap : Occurs ("map.put(" ++ valueText scope .dom4jKey "el" key ++ ", " ++
        entryText scope t ++ ");") (mapAddition scope key t : Addition (Job X)).text := by
      refine Occurs.append_left (occurs_fillText_statement _ (.refl _) ?_) _
      exact List.mem_cons_of_mem _ List.mem_cons_self
    rcases List.mem_pair.1 hr with rfl | rfl
    · rw [helperAddition]
      simpa only [Reading.statement, String.append_assoc] using hmap
    · rw [entryText_eq] at hmap
      rw [helperAddition]
      simpa only [Reading.statement, String.append_assoc] using hmap
  | writeArray t => cases hr
  | writeCollection => cases hr
  | writeMap => cases hr

/-- The expression for a value of a type that can be read. -/
theorem readsVariable_valueText (htarget : scope.target = .serverBuilder)
    (h : scope.session.IsReadable t) (var : String) :
    ReadsVariable scope.session .serverBuilder t var (valueText scope .dom4jText var t) ∧
      ReadsVariable scope.session .serverBuilder t var (valueText scope .dom4jKey var t) := by
  cases he : scope.session.isEntity t with
  | true =>
    have hvalue (inner : AccessStyle) : valueText scope inner var t =
        scope.session.refName .serverBuilder t ++ "." ++
          scope.session.catalog.nameOf (instanceKey .serverBuilder) [] ++ "(" ++ var ++ ")" := by
      unfold valueText Scope.builderName
      rw [he, htarget]
      rfl
    rw [hvalue, hvalue]
    exact ⟨.bean he, .bean he⟩
  | false =>
    obtain ⟨kind, hk⟩ := Option.isSome_iff_exists.1 (h.resolve_left (by rw [he]; decide))
    rw [valueText_of_not_isEntity he, valueText_of_not_isEntity he, hk]
    have htext : ReadsVariable scope.session .serverBuilder t var _ := .javaParse hk .text
    have hkey : ReadsVariable scope.session .serverBuilder t var _ := .javaParse hk .key
    simp only [String.append_assoc] at htext hkey
    refine ⟨?_, ?_⟩
    · simpa only [Scope.accessText, AccessStyle.access?, Option.getD_some, String.append_assoc]
        using htext
    · simpa only [Scope.accessText, AccessStyle.access?, Option.getD_some, String.append_assoc]
        using hkey

theorem valueText_eq_empty (h : ¬scope.session.IsReadable t) (inner : AccessStyle)
    (var : String) : valueText scope inner var t = "" := by
  obtain ⟨he, hk⟩ := Session.not_isReadable_iff.1 h
  rw [valueText_of_not_isEntity he, hk]

theorem fits_of_mem_readings (htarget : scope.target = .serverBuilder) {j : ServerHelper}
    {r : Reading} (hr : r ∈ readings scope j) : r.Fits scope.session .serverBuilder := by
  cases j with
  | readArray t =>
    cases List.mem_singleton.1 hr
    exact ⟨by simp, fun h => (readsVariable_valueText htarget h _).1,
      fun h => valueText_eq_empty h _ _⟩
  | readCollection t =>
    cases List.mem_singleton.1 hr
    exact ⟨by simp, fun h => (readsVariable_valueText htarget h _).1,
      fun h => valueText_eq_empty h _ _⟩
  | readMap key t =>
    rcases List.mem_pair.1 hr with rfl | rfl
    · exact ⟨by simp, fun h => (readsVariable_valueText htarget h _).2,
        fun h => valueText_eq_empty h _ _⟩
    · exact ⟨by simp, fun h => (readsVariable_valueText htarget h _).1,
        fun h => valueText_eq_empty h _ _⟩
  | writeArray t => cases hr
  | writeCollection => cases hr
  | writeMap => cases hr

/-- The values that the helpers for a property read are its elements, or its keys and entries. -/
theorem type_mem_parts (scope : Scope) {p : Property} {j : ServerHelper} {r : Reading}
    (hj : j ∈ readRequests scope.session p ∨ j ∈ writeRequests scope.session p)
    (hr : r ∈ readings scope j) : r.type ∈ p.category.parts := by
  unfold readRequests writeRequests at hj
  cases hcategory : p.category with
  | basic => simp [hcategory] at hj
  | entity => simp [hcategory] at hj
  | array t =>
    have hj' : j = .readArray t ∨ j = .writeArray t := by
      cases ht : t.isArray <;> cases he : scope.session.isEntity t <;>
        simp [hcategory, ht, he] at hj <;> simp [hj]
    rcases hj' with rfl | rfl
    · cases List.mem_singleton.1 hr
      exact List.mem_singleton.2 rfl
    · cases hr
  | collection kind t implementation =>
    have hj' : j = .readCollection t ∨ j = .writeCollection := by
      cases he : scope.session.isEntity t <;> simp [hcategory, he] at hj
      exact hj
    rcases hj' with rfl | rfl
    · cases List.mem_singleton.1 hr
      exact List.mem_singleton.2 rfl
    · cases hr
  | map key t implementation =>
    have hj' : j = .readMap key t ∨ j = .writeMap := by
      cases he : scope.session.isEntity t <;> simp [hcategory, he] at hj <;> simp [hj]
    rcases hj' with rfl | rfl
    · rcases List.mem_pair.1 hr with rfl | rfl
      · exact List.mem_cons_self
      · exact List.mem_cons_of_mem _ List.mem_cons_self
    · cases hr

end Server

/-! ## Client -/

namespace Client

variable {X : Type} {scope : Scope} {t : JavaType}

def valueText (scope : Scope) (t : JavaType) : String :=
  (valueAddition scope t : Addition (Job Empty)).text

/-- The values that a helper reads. The keys of a map are always the attribute for keys. -/
def readings (scope : Scope) : ClientHelper → List Reading
  | .readArray t => [⟨t, "n", "items.push(", valueText scope t, ");"⟩]
  | .readMap t =>
    [⟨t, "n", "map[String(n.@" ++ mapKeyAttribute ++ ")] = ", valueText scope t, ";"⟩]
  | .readString | .writeMap => []

/-- The statements of a helper stand in its method. -/
theorem occurs_statement {j : ClientHelper} {r : Reading} (hr : r ∈ readings scope j) :
    Occurs r.statement (helperAddition scope j : Addition (Job Empty)).text := by
  cases j with
  | readArray t =>
    cases List.mem_singleton.1 hr
    exact (occurs_childrenText_statement _ (.refl _)).append_left _
  | readMap t =>
    cases List.mem_singleton.1 hr
    exact (occurs_childrenText_statement _ (.refl _)).append_left _
  | readString => cases hr
  | writeMap => cases hr

/-- ActionScript code calls the function for all scalars but truth values. -/
theorem scalarLead_eq (scope : Scope) (kind : ScalarKind) :
    (kind = .boolean ∨ kind = .boxedBoolean) ∨
      ∃ call, scope.session.conversion? .clientBuilder kind = some call ∧
        scalarLead scope kind = call ++ "(" ∧ scalarTail ")" kind = ")" := by
  cases kind with
  | boolean => exact .inl (.inl rfl)
  | boxedBoolean => exact .inl (.inr rfl)
  | _ => exact .inr ⟨_, rfl, rfl, rfl⟩

/-- What stands around the node of a scalar. -/
theorem readsVariable_scalar (scope : Scope) {kind : ScalarKind} (hk : ScalarKind.of? t = some kind)
    (var : String) :
    ReadsVariable scope.session .clientBuilder t var
      (scalarLead scope kind ++ var ++ scalarTail ")" kind) := by
  rcases scalarLead_eq scope kind with hkind | ⟨call, hcall, hlead, htail⟩
  · rcases hkind with rfl | rfl
    · exact .compared hk (.inl rfl) rfl .node
    · exact .compared hk (.inr rfl) rfl .node
  · rw [hlead, htail]
    exact .converted hk hcall .node

theorem readsVariable_valueText (htarget : scope.target = .clientBuilder)
    (h : scope.session.IsReadable t) :
    ReadsVariable scope.session .clientBuilder t "n" (valueText scope t) := by
  have hform := readsEntry_entryRead scope t
  unfold Session.entryRead at hform
  cases he : scope.session.isEntity t with
  | true =>
    rw [he] at hform
    cases hform with
    | bean hvalue =>
      unfold valueText
      rw [hvalue, Scope.builderName, htarget]
      exact .bean he
  | false =>
    obtain ⟨kind, hk⟩ := Option.isSome_iff_exists.1 (h.resolve_left (by rw [he]; decide))
    unfold valueText
    rw [text_valueAddition he, hk]
    exact readsVariable_scalar scope hk "n"

theorem valueText_eq_empty (h : ¬scope.session.IsReadable t) : valueText scope t = "" := by
  obtain ⟨he, hk⟩ := Session.not_isReadable_iff.1 h
  unfold valueText
  rw [text_valueAddition he, hk]

theorem fits_of_mem_readings (htarget : scope.target = .clientBuilder) {j : ClientHelper}
    {r : Reading} (hr : r ∈ readings scope j) : r.Fits scope.session .clientBuilder := by
  cases j with
  | readArray t =>
    cases List.mem_singleton.1 hr
    exact ⟨by simp, readsVariable_valueText htarget, valueText_eq_empty⟩
  | readMap t =>
    cases List.mem_singleton.1 hr
    exact ⟨by simp, readsVariable_valueText htarget, valueText_eq_empty⟩
  | readString => cases hr
  | writeMap => cases hr

/-- The values that the helpers for a property read are its elements or its entries. -/
theorem type_mem_parts (scope : Scope) {p : Property} {j : ClientHelper} {r : Reading}
    (hj : j ∈ readRequests scope.session p ∨ j ∈ writeRequests scope.session p)
    (hr : r ∈ readings scope j) : r.type ∈ p.category.parts := by
  unfold readRequests writeRequests at hj
  cases hcategory : p.category with
  | basic =>
    have hj' : j = .readString := by
      by_cases hk : ScalarKind.of? p.type = some .string <;> simp [hcategory, hk] at hj
      exact hj
    rw [hj'] at hr
    cases hr
  | entity => simp [hcategory] at hj
  | array t | collection kind t implementation =>
    have hj' : j = .readArray t := by
      cases he : scope.session.isEntity t <;> simp [hcategory, he] at hj
      exact hj
    rw [hj'] at hr
    cases List.mem_singleton.1 hr
    exact List.mem_singleton.2 rfl
  | map key t implementation =>
    have hj' : j = .readMap t ∨ j = .writeMap := by
      cases he : scope.session.isEntity t <;> simp [hcategory, he] at hj
      exact hj
    rcases hj' with rfl | rfl
    · cases List.mem_singleton.1 hr
      exact List.mem_cons_of_mem _ List.mem_cons_self
    · cases hr

/-- The helper that another one asks for reads no values. -/
theorem readings_of_mem_helperRequests (scope : Scope) {j k : ClientHelper}
    (hj : j ∈ helperRequests scope.session k) : readings scope j = [] := by
  have hstring (t : JavaType) (hj : j ∈ valueRequests scope.session t) : j = .readString := by
    unfold valueRequests at hj
    split at hj
    · cases hj
    · split at hj
      · exact List.mem_singleton.1 hj
      · cases hj
  cases k with
  | readArray t | readMap t => rw [hstring t hj, readings]
  | readString | writeMap => cases hj

end Client

/-! ## Builders -/

/-- A class is a builder of an entity, the helpers of which read some values. The helpers are those
that the body of the class has. -/
inductive ReadsValues (s : Session) (e : Entity) : Target → GeneratedClass → List Reading → Prop
  | server {ps : List Property} {f : ClassFrame} {c : GeneratedClass} {jobs : List ServerHelper}
      (built : Builder.Builds Handler.serverDialect s e ps f c)
      (closed : IsClosure Server.identity (Server.requests s f) (fun _ => []) jobs)
      (stands : (Server.code (Server.scopeOf s f) jobs).Stands (Server.scopeOf s f) .dom4j c) :
      ReadsValues s e .serverBuilder c (jobs.flatMap (Server.readings (Server.scopeOf s f)))
  | client {ps : List Property} {f : ClassFrame} {c : GeneratedClass} {jobs : List ClientHelper}
      (built : Builder.Builds Handler.clientDialect s e ps f c)
      (closed : IsClosure Client.identity (Client.requests s f) (Client.helperRequests s) jobs)
      (stands : (Client.code (Client.scopeOf s f) jobs).Stands (Client.scopeOf s f) .as3 c) :
      ReadsValues s e .clientBuilder c (jobs.flatMap (Client.readings (Client.scopeOf s f)))

/-- Jobs that are told apart are all done, where none asks for another. -/
theorem IsClosure.mem_of_apart {H : Type} {identity : H → HelperId} {asked jobs : List H}
    (h : IsClosure identity asked (fun _ => []) jobs)
    (hapart : ∀ i ∈ asked, ∀ j ∈ asked, identity i = identity j → i = j) {j : H}
    (hj : j ∈ asked) : j ∈ jobs := by
  obtain ⟨k, hk, hid⟩ := h.asked j hj
  have hwanted : k ∈ asked := (h.wanted k hk).resolve_right fun ⟨_, _, h⟩ => nomatch h
  exact hapart k hwanted j hj hid ▸ hk

theorem IsBody.exists_readings {s : Session} {e : Entity} {t : Target} {code : Code}
    {c : GeneratedClass} (h : IsBody s e t code c) : ∃ rs, ReadsValues s e t c rs := by
  cases h with
  | server built closed stands => exact ⟨_, .server built closed stands⟩
  | client built closed stands => exact ⟨_, .client built closed stands⟩

/-- What stands in one of the methods that end a body stands in the class. -/
theorem Code.Stands.occurs_of_mem {α : Type} {scope : Scope} {style : AccessStyle} {code : Code}
    {of : α → Code} {l : List α} {c : GeneratedClass}
    (h : (code ++ l.flatMap of).Stands scope style c) {a : α} (ha : a ∈ l) {text : String}
    (ht : Occurs text ((of a).textIn scope style)) : Occurs text c.source := by
  obtain ⟨head, hsource⟩ := h
  have hjoin : Occurs text (String.join (l.map fun a => (of a).textIn scope style)) :=
    ht.trans (Occurs.join (List.mem_map.2 ⟨a, ha, rfl⟩))
  rw [hsource, Code.textIn_append, Code.textIn_flatMap]
  exact ((hjoin.append_left _).append_left _).append_right _

namespace ReadsValues

variable {s : Session} {e : Entity} {t : Target} {c : GeneratedClass} {rs : List Reading}
  {r : Reading}

/-- The statement for each value stands in the class. -/
theorem occurs (h : ReadsValues s e t c rs) (hr : r ∈ rs) : Occurs r.statement c.source := by
  cases h with
  | @server ps f c jobs built closed stands =>
    obtain ⟨j, hj, hr⟩ := List.mem_flatMap.1 hr
    refine stands.occurs_of_mem hj ?_
    rw [Server.textIn_helperCode (X := Empty)]
    exact Server.occurs_statement hr
  | @client ps f c jobs built closed stands =>
    obtain ⟨j, hj, hr⟩ := List.mem_flatMap.1 hr
    refine stands.occurs_of_mem hj ?_
    rw [Client.textIn_helperCode (X := Empty)]
    exact Client.occurs_statement hr

/-- The expressions fit their types. -/
theorem fits (h : ReadsValues s e t c rs) (hr : r ∈ rs) : r.Fits s t := by
  cases h with
  | server built closed stands =>
    obtain ⟨j, -, hr⟩ := List.mem_flatMap.1 hr
    exact Server.fits_of_mem_readings rfl hr
  | client built closed stands =>
    obtain ⟨j, -, hr⟩ := List.mem_flatMap.1 hr
    exact Client.fits_of_mem_readings rfl hr

/-- Each value is an element, a key or an entry of a property of the entity. -/
theorem exists_property (h : ReadsValues s e t c rs) :
    ∃ ps, s.describe e = .ok ps ∧ ∀ r ∈ rs, ∃ p ∈ ps, r.type ∈ p.category.parts := by
  cases h with
  | @server ps f c jobs built closed stands =>
    refine ⟨ps, built.described, fun r hr => ?_⟩
    obtain ⟨j, hj, hr⟩ := List.mem_flatMap.1 hr
    have hasked := (closed.wanted j hj).resolve_right fun ⟨_, _, h⟩ => nomatch h
    obtain ⟨p, hp, hj⟩ := ClassFrame.exists_of_mem_requests hasked
    refine ⟨p, built.mem_of_mem_frame hp, ?_⟩
    exact Server.type_mem_parts (Server.scopeOf s f) (hj.imp And.right And.right) hr
  | @client ps f c jobs built closed stands =>
    refine ⟨ps, built.described, fun r hr => ?_⟩
    obtain ⟨j, hj, hr⟩ := List.mem_flatMap.1 hr
    rcases closed.wanted j hj with hasked | ⟨k, -, hk⟩
    · obtain ⟨p, hp, hj⟩ := ClassFrame.exists_of_mem_requests hasked
      refine ⟨p, built.mem_of_mem_frame hp, ?_⟩
      exact Client.type_mem_parts (Client.scopeOf s f) (hj.imp And.right And.right) hr
    · rw [Client.readings_of_mem_helperRequests (Client.scopeOf s f) hk] at hr
      cases hr

end ReadsValues

/-! ## Runs -/

namespace Generator

variable {config : Config} {user : Option Catalog.Bundle} {g : Generator}

/-- Every builder that a run makes has helpers that read some values: elements, keys and entries of
its properties. The statement for each stands in the class. It has an expression that reads the
element exactly where the type of the value is an entity or a scalar. For other types nothing
stands in the place of the expression. -/
theorem Reachable.reads_values_iff (h : Reachable config user g) {e : Entity} {t : Target}
    {c : GeneratedClass} (hc : ((e, t), c) ∈ g.outputs.zip g.produce.classes)
    (ht : t ≠ .clientModel) :
    (∃ rs, ReadsValues g.session e t c rs) ∧
      ∀ rs, ReadsValues g.session e t c rs →
        ∃ ps, g.session.describe e = .ok ps ∧
          ∀ r ∈ rs, (∃ p ∈ ps, r.type ∈ p.category.parts) ∧ Occurs r.statement c.source ∧
            (r.value ≠ "" ∧ ReadsVariable g.session t r.type r.var r.value ↔
              g.session.IsReadable r.type) ∧
            (¬g.session.IsReadable r.type → r.value = "") := by
  have hclass := isClassOf_of_mem_zip h.wellKept.clean hc
  obtain ⟨code, hbody⟩ := hclass.exists_body h.namesMethods ht
  refine ⟨hbody.exists_readings, fun rs hrs => ?_⟩
  obtain ⟨ps, hps, hparts⟩ := hrs.exists_property
  refine ⟨ps, hps, fun r hr => ⟨hparts r hr, hrs.occurs hr, ?_, (hrs.fits hr).empty⟩⟩
  exact (hrs.fits hr).reads_iff

/-! ## An event with days -/

def eventArray (name : String) (element : JavaType) : Property :=
  ⟨name, .array element, accessorName "get" name, some (accessorName "set" name),
    .array element, ⟨.element, name⟩, none, none, none, none, false⟩

/-- The days of an event, which are dates. -/
def days : Property := eventArray "days" (.reference "java.util.Date")

/-- The marks of an event, which are numbers. -/
def marks : Property := eventArray "marks" (.primitive .int)

/-- An event with days and marks. -/
def event : Entity :=
  let property (p : Property) (type : String) : BeanProperty :=
    ⟨p.name, p.type, p.getter, p.setter,
      ⟨p.name, type, true, none, none, none, none, none, none, none, none⟩⟩
  ⟨⟨"shop.Event", none, false, none, none, []⟩,
    [property days "java.util.Date[]", property marks "int[]"]⟩

def ofEvent : Generator := (new .standard none).withAllHandlers.add event

theorem reachable_ofEvent : Reachable .standard none ofEvent :=
  (reachable_withAllHandlers _ _).register (.entity event)

theorem describe_event : ofEvent.session.describe event = .ok [days, marks] := rfl

theorem generable_of_mem_ofEvent :
    ∀ e ∈ ofEvent.session.entities.values, ofEvent.session.Generable e := by
  refine Session.generable_of_mem_values (e := event) rfl ?_
  refine Session.generable_of_standard rfl rfl rfl describe_event fun p hp => ?_
  rcases List.mem_pair.1 hp with rfl | rfl
  · exact ⟨rfl, fun _ _ _ h => nomatch h⟩
  · exact ⟨rfl, fun _ _ _ h => nomatch h⟩

theorem requests_event {ps : List Property} {f : ClassFrame} {c : GeneratedClass}
    (hf : Builder.Builds Handler.serverDialect ofEvent.session event ps f c) :
    Server.requests ofEvent.session f =
      [.readArray (.reference "java.util.Date"), .readArray (.primitive .int),
        .writeArray (.reference "java.util.Date"), .writeArray (.primitive .int)] := by
  cases describe_event.symm.trans hf.described
  unfold Server.requests ClassFrame.requests
  rw [hf.attributes_eq, hf.elements_eq]
  rfl

/-- The helpers of the server builder of an event read its days and its marks. -/
theorem exists_readings_of_event {c : GeneratedClass} {rs : List Reading}
    (h : ReadsValues ofEvent.session event .serverBuilder c rs) :
    (∃ r ∈ rs, r.type = .reference "java.util.Date" ∧
      r.statement = "items[i] = " ++ r.value ++ ";") ∧ ∃ r ∈ rs, r.type = .primitive .int := by
  cases h with
  | @server ps f c jobs built closed stands =>
    rw [requests_event built] at closed
    have hmem {j : ServerHelper} := closed.mem_of_apart (by decide) (j := j)
    exact ⟨⟨_, List.mem_flatMap.2 ⟨_, hmem List.mem_cons_self, List.mem_cons_self⟩, rfl, rfl⟩,
      _, List.mem_flatMap.2
        ⟨_, hmem (List.mem_cons_of_mem _ List.mem_cons_self), List.mem_cons_self⟩, rfl⟩

/-- The server builder of an event reads its marks, and has no expression for its days. -/
theorem reads_no_date :
    ∃ c rs, ((event, .serverBuilder), c) ∈ ofEvent.outputs.zip ofEvent.produce.classes ∧
      ReadsValues ofEvent.session event .serverBuilder c rs ∧
      (∃ r ∈ rs, r.type = .reference "java.util.Date" ∧ r.value = "") ∧
      Occurs "items[i] = ;" c.source ∧
      ∃ r ∈ rs, r.type = .primitive .int ∧ r.value ≠ "" ∧
        ReadsVariable ofEvent.session .serverBuilder r.type r.var r.value := by
  obtain ⟨c, hc⟩ := reachable_ofEvent.exists_mem_zip rfl generable_of_mem_ofEvent
    (List.mem_singleton.2 rfl) .serverBuilder
  obtain ⟨⟨rs, hrs⟩, hall⟩ := reachable_ofEvent.reads_values_iff hc (by decide)
  obtain ⟨ps, -, hvalues⟩ := hall rs hrs
  obtain ⟨⟨r, hr, htype, hstatement⟩, q, hq, hqtype⟩ := exists_readings_of_event hrs
  obtain ⟨-, hoccurs, -, hempty⟩ := hvalues r hr
  obtain ⟨-, -, hreads, -⟩ := hvalues q hq
  have hvalue : r.value = "" := by
    refine hempty ?_
    rw [htype]
    rintro (h | h) <;> cases h
  rw [hstatement, hvalue] at hoccurs
  refine ⟨c, rs, hc, hrs, ⟨r, hr, htype, hvalue⟩, hoccurs, q, hq, hqtype, hreads.2 ?_⟩
  rw [hqtype]
  exact .inr rfl

end Generator

end XmlBinding
