import XmlBinding.Proofs.Emission.Body
import XmlBinding.Proofs.Session

/-!
# Forms of values in the XML

* `XmlForm`, `XmlNode` : the forms in which a property stands in the XML, and its node with a name;
* `Session.entryWritten`, `entryRead` : the form of one entry of an array, a collection or a map,
  and `ReadsAs t u`, where the two are the same;
* `Occurs part whole` : a text is part of another;
* `servedBy identity asked job` : the helper that does a job, the first of its identity among those
  that `ClassFrame.requests` lists;
* `Dialect.Assembles.occurs_methods`, `occurs_served` : what occurs in a class, `exists_served` :
  its body and its imports;
* `Builder.Builds` : a class with the frame it is made from.
-/

namespace XmlBinding

/-! ## Forms -/

/-- The form of one entry of an array, a collection or a map. -/
inductive EntryForm where
  /-- The element of a bean. -/
  | bean
  /-- An element with a text. -/
  | text
  /-- An element whose content is passed over. -/
  | unread
  deriving DecidableEq, Repr

/-- The form of the key of an entry. -/
inductive KeyForm where
  /-- The attribute for keys. -/
  | attribute
  /-- Passed over. -/
  | unread
  deriving DecidableEq, Repr

/-- The form in which a property stands in the XML. -/
inductive XmlForm where
  | attribute
  /-- A child with a text. -/
  | text
  /-- A child that is the element of a bean. -/
  | bean
  /-- A child around entries. -/
  | list (entry : EntryForm)
  /-- A child around entries with keys. -/
  | map (key : KeyForm) (entry : EntryForm)
  deriving DecidableEq, Repr

/-- Name and form of a property in the XML. -/
structure XmlNode where
  name : String
  form : XmlForm
  deriving DecidableEq, Repr

def Property.nodeIn (p : Property) (form : XmlForm) : XmlNode := ⟨p.node.name, form⟩

theorem Property.nodeIn_inj {p : Property} {form form' : XmlForm} :
    p.nodeIn form = p.nodeIn form' ↔ form = form' := by
  unfold nodeIn
  rw [XmlNode.mk.injEq]
  exact and_iff_right rfl

namespace Session

variable {s : Session} {t : JavaType}

/-- The form in which values of a type are written as entries. -/
def entryWritten (s : Session) (t : JavaType) : EntryForm := if s.isEntity t then .bean else .text

/-- The form in which values of a type are read as entries. -/
def entryRead (s : Session) (t : JavaType) : EntryForm :=
  if s.isEntity t then .bean
  else if (ScalarKind.of? t).isSome then .text
  else .unread

def keyRead (t : JavaType) : KeyForm := if (ScalarKind.of? t).isSome then .attribute else .unread

/-- Whether values of `u` are read in the form in which those of `t` are written: both are beans, or
neither is and those of `u` are scalars. -/
def ReadsAs (s : Session) (t u : JavaType) : Prop :=
  if s.isEntity t then s.isEntity u = true
  else s.isEntity u = false ∧ (ScalarKind.of? u).isSome = true

theorem entryRead_eq_entryWritten_iff {u : JavaType} :
    s.entryRead u = s.entryWritten t ↔ s.ReadsAs t u := by
  unfold entryRead entryWritten ReadsAs
  cases s.isEntity t <;> cases s.isEntity u <;> cases (ScalarKind.of? u).isSome <;> simp

theorem beanOr_entryRead_eq_iff {u : JavaType} :
    (if s.isEntity t then .bean else s.entryRead u) = s.entryWritten t ↔
      s.isEntity t = true ∨ s.ReadsAs t u := by
  cases he : s.isEntity t with
  | true => exact iff_of_true (by simp [entryWritten, he]) (.inl rfl)
  | false =>
    simp only [Bool.false_eq_true, if_false, false_or]
    exact entryRead_eq_entryWritten_iff

/-- A scalar kind of a type that is no entity is that of the property that stands for one value. -/
theorem scalar?_synthetic (h : s.isEntity t = false) :
    (s.synthetic t).scalar? = ScalarKind.of? t := by
  cases t with
  | array c => rfl
  | primitive q => rfl
  | reference q =>
    unfold Property.scalar? synthetic
    dsimp only [JavaType.component?]
    rw [h]
    rfl

end Session

/-! ## Parts of texts -/

/-- A text is part of another. -/
def Occurs (part whole : String) : Prop := ∃ before after, whole = before ++ part ++ after

namespace Occurs

variable {a b c : String}

theorem refl (a : String) : Occurs a a :=
  ⟨"", "", by rw [String.empty_append, String.append_empty]⟩

theorem empty (a : String) : Occurs "" a :=
  ⟨"", a, by rw [String.empty_append, String.empty_append]⟩

theorem of_isPrefixOf (h : a.toList.isPrefixOf b.toList) : Occurs a b := by
  obtain ⟨rest, hrest⟩ := List.isPrefixOf_iff_prefix.1 h
  refine ⟨"", String.ofList rest, String.toList_injective ?_⟩
  rw [String.empty_append, String.toList_append, String.toList_ofList, hrest]

theorem append_left (h : Occurs a b) (c : String) : Occurs a (c ++ b) := by
  obtain ⟨before, after, rfl⟩ := h
  exact ⟨c ++ before, after, by simp only [String.append_assoc]⟩

theorem append_right (h : Occurs a b) (c : String) : Occurs a (b ++ c) := by
  obtain ⟨before, after, rfl⟩ := h
  exact ⟨before, after ++ c, by simp only [String.append_assoc]⟩

theorem trans (h : Occurs a b) (h' : Occurs b c) : Occurs a c := by
  obtain ⟨before, after, rfl⟩ := h'
  exact (h.append_left before).append_right after

theorem join {l : List String} (h : a ∈ l) : Occurs a (String.join l) := by
  induction l with
  | nil => cases h
  | cons b l ih =>
    rw [String.join_cons]
    rcases List.mem_cons.1 h with rfl | h
    · exact (refl a).append_right _
    · exact (ih h).append_left b

theorem lineText (h : Occurs a b) (config : Config) (level : Nat) :
    Occurs a (config.lineText level b) :=
  (h.append_left _).append_right _

theorem linesText {lines : List String} (h : Occurs a b) (hb : b ∈ lines) (config : Config)
    (level : Nat) : Occurs a (config.linesText level lines) :=
  (h.lineText config level).trans (join (List.mem_map_of_mem hb))

theorem blockText (h : Occurs a b) (config : Config) (level : Nat) :
    Occurs a (config.blockText level b) :=
  (h.append_left _).append_right _

end Occurs

namespace Addition

variable {J : Type} {d : Direction} {x : Property → Addition J} {ps : List Property} {p : Property}

theorem occurs_of_append {x y : Addition J} {whole : String} (h : Occurs (x ++ y).text whole) :
    Occurs x.text whole ∧ Occurs y.text whole := by
  rw [text_append] at h
  exact ⟨((Occurs.refl _).append_right _).trans h, ((Occurs.refl _).append_left _).trans h⟩

/-- What a property adds that takes part is part of what all add. -/
theorem occurs_ofProperties (hp : p ∈ ps) (hd : p.takesPart d = true) :
    Occurs (x p).text (ofProperties d x ps).text := by
  unfold ofProperties
  rw [text_concat, List.map_map]
  exact Occurs.join (List.mem_map.2 ⟨p, List.mem_filter.2 ⟨hp, hd⟩, rfl⟩)

theorem asks_ofProperties (d : Direction) (x : Property → Addition J) (ps : List Property) :
    (ofProperties d x ps).asks = (ps.filter (·.takesPart d)).flatMap fun p => (x p).asks := by
  unfold ofProperties
  rw [asks_concat, List.flatMap_map]

end Addition

/-! ## Helpers

Helpers are asked for by jobs and told apart by identities, so one job can be done by the helper of
another. -/

section Helpers
variable {H X : Type} {identity : H → HelperId} {asked : List H} {job : H}

/-- The helper that does a job: the first of the same identity that is asked for. -/
def servedBy (identity : H → HelperId) (asked : List H) (job : H) : H :=
  (asked.find? fun j => identity j = identity job).getD job

theorem identity_servedBy (identity : H → HelperId) (asked : List H) (job : H) :
    identity (servedBy identity asked job) = identity job := by
  unfold servedBy
  cases h : asked.find? fun j => identity j = identity job with
  | none => rfl
  | some j =>
    have hj := List.find?_some h
    exact of_decide_eq_true hj

theorem find?_eq_servedBy (h : job ∈ asked) :
    asked.find? (fun j => identity j = identity job) = some (servedBy identity asked job) := by
  unfold servedBy
  cases hf : asked.find? fun j => identity j = identity job with
  | none => exact absurd (decide_eq_true rfl) (List.find?_eq_none.1 hf job h)
  | some j => rfl

theorem servedBy_mem (h : job ∈ asked) : servedBy identity asked job ∈ asked :=
  List.mem_of_find?_eq_some (find?_eq_servedBy h)

/-- The helpers that the properties of a frame ask for: those that reading asks for, then those that
writing its elements does. -/
def ClassFrame.requests (f : ClassFrame) (read write : Direction)
    (reads writes : Property → List H) : List H :=
  ((f.attributes ++ f.elements).filter (·.takesPart read)).flatMap reads ++
    (f.elements.filter (·.takesPart write)).flatMap writes

namespace ClassFrame

variable {f : ClassFrame} {read write : Direction} {reads writes : Property → List H} {p : Property}

theorem mem_requests_of_read (hp : p ∈ f.attributes ++ f.elements) (hd : p.takesPart read = true)
    (hj : job ∈ reads p) : job ∈ f.requests read write reads writes := by
  refine List.mem_append_left _ (List.mem_flatMap.2 ⟨p, ?_, hj⟩)
  exact List.mem_filter.2 ⟨hp, hd⟩

theorem mem_requests_of_write (hp : p ∈ f.elements) (hd : p.takesPart write = true)
    (hj : job ∈ writes p) : job ∈ f.requests read write reads writes := by
  refine List.mem_append_right _ (List.mem_flatMap.2 ⟨p, ?_, hj⟩)
  exact List.mem_filter.2 ⟨hp, hd⟩

/-- A request comes from reading or from writing a property. -/
theorem exists_of_mem_requests (hj : job ∈ f.requests read write reads writes) :
    ∃ p ∈ f.attributes ++ f.elements, p.takesPart read = true ∧ job ∈ reads p ∨
      p.takesPart write = true ∧ job ∈ writes p := by
  rcases List.mem_append.1 hj with hj | hj
  · obtain ⟨q, hq, hj⟩ := List.mem_flatMap.1 hj
    obtain ⟨hq, hd⟩ := List.mem_filter.1 hq
    exact ⟨q, hq, .inl ⟨hd, hj⟩⟩
  · obtain ⟨q, hq, hj⟩ := List.mem_flatMap.1 hj
    obtain ⟨hq, hd⟩ := List.mem_filter.1 hq
    exact ⟨q, List.mem_append_right _ hq, .inr ⟨hd, hj⟩⟩

end ClassFrame

end Helpers

/-- Where each property asks for the helpers of some jobs, so do properties one after the other. -/
theorem Addition.asks_ofProperties_of_forall {H J : Type} {d : Direction}
    {x : Property → Addition J} {jobs : Property → List H} {ask : H → Helper J}
    (h : ∀ p, (x p).asks = (jobs p).map ask) (ps : List Property) :
    (Addition.ofProperties d x ps).asks =
      ((ps.filter (·.takesPart d)).flatMap jobs).map ask := by
  rw [asks_ofProperties, List.map_flatMap]
  simp only [h]

theorem Addition.uses_ofProperties {J : Type} (d : Direction) (x : Property → Addition J)
    (ps : List Property) :
    (ofProperties d x ps).uses = (ps.filter (·.takesPart d)).flatMap fun p => (x p).uses := by
  unfold ofProperties
  rw [uses_concat, List.flatMap_map]

/-! ## Classes -/

namespace Dialect.Assembles

variable {J : Type} {d : Dialect J} {s : Session} {f : ClassFrame} {x : Addition J}
  {make : J → Addition J} {c : GeneratedClass}

theorem occurs_methods (h : d.Assembles s f x make c) : Occurs x.text c.source := by
  obtain ⟨head, hs, hsource, -, -⟩ := h.source
  rw [hsource]
  exact (((Occurs.refl _).append_left _).append_right _).append_right _

theorem occurs_helper (h : d.Assembles s f x make c) {i : HelperId} {helper : Helper J}
    (hi : x.asks.find? (·.id = i) = some helper) : Occurs (make helper.job).text c.source := by
  obtain ⟨head, hs, hsource, -, hall⟩ := h.source
  rw [hsource]
  refine Occurs.append_right (Occurs.append_left ?_ _) _
  exact Occurs.join (List.mem_map_of_mem (hall i helper hi))

theorem occurs_className (h : d.Assembles s f x make c) : Occurs f.className c.source := by
  obtain ⟨hs, t, -, rfl⟩ := h
  have hheader : Occurs f.className
      (d.style.classHeader s.config f.className f.superclass f.interfaces) := by
    unfold AccessStyle.classHeader
    exact ((((Occurs.refl _).append_left _).append_right _).append_right _).append_right _
  exact ((hheader.append_left _).append_right _).append_right _

section Served
variable {H X : Type} {d : Dialect (H ⊕ X)} {x : Addition (H ⊕ X)} {make : H ⊕ X → Addition (H ⊕ X)}
  {identity : H → HelperId} {asked : List H} (hx : x.asks = asked.map fun j => ⟨identity j, .inl j⟩)
include hx

theorem find?_asks {job : H} (hj : job ∈ asked) : x.asks.find? (·.id = identity job) =
    some ⟨identity (servedBy identity asked job), .inl (servedBy identity asked job)⟩ := by
  rw [hx, List.find?_map]
  exact congrArg (Option.map _) (find?_eq_servedBy hj)

/-- The method of the helper that does a job stands in the class. -/
theorem occurs_served (h : d.Assembles s f x make c) {job : H} (hj : job ∈ asked) :
    Occurs (make (.inl (servedBy identity asked job))).text c.source :=
  h.occurs_helper (find?_asks hx hj)

/-- The body of a class are its methods and its helpers, and the imports are those of both. A helper
does a job that the methods ask for, or another one asks for it. -/
theorem exists_served (h : d.Assembles s f x make c) : ∃ imports, ∃ jobs : List (H ⊕ X),
    c = d.assemble s f imports (x.text ++ String.join (jobs.map fun j => (make j).text)) ∧
    imports.Pairwise (· < ·) ∧
    (∀ q, q ∈ imports ↔ q ∈ d.baseImports.flatMap (Scope.usesOf ⟨s, f, d.target⟩) ∨ q ∈ x.uses ∨
      ∃ j ∈ jobs, q ∈ (make j).uses) ∧
    (∀ j ∈ asked, .inl (servedBy identity asked j) ∈ jobs) ∧
    ∀ j ∈ jobs, (∃ k ∈ asked, j = .inl (servedBy identity asked k)) ∨
      ∃ i ∈ jobs, ∃ a ∈ (make i).asks, a.job = j := by
  obtain ⟨imports, hs, rfl, hascending, himports, hfirst, hall⟩ := h.exists_helpers
  refine ⟨imports, hs.map Helper.job, ?_, hascending, fun q => ?_, fun j hj => ?_, fun j hj => ?_⟩
  · rw [List.map_map]
    rfl
  · rw [himports]
    simp only [List.mem_map, exists_exists_and_eq_and]
  · exact List.mem_map_of_mem (hfirst _ _ (find?_asks hx hj))
  · obtain ⟨helper, hhelper, rfl⟩ := List.mem_map.1 hj
    refine (hall helper hhelper).imp (fun hfound => ?_) ?_
    · have hmem := List.mem_of_find?_eq_some hfound
      rw [hx] at hmem
      obtain ⟨k, hk, rfl⟩ := List.mem_map.1 hmem
      rw [find?_asks hx hk] at hfound
      exact ⟨k, hk, (congrArg Helper.job (Option.some.inj hfound)).symm⟩
    · rintro ⟨g, hg, hasked⟩
      exact ⟨g.job, List.mem_map_of_mem hg, helper, hasked, rfl⟩

end Served

end Dialect.Assembles

namespace Builder

variable {J : Type} {d : Dialect J} {s : Session} {e : Entity} {ps : List Property}
  {f : ClassFrame} {c : GeneratedClass} {p : Property}

/-- A dialect makes a class of an entity from a frame with all its properties. -/
structure Builds (d : Dialect J) (s : Session) (e : Entity) (ps : List Property) (f : ClassFrame)
    (c : GeneratedClass) : Prop where
  described : s.describe e = .ok ps
  filled : (openFrame s e d.target >>= ps.foldlM fun f p => addProperty p f) = .ok f
  rendered : d.render s f = .ok c

namespace Builds

theorem frame_eq (h : Builds d s e ps f c) :
    (∀ p ∈ ps, Fits p) ∧ ∃ package className node,
      f = framed ps (.opening e package className node) := by
  obtain ⟨f₀, hopen, hfill⟩ := bind_eq_ok.1 h.filled
  obtain ⟨package, node, -, -, rfl⟩ := openFrame_eq_ok_iff.1 hopen
  obtain ⟨hfits, rfl⟩ := addProperties_eq_ok_iff.1 hfill
  exact ⟨hfits, package, _, node, rfl⟩

/-- The frame is of the entity, in the place of its class. -/
theorem placed (h : Builds d s e ps f c) :
    f.entity = e ∧ s.packageFor e d.target = .ok f.package ∧
      f.className = s.className e d.target := by
  obtain ⟨f₀, hopen, hfill⟩ := bind_eq_ok.1 h.filled
  obtain ⟨package, node, hp, -, rfl⟩ := openFrame_eq_ok_iff.1 hopen
  obtain ⟨-, rfl⟩ := addProperties_eq_ok_iff.1 hfill
  exact ⟨rfl, hp, rfl⟩

theorem mem_attributes (h : Builds d s e ps f c) : p ∈ f.attributes ↔
    p ∈ ps ∧ p.isHidden .marshalling = false ∧ p.node.isAttribute = true := by
  obtain ⟨-, package, className, node, rfl⟩ := h.frame_eq
  simp [framed, ClassFrame.opening, isFrameAttribute]

theorem mem_elements (h : Builds d s e ps f c) : p ∈ f.elements ↔
    p ∈ ps ∧ p.isHidden .marshalling = false ∧ p.node.isAttribute = false := by
  obtain ⟨-, package, className, node, rfl⟩ := h.frame_eq
  simp [framed, ClassFrame.opening, isFrameElement]

/-- The properties of a frame are among those that its entity is described by. -/
theorem mem_of_mem_frame (h : Builds d s e ps f c) (hp : p ∈ f.attributes ++ f.elements) :
    p ∈ ps := by
  rcases List.mem_append.1 hp with hp | hp
  · exact (h.mem_attributes.1 hp).1
  · exact (h.mem_elements.1 hp).1

theorem basic_of_mem_attributes (h : Builds d s e ps f c) (hp : p ∈ f.attributes) :
    p.category = .basic := by
  obtain ⟨hp, hh, ha⟩ := h.mem_attributes.1 hp
  exact h.frame_eq.1 p hp hh ha

/-- A property that takes part stands among the attributes or among the elements. -/
theorem mem_frame (h : Builds d s e ps f c) (hp : p ∈ ps) {d : Direction}
    (hd : p.takesPart d = true) : p ∈ f.attributes ∨ p ∈ f.elements := by
  rw [h.mem_attributes, h.mem_elements]
  have hh := (Property.takesPart_iff.1 hd).2
  cases ha : p.node.isAttribute with
  | true => exact .inl ⟨hp, hh, rfl⟩
  | false => exact .inr ⟨hp, hh, rfl⟩

end Builds

end Builder

end XmlBinding
