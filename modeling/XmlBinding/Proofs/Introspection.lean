import XmlBinding.Proofs.Results
import XmlBinding.Proofs.TypeReference

/-!
# What descriptors are introspected as

* `Entity.IsOwnName s` : a dotted name that stands for itself, `parse_eq_reference_iff`;
* `Entity.Counts before d` : whether a property counts behind others; `firsts ds` : those that
  count, said by their places, `counted_eq_firsts`;
* `Entity.counted_append`, `counted_pass` : what follows does not change what counts, and an entry
  that is passed over does not change what follows;
* `BeanProperty.IsOf package d p` : the property `p` that a descriptor stands for;
* `Entity.introspects` : when a descriptor is an entity, and which one.
-/

namespace XmlBinding

namespace Entity

variable {s n : String} {seen : List String} {ds : List PropertyDescriptor}
  {d : EntityDescriptor} {e : Entity}

/-! ## Names -/

/-- A name that stands for itself: dotted, and if it is one segment no keyword and not well
known. -/
structure IsOwnName (s : String) : Prop where
  dotted : JavaType.IsDotted s
  simple : '.' ∉ s.toList → Primitive.ofName? s = none ∧ wellKnown? s = none

theorem IsOwnName.named (h : IsOwnName s) : JavaType.named "" s = .reference s := by
  by_cases hdot : '.' ∈ s.toList
  · exact JavaType.named_of_dot hdot
  · obtain ⟨hkeyword, hknown⟩ := h.simple hdot
    rw [JavaType.named_of_simple hkeyword hdot, hknown]
    rfl

/-- What stands for itself is known in the default package under its own name. -/
theorem eq_of_named {q : String} (hs : JavaType.IsDotted s) (h : JavaType.named "" s = .reference q)
    (hq : Text.trim q = s) : q = s ∧ IsOwnName s := by
  by_cases hdot : '.' ∈ s.toList
  · rw [JavaType.named_of_dot hdot] at h
    cases h
    exact ⟨rfl, hs, fun hsimple => absurd hdot hsimple⟩
  cases hkeyword : Primitive.ofName? s with
  | some p =>
    rw [JavaType.Primitive.ofName?_eq_some_iff.1 hkeyword, JavaType.named_name] at h
    cases h
  | none =>
    rw [JavaType.named_of_simple hkeyword hdot] at h
    cases hknown : wellKnown? s with
    | none =>
      rw [hknown] at h
      cases h
      exact ⟨rfl, hs, fun _ => ⟨hkeyword, hknown⟩⟩
    | some known =>
      -- A well known class has dots in its name, and no white space around it.
      rw [hknown] at h
      cases h
      obtain ⟨hdotted, hknownDot⟩ := JavaType.wellKnown?_eq_some hknown
      have hreads : JavaType.Reads "" known _ := .name (JavaType.isDottedName_iff.1 hdotted)
      have htrim : Text.trim known = known := hreads.trim
      rw [← hq, Option.getD_some, htrim] at hdot
      exact absurd hknownDot hdot

theorem parse_eq_reference_iff : JavaType.parse "" s = .ok (.reference s) ↔ IsOwnName s := by
  constructor
  · intro h
    have hreads := JavaType.parse_eq_ok_iff.1 h
    generalize htext : Text.trim s = text at hreads
    generalize htype : JavaType.reference s = t at hreads
    cases hreads with
    | name dotted =>
      obtain ⟨hs, hown⟩ := eq_of_named dotted htype.symm htext
      rwa [hs]
    | array component blank => cases htype
  · intro h
    have hreads : JavaType.Reads "" s (.reference s) := h.named ▸ .name h.dotted
    rw [JavaType.parse_eq_ok_iff, hreads.trim]
    exact hreads

theorem isWellNamed_iff : isWellNamed s = true ↔ IsOwnName s := by
  rw [← parse_eq_reference_iff]
  unfold isWellNamed
  split <;> simp_all

/-! ## The properties that count -/

/-- Whether a property counts behind others: its name is not `class`, and none of them has it. -/
def Counts (before : List PropertyDescriptor) (d : PropertyDescriptor) : Prop :=
  d.name ≠ BeanProperty.className ∧ ∀ earlier ∈ before, earlier.name ≠ d.name

instance (before : List PropertyDescriptor) (d : PropertyDescriptor) :
    Decidable (Counts before d) :=
  inferInstanceAs (Decidable (_ ∧ _))

/-- The properties that count behind those before them. -/
def firsts (ds : List PropertyDescriptor) : List PropertyDescriptor :=
  (ds.zipIdx.filter fun entry => Counts (ds.take entry.2) entry.1).map Prod.fst

theorem not_counts_iff {before : List PropertyDescriptor} {p : PropertyDescriptor} :
    ¬Counts before p ↔ p.name = BeanProperty.className ∨ p.name ∈ before.map (·.name) := by
  rw [Counts, not_and_or, not_not, List.mem_map]
  push Not
  rfl

theorem name_mem_counted_iff : n ∈ (counted seen ds).map (·.name) ↔
    n ≠ BeanProperty.className ∧ n ∉ seen ∧ n ∈ ds.map (·.name) := by
  induction ds generalizing seen with
  | nil => simp [counted]
  | cons d ds ih =>
    rw [counted]
    split
    · next hpassed =>
      rw [ih]
      grind
    · next hcounts =>
      rw [List.map_cons, List.mem_cons, ih]
      grind

theorem nodup_counted : ((counted seen ds).map (·.name)).Nodup := by
  induction ds generalizing seen with
  | nil => exact List.nodup_nil
  | cons d ds ih =>
    rw [counted]
    split
    · exact ih
    · rw [List.map_cons, List.nodup_cons]
      refine ⟨fun hmem => ?_, ih⟩
      obtain ⟨-, hunseen, -⟩ := name_mem_counted_iff.1 hmem
      exact hunseen List.mem_cons_self

/-- Which properties count depends on the names before them alone. -/
theorem counted_congr {seen seen' : List String}
    (h : ∀ n ≠ BeanProperty.className, n ∈ seen ↔ n ∈ seen') :
    counted seen ds = counted seen' ds := by
  induction ds generalizing seen seen' with
  | nil => rfl
  | cons d ds ih =>
    have hskip : (d.name = BeanProperty.className ∨ d.name ∈ seen) ↔
        (d.name = BeanProperty.className ∨ d.name ∈ seen') := by
      by_cases hclass : d.name = BeanProperty.className
      · simp [hclass]
      · simp [hclass, h d.name hclass]
    rw [counted, counted]
    by_cases hpassed : d.name = BeanProperty.className ∨ d.name ∈ seen
    · rw [if_pos hpassed, if_pos (hskip.1 hpassed)]
      exact ih h
    · rw [if_neg hpassed, if_neg (mt hskip.2 hpassed)]
      refine congrArg (d :: ·) (ih fun n hn => ?_)
      rw [List.mem_cons, List.mem_cons, h n hn]

theorem counted_append (before after : List PropertyDescriptor) :
    counted seen (before ++ after) =
      counted seen before ++ counted (before.map (·.name) ++ seen) after := by
  induction before generalizing seen with
  | nil => rfl
  | cons d before ih =>
    rw [List.cons_append, counted, counted]
    split
    · next hpassed =>
      rw [ih]
      congr 1
      apply counted_congr
      intro n hn
      simp only [List.map_cons, List.cons_append, List.mem_append, List.mem_cons]
      grind
    · rw [ih, List.cons_append]
      congr 2
      apply counted_congr
      intro n hn
      simp only [List.map_cons, List.cons_append, List.mem_append, List.mem_cons]
      tauto

/-- A property that does not count leaves no trace. -/
theorem counted_pass {before after : List PropertyDescriptor} {p : PropertyDescriptor}
    (h : ¬Counts before p) : counted [] (before ++ p :: after) = counted [] (before ++ after) := by
  rw [counted_append, counted_append, counted, List.append_nil, if_pos (not_counts_iff.1 h)]

theorem counted_eq_filter (before ds : List PropertyDescriptor) :
    counted (before.map (·.name)) ds = ((ds.zipIdx before.length).filter fun entry =>
      Counts ((before ++ ds).take entry.2) entry.1).map Prod.fst := by
  induction ds generalizing before with
  | nil => rfl
  | cons d ds ih =>
    -- The names passed so far grow by that of `d`, whether it counts or not.
    have hbefore : (before ++ d :: ds).take before.length = before := List.take_left
    have hrest := ih (before ++ [d])
    rw [List.append_assoc, List.singleton_append, List.length_append, List.length_singleton]
      at hrest
    rw [List.zipIdx_cons, List.filter_cons, counted]
    simp only [hbefore, decide_eq_true_eq]
    by_cases hcounts : Counts before d
    · rw [if_neg (not_counts_iff.2.mt (not_not.2 hcounts)), if_pos hcounts, List.map_cons, ← hrest]
      congr 1
      apply counted_congr
      intro n _
      simp [or_comm]
    · have hpassed := not_counts_iff.1 hcounts
      rw [if_pos hpassed, if_neg hcounts, ← hrest]
      apply counted_congr
      intro n hn
      rw [List.map_append, List.map_singleton, List.mem_append, List.mem_singleton]
      constructor
      · exact .inl
      · rintro (hn' | rfl)
        · exact hn'
        · exact hpassed.resolve_left hn

theorem counted_eq_firsts (ds : List PropertyDescriptor) : counted [] ds = firsts ds :=
  counted_eq_filter [] ds

end Entity

/-! ## Properties -/

namespace BeanProperty

variable {package : String} {d : PropertyDescriptor} {p : BeanProperty}

/-- The property that a descriptor stands for in an entity of `package`. -/
structure IsOf (package : String) (d : PropertyDescriptor) (p : BeanProperty) : Prop where
  name : p.name = d.name
  type : JavaType.parse package d.type = .ok p.type
  getter : p.getter = (if p.type = .primitive .boolean then "is" else "get") ++ capitalize d.name
  setter : p.setter = if d.setter then some ("set" ++ capitalize d.name) else none
  markers : p.descriptor = d

theorem ofDescriptor_eq_ok_iff : ofDescriptor package d = .ok p ↔ IsOf package d p := by
  unfold ofDescriptor
  cases htype : JavaType.parse package d.type with
  | error fault =>
    refine iff_of_false (fun h => nomatch h) fun h => ?_
    cases htype.symm.trans h.type
  | ok t =>
    constructor
    · intro h
      cases h
      exact ⟨rfl, htype, rfl, rfl, rfl⟩
    · rintro ⟨hname, htype', hgetter, hsetter, hmarkers⟩
      cases htype.symm.trans htype'
      cases p
      simp_all [Except.map, accessorName]

theorem exists_ofDescriptor_iff : (∃ p, ofDescriptor package d = .ok p) ↔
    ∃ t, JavaType.parse package d.type = .ok t := by
  unfold ofDescriptor
  cases JavaType.parse package d.type with
  | error fault => exact iff_of_false (fun ⟨_, h⟩ => nomatch h) fun ⟨_, h⟩ => nomatch h
  | ok t => exact iff_of_true ⟨_, rfl⟩ ⟨t, rfl⟩

end BeanProperty

namespace Entity

variable {s : String} {ds : List PropertyDescriptor} {dp : PropertyDescriptor} {p : BeanProperty}
  {d : EntityDescriptor} {e : Entity}

theorem property_eq_ok_iff : property s dp = .ok p ↔
    dp.name ≠ "" ∧ BeanProperty.ofDescriptor (packageOf s) dp = .ok p := by
  unfold property
  split
  · next hempty =>
    exact iff_of_false (fun h => nomatch h) fun h => h.1 (String.isEmpty_iff.1 hempty)
  · next hname =>
    rw [String.isEmpty_iff] at hname
    cases BeanProperty.ofDescriptor (packageOf s) dp with
    | error fault => exact iff_of_false (fun h => nomatch h) fun h => nomatch h.2
    | ok q =>
      show (Except.ok q : Except Failure BeanProperty) = .ok p ↔ _
      rw [and_iff_right hname, Except.ok.injEq, Except.ok.injEq]

/-- A descriptor stands for a property where it has a name and a type. -/
theorem exists_property_iff : (∃ p, property s dp = .ok p) ↔
    dp.name ≠ "" ∧ ∃ t, JavaType.parse (packageOf s) dp.type = .ok t := by
  simp only [property_eq_ok_iff, exists_and_left, BeanProperty.exists_ofDescriptor_iff]

/-! ## Entities -/

theorem ofDescriptor_eq_ok_iff : ofDescriptor d = .ok e ↔
    IsOwnName d.name ∧ e.descriptor = d ∧
      (firsts d.properties).mapM (property d.name) = .ok e.properties := by
  unfold ofDescriptor
  rw [counted_eq_firsts]
  split
  · next hnamed =>
    rw [isWellNamed_iff] at hnamed
    rw [map_eq_ok]
    constructor
    · rintro ⟨ps, hps, rfl⟩
      exact ⟨hnamed, rfl, hps⟩
    · rintro ⟨-, rfl, hps⟩
      exact ⟨e.properties, hps, rfl⟩
  · next hnamed =>
    rw [isWellNamed_iff] at hnamed
    exact iff_of_false (fun h => nomatch h) fun h => hnamed h.1

theorem exists_ofDescriptor_iff : (∃ e, ofDescriptor d = .ok e) ↔
    IsOwnName d.name ∧ ∀ p ∈ firsts d.properties,
      p.name ≠ "" ∧ ∃ t, JavaType.parse (packageOf d.name) p.type = .ok t := by
  simp only [← exists_property_iff]
  rw [← exists_mapM_eq_ok_iff]
  constructor
  · rintro ⟨e, h⟩
    obtain ⟨hname, -, hps⟩ := ofDescriptor_eq_ok_iff.1 h
    exact ⟨hname, e.properties, hps⟩
  · rintro ⟨hname, ps, hps⟩
    exact ⟨⟨d, ps⟩, ofDescriptor_eq_ok_iff.2 ⟨hname, rfl, hps⟩⟩

theorem forall₂_of_ofDescriptor (h : ofDescriptor d = .ok e) :
    List.Forall₂ (BeanProperty.IsOf (packageOf d.name)) (firsts d.properties) e.properties := by
  obtain ⟨-, -, hps⟩ := ofDescriptor_eq_ok_iff.1 h
  refine (forall₂_of_mapM_eq_ok hps).imp fun dp p hp => ?_
  obtain ⟨-, hof⟩ := property_eq_ok_iff.1 hp
  exact BeanProperty.ofDescriptor_eq_ok_iff.1 hof

theorem names_of_ofDescriptor (h : ofDescriptor d = .ok e) :
    e.properties.map (·.name) = (firsts d.properties).map (·.name) := by
  have hof := forall₂_of_ofDescriptor h
  generalize firsts d.properties = ds, e.properties = ps at hof
  induction hof with
  | nil => rfl
  | cons hp _ ih => rw [List.map_cons, List.map_cons, hp.name, ih]

theorem ofDescriptor_pass (d : EntityDescriptor) {before : List PropertyDescriptor}
    {p : PropertyDescriptor} (h : ¬Counts before p) (after : List PropertyDescriptor) :
    (ofDescriptor { d with properties := before ++ p :: after }).map (·.properties) =
      (ofDescriptor { d with properties := before ++ after }).map (·.properties) := by
  unfold ofDescriptor
  dsimp only
  rw [counted_pass h]
  split
  · cases (counted [] (before ++ after)).mapM (property d.name) <;> rfl
  · rfl

/-- A descriptor is an entity where its name stands for itself and each property that counts has a
name and a type. The entity has the properties that count, in their order. An entry that does not
count changes neither the outcome nor the properties. -/
theorem introspects (d : EntityDescriptor) :
    (JavaType.parse "" d.name = .ok (.reference d.name) ↔ IsOwnName d.name) ∧
    ((∃ e, ofDescriptor d = .ok e) ↔ IsOwnName d.name ∧ ∀ p ∈ firsts d.properties,
      p.name ≠ "" ∧ ∃ t, JavaType.parse (packageOf d.name) p.type = .ok t) ∧
    (∀ e, ofDescriptor d = .ok e → e.descriptor = d ∧
      List.Forall₂ (BeanProperty.IsOf (packageOf d.name)) (firsts d.properties) e.properties ∧
      (e.properties.map (·.name)).Nodup ∧
      BeanProperty.className ∉ e.properties.map (·.name)) ∧
    ∀ before p after, ¬Counts before p →
      (ofDescriptor { d with properties := before ++ p :: after }).map (·.properties) =
        (ofDescriptor { d with properties := before ++ after }).map (·.properties) := by
  refine ⟨parse_eq_reference_iff, exists_ofDescriptor_iff, fun e h => ?_,
    fun before p after hp => ?_⟩
  · obtain ⟨-, hdescriptor, -⟩ := ofDescriptor_eq_ok_iff.1 h
    rw [names_of_ofDescriptor h, ← counted_eq_firsts]
    refine ⟨hdescriptor, ?_, nodup_counted, fun hclass => ?_⟩
    · rw [counted_eq_firsts]
      exact forall₂_of_ofDescriptor h
    · obtain ⟨hne, -⟩ := name_mem_counted_iff.1 hclass
      exact hne rfl
  · exact ofDescriptor_pass d hp after

def bareProperty (name type : String) : PropertyDescriptor where
  name := name
  type := type
  setter := true
  node := none
  lazy := none
  list := none
  set := none
  map := none
  transience := none
  bindable := none
  default := none

/-- A desk with a lock. The entries that do not count have no types. -/
def desk : EntityDescriptor where
  name := "office.Desk"
  node := none
  transient := false
  bindable := none
  packages := none
  properties := [bareProperty "class" "?", { bareProperty "locked" "boolean" with setter := false },
    bareProperty "owner" "Person[]", bareProperty "locked" "["]

/-- A desk is an entity with a lock and owners, and would be one without its last entry. -/
theorem introspects_desk : ∃ e, ofDescriptor desk = .ok e ∧
    e.properties.map (·.name) = ["locked", "owner"] ∧
    e.properties.map (·.getter) = ["isLocked", "getOwner"] ∧
    e.properties.map (·.setter) = [none, some "setOwner"] ∧
    (ofDescriptor { desk with properties := desk.properties.dropLast }).map (·.properties) =
      .ok e.properties := by
  obtain ⟨-, hsucceeds, hresult, hpass⟩ := introspects desk
  have hown : IsOwnName desk.name := by
    refine ⟨JavaType.isDottedName_iff.1 (by decide +kernel), fun h => absurd ?_ h⟩
    decide
  have hfirsts : firsts desk.properties =
      [{ bareProperty "locked" "boolean" with setter := false },
        bareProperty "owner" "Person[]"] := by
    decide +kernel
  have hpackage : packageOf desk.name = "office" := by decide +kernel
  have hboolean : JavaType.parse "office" "boolean" = .ok (.primitive .boolean) := by
    decide +kernel
  have hpersons :
      JavaType.parse "office" "Person[]" = .ok (.array (.reference "office.Person")) := by
    decide +kernel
  have htypes : ∀ p ∈ firsts desk.properties,
      p.name ≠ "" ∧ ∃ t, JavaType.parse (packageOf desk.name) p.type = .ok t := by
    rw [hfirsts, hpackage, List.forall_mem_cons, List.forall_mem_singleton]
    exact ⟨⟨by decide, _, hboolean⟩, by decide, _, hpersons⟩
  obtain ⟨e, he⟩ := hsucceeds.2 ⟨hown, htypes⟩
  obtain ⟨-, hof, -, -⟩ := hresult e he
  rw [hfirsts, hpackage] at hof
  rcases e with ⟨descriptor, properties⟩
  rcases hof with - | ⟨hlocked, - | ⟨howner, - | -⟩⟩
  next locked owner =>
    have hlockedType : locked.type = .primitive .boolean :=
      Except.ok.inj (hlocked.type.symm.trans hboolean)
    have hownerType : owner.type = .array (.reference "office.Person") :=
      Except.ok.inj (howner.type.symm.trans hpersons)
    have hlast : ¬Counts desk.properties.dropLast (bareProperty "locked" "[") := by
      decide
    have hsame := hpass desk.properties.dropLast (bareProperty "locked" "[") [] hlast
    refine ⟨_, he, ?_, ?_, ?_, ?_⟩
    · simp [hlocked.name, howner.name, bareProperty]
    · rw [List.map_cons, List.map_singleton, hlocked.getter, howner.getter, hlockedType,
        hownerType]
      decide +kernel
    · rw [List.map_cons, List.map_singleton, hlocked.setter, howner.setter]
      decide +kernel
    · rw [List.append_nil] at hsame
      rw [← hsame]
      exact congrArg (·.map (·.properties)) he

end Entity

end XmlBinding
