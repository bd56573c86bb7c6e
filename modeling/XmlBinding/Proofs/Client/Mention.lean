import XmlBinding.Proofs.Client.Call
import XmlBinding.Proofs.Client.Reference
import XmlBinding.Proofs.Mention

/-!
# What a client builder mentions

* `Client.vocabulary` : what the class of a frame names; `Client.NamesStanding` : a vocabulary has
  what every builder names;
* `Client.mentionsOnly_readAddition`, `mentionsOnly_writeAddition` : the code for a property;
* `Client.mentionsOnly_childrenText`, `mentionsOnly_listText` : methods that run over something;
* `Client.mentionsOnly_standingAddition`, `mentionsOnly_helperAddition` : the methods of a builder;
* `Client.covers_of_builds` : its class imports what it mentions.
-/

namespace XmlBinding.Client

variable {X : Type} {v : Vocabulary} {named : Bool} {p : Property} {t : JavaType} {key : String}

/-! ## Vocabulary -/

def standingDocuments (scope : Scope) : List MethodRef :=
  [⟨getInstance, [model scope]⟩, ⟨getXml, [model scope]⟩, ⟨getBasicXml, []⟩,
    ⟨getEntityArray, [model scope]⟩, ⟨getEntityXmlList, [model scope]⟩, ⟨getBasicXmlList, []⟩,
    ⟨getEntityMap, [model scope]⟩, ⟨getEntityMapXml, [model scope]⟩]

/-- What the methods of helpers are named by, and documented with. -/
def helperMethods (s : Session) (f : ClassFrame) : List MethodRef :=
  (requests s f).flatMap fun j => (j :: helperRequests s (served s f j)).map reference

def vocabulary (s : Session) (f : ClassFrame) : Vocabulary where
  scope := scopeOf s f
  style := .as3
  methods := standingMethods ++ helperMethods s f
  documented := standingDocuments (scopeOf s f) ++ helperMethods s f
  classes := mentioned s f

/-- A vocabulary has what every builder names. -/
structure NamesStanding (v : Vocabulary) : Prop where
  style : v.style = .as3
  methods : standingMethods ⊆ v.methods
  documented : standingDocuments v.scope ⊆ v.documented
  classes : standing v.scope ⊆ v.classes

/-- Classes of libraries in the fixed texts of every builder. -/
def libraryNames : List String := ["XML", "String", "Array", "Dictionary"]

theorem libraryNames_subset (scope : Scope) :
    libraryNames ⊆ (standing scope).map Reference.name := by
  unfold standing
  rw [List.map_cons]
  exact List.subset_cons_of_subset _ (List.subset_append_left libraryNames _)

namespace NamesStanding

/-- A fixed text in the methods of a builder. -/
theorem fixed (hv : NamesStanding v) {cs : List Char}
    (h : ∀ w ∈ capitals cs, w ∈ typeVariable :: libraryNames)
    (hend : endsInCapital cs = true → named = true) :
    MentionsOnly v named (String.ofList cs) :=
  .of_subset hv.classes
    (fun w hw => (List.mem_cons.1 (h w hw)).imp_right (libraryNames_subset v.scope ·)) hend

/-- The name of a method of every builder. -/
theorem name (hv : NamesStanding v) (h : ⟨key, []⟩ ∈ standingMethods) :
    MentionsOnly v named (v.scope.nameOf key []) :=
  .silent (.method (hv.methods h))

theorem lead (hv : NamesStanding v) {docs : List String} (h : ⟨key, docs⟩ ∈ v.documented) :
    MentionsOnly v named (lead v.scope key docs) := by
  have hdoc : Silent v (v.scope.session.methodLead key docs v.style.methodLevel) :=
    .documentation h
  rw [hv.style] at hdoc
  exact .silent hdoc

/-- The documentation before a method of every builder. -/
theorem standingLead (hv : NamesStanding v) {docs : List String}
    (h : ⟨key, docs⟩ ∈ standingDocuments v.scope) :
    MentionsOnly v named (Client.lead v.scope key docs) :=
  hv.lead (hv.documented h)

theorem model (hv : NamesStanding v)
    (hmodel : v.scope.session.isEntity v.scope.frame.entity.type = true) :
    MentionsOnly v true (model v.scope) := by
  refine .refName hmodel fun r hr => hv.classes ?_
  unfold standing
  iterate 5 refine List.mem_cons_of_mem _ ?_
  exact hr

end NamesStanding

/-! ## Values -/

theorem mentionsOnly_conversion {kind : ScalarKind} (h : converter kind ⊆ v.classes) :
    MentionsOnly v false (conversion kind).1 ∧ MentionsOnly v false (conversion kind).2 := by
  cases kind <;> exact ⟨.of_subset h (by decide) (by decide), .plain rfl⟩

/-- What stands around the node of a scalar. -/
theorem mentionsOnly_scalar {kind : ScalarKind} (hk : ScalarKind.of? t = some kind)
    (h : converterOf t ⊆ v.classes) (hm : kind = .string → reference .readString ∈ v.methods)
    {close : String} (hclose : MentionsOnly v false close) :
    MentionsOnly v false (scalarLead v.scope kind) ∧
      MentionsOnly v false (scalarTail close kind) := by
  unfold converterOf at h
  rw [hk] at h
  have hconversion := mentionsOnly_conversion h
  cases kind with
  | string => exact ⟨.append (.silent (.method (hm rfl))) (.plain rfl), hclose⟩
  | _ => exact hconversion

/-- The call of a method of every builder on that of an entity. -/
theorem mentionsOnly_builderCall (hv : NamesStanding v)
    (he : v.scope.session.isEntity t = true) (h : v.scope.builders t ⊆ v.classes)
    (hkey : ⟨key, []⟩ ∈ standingMethods) :
    MentionsOnly v named (v.scope.builderName t ++ "." ++ v.scope.nameOf key []) :=
  .builderCall (.plain rfl) ⟨_, _, rfl, rfl⟩ he h (hv.methods hkey)

/-- The call of a method of every builder on that of an entity, or of a helper. -/
theorem mentionsOnly_callOf (hv : NamesStanding v) (h : v.scope.builders t ⊆ v.classes)
    {standing helper : String} {args : List String} (hstanding : ⟨standing, []⟩ ∈ standingMethods)
    (hhelper : v.scope.session.isEntity t = false → ⟨helper, args⟩ ∈ v.methods) :
    MentionsOnly v named (v.scope.callOf t "." standing helper args) :=
  .callOf (.plain rfl) ⟨_, _, rfl, rfl⟩ h (hv.methods hstanding) hhelper

/-- The expression for one element or entry. -/
theorem mentionsOnly_valueAddition (hv : NamesStanding v)
    (h : valueReferences v.scope t ⊆ v.classes)
    (hm : (valueRequests v.scope.session t).map reference ⊆ v.methods) :
    MentionsOnly v false (valueAddition v.scope t : Addition (Job Empty)).text := by
  unfold valueReferences at h
  unfold valueRequests at hm
  cases he : v.scope.session.isEntity t with
  | true =>
    rw [if_pos he] at h
    have hentry := readsEntry_entryRead v.scope t
    unfold Session.entryRead at hentry
    rw [if_pos he] at hentry
    cases hentry with
    | bean hvalue =>
      rw [hvalue]
      exact .append (.append (.append (mentionsOnly_builderCall hv he h (by decide)) (.plain rfl))
        (.plain rfl)) (.plain rfl)
  | false =>
    rw [he, if_neg Bool.false_ne_true] at h hm
    rw [text_valueAddition he]
    cases hk : ScalarKind.of? t with
    | none => exact .empty
    | some kind =>
      have hstring : kind = .string → reference .readString ∈ v.methods := by
        rintro rfl
        rw [if_pos hk] at hm
        exact hm (List.mem_singleton.2 rfl)
      obtain ⟨hlead, htail⟩ := mentionsOnly_scalar hk h hstring (.plain rfl : MentionsOnly v _ ")")
      exact .append (.append hlead (.plain rfl)) htail

/-! ## Properties -/

section Property
variable (hv : NamesStanding v) (hp : p ∈ v.scope.frame.attributes ++ v.scope.frame.elements)
  (hentity : p.category = .entity → v.scope.session.isEntity p.type = true)
include hv hp hentity

/-- The statement that reads a property. -/
theorem mentionsOnly_readAddition (h : readReferences v.scope p ⊆ v.classes)
    (hm : (readRequests v.scope.session p).map reference ⊆ v.methods) :
    MentionsOnly v false (readAddition v.scope .as3 "o" p : Addition (Job X)).text := by
  have hread {lead tail : String} {placement : Option Placement}
      (hlead : MentionsOnly v false lead) (htail : MentionsOnly v false tail) :
      MentionsOnly v false (v.scope.accessText .as3 "o" p lead tail placement) :=
    .accessText (fun _ => hp) (.plain rfl) hlead htail _
  have hsequence {t : JavaType} (h : v.scope.builders t ⊆ v.classes)
      (hm : (if v.scope.session.isEntity t then [] else [ClientHelper.readArray t]).map
        reference ⊆ v.methods) :
      MentionsOnly v false (sequenceAddition v.scope .as3 "o" p t : Addition (Job X)).text := by
    rw [text_sequenceAddition]
    refine hread (.append (mentionsOnly_callOf hv h (by decide) fun he => hm ?_) (.plain rfl))
      (.plain rfl)
    simp [he, reference]
  unfold readReferences at h
  unfold readRequests at hm
  unfold readAddition
  cases hc : p.category with
  | basic =>
    rw [hc] at h hm
    dsimp only at hm ⊢
    cases hk : ScalarKind.of? p.type with
    | none => exact .empty
    | some kind =>
      have hclose : MentionsOnly v false (if p.node.isAttribute then ")" else nodeEnd .as3) := by
        split <;> exact .plain rfl
      have hstring : kind = .string → reference .readString ∈ v.methods := by
        rintro rfl
        rw [if_pos hk] at hm
        exact hm (List.mem_singleton.2 rfl)
      obtain ⟨hlead, htail⟩ := mentionsOnly_scalar hk h hstring hclose
      rw [Option.map_some, Option.getD_some, text_scalarAddition]
      exact hread hlead htail
  | entity =>
    rw [hc] at h
    exact .append .empty (hread (.append
      (mentionsOnly_builderCall hv (hentity hc) h (by decide)) (.plain rfl)) (.plain rfl))
  | array t =>
    rw [hc] at h hm
    exact hsequence h hm
  | collection kind t implementation =>
    rw [hc] at h hm
    exact hsequence h hm
  | map key t implementation =>
    have hprimary : AccessStyle.as3.isPrimary = true := rfl
    rw [hc] at h hm
    dsimp only at hm ⊢
    rw [if_pos hprimary, Addition.text_append, Scope.text_callAddition, String.empty_append]
    refine hread (.append (mentionsOnly_callOf hv h (by decide) fun he => hm ?_) (.plain rfl))
      (.plain rfl)
    simp [he, reference]

/-- The line of the literal that writes a property. -/
theorem mentionsOnly_writeAddition (h : writeReferences v.scope p ⊆ v.classes)
    (hm : (writeRequests v.scope.session p).map reference ⊆ v.methods) :
    MentionsOnly v false (writeAddition v.scope "o" p : Addition (Job X)).text := by
  have hnode : MentionsOnly v false p.node.name := .silent (.node hp)
  have hname : MentionsOnly v false p.name := .silent (.property hp)
  have hwrite {call : String} (hcall : MentionsOnly v false call) :
      MentionsOnly v false (literalText v.scope call "o" p) := by
    unfold literalText
    repeat' with_reducible first
      | assumption | refine .lineText ?_ _ | refine .append ?_ ?_
    all_goals exact .plain rfl
  have hsequence {t : JavaType} (h : v.scope.builders t ⊆ v.classes) :
      MentionsOnly v false (sequenceWriter v.scope t) := by
    unfold sequenceWriter
    split
    · next he => exact mentionsOnly_builderCall hv he h (by decide)
    · exact hv.name (by decide)
  unfold writeReferences at h
  unfold writeRequests at hm
  unfold writeAddition
  cases hc : p.category with
  | basic => exact hwrite (hv.name (by decide))
  | entity =>
    rw [hc] at h
    exact .append .empty (hwrite (mentionsOnly_builderCall hv (hentity hc) h (by decide)))
  | array t =>
    rw [hc] at h
    exact .append .empty (hwrite (hsequence h))
  | collection kind t implementation =>
    rw [hc] at h
    exact .append .empty (hwrite (hsequence h))
  | map key t implementation =>
    rw [hc] at h hm
    dsimp only
    rw [Addition.text_append, Scope.text_callAddition, String.empty_append]
    refine hwrite (mentionsOnly_callOf hv h (by decide) fun he => hm ?_)
    simp [he, reference]

end Property

/-! ## Texts of methods -/

section Standing
variable (hv : NamesStanding v)
include hv

theorem mentionsOnly_childrenText {name type target statement : String}
    (hname : MentionsOnly v true name) (htype : MentionsOnly v true type)
    (htarget : MentionsOnly v true target) (hstatement : MentionsOnly v true statement) :
    MentionsOnly v false (childrenText v.scope.session.config name type target statement) := by
  unfold childrenText
  repeat' with_reducible first
    | assumption | refine .lineText ?_ _ | refine .blockText ?_ _
    | refine .delimited (by decide) ?_ ?_ | refine .append ?_ ?_
  all_goals exact hv.fixed (by decide) (by decide)

theorem mentionsOnly_listText {name parameter type header : String} {statements : List String}
    (hname : MentionsOnly v true name) (hparameter : MentionsOnly v true parameter)
    (htype : MentionsOnly v true type) (hheader : MentionsOnly v true header)
    (hstatements : ∀ s ∈ statements, MentionsOnly v true s) :
    MentionsOnly v false
      (listText v.scope.session.config name parameter type header statements) := by
  unfold listText
  repeat' with_reducible first
    | assumption | refine .lineText ?_ _ | refine .linesText ?_ _ | refine .blockText ?_ _
    | refine .delimited (by decide) ?_ ?_ | refine .append ?_ ?_
  all_goals exact hv.fixed (by decide) (by decide)

theorem mentionsOnly_enterValue {value : String} (hvalue : MentionsOnly v false value) :
    MentionsOnly v true (enterValue value) := by
  have hkey : MentionsOnly v false mapKeyAttribute := .silent .key
  unfold enterValue
  repeat' with_reducible first | assumption | refine .append ?_ ?_
  all_goals exact hv.fixed (by decide) (by decide)

/-! ## Methods of every builder -/

omit hv in
theorem mentionsOnly_literalAttributes :
    MentionsOnly v false (literalAttributes v.scope.frame.attributes) := by
  refine .join fun l hl => ?_
  obtain ⟨p, hp, rfl⟩ := List.mem_map.1 hl
  have hp := List.mem_append_left v.scope.frame.elements (List.mem_of_mem_filter hp)
  exact .append (.append (.append (.append (.plain rfl) (.silent (.node hp))) (.plain rfl))
    (.silent (.property hp))) (.plain rfl)

/-- The literal around its lines. -/
theorem mentionsOnly_literalOf {lines : String} (hlines : MentionsOnly v false lines) :
    MentionsOnly v false (literalOf v.scope lines) := by
  have hroot : MentionsOnly v false v.scope.frame.node := .silent .root
  have hattributes : MentionsOnly v false (literalAttributes v.scope.frame.attributes) :=
    mentionsOnly_literalAttributes
  unfold literalOf
  dsimp only
  split
  all_goals
    repeat' with_reducible first | assumption | refine .lineText ?_ _ | refine .append ?_ ?_
    all_goals exact hv.fixed (by decide) (by decide)

/-- The method for values that are written as texts. -/
theorem mentionsOnly_basicXmlAddition :
    MentionsOnly v false (basicXmlAddition v.scope : Addition (Job X)).text := by
  have hname : MentionsOnly v true (v.scope.nameOf getBasicXml []) := hv.name (by decide)
  have hlead : MentionsOnly v false (lead v.scope getBasicXml []) :=
    hv.standingLead (by simp [standingDocuments])
  unfold basicXmlAddition
  dsimp only [Addition.text_ofText]
  repeat' with_reducible first
    | assumption | refine .lineText ?_ _ | refine .blockText ?_ _
    | refine .delimited (by decide) ?_ ?_ | refine .append ?_ ?_
  all_goals exact hv.fixed (by decide) (by decide)

/-- A method that writes what a list or a map has. -/
theorem mentionsOnly_list {parameter type header : String} {statements docs : List String}
    (hdocs : ⟨key, docs⟩ ∈ v.documented) (hname : ⟨key, []⟩ ∈ v.methods)
    (hparameter : MentionsOnly v true parameter) (htype : MentionsOnly v true type)
    (hheader : MentionsOnly v true header)
    (hstatements : ∀ s ∈ statements, MentionsOnly v true s) :
    MentionsOnly v false (lead v.scope key docs ++
      listText v.scope.session.config (v.scope.nameOf key []) parameter type header statements) :=
  .append (hv.lead hdocs)
    (mentionsOnly_listText hv (.silent (.method hname)) hparameter htype hheader hstatements)

/-- A method that reads the children of a node. -/
theorem mentionsOnly_children {type target statement : String} {docs args : List String}
    (hdocs : ⟨key, docs⟩ ∈ v.documented) (hname : ⟨key, args⟩ ∈ v.methods)
    (htype : MentionsOnly v true type) (htarget : MentionsOnly v true target)
    (hstatement : MentionsOnly v true statement) :
    MentionsOnly v false (lead v.scope key docs ++
      childrenText v.scope.session.config (v.scope.nameOf key args) type target statement) :=
  .append (hv.lead hdocs)
    (mentionsOnly_childrenText hv (.silent (.method hname)) htype htarget hstatement)

section Model
variable (hmodel : v.scope.session.isEntity v.scope.frame.entity.type = true)
include hmodel

theorem mentionsOnly_instanceHead : MentionsOnly v false (instanceHead v.scope) := by
  have hmodel := hv.model hmodel
  have hname : MentionsOnly v true (v.scope.nameOf getInstance []) := hv.name (by decide)
  have hlead : MentionsOnly v false (lead v.scope getInstance [model v.scope]) :=
    hv.standingLead (by simp [standingDocuments])
  unfold instanceHead
  repeat' with_reducible first
    | assumption | refine .lineText ?_ _ | refine .blockText ?_ _
    | refine .delimited (by decide) ?_ ?_ | refine .append ?_ ?_
  all_goals exact hv.fixed (by decide) (by decide)

theorem mentionsOnly_xmlHead : MentionsOnly v false (xmlHead v.scope) := by
  have hmodel := hv.model hmodel
  have hname : MentionsOnly v true (v.scope.nameOf getXml []) := hv.name (by decide)
  have hlead : MentionsOnly v false (lead v.scope getXml [model v.scope]) :=
    hv.standingLead (by simp [standingDocuments])
  unfold xmlHead
  repeat' with_reducible first
    | assumption | refine .lineText ?_ _ | refine .blockText ?_ _
    | refine .delimited (by decide) ?_ ?_ | refine .append ?_ ?_
  all_goals exact hv.fixed (by decide) (by decide)

/-- The methods by which other classes read and write models, and those for lists of values. -/
theorem mentionsOnly_modelAdditions :
    MentionsOnly v false (beanArrayAddition v.scope ++ (beanXmlListAddition v.scope ++
      (basicXmlListAddition v.scope ++ (beanMapAddition v.scope ++ beanMapXmlAddition v.scope))) :
        Addition (Job X)).text := by
  have hmodel := hv.model hmodel
  have hinstance : MentionsOnly v false (v.scope.nameOf getInstance []) := hv.name (by decide)
  have hxml : MentionsOnly v false (v.scope.nameOf getXml []) := hv.name (by decide)
  have hentry : MentionsOnly v false entryElement := .silent .entry
  have harray : MentionsOnly v true "Array" := hv.fixed (by decide) (by decide)
  have hdictionary : MentionsOnly v true "Dictionary" := hv.fixed (by decide) (by decide)
  have hdocs {m : MethodRef} (h : m ∈ standingDocuments v.scope) : m ∈ v.documented :=
    hv.documented h
  refine .append ?_ (.append ?_ (.append ?_ (.append ?_ ?_)))
  · exact mentionsOnly_children hv (hdocs (by simp [standingDocuments])) (hv.methods (by decide))
      harray (.plain rfl) (.append (.append (.plain rfl) hinstance) (.plain rfl))
  · exact mentionsOnly_list hv (hdocs (by simp [standingDocuments])) (hv.methods (by decide))
      (.plain rfl) harray (.delimited rfl (.append (.plain rfl) hmodel) (.plain rfl))
      (List.forall_mem_singleton.2 (.append (.append (.plain rfl) hxml) (.plain rfl)))
  · exact mentionsOnly_list hv (hdocs (by simp [standingDocuments])) (hv.methods (by decide))
      (.plain rfl) harray (.plain rfl)
      (List.forall_mem_singleton.2 (.append (.append (.append (.append (.plain rfl) hentry)
        (.plain rfl)) hentry) (.plain rfl)))
  · exact mentionsOnly_children hv (hdocs (by simp [standingDocuments])) (hv.methods (by decide))
      hdictionary (.plain rfl) (mentionsOnly_enterValue hv (.append hinstance (.plain rfl)))
  · refine mentionsOnly_list hv (hdocs (by simp [standingDocuments])) (hv.methods (by decide))
      (.plain rfl) hdictionary (.plain rfl) (List.forall_mem_cons.2 ⟨?_,
        List.forall_mem_cons.2 ⟨?_, List.forall_mem_singleton.2 (.plain rfl)⟩⟩)
    · exact .append (.append (hv.fixed (by decide) (by decide)) hxml) (.plain rfl)
    · exact .append (.append (.plain rfl) (.silent .key)) (.plain rfl)

/-- The methods of every builder. -/
theorem mentionsOnly_standingAddition
    (hentity : ∀ p ∈ v.scope.frame.attributes ++ v.scope.frame.elements, p.category = .entity →
      v.scope.session.isEntity p.type = true)
    (hreads : ∀ p ∈ v.scope.frame.reading .clientRead false,
      readReferences v.scope p ⊆ v.classes)
    (hwrites : ∀ p ∈ v.scope.frame.elements, p.takesPart .clientWrite = true →
      writeReferences v.scope p ⊆ v.classes)
    (hrequests : (requests v.scope.session v.scope.frame).map reference ⊆ v.methods) :
    MentionsOnly v false (standingAddition v.scope : Addition (Job X)).text := by
  have hread {ps : List Property} (hps : ps ⊆ v.scope.frame.attributes ++ v.scope.frame.elements) :
      MentionsOnly v false (readsAddition v.scope ps : Addition (Job X)).text := by
    refine .ofProperties fun p hp hd => ?_
    cases hs : p.isReadOnly with
    | true =>
      rw [readText_readOnly hs]
      exact .empty
    | false =>
      refine mentionsOnly_readAddition hv (hps hp) (hentity p (hps hp))
        (hreads p (ClassFrame.mem_reading.2 ⟨hps hp, hd, hs⟩)) ?_
      exact List.Subset.trans (List.map_subset reference fun j hj =>
        ClassFrame.mem_requests_of_read (hps hp) hd hj) hrequests
  have hwrite : MentionsOnly v false
      (writesAddition v.scope v.scope.frame.elements : Addition (Job X)).text := by
    refine .ofProperties fun p hp hd => ?_
    have hmem := List.mem_append_right v.scope.frame.attributes hp
    refine mentionsOnly_writeAddition hv hmem (hentity p hmem) (hwrites p hp hd) ?_
    exact List.Subset.trans (List.map_subset reference fun j hj =>
      ClassFrame.mem_requests_of_write hp hd hj) hrequests
  have hinstance : MentionsOnly v false
      (instanceAddition v.scope : Addition (Job X)).text := by
    refine .append .empty (.append (mentionsOnly_instanceHead hv hmodel)
      (.append ?_ (.append ?_ ?_)))
    · exact hread (List.subset_append_left _ _)
    · exact hread (List.subset_append_right _ _)
    · exact .append (.lineText (.plain rfl) 3) (.lineText (.plain rfl) 2)
  have hxml : MentionsOnly v false (xmlAddition v.scope : Addition (Job X)).text := by
    refine .append .empty (.append (mentionsOnly_xmlHead hv hmodel)
      (.append .empty (.append (mentionsOnly_literalOf hv hwrite) (.append (.append ?_ ?_) ?_))))
    · exact .lineText (.plain rfl) 3
    · exact .lineText (.plain rfl) 3
    · exact .lineText (.plain rfl) 2
  exact .append hinstance (.append hxml (.append (mentionsOnly_basicXmlAddition hv)
    (mentionsOnly_modelAdditions hv hmodel)))

end Model

/-! ## Helpers -/

/-- The method of a helper. -/
theorem mentionsOnly_helperAddition {job : ClientHelper}
    (h : helperReferences v.scope job ⊆ v.classes)
    (hm : (job :: helperRequests v.scope.session job).map reference ⊆ v.methods)
    (hdoc : reference job ∈ v.documented) :
    MentionsOnly v false (helperAddition v.scope job : Addition (Job Empty)).text := by
  obtain ⟨hname, hm⟩ := List.cons_subset.1 hm
  cases job with
  | readString =>
    have hreader : MentionsOnly v true (v.scope.nameOf getString []) := .silent (.method hname)
    have hlead : MentionsOnly v false (lead v.scope getString []) := hv.lead hdoc
    unfold helperAddition
    dsimp only [Addition.text_ofText]
    repeat' with_reducible first
      | assumption | refine .lineText ?_ _ | refine .blockText ?_ _
      | refine .delimited (by decide) ?_ ?_ | refine .append ?_ ?_
    all_goals exact hv.fixed (by decide) (by decide)
  | readArray t =>
    have hvalue := mentionsOnly_valueAddition hv h hm
    exact mentionsOnly_children hv hdoc hname (hv.fixed (by decide) (by decide)) (.plain rfl)
      (.append (.append (.plain rfl) hvalue) (.plain rfl))
  | readMap t =>
    exact mentionsOnly_children hv hdoc hname (hv.fixed (by decide) (by decide)) (.plain rfl)
      (mentionsOnly_enterValue hv (mentionsOnly_valueAddition hv h hm))
  | writeMap =>
    have hentry : MentionsOnly v false entryElement := .silent .entry
    have hkey : MentionsOnly v false mapKeyAttribute := .silent .key
    refine mentionsOnly_list hv hdoc hname (.plain rfl) (hv.fixed (by decide) (by decide))
      (.plain rfl) (List.forall_mem_singleton.2 ?_)
    repeat' with_reducible first | assumption | refine .append ?_ ?_
    all_goals exact .plain rfl

end Standing

/-! ## Classes -/

theorem packageOf_of_mem_converterOf {r : Reference} (h : r ∈ converterOf t) :
    packageOf r.qualified = "" := by
  unfold converterOf at h
  cases hk : ScalarKind.of? t with
  | none =>
    rw [hk] at h
    cases h
  | some kind =>
    rw [hk] at h
    have hall : ∀ r ∈ converter kind, packageOf r.qualified = "" := by
      cases kind <;> decide
    exact hall r h

theorem packageOf_of_mem_builders {scope : Scope} {r : Reference} (h : r ∈ scope.builders t)
    (hr : r.importable = false) : packageOf r.qualified = "" :=
  absurd (Session.importable_of_mem_references h) (Bool.eq_false_iff.1 hr)

theorem packageOf_of_mem_readReferences {r : Reference} (h : r ∈ readReferences scope p)
    (hr : r.importable = false) : packageOf r.qualified = "" := by
  unfold readReferences at h
  cases hc : p.category with
  | basic =>
    rw [hc] at h
    exact packageOf_of_mem_converterOf h
  | entity | array t | collection kind t implementation | map key t implementation =>
    rw [hc] at h
    exact packageOf_of_mem_builders h hr

theorem packageOf_of_mem_writeReferences {r : Reference} (h : r ∈ writeReferences scope p)
    (hr : r.importable = false) : packageOf r.qualified = "" := by
  unfold writeReferences at h
  cases hc : p.category with
  | basic =>
    rw [hc] at h
    cases h
  | entity | array t | collection kind t implementation | map key t implementation =>
    rw [hc] at h
    exact packageOf_of_mem_builders h hr

theorem packageOf_of_mem_helperReferences {job : ClientHelper} {r : Reference}
    (h : r ∈ helperReferences scope job) (hr : r.importable = false) :
    packageOf r.qualified = "" := by
  unfold helperReferences valueReferences at h
  cases job with
  | readString | writeMap => cases h
  | readArray t | readMap t =>
    dsimp only at h
    split at h
    · exact packageOf_of_mem_builders h hr
    · exact packageOf_of_mem_converterOf h

/-- What is not imported for a reference is of no package, or is the class itself. -/
theorem packageOf_of_mem_mentioned {s : Session} {f : ClassFrame} :
    ∀ r ∈ mentioned s f, r.importable = false → r = .self f ∨ packageOf r.qualified = "" := by
  refine ClassFrame.forall_mem_mentioned (fun r h hr => ?_)
    (fun _ _ _ _ r h hr => .inr (packageOf_of_mem_readReferences h hr))
    (fun _ _ _ r h hr => .inr (packageOf_of_mem_writeReferences h hr))
    fun _ _ r h hr => .inr (packageOf_of_mem_helperReferences h hr)
  unfold standing at h
  simp only [List.mem_cons] at h
  rcases h with rfl | rfl | rfl | rfl | rfl | h
  · exact .inl rfl
  · exact .inr (by decide)
  · exact .inr (by decide)
  · exact .inr (by decide)
  · cases hr
  · exact absurd (Session.importable_of_mem_references h) (Bool.eq_false_iff.1 hr)

/-- A client builder of a registered entity imports what its body mentions. -/
theorem covers_of_builds {s : Session} (hc : s.catalog.NamesMethods) {e : Entity}
    {ps : List Property} {f : ClassFrame} {c : GeneratedClass} (he : s.isEntity e.type = true)
    (hdot : '.' ∉ f.className.toList) (h : Builder.Builds Handler.clientDialect s e ps f c) :
    ∃ imports body, c = Handler.clientDialect.assemble s f imports body ∧
      Covers (vocabulary s f) imports body c.source := by
  have hv : NamesStanding (vocabulary s f) :=
    ⟨rfl, List.subset_append_left _ _, List.subset_append_left _ _,
      ClassFrame.standing_subset_mentioned⟩
  have hmodel : (scopeOf s f).session.isEntity (scopeOf s f).frame.entity.type = true := by
    show s.isEntity f.entity.type = true
    rw [h.placed.1]
    exact he
  -- The helper that does a job has the name under which the job is asked for.
  have hname (j : ClientHelper) : reference (served s f j) = reference j :=
    congrArg Prod.fst (definition_eq_of_identity_eq (identity_served s f j))
  have hmethods {j : ClientHelper} (hj : j ∈ requests s f) :
      (served s f j :: helperRequests s (served s f j)).map reference ⊆ helperMethods s f := by
    intro m hm
    rw [List.map_cons, hname, ← List.map_cons] at hm
    exact List.mem_flatMap.2 ⟨j, hj, hm⟩
  refine (assembles_of_builds hc h).covers (v := vocabulary s f) rfl (asks_standingAddition _)
    (fun j a ha => ?_) (mem_uses_references s f) ?_ (fun j hj => ⟨?_, fun a ha => ?_⟩)
    (fun r hr => occurs_of_mem_mentioned hc h hr) fun r hr hr' => ?_
  · rw [job_of_asks ha]
    exact ⟨rfl, rfl⟩
  · refine mentionsOnly_standingAddition hv hmodel (fun p hp hentity => ?_)
      (fun p hp => ClassFrame.reads_subset_mentioned hp)
      (fun p hp hd => ClassFrame.writes_subset_mentioned hp hd) ?_
    · exact Session.isEntity_of_mem_describe h.described (h.mem_of_mem_frame hp) hentity
    · refine List.Subset.trans (fun m hm => ?_) (List.subset_append_right _ _)
      obtain ⟨j, hj, rfl⟩ := List.mem_map.1 hm
      exact List.mem_flatMap.2 ⟨j, hj, List.mem_cons_self⟩
  · refine mentionsOnly_helperAddition hv (ClassFrame.helps_subset_mentioned
      (fun j => helperReferences (scopeOf s f) (served s f j)) hj) ?_
      (List.mem_append_right _ (hmethods hj List.mem_cons_self))
    exact List.Subset.trans (hmethods hj) (List.subset_append_right _ _)
  · have hmem : reference .readString ∈ helperMethods s f := by
      have hasked : a ∈ (helperAddition (scopeOf s f) (served s f j) : Addition (Job Empty)).asks :=
        ha
      rw [asks_helperAddition] at hasked
      obtain ⟨i, hi, rfl⟩ := List.mem_map.1 hasked
      cases job_of_asks ha
      exact hmethods hj (List.mem_cons_of_mem _ (List.mem_map.2 ⟨_, hi, rfl⟩))
    rw [job_of_asks ha]
    exact mentionsOnly_helperAddition hv (List.nil_subset _)
      (List.cons_subset.2 ⟨List.mem_append_right _ hmem, List.nil_subset _⟩)
      (List.mem_append_right _ hmem)
  · rcases packageOf_of_mem_mentioned r hr hr' with rfl | hnone
    · exact .inr (.inl (packageOf_qualify hdot _))
    · exact .inr (.inr hnone)

end XmlBinding.Client
