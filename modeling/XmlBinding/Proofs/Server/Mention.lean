import XmlBinding.Proofs.Mention
import XmlBinding.Proofs.Server.Call
import XmlBinding.Proofs.Server.Reference

/-!
# What a server builder mentions

* `Server.vocabulary` : what the class of a frame names; `Server.NamesStanding` : a vocabulary has
  what every builder names;
* `Server.mentionsOnly_readAddition`, `mentionsOnly_writeAddition` : the code for a property;
* `Server.mentionsOnly_fillText`, `mentionsOnly_loopText` : methods that run over something;
* `Server.mentionsOnly_standingAddition`, `mentionsOnly_helperAddition` : the methods of a builder;
* `Server.covers_of_builds` : its class imports what it mentions.
-/

namespace XmlBinding.Server

variable {X : Type} {v : Vocabulary} {named : Bool} {p : Property} {t : JavaType} {key : String}

/-! ## Vocabulary -/

def standingDocuments (scope : Scope) : List MethodRef :=
  standingMethods.map fun m => ⟨m.key, [bean scope]⟩

def document : ServerHelper → MethodRef
  | .readArray t => ⟨getArray, [t.simpleName]⟩
  | .readCollection t => ⟨getCollection, [t.wrapperName]⟩
  | .readMap key t => ⟨getMap, [mapTypes key t, key.wrapperName, t.wrapperName]⟩
  | .writeArray t => ⟨getArrayElement, [t.simpleName]⟩
  | .writeCollection => ⟨getCollectionElement, [""]⟩
  | .writeMap => ⟨getMapElement, [""]⟩

def vocabulary (s : Session) (f : ClassFrame) : Vocabulary where
  scope := scopeOf s f
  style := .dom4j
  methods := standingMethods ++ (requests s f).map reference
  documented :=
    standingDocuments (scopeOf s f) ++ (requests s f).map fun j => document (served s f j)
  classes := mentioned s f

/-- A vocabulary has what every builder names. -/
structure NamesStanding (v : Vocabulary) : Prop where
  style : v.style = .dom4j
  methods : standingMethods ⊆ v.methods
  documented : standingDocuments v.scope ⊆ v.documented
  classes : standing v.scope ⊆ v.classes

/-- Classes of libraries in the fixed texts of every builder. -/
def libraryNames : List String :=
  ["String", "Object", "Element", "DocumentHelper", "Collection", "Map"]

theorem libraryNames_subset (scope : Scope) :
    libraryNames ⊆ (standing scope).map Reference.name := by
  unfold standing
  rw [List.map_cons]
  exact List.subset_cons_of_subset _ (List.subset_append_left libraryNames _)

namespace NamesStanding

/-- A fixed text in the methods of a builder. -/
theorem fixed (hv : NamesStanding v) {cs : List Char}
    (h : ∀ w ∈ capitals cs, w ∈ typeVariable :: libraryNames)
    (hend : endsInCapital cs = true → named = true) :
    MentionsOnly v named (String.ofList cs) :=
  .of_subset hv.classes
    (fun w hw => (List.mem_cons.1 (h w hw)).imp_right (libraryNames_subset v.scope ·)) hend

/-- The name of a method of every builder. -/
theorem name (hv : NamesStanding v) (h : ⟨key, []⟩ ∈ standingMethods) :
    MentionsOnly v named (v.scope.nameOf key []) :=
  .silent (.method (hv.methods h))

theorem lead (hv : NamesStanding v) {docs : List String} (h : ⟨key, docs⟩ ∈ v.documented) :
    MentionsOnly v named (lead v.scope key docs) := by
  have hdoc : Silent v (v.scope.session.methodLead key docs v.style.methodLevel) :=
    .documentation h
  rw [hv.style] at hdoc
  exact .silent hdoc

/-- The documentation before a method of every builder. -/
theorem standingLead (hv : NamesStanding v) (h : ⟨key, []⟩ ∈ standingMethods) :
    MentionsOnly v named (Server.lead v.scope key [bean v.scope]) :=
  hv.lead (hv.documented (List.mem_map.2 ⟨_, h, rfl⟩))

theorem bean (hv : NamesStanding v) : MentionsOnly v true (bean v.scope) := by
  refine .simpleName fun r hr => hv.classes ?_
  unfold standing
  iterate 7 refine List.mem_cons_of_mem _ ?_
  exact hr

end NamesStanding

/-! ## Values -/

theorem mentionsOnly_javaParse {kind : ScalarKind} (h : parser kind ⊆ v.classes) :
    MentionsOnly v false kind.javaParse.1 ∧ MentionsOnly v false kind.javaParse.2 := by
  cases kind <;> exact ⟨.of_subset h (by decide) (by decide), .plain rfl⟩

theorem parser_subset {kind : ScalarKind} (hk : ScalarKind.of? t = some kind)
    (h : parserOf t ⊆ v.classes) : parser kind ⊆ v.classes := by
  unfold parserOf at h
  rw [hk] at h
  exact h

/-- The call of a method of every builder on that of an entity. -/
theorem mentionsOnly_builderCall (hv : NamesStanding v)
    (he : v.scope.session.isEntity t = true) (h : v.scope.builders t ⊆ v.classes)
    (hkey : ⟨key, []⟩ ∈ standingMethods) :
    MentionsOnly v named (v.scope.builderName t ++ "." ++ v.scope.nameOf key []) :=
  .builderCall (.plain rfl) ⟨_, _, rfl, rfl⟩ he h (hv.methods hkey)

/-- The expression for one element, key or entry. -/
theorem mentionsOnly_valueText (hv : NamesStanding v) {inner : AccessStyle}
    (hi : inner.isPrimary = false) {var : String} (hvar : MentionsOnly v false var)
    (h : valueReferences v.scope t ⊆ v.classes) :
    MentionsOnly v false (valueText v.scope inner var t) := by
  unfold valueReferences at h
  cases he : v.scope.session.isEntity t with
  | true =>
    rw [if_pos he] at h
    unfold valueText
    rw [if_pos he]
    exact .append (.append (.append (mentionsOnly_builderCall hv he h (by decide)) (.plain rfl))
      hvar) (.plain rfl)
  | false =>
    rw [he, if_neg Bool.false_ne_true] at h
    rw [valueText_of_not_isEntity he]
    cases hk : ScalarKind.of? t with
    | none => exact .empty
    | some kind =>
      obtain ⟨hlead, htail⟩ := mentionsOnly_javaParse (parser_subset hk h)
      exact .accessText (fun hprimary => absurd hprimary (Bool.eq_false_iff.1 hi)) hvar hlead
        htail none

/-! ## Properties -/

theorem mentionsOnly_fillLead {call types : String} {implementation : JavaType}
    (hcall : MentionsOnly v true call) (htypes : MentionsOnly v true types)
    (h : implementation.references ⊆ v.classes) :
    MentionsOnly v false (fillLead v.scope call implementation types) := by
  have hname : MentionsOnly v true implementation.simpleName := .simpleName h
  have hindent : MentionsOnly v false (v.scope.session.config.indent 4) := .silent (.indent 4)
  unfold fillLead
  -- The text is taken apart where it is written with `++`, here and below: nothing is unfolded for
  -- it, so that names stay whole and what is left over are the fixed texts.
  repeat' with_reducible first
    | assumption | refine .delimited (by decide) ?_ ?_ | refine .append ?_ ?_
  all_goals exact .plain rfl

section Property
variable (hv : NamesStanding v) (hp : p ∈ v.scope.frame.attributes ++ v.scope.frame.elements)
  (hentity : p.category = .entity → v.scope.session.isEntity p.type = true)
include hv hp hentity

/-- The statement that reads a property. -/
theorem mentionsOnly_readAddition (h : readReferences v.scope p ⊆ v.classes)
    (hm : (readRequests v.scope.session p).map reference ⊆ v.methods) :
    MentionsOnly v false (readAddition v.scope .dom4j "o" p : Addition (Job X)).text := by
  have hread {lead : String} (hlead : MentionsOnly v false lead) :
      MentionsOnly v false (v.scope.accessText .dom4j "o" p lead ")" (some .element)) :=
    .accessText (fun _ => hp) (.plain rfl) hlead (.plain rfl) _
  unfold readReferences at h
  unfold readRequests at hm
  unfold readAddition
  cases hc : p.category with
  | basic =>
    rw [hc] at h
    dsimp only [Addition.text_ofText]
    unfold scalarText Property.scalar?
    rw [if_pos hc]
    cases hk : ScalarKind.of? p.type with
    | none => exact .empty
    | some kind =>
      obtain ⟨hlead, htail⟩ := mentionsOnly_javaParse (parser_subset hk h)
      exact .accessText (fun _ => hp) (.plain rfl) hlead htail none
  | entity =>
    rw [hc] at h
    exact .append .empty (hread (.append
      (mentionsOnly_builderCall hv (hentity hc) h (by decide)) (.plain rfl)))
  | array t =>
    rw [hc] at hm
    dsimp only at hm ⊢
    split
    · exact .empty
    · next ht =>
      rw [if_neg ht] at hm
      exact .append .empty
        (hread (.append (.silent (.method (hm (List.mem_singleton.2 rfl)))) (.plain rfl)))
  | collection kind t implementation =>
    rw [hc] at h hm
    obtain ⟨himplementation, h⟩ := List.append_subset.1 h
    obtain ⟨htypes, hbuilders⟩ := List.append_subset.1 h
    simp only [Addition.text_append, Addition.text_ofUses, Addition.text_ofText,
      Scope.text_callAddition, String.empty_append]
    refine hread (mentionsOnly_fillLead (.callOf (.plain rfl) ⟨_, _, rfl, rfl⟩ hbuilders
      (hv.methods (by decide)) fun he => hm ?_) (.wrapperName htypes) himplementation)
    simp [he, reference]
  | map key t implementation =>
    rw [hc] at h hm
    obtain ⟨himplementation, h⟩ := List.append_subset.1 h
    obtain ⟨hkey, ht⟩ := List.append_subset.1 h
    simp only [Addition.text_append, Addition.text_ofUses, Addition.text_ofAsk,
      Addition.text_ofText, String.empty_append]
    exact hread (mentionsOnly_fillLead (.silent (.method (hm (List.mem_singleton.2 rfl))))
      (.append (.delimited rfl (.wrapperName hkey) (.plain rfl)) (.wrapperName ht))
      himplementation)

/-- The statements that write a property. -/
theorem mentionsOnly_writeAddition (h : writeReferences v.scope p ⊆ v.classes)
    (hm : (writeRequests v.scope.session p).map reference ⊆ v.methods) :
    MentionsOnly v false (writeAddition v.scope "o" p : Addition (Job X)).text := by
  have hnode : MentionsOnly v false p.node.name := .silent (.node hp)
  have hgetter : MentionsOnly v false p.getter := .silent (.getter hp)
  have hwrite {call : String} (hcall : MentionsOnly v false call) :
      MentionsOnly v false (nestedText v.scope (onValue call "o" p) p) := by
    unfold nestedText onValue
    repeat' with_reducible first
      | assumption | refine .append ?_ ?_ | refine .lineText ?_ _ | refine .blockText ?_ _
    all_goals exact .plain rfl
  have hsimple : MentionsOnly v false (simpleText v.scope "o" p) := by
    unfold simpleText
    repeat' with_reducible first | assumption | refine .append ?_ ?_ | refine .lineText ?_ _
    all_goals exact hv.fixed (by decide) (by decide)
  have hcall {sep standing : String} {args : List String} {t : JavaType} (key : String)
      (hsep : MentionsOnly v false sep) (hapart : StandsApart sep)
      (h : v.scope.builders t ⊆ v.classes) (hstanding : ⟨standing, []⟩ ∈ standingMethods)
      (hhelper : v.scope.session.isEntity t = false → ⟨key, args⟩ ∈ v.methods) :
      MentionsOnly v false (v.scope.callOf t sep standing key args) :=
    .callOf hsep hapart h (hv.methods hstanding) hhelper
  unfold writeReferences at h
  unfold writeRequests at hm
  unfold writeAddition
  cases hc : p.category with
  | basic => exact hsimple
  | entity =>
    rw [hc] at h
    exact .append .empty (hwrite (mentionsOnly_builderCall hv (hentity hc) h (by decide)))
  | array t =>
    rw [hc] at h hm
    dsimp only at hm ⊢
    split
    · exact hsimple
    · next ht =>
      rw [Addition.text_append, Scope.text_callAddition, String.empty_append]
      refine hwrite (hcall _ (.plain rfl) ⟨_, _, rfl, rfl⟩ h (by decide) fun he => hm ?_)
      simp [he, ht, reference]
  | collection kind t implementation =>
    rw [hc] at h hm
    rw [Addition.text_append, Scope.text_callAddition, String.empty_append]
    refine hwrite (hcall _ (.plain rfl) ⟨_, _, rfl, rfl⟩ h (by decide) fun he => hm ?_)
    simp [he, reference]
  | map key t implementation =>
    rw [hc] at h hm
    have hapart : StandsApart (".\n" ++ v.scope.session.config.indent 4) :=
      .append ⟨_, _, rfl, rfl⟩ _
    rw [Addition.text_append, Scope.text_callAddition, String.empty_append]
    refine hwrite (hcall _ (.append (.plain rfl) (.silent (.indent 4))) hapart h (by decide)
      fun he => hm ?_)
    simp [he, reference]

omit hentity in
/-- The statements that add an attribute. -/
theorem mentionsOnly_attributeText :
    MentionsOnly v false (attributeText v.scope.session.config p) := by
  have hnode : MentionsOnly v false p.node.name := .silent (.node hp)
  have hgetter : MentionsOnly v false p.getter := .silent (.getter hp)
  unfold attributeText
  repeat' with_reducible first | assumption | refine .append ?_ ?_ | refine .lineText ?_ _
  all_goals exact hv.fixed (by decide) (by decide)

end Property

/-! ## Texts of methods -/

section Standing
variable (hv : NamesStanding v)
include hv

theorem mentionsOnly_fillText {bound parameter name : String} {statements : List String}
    (hbound : MentionsOnly v true bound) (hparameter : MentionsOnly v true parameter)
    (hname : MentionsOnly v true name) (hstatements : ∀ s ∈ statements, MentionsOnly v true s) :
    MentionsOnly v false
      (fillText v.scope.session.config bound parameter name statements) := by
  have hindent : MentionsOnly v false (v.scope.session.config.indent 3) := .silent (.indent 3)
  unfold fillText
  repeat' with_reducible first
    | assumption | refine .lineText ?_ _ | refine .linesText ?_ _ | refine .blockText ?_ _
    | refine .delimited (by decide) ?_ ?_ | refine .append ?_ ?_
  all_goals exact hv.fixed (by decide) (by decide)

theorem mentionsOnly_loopText {name type parameter header : String} {statements : List String}
    (hname : MentionsOnly v true name) (htype : MentionsOnly v true type)
    (hparameter : MentionsOnly v true parameter) (hheader : MentionsOnly v true header)
    (hstatements : ∀ s ∈ statements, MentionsOnly v true s) :
    MentionsOnly v false (loopText v.scope.session.config v.scope.frame.node name type parameter
      header statements) := by
  have hroot : MentionsOnly v true v.scope.frame.node := .silent .root
  unfold loopText
  repeat' with_reducible first
    | assumption | refine .lineText ?_ _ | refine .linesText ?_ _ | refine .blockText ?_ _
    | refine .delimited (by decide) ?_ ?_ | refine .append ?_ ?_
  all_goals exact hv.fixed (by decide) (by decide)

theorem mentionsOnly_addEntry (level : Nat) :
    MentionsOnly v true (addEntry (v.scope.session.config.indent level)) := by
  have hindent : MentionsOnly v false (v.scope.session.config.indent level) := .silent (.indent _)
  have hentry : MentionsOnly v false entryElement := .silent .entry
  unfold addEntry
  repeat' with_reducible first | assumption | refine .append ?_ ?_
  all_goals exact hv.fixed (by decide) (by decide)

theorem mentionsOnly_addMapEntry (level : Nat) :
    MentionsOnly v true (addMapEntry (v.scope.session.config.indent level)) := by
  have hindent : MentionsOnly v false (v.scope.session.config.indent level) := .silent (.indent _)
  have hentry : MentionsOnly v false entryElement := .silent .entry
  have hkey : MentionsOnly v false mapKeyAttribute := .silent .key
  unfold addMapEntry
  repeat' with_reducible first | assumption | refine .append ?_ ?_
  all_goals exact hv.fixed (by decide) (by decide)

/-! ## Methods of every builder -/

theorem mentionsOnly_instanceHead : MentionsOnly v false (instanceHead v.scope) := by
  have hbean := hv.bean
  have hlead : MentionsOnly v false (lead v.scope getInstance [bean v.scope]) :=
    hv.standingLead (by decide)
  have hname : MentionsOnly v true (v.scope.nameOf getInstance []) := hv.name (by decide)
  unfold instanceHead
  repeat' with_reducible first
    | assumption | refine .lineText ?_ _ | refine .blockText ?_ _
    | refine .delimited (by decide) ?_ ?_ | refine .append ?_ ?_
  all_goals exact hv.fixed (by decide) (by decide)

theorem mentionsOnly_elementHead : MentionsOnly v false (elementHead v.scope) := by
  have hbean := hv.bean
  have hlead : MentionsOnly v false (lead v.scope getElement [bean v.scope]) :=
    hv.standingLead (by decide)
  have hname : MentionsOnly v true (v.scope.nameOf getElement []) := hv.name (by decide)
  have hroot : MentionsOnly v true v.scope.frame.node := .silent .root
  have hattributes : MentionsOnly v false (String.join ((v.scope.frame.attributes.filter fun p =>
      !p.isLazy .serverWrite).map (attributeText v.scope.session.config))) := by
    refine .join fun l hl => ?_
    obtain ⟨p, hp, rfl⟩ := List.mem_map.1 hl
    exact mentionsOnly_attributeText hv (List.mem_append_left _ (List.mem_of_mem_filter hp))
  unfold elementHead
  repeat' with_reducible first
    | assumption | refine .lineText ?_ _ | refine .blockText ?_ _
    | refine .delimited (by decide) ?_ ?_ | refine .append ?_ ?_
  all_goals exact hv.fixed (by decide) (by decide)

/-- A method that writes what a loop runs over. -/
theorem mentionsOnly_loop {type parameter header : String} {statements docs args : List String}
    (hdocs : ⟨key, docs⟩ ∈ v.documented) (hname : ⟨key, args⟩ ∈ v.methods)
    (htype : MentionsOnly v true type) (hparameter : MentionsOnly v true parameter)
    (hheader : MentionsOnly v true header) (hstatements : ∀ s ∈ statements, MentionsOnly v true s) :
    MentionsOnly v false (lead v.scope key docs ++ loopText v.scope.session.config
      v.scope.frame.node (v.scope.nameOf key args) type parameter header statements) :=
  .append (hv.lead hdocs) (mentionsOnly_loopText hv (.silent (.method hname)) htype hparameter
    hheader hstatements)

/-- A method of every builder that writes what a loop runs over. -/
theorem mentionsOnly_beanLoop {type parameter header : String} {statements : List String}
    (hkey : ⟨key, []⟩ ∈ standingMethods) (htype : MentionsOnly v true type)
    (hparameter : MentionsOnly v true parameter) (hheader : MentionsOnly v true header)
    (hstatements : ∀ s ∈ statements, MentionsOnly v true s) :
    MentionsOnly v false (lead v.scope key [bean v.scope] ++ loopText v.scope.session.config
      v.scope.frame.node (v.scope.nameOf key []) type parameter header statements) :=
  mentionsOnly_loop hv (hv.documented (List.mem_map.2 ⟨_, hkey, rfl⟩)) (hv.methods hkey) htype
    hparameter hheader hstatements

/-- The methods by which other classes read and write beans. -/
theorem mentionsOnly_beanAdditions :
    MentionsOnly v false (beanFillAddition v.scope ++ (beanArrayAddition v.scope ++
      (beanCollectionAddition v.scope ++ beanMapAddition v.scope)) : Addition (Job X)).text := by
  have hbean := hv.bean
  have hinstance : MentionsOnly v false (v.scope.nameOf getInstance []) := hv.name (by decide)
  have helement : MentionsOnly v false (v.scope.nameOf getElement []) := hv.name (by decide)
  have hcollection : MentionsOnly v true ("Collection<" ++ bean v.scope ++ ">") :=
    .delimited rfl (.append (hv.fixed (by decide) (by decide)) hbean) (.plain rfl)
  have hadd : MentionsOnly v true ("el.add(" ++ v.scope.nameOf getElement [] ++ "(obj));") :=
    .append (.append (.plain rfl) helement) (.plain rfl)
  have hloop {tail : String} (hapart : StandsApart tail) (htail : MentionsOnly v true tail) :
      MentionsOnly v true ("for(" ++ bean v.scope ++ tail) :=
    .apart hapart (.append (.plain rfl) hbean) htail
  refine .append ?_ (.append ?_ (.append ?_ ?_))
  · refine .append (hv.standingLead (by decide)) (mentionsOnly_fillText hv hcollection
      (.plain rfl) (hv.name (by decide)) (List.forall_mem_singleton.2 ?_))
    exact .append (.append (.plain rfl) hinstance) (hv.fixed (by decide) (by decide))
  · exact mentionsOnly_beanLoop hv (by decide) (.delimited rfl hbean (.plain rfl))
      (.plain rfl) (hloop ⟨_, _, rfl, rfl⟩ (.plain rfl)) (List.forall_mem_singleton.2 hadd)
  · exact mentionsOnly_beanLoop hv (by decide) hcollection (.plain rfl)
      (hloop ⟨_, _, rfl, rfl⟩ (.plain rfl)) (List.forall_mem_singleton.2 hadd)
  · refine mentionsOnly_beanLoop hv (by decide)
      (.delimited rfl (.append (hv.fixed (by decide) (by decide)) hbean) (.plain rfl))
      (.plain rfl) (hv.fixed (by decide) (by decide)) (List.forall_mem_cons.2 ⟨?_,
        List.forall_mem_cons.2 ⟨?_, List.forall_mem_singleton.2 (.plain rfl)⟩⟩)
    · exact .append (.append (hv.fixed (by decide) (by decide)) helement) (.plain rfl)
    · exact .append (.append (.plain rfl) (.silent .key)) (hv.fixed (by decide) (by decide))

/-- The methods of every builder. -/
theorem mentionsOnly_standingAddition
    (hentity : ∀ p ∈ v.scope.frame.attributes ++ v.scope.frame.elements, p.category = .entity →
      v.scope.session.isEntity p.type = true)
    (hreads : ∀ p ∈ v.scope.frame.reading .serverRead false,
      readReferences v.scope p ⊆ v.classes)
    (hwrites : ∀ p ∈ v.scope.frame.elements, p.takesPart .serverWrite = true →
      writeReferences v.scope p ⊆ v.classes)
    (hrequests : (requests v.scope.session v.scope.frame).map reference ⊆ v.methods) :
    MentionsOnly v false (standingAddition v.scope : Addition (Job X)).text := by
  have hread {ps : List Property} (hps : ps ⊆ v.scope.frame.attributes ++ v.scope.frame.elements) :
      MentionsOnly v false (readsAddition v.scope ps : Addition (Job X)).text := by
    refine .ofProperties fun p hp hd => ?_
    cases hs : p.isReadOnly with
    | true =>
      rw [readText_readOnly hs]
      exact .empty
    | false =>
      refine mentionsOnly_readAddition hv (hps hp) (hentity p (hps hp))
        (hreads p (ClassFrame.mem_reading.2 ⟨hps hp, hd, hs⟩)) ?_
      exact List.Subset.trans (List.map_subset reference fun j hj =>
        ClassFrame.mem_requests_of_read (hps hp) hd hj) hrequests
  have hwrite : MentionsOnly v false
      (writesAddition v.scope v.scope.frame.elements : Addition (Job X)).text := by
    refine .ofProperties fun p hp hd => ?_
    have hmem := List.mem_append_right v.scope.frame.attributes hp
    refine mentionsOnly_writeAddition hv hmem (hentity p hmem) (hwrites p hp hd) ?_
    exact List.Subset.trans (List.map_subset reference fun j hj =>
      ClassFrame.mem_requests_of_write hp hd hj) hrequests
  have hinstance : MentionsOnly v false
      (instanceAddition v.scope : Addition (Job X)).text := by
    refine .append .empty (.append (mentionsOnly_instanceHead hv) (.append ?_ (.append ?_ ?_)))
    · exact hread (List.subset_append_left _ _)
    · exact hread (List.subset_append_right _ _)
    · exact .append (.lineText (.plain rfl) 2) (.lineText (.plain rfl) 1)
  have helement : MentionsOnly v false (elementAddition v.scope : Addition (Job X)).text := by
    refine .append .empty (.append (mentionsOnly_elementHead hv) (.append hwrite ?_))
    exact .append (.lineText (.plain rfl) 2) (.lineText (.plain rfl) 1)
  exact .append hinstance (.append helement (mentionsOnly_beanAdditions hv))

/-! ## Helpers -/

section Helper
variable {job : ServerHelper} (h : helperReferences v.scope job ⊆ v.classes)
  (hname : reference job ∈ v.methods) (hdoc : document job ∈ v.documented)
include h hname hdoc

theorem mentionsOnly_arrayAddition (hj : job = .readArray t) :
    MentionsOnly v false (arrayAddition v.scope t : Addition (Job X)).text := by
  subst hj
  obtain ⟨htypes, h⟩ := List.append_subset.1 h
  obtain ⟨hvalues, hlist⟩ := List.append_subset.1 h
  have hitem : MentionsOnly v true t.simpleName := .simpleName htypes
  have hvalue : MentionsOnly v false (valueText v.scope .dom4jText "e" t) :=
    mentionsOnly_valueText hv rfl (.plain rfl) hvalues
  have hreader : MentionsOnly v true (arrayReader v.scope t) := .silent (.method hname)
  have hlead : MentionsOnly v false (lead v.scope getArray [t.simpleName]) := hv.lead hdoc
  have helements : MentionsOnly v true "final List els = el.elements();" :=
    .of_subset hlist (by decide) (by decide)
  unfold arrayAddition
  dsimp only
  repeat' with_reducible first
    | assumption | exact .loosen hvalue | refine .lineText ?_ _ | refine .blockText ?_ _
    | refine .delimited (by decide) ?_ ?_ | refine .append ?_ ?_
  all_goals exact hv.fixed (by decide) (by decide)

theorem mentionsOnly_collectionAddition (hj : job = .readCollection t) :
    MentionsOnly v false (collectionAddition v.scope t : Addition (Job X)).text := by
  subst hj
  obtain ⟨htypes, h⟩ := List.append_subset.1 h
  obtain ⟨hvalues, -⟩ := List.append_subset.1 h
  have hvalue : MentionsOnly v false (valueText v.scope .dom4jText "el" t) :=
    mentionsOnly_valueText hv rfl (.plain rfl) hvalues
  refine .append (hv.lead hdoc) (mentionsOnly_fillText hv ?_ (.plain rfl)
    (.silent (.method hname)) (List.forall_mem_cons.2 ⟨?_, List.forall_mem_singleton.2 ?_⟩))
  · exact .apart ⟨_, _, rfl, rfl⟩
      (.append (hv.fixed (by decide) (by decide)) (.wrapperName htypes)) (.plain rfl)
  · exact hv.fixed (by decide) (by decide)
  · exact .append (.append (.plain rfl) hvalue) (.plain rfl)

theorem mentionsOnly_mapAddition {key : JavaType} (hj : job = .readMap key t) :
    MentionsOnly v false (mapAddition v.scope key t : Addition (Job X)).text := by
  subst hj
  obtain ⟨hkeyTypes, h⟩ := List.append_subset.1 h
  obtain ⟨htypes, h⟩ := List.append_subset.1 h
  obtain ⟨hkeyValues, h⟩ := List.append_subset.1 h
  obtain ⟨hvalues, -⟩ := List.append_subset.1 h
  have hkeyType : MentionsOnly v true key.wrapperName := .wrapperName hkeyTypes
  have htype : MentionsOnly v true t.wrapperName := .wrapperName htypes
  have hkey : MentionsOnly v false (valueText v.scope .dom4jKey "el" key) :=
    mentionsOnly_valueText hv rfl (.plain rfl) hkeyValues
  have hvalue : MentionsOnly v false (valueText v.scope .dom4jText "el" t) :=
    mentionsOnly_valueText hv rfl (.plain rfl) hvalues
  have hentry : MentionsOnly v false (entryText v.scope t) := by
    unfold entryText
    dsimp only
    split
    · exact .append (.append (.plain rfl) (.silent (.indent 5))) hvalue
    · exact hvalue
  refine .append (hv.lead hdoc) (mentionsOnly_fillText hv ?_ (.plain rfl)
    (.silent (.method hname)) (List.forall_mem_cons.2 ⟨?_, List.forall_mem_singleton.2 ?_⟩))
  · exact .delimited rfl (.append (.delimited rfl
      (.append (hv.fixed (by decide) (by decide)) hkeyType) (.plain rfl)) htype) (.plain rfl)
  · exact hv.fixed (by decide) (by decide)
  · exact .append (.append (.append (.append (.plain rfl) hkey) (.plain rfl)) hentry) (.plain rfl)

end Helper

/-- The method of a helper. -/
theorem mentionsOnly_helperAddition {job : ServerHelper}
    (h : helperReferences v.scope job ⊆ v.classes) (hname : reference job ∈ v.methods)
    (hdoc : document job ∈ v.documented) :
    MentionsOnly v false (helperAddition v.scope job : Addition (Job X)).text := by
  have hentry := List.forall_mem_singleton.2 (mentionsOnly_addEntry hv 5)
  cases job with
  | readArray t => exact mentionsOnly_arrayAddition hv h hname hdoc rfl
  | readCollection t => exact mentionsOnly_collectionAddition hv h hname hdoc rfl
  | readMap key t => exact mentionsOnly_mapAddition hv h hname hdoc rfl
  | writeArray t =>
    have hitem : MentionsOnly v true t.simpleName := .simpleName (List.append_subset.1 h).1
    exact mentionsOnly_loop hv hdoc hname (.delimited rfl hitem (.plain rfl)) (.plain rfl)
      (.delimited rfl (.append (.plain rfl) hitem) (.plain rfl)) hentry
  | writeCollection =>
    exact mentionsOnly_loop hv hdoc hname (hv.fixed (by decide) (by decide)) (.plain rfl)
      (hv.fixed (by decide) (by decide)) hentry
  | writeMap =>
    exact mentionsOnly_loop hv hdoc hname (hv.fixed (by decide) (by decide)) (.plain rfl)
      (hv.fixed (by decide) (by decide))
      (List.forall_mem_singleton.2 (mentionsOnly_addMapEntry hv 5))

end Standing

/-! ## Classes -/

theorem mem_langClasses_of_mem_parserOf {r : Reference} (h : r ∈ parserOf t) :
    r.qualified ∈ langClasses := by
  unfold parserOf at h
  cases hk : ScalarKind.of? t with
  | none =>
    rw [hk] at h
    cases h
  | some kind =>
    rw [hk] at h
    have hall : ∀ r ∈ parser kind, r.qualified ∈ langClasses := by
      cases kind <;> decide
    exact hall r h

theorem mem_langClasses_of_mem_builders {scope : Scope} {r : Reference}
    (h : r ∈ scope.builders t) (hr : r.importable = false) : r.qualified ∈ langClasses :=
  absurd (Session.importable_of_mem_references h) (Bool.eq_false_iff.1 hr)

/-- What is not imported for a reference to a value is of `java.lang`. -/
theorem mem_langClasses_of_mem_valueReferences {r : Reference} (h : r ∈ valueReferences scope t)
    (hr : r.importable = false) : r.qualified ∈ langClasses := by
  unfold valueReferences at h
  split at h
  · exact mem_langClasses_of_mem_builders h hr
  · exact mem_langClasses_of_mem_parserOf h

theorem mem_langClasses_of_mem_helperReferences {job : ServerHelper} {r : Reference}
    (h : r ∈ helperReferences scope job) (hr : r.importable = false) :
    r.qualified ∈ langClasses := by
  have hvalue {t : JavaType} (h : r ∈ valueReferences scope t) : r.qualified ∈ langClasses :=
    mem_langClasses_of_mem_valueReferences h hr
  unfold helperReferences at h
  cases job with
  | readArray t =>
    simp only [List.mem_append, List.mem_singleton] at h
    rcases h with h | h | rfl
    · exact JavaType.mem_langClasses h hr
    · exact hvalue h
    · cases hr
  | readCollection t =>
    simp only [List.mem_append, List.mem_singleton] at h
    rcases h with h | h | rfl
    · exact JavaType.mem_langClasses_wrapper h hr
    · exact hvalue h
    · cases hr
  | readMap key t =>
    simp only [List.mem_append, List.mem_singleton] at h
    rcases h with h | h | h | h | rfl
    · exact JavaType.mem_langClasses_wrapper h hr
    · exact JavaType.mem_langClasses_wrapper h hr
    · exact hvalue h
    · exact hvalue h
    · cases hr
  | writeArray t =>
    simp only [List.mem_append, List.mem_singleton] at h
    rcases h with h | rfl
    · exact JavaType.mem_langClasses h hr
    · cases hr
  | writeCollection | writeMap =>
    simp only [List.mem_cons, List.not_mem_nil, or_false] at h
    rcases h with rfl | rfl <;> cases hr

theorem mem_langClasses_of_mem_readReferences {r : Reference} (h : r ∈ readReferences scope p)
    (hr : r.importable = false) : r.qualified ∈ langClasses := by
  unfold readReferences at h
  cases hc : p.category with
  | basic =>
    rw [hc] at h
    exact mem_langClasses_of_mem_parserOf h
  | entity =>
    rw [hc] at h
    exact mem_langClasses_of_mem_builders h hr
  | array t =>
    rw [hc] at h
    cases h
  | collection kind t implementation =>
    rw [hc] at h
    simp only [List.mem_append] at h
    rcases h with h | h | h
    · exact JavaType.mem_langClasses h hr
    · exact JavaType.mem_langClasses_wrapper h hr
    · exact mem_langClasses_of_mem_builders h hr
  | map key t implementation =>
    rw [hc] at h
    simp only [List.mem_append] at h
    rcases h with h | h | h
    · exact JavaType.mem_langClasses h hr
    · exact JavaType.mem_langClasses_wrapper h hr
    · exact JavaType.mem_langClasses_wrapper h hr

theorem mem_langClasses_of_mem_writeReferences {r : Reference} (h : r ∈ writeReferences scope p)
    (hr : r.importable = false) : r.qualified ∈ langClasses := by
  unfold writeReferences at h
  cases hc : p.category with
  | basic =>
    rw [hc] at h
    cases h
  | entity | array t | collection kind t implementation | map key t implementation =>
    rw [hc] at h
    exact mem_langClasses_of_mem_builders h hr

/-- What is not imported for a reference is of `java.lang`, or is the class itself. -/
theorem mem_langClasses_of_mem_mentioned {s : Session} {f : ClassFrame} :
    ∀ r ∈ mentioned s f, r.importable = false → r = .self f ∨ r.qualified ∈ langClasses := by
  refine ClassFrame.forall_mem_mentioned (fun r h hr => ?_)
    (fun _ _ _ _ r h hr => .inr (mem_langClasses_of_mem_readReferences h hr))
    (fun _ _ _ r h hr => .inr (mem_langClasses_of_mem_writeReferences h hr))
    fun _ _ r h hr => .inr (mem_langClasses_of_mem_helperReferences h hr)
  unfold standing at h
  simp only [List.mem_cons] at h
  rcases h with rfl | rfl | rfl | rfl | rfl | rfl | rfl | h
  · exact .inl rfl
  · exact .inr (by decide)
  · exact .inr (by decide)
  · cases hr
  · cases hr
  · cases hr
  · cases hr
  · exact .inr (JavaType.mem_langClasses h hr)

/-- A server builder imports what its body mentions. -/
theorem covers_of_builds {s : Session} (hc : s.catalog.NamesMethods) {e : Entity}
    {ps : List Property} {f : ClassFrame} {c : GeneratedClass}
    (hdot : '.' ∉ f.className.toList) (h : Builder.Builds Handler.serverDialect s e ps f c) :
    ∃ imports body, c = Handler.serverDialect.assemble s f imports body ∧
      Covers (vocabulary s f) imports body c.source := by
  have hv : NamesStanding (vocabulary s f) :=
    ⟨rfl, List.subset_append_left _ _, List.subset_append_left _ _,
      ClassFrame.standing_subset_mentioned⟩
  refine (assembles_of_builds hc h).covers (v := vocabulary s f) rfl (asks_standingAddition _)
    (fun j a ha => ?_) (mem_uses_references s f) ?_ (fun j hj => ⟨?_, fun a ha => ?_⟩)
    (fun r hr => occurs_of_mem_mentioned hc h hr) fun r hr hr' => ?_
  · rw [asks_jobAddition] at ha
    cases ha
  · refine mentionsOnly_standingAddition hv (fun p hp hentity => ?_)
      (fun p hp => ClassFrame.reads_subset_mentioned hp)
      (fun p hp hd => ClassFrame.writes_subset_mentioned hp hd) (List.subset_append_right _ _)
    exact Session.isEntity_of_mem_describe h.described (h.mem_of_mem_frame hp) hentity
  · refine mentionsOnly_helperAddition hv (ClassFrame.helps_subset_mentioned
      (fun j => helperReferences (scopeOf s f) (served s f j)) hj) ?_
      (List.mem_append_right _ (List.mem_map.2 ⟨j, hj, rfl⟩))
    -- The helper that does a job has the name under which the job is asked for.
    have hname : reference (served s f j) = reference j :=
      congrArg Prod.fst (definition_eq_of_identity_eq (identity_served s f j))
    exact hname ▸ List.mem_append_right _ (List.mem_map.2 ⟨j, hj, rfl⟩)
  · rw [asks_jobAddition] at ha
    cases ha
  · rcases mem_langClasses_of_mem_mentioned r hr hr' with rfl | hlang
    · exact .inr (.inl (packageOf_qualify hdot _))
    · exact .inl hlang

end XmlBinding.Server
