import XmlBinding.Proofs.Client.Served
import XmlBinding.Proofs.Emission.Bracket

/-!
# Brackets in client builders

* `Client.isBalanced_readAddition`, `isBalanced_writeAddition` : the code for a property;
* `Client.isBalanced_childrenText`, `isBalanced_listText` : methods that run over something;
* `Client.isBalanced_literalOf` : the literal, with lines in it or none;
* `Client.isBalanced_standingAddition`, `isBalanced_helperAddition` : the methods of a builder;
* `Client.isBalanced_source` : its class.
-/

namespace XmlBinding

/-- A helper for types without brackets. -/
def ClientHelper.IsPlain : ClientHelper → Prop
  | readString => True
  | readArray element => element.IsPlain
  | readMap entry => entry.IsPlain
  | writeMap => True

namespace Client

open Addition

variable {X : Type} {scope : Scope} {p : Property} {t : JavaType}

/-- A job for types without brackets, if it is that of a helper. -/
def IsPlainJob : Job X → Prop
  | .inl job => job.IsPlain
  | .inr _ => True

/-! ## Reading a property -/

theorem excess_nodeEnd (style : AccessStyle) (k : Bracket) :
    excess k (nodeEnd style) = excess k ")" := by
  unfold nodeEnd
  split
  · cases k <;> rfl
  · rfl

theorem excess_item (k : Bracket) : excess k "[0])" = excess k ")" := by cases k <;> rfl

theorem excess_conversion (k : Bracket) (kind : ScalarKind) :
    excess k (conversion kind).1 * excess k (conversion kind).2 = 1 := by
  cases kind <;> cases k <;> rfl

section Scope
variable (hs : scope.IsBalanced)
include hs

theorem isBalanced_scalarAddition {style : AccessStyle} {var : String} (hvar : IsPlain var)
    (hp : p.IsPlain) (kind : ScalarKind) :
    (scalarAddition scope style var p kind : Addition (Job X)).IsBalanced IsPlainJob := by
  have htail (k : Bracket) :
      excess k (if p.node.isAttribute then ")" else nodeEnd style) = excess k ")" := by
    split
    · rfl
    · exact excess_nodeEnd style k
  have hstring : (ofAsk ⟨getString, ""⟩ (.inl .readString) ++
      ofText (stringText scope style var p) : Addition (Job X)).IsBalanced IsPlainJob :=
    (isBalanced_ofAsk trivial).append (isBalanced_ofText (hs.accessText hp hvar
      (fun k => excess_call ((hs.nameOf_nil getString).excess k) (htail k)) none))
  have hconverted : (ofText (scope.accessText style var p (conversion kind).1 (conversion kind).2
      none) : Addition (Job X)).IsBalanced IsPlainJob :=
    isBalanced_ofText (hs.accessText hp hvar (excess_conversion · kind) none)
  cases kind with
  | string => exact hstring
  | _ => exact hconverted

/-- The call of a method on a node. -/
theorem isBalanced_readText {style : AccessStyle} {call tail var : String}
    (hcall : IsBalanced call) (htail : ∀ k, excess k tail = excess k ")") (hvar : IsPlain var)
    (hp : p.IsPlain) :
    (ofText (scope.accessText style var p (call ++ "(") tail (some .element)) :
      Addition (Job X)).IsBalanced IsPlainJob :=
  isBalanced_ofText
    (hs.accessText hp hvar (fun k => excess_call (hcall.excess k) (htail k)) _)

theorem isBalanced_sequenceAddition {style : AccessStyle} {var : String} (hvar : IsPlain var)
    (hp : p.IsPlain) (ht : t.IsPlain) :
    (sequenceAddition scope style var p t : Addition (Job X)).IsBalanced IsPlainJob := by
  have hjob : IsPlainJob (.inl (.readArray t) : Job X) := ht
  have hcall : IsBalanced (sequenceReader scope t) := hs.callOf ht isPlain_dot
    (List.forall_mem_singleton.2 ht.clientName.capitalize) _ _
  unfold sequenceAddition
  split
  · exact (isBalanced_callAddition hs hjob).append
      (isBalanced_readText hs hcall excess_item hvar hp)
  · exact isBalanced_empty

theorem isBalanced_readAddition {style : AccessStyle} {var : String} (hvar : IsPlain var)
    (hp : p.IsPlain) :
    (readAddition scope style var p : Addition (Job X)).IsBalanced IsPlainJob := by
  have hcategory := hp.category
  unfold readAddition
  cases h : p.category with
  | basic =>
    dsimp only
    cases ScalarKind.of? p.type with
    | none => exact isBalanced_empty
    | some kind => exact isBalanced_scalarAddition hs hvar hp kind
  | entity =>
    exact (isBalanced_ofUses (hs.isPlain_usesOfRef _ _)).append (isBalanced_readText hs
      (hs.builderCall hp.type isPlain_dot _) (excess_nodeEnd style) hvar hp)
  | array t =>
    rw [h] at hcategory
    exact isBalanced_sequenceAddition hs hvar hp hcategory
  | collection kind t implementation =>
    rw [h] at hcategory
    exact isBalanced_sequenceAddition hs hvar hp hcategory.1
  | map key t implementation =>
    rw [h] at hcategory
    have ht : t.IsPlain := hcategory.2.1
    have hjob : IsPlainJob (.inl (.readMap t) : Job X) := ht
    have hcall : IsBalanced (mapReader scope t) := hs.callOf ht isPlain_dot
      (List.forall_mem_singleton.2 ht.clientName.capitalize) _ _
    dsimp only
    split
    · exact (isBalanced_callAddition hs hjob).append
        (isBalanced_readText hs hcall excess_item hvar hp)
    · exact isBalanced_empty

theorem isBalanced_valueAddition (ht : t.IsPlain) :
    (valueAddition scope t : Addition (Job X)).IsBalanced IsPlainJob :=
  isBalanced_readAddition hs (by decide) (scope.session.isPlain_synthetic ht)

/-! ## Writing a property -/

/-- The braces of a line of the literal enclose a call. -/
theorem isBalanced_literalText {call var : String} (hcall : IsBalanced call)
    (hvar : IsPlain var) (hp : p.IsPlain) : IsBalanced (literalText scope call var p) := by
  refine isBalanced_iff.2 fun k => ?_
  have hnode : excess k p.node.name = 1 := hp.node.excess k
  unfold literalText
  simp only [Config.excess_lineText hs.session.config, excess_append, hcall.excess k,
    hvar.excess k, hp.name.excess k, hnode, mul_one]
  repeat rw [excess_ofList k]
  cases k <;> rfl

theorem isBalanced_sequenceWriter (ht : t.IsPlain) : IsBalanced (sequenceWriter scope t) := by
  unfold sequenceWriter
  split
  · exact hs.builderCall ht isPlain_dot _
  · exact hs.nameOf_nil _

theorem isBalanced_writeAddition {var : String} (hvar : IsPlain var) (hp : p.IsPlain) :
    (writeAddition scope var p : Addition (Job X)).IsBalanced IsPlainJob := by
  have hwrite {call : String} (hcall : IsBalanced call) :
      (ofText (literalText scope call var p) : Addition (Job X)).IsBalanced IsPlainJob :=
    isBalanced_ofText (isBalanced_literalText hs hcall hvar hp)
  have huses (t : JavaType) :
      (ofUses (scope.usesOfBuilder t) : Addition (Job X)).IsBalanced IsPlainJob :=
    isBalanced_ofUses (hs.isPlain_usesOfRef _ t)
  have hcategory := hp.category
  unfold writeAddition
  cases h : p.category with
  | basic => exact hwrite (hs.nameOf_nil _)
  | entity => exact (huses _).append (hwrite (hs.builderCall hp.type isPlain_dot _))
  | array t =>
    rw [h] at hcategory
    exact (huses t).append (hwrite (isBalanced_sequenceWriter hs hcategory))
  | collection kind t implementation =>
    rw [h] at hcategory
    exact (huses t).append (hwrite (isBalanced_sequenceWriter hs hcategory.1))
  | map key t implementation =>
    rw [h] at hcategory
    have hjob : IsPlainJob (.inl .writeMap : Job X) := trivial
    exact (isBalanced_callAddition hs hjob).append
      (hwrite (hs.callOf hcategory.2.1 isPlain_dot (List.forall_mem_nil _) _ _))

end Scope

/-! ## Texts of methods -/

section Config
variable {c : Config} (hc : c.IsPlain)
include hc

theorem isBalanced_childrenText {name type target statement : String} (hname : IsBalanced name)
    (htype : IsPlain type) (htarget : IsPlain target) (hstatement : IsBalanced statement) :
    IsBalanced (childrenText c name type target statement) := by
  refine isBalanced_iff.2 fun k => ?_
  unfold childrenText
  simp only [excess_append, Config.excess_lineText hc, Config.excess_blockText hc,
    hname.excess k, htype.excess k, htarget.excess k, hstatement.excess k, mul_one]
  repeat rw [excess_ofList k]
  cases k <;> rfl

theorem isBalanced_listText {name parameter type header : String} {statements : List String}
    (hname : IsBalanced name) (hparameter : IsPlain parameter) (htype : IsPlain type)
    (hheader : IsBalanced header) (hstatements : ∀ s ∈ statements, IsBalanced s) :
    IsBalanced (listText c name parameter type header statements) := by
  refine isBalanced_iff.2 fun k => ?_
  have hlines := Config.excess_linesText hc 4 fun s hs => (hstatements s hs).excess k
  unfold listText
  simp only [excess_append, Config.excess_lineText hc, Config.excess_blockText hc, hlines,
    hname.excess k, hparameter.excess k, htype.excess k, hheader.excess k, one_mul, mul_one]
  repeat rw [excess_ofList k]
  cases k <;> rfl

end Config

theorem isBalanced_enterValue {value : String} (h : IsBalanced value) :
    IsBalanced (enterValue value) := by
  refine isBalanced_iff.2 fun k => ?_
  unfold enterValue
  rw [excess_append, excess_append, h.excess k, mul_one]
  repeat rw [excess_ofList k]
  cases k <;> rfl

/-- The values of attributes stand in braces of their own. -/
theorem isBalanced_literalAttributes {ps : List Property} (hps : ∀ p ∈ ps, p.IsPlain) :
    IsBalanced (literalAttributes ps) := by
  refine .join fun l hl => ?_
  obtain ⟨p, hp, rfl⟩ := List.mem_map.1 hl
  have hp := hps p (List.mem_of_mem_filter hp)
  have hnode : IsPlain p.node.name := hp.node
  refine isBalanced_iff.2 fun k => ?_
  simp only [excess_append, hnode.excess k, hp.name.excess k, mul_one]
  repeat rw [excess_ofList k]
  cases k <;> rfl

/-! ## Methods of every builder -/

section Scope
variable (hs : scope.IsBalanced)
include hs

theorem isPlain_model : IsPlain (model scope) :=
  Session.isPlain_refName hs.session.toHasPlainNames _ hs.frame.entity.descriptor.name

theorem isBalanced_lead {args : List String} (hargs : ∀ a ∈ args, IsPlain a) (key : String) :
    IsBalanced (lead scope key args) :=
  hs.session.methodLead hargs key _

theorem isBalanced_modelLead (key : String) : IsBalanced (lead scope key [model scope]) :=
  isBalanced_lead hs (List.forall_mem_singleton.2 (isPlain_model hs)) key

/-- The method that reads a model is open up to its properties. -/
theorem excess_instanceHead (k : Bracket) :
    excess k (instanceHead scope) = excess k "\x7b" := by
  have hc := hs.session.config
  unfold instanceHead
  simp only [excess_append, Config.excess_lineText hc, Config.excess_blockText hc,
    (isBalanced_modelLead hs _).excess k, (isPlain_model hs).excess k, (hs.nameOf_nil _).excess k,
    one_mul, mul_one]
  repeat rw [excess_ofList k]
  cases k <;> rfl

theorem isBalanced_instanceAddition :
    (instanceAddition scope : Addition (Job X)).IsBalanced IsPlainJob := by
  have hc := hs.session.config
  have hreads {ps : List Property} (hps : ∀ p ∈ ps, p.IsPlain) :
      (readsAddition scope ps : Addition (Job X)).IsBalanced IsPlainJob :=
    .ofProperties fun p hp => isBalanced_readAddition hs (by decide) (hps p hp)
  unfold instanceAddition
  rw [← append_assoc (readsAddition scope scope.frame.attributes)]
  refine (isBalanced_ofUses (hs.isPlain_usesOfRef _ _)).append
    (((hreads hs.frame.attributes).append (hreads hs.frame.elements)).between fun k => ?_)
  rw [excess_instanceHead hs k, excess_append, Config.excess_lineText hc,
    Config.excess_lineText hc]
  repeat rw [excess_ofList k]
  cases k <;> rfl

/-- The method that writes a model is open up to its literal. -/
theorem excess_xmlHead (k : Bracket) : excess k (xmlHead scope) = excess k "\x7b" := by
  have hc := hs.session.config
  unfold xmlHead
  simp only [excess_append, Config.excess_lineText hc, Config.excess_blockText hc,
    (isBalanced_modelLead hs _).excess k, (isPlain_model hs).excess k, (hs.nameOf_nil _).excess k,
    one_mul, mul_one]
  repeat rw [excess_ofList k]
  cases k <;> rfl

theorem excess_xmlTail (k : Bracket) :
    excess k (xmlTail scope.session.config) = excess k "\x7d" := by
  have hc := hs.session.config
  unfold xmlTail
  simp only [excess_append, Config.excess_lineText hc]
  repeat rw [excess_ofList k]
  cases k <;> rfl

/-- The literal is balanced, whether it is closed at once or behind its lines. -/
theorem isBalanced_literalOf {lines : String} (hlines : IsBalanced lines) :
    IsBalanced (literalOf scope lines) := by
  have hc := hs.session.config
  refine isBalanced_iff.2 fun k => ?_
  have hattributes := (isBalanced_literalAttributes hs.frame.attributes).excess k
  unfold literalOf
  dsimp only
  split
  · simp only [Config.excess_lineText hc, excess_append, hs.frame.node.excess k, hattributes,
      mul_one]
    repeat rw [excess_ofList k]
    cases k <;> rfl
  · simp only [Config.excess_lineText hc, excess_append, hs.frame.node.excess k, hattributes,
      hlines.excess k, mul_one]
    repeat rw [excess_ofList k]
    cases k <;> rfl

theorem isBalanced_xmlAddition :
    (xmlAddition scope : Addition (Job X)).IsBalanced IsPlainJob := by
  have hwrites : (writesAddition scope scope.frame.elements : Addition (Job X)).IsBalanced
      IsPlainJob :=
    .ofProperties fun p hp => isBalanced_writeAddition hs (by decide) (hs.frame.elements p hp)
  have hliteral := isBalanced_literalOf hs hwrites.text
  -- The lines stand in the literal, and what they use and ask for in front of it.
  refine (isBalanced_ofUses (hs.isPlain_usesOfRef _ _)).append ⟨isBalanced_iff.2 fun k => ?_,
    ?_, ?_⟩
  · simp only [text_append, text_ofText, excess_append, excess_xmlHead hs k, excess_xmlTail hs k,
      hliteral.excess k, one_mul]
    repeat rw [excess_ofList k]
    cases k <;> rfl
  · simpa using hwrites.uses
  · simpa using hwrites.asks

theorem isBalanced_basicXmlAddition :
    (basicXmlAddition scope : Addition (Job X)).IsBalanced IsPlainJob := by
  have hc := hs.session.config
  refine isBalanced_ofText (isBalanced_iff.2 fun k => ?_)
  simp only [excess_append, Config.excess_lineText hc, Config.excess_blockText hc,
    (isBalanced_lead hs (List.forall_mem_nil _) _).excess k, (hs.nameOf_nil _).excess k,
    one_mul, mul_one]
  repeat rw [excess_ofList k]
  cases k <;> rfl

theorem isBalanced_beanChildrenAddition {type target statement : String} (htype : IsPlain type)
    (htarget : IsPlain target) (hstatement : IsBalanced statement) (key : String) :
    (beanChildrenAddition scope key type target statement :
      Addition (Job X)).IsBalanced IsPlainJob :=
  ⟨(isBalanced_modelLead hs key).append (isBalanced_childrenText hs.session.config
    (hs.nameOf_nil key) htype htarget hstatement), hs.isPlain_usesOfRef _ _, List.forall_mem_nil _⟩

theorem isBalanced_beanListAddition {parameter type header : String} {statements : List String}
    (hparameter : IsPlain parameter) (htype : IsPlain type) (hheader : IsBalanced header)
    (hstatements : ∀ s ∈ statements, IsBalanced s) (key : String) :
    (beanListAddition scope key parameter type header statements :
      Addition (Job X)).IsBalanced IsPlainJob :=
  ⟨(isBalanced_modelLead hs key).append (isBalanced_listText hs.session.config
    (hs.nameOf_nil key) hparameter htype hheader hstatements), hs.isPlain_usesOfRef _ _,
    List.forall_mem_nil _⟩

/-- A method for values that runs over a list or a map, with no parameters in its documentation. -/
theorem isBalanced_valueList {key parameter type header : String} {statement : String}
    (hparameter : IsPlain parameter) (htype : IsPlain type) (hheader : IsBalanced header)
    (hstatement : IsBalanced statement) :
    (ofText (lead scope key [] ++ listText scope.session.config (scope.nameOf key []) parameter
      type header [statement]) : Addition (Job X)).IsBalanced IsPlainJob :=
  isBalanced_ofText ((isBalanced_lead hs (List.forall_mem_nil _) key).append
    (isBalanced_listText hs.session.config (hs.nameOf_nil key) hparameter htype hheader
      (List.forall_mem_singleton.2 hstatement)))

/-- The methods of every builder. -/
theorem isBalanced_standingAddition :
    (standingAddition scope : Addition (Job X)).IsBalanced IsPlainJob := by
  have hreader := hs.nameOf_nil getInstance
  have hwriter := hs.nameOf_nil getXml
  have harray : (beanArrayAddition scope : Addition (Job X)).IsBalanced IsPlainJob :=
    isBalanced_beanChildrenAddition hs (by decide) (by decide)
      (hreader.around fun k => by cases k <;> rfl) _
  have hmap : (beanMapAddition scope : Addition (Job X)).IsBalanced IsPlainJob := by
    have hnode : IsBalanced "(n)" := isBalanced_iff.2 fun k => by cases k <;> rfl
    exact isBalanced_beanChildrenAddition hs (by decide) (by decide)
      (isBalanced_enterValue (hreader.append hnode)) _
  have hxmlList : (beanXmlListAddition scope : Addition (Job X)).IsBalanced IsPlainJob :=
    isBalanced_beanListAddition hs (by decide) (by decide)
      ((isPlain_model hs).isBalanced.around fun k => by cases k <;> rfl)
      (List.forall_mem_singleton.2 (hwriter.around fun k => by cases k <;> rfl)) _
  have hbasicList : (basicXmlListAddition scope : Addition (Job X)).IsBalanced IsPlainJob :=
    isBalanced_valueList hs (by decide) (by decide)
      (isBalanced_iff.2 fun k => by cases k <;> rfl) (isBalanced_iff.2 fun k => by cases k <;> rfl)
  have hmapXml : (beanMapXmlAddition scope : Addition (Job X)).IsBalanced IsPlainJob := by
    have hkey : IsPlain ("el.@" ++ mapKeyAttribute ++ " = key;") := by decide
    have hadd : IsBalanced "nod.appendChild(el);" := isBalanced_iff.2 fun k => by cases k <;> rfl
    refine isBalanced_beanListAddition hs (by decide) (by decide)
      (isBalanced_iff.2 fun k => by cases k <;> rfl) (List.forall_mem_cons.2 ⟨?_,
        List.forall_mem_cons.2 ⟨hkey.isBalanced, List.forall_mem_singleton.2 hadd⟩⟩) _
    exact hwriter.around fun k => by cases k <;> rfl
  exact (isBalanced_instanceAddition hs).append ((isBalanced_xmlAddition hs).append
    ((isBalanced_basicXmlAddition hs).append (harray.append (hxmlList.append (hbasicList.append
      (hmap.append hmapXml))))))

/-! ## Helpers -/

theorem isBalanced_valuesAddition {type target : String} {statement : String → String}
    (htype : IsPlain type) (htarget : IsPlain target)
    (hstatement : ∀ v, IsBalanced v → IsBalanced (statement v)) (ht : t.IsPlain) (key : String) :
    (valuesAddition scope key type target statement t :
      Addition (Job X)).IsBalanced IsPlainJob := by
  have hvalue : (valueAddition scope t : Addition (Job X)).IsBalanced IsPlainJob :=
    isBalanced_valueAddition hs ht
  have hargs := List.forall_mem_singleton.2 ht.clientName.capitalize
  exact ⟨(isBalanced_lead hs hargs key).append (isBalanced_childrenText hs.session.config
    (hs.nameOf hargs key) htype htarget (hstatement _ hvalue.text)), hvalue.uses, hvalue.asks⟩

theorem isBalanced_stringMethod :
    (helperAddition scope .readString : Addition (Job X)).IsBalanced IsPlainJob := by
  have hc := hs.session.config
  refine isBalanced_ofText (isBalanced_iff.2 fun k => ?_)
  simp only [excess_append, Config.excess_lineText hc, Config.excess_blockText hc,
    (isBalanced_lead hs (List.forall_mem_nil _) _).excess k, (hs.nameOf_nil _).excess k,
    one_mul, mul_one]
  repeat rw [excess_ofList k]
  cases k <;> rfl

/-- The methods of helpers for types without brackets. -/
theorem isBalanced_helperAddition {job : ClientHelper} (hjob : job.IsPlain) :
    (helperAddition scope job : Addition (Job X)).IsBalanced IsPlainJob := by
  cases job with
  | readString => exact isBalanced_stringMethod hs
  | readArray t =>
    exact isBalanced_valuesAddition hs (by decide) (by decide)
      (fun v hv => hv.around fun k => by cases k <;> rfl) hjob _
  | readMap t =>
    exact isBalanced_valuesAddition hs (by decide) (by decide)
      (fun v hv => isBalanced_enterValue hv) hjob _
  | writeMap =>
    exact isBalanced_valueList hs (by decide) (by decide)
      (isBalanced_iff.2 fun k => by cases k <;> rfl) (isBalanced_iff.2 fun k => by cases k <;> rfl)

end Scope

/-! ## Classes -/

/-- A client builder of an entity without brackets is balanced. -/
theorem isBalanced_source {s : Session} {e : Entity} {ps : List Property} {f : ClassFrame}
    {c : GeneratedClass} (hc : s.catalog.NamesMethods) (hs : s.IsBalanced) (he : e.IsPlain)
    (h : Builder.Builds Handler.clientDialect s e ps f c) : IsBalanced c.source := by
  have hf := h.isPlain hs.config he
  have hscope : (scopeOf s f).IsBalanced := ⟨hs, hf⟩
  refine (assembles_of_builds hc h).isBalanced hs hf ?_ (isBalanced_standingAddition hscope) ?_
  · exact List.forall_mem_singleton.2 (by decide)
  · intro job hjob
    cases job with
    | inl job => exact isBalanced_helperAddition hscope hjob
    | inr x => exact x.elim

end Client

end XmlBinding
