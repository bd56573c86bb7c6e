import XmlBinding.Proofs.Emission.Bracket
import XmlBinding.Proofs.Server.Served

/-!
# Brackets in server builders

* `Server.isBalanced_readAddition`, `isBalanced_writeAddition` : the code for a property;
* `Server.isBalanced_fillText`, `isBalanced_loopText` : methods that run over something;
* `Server.isBalanced_standingAddition`, `isBalanced_helperAddition` : the methods of a builder;
* `Server.isBalanced_source` : its class.
-/

namespace XmlBinding

/-- A helper for types without brackets. -/
def ServerHelper.IsPlain : ServerHelper → Prop
  | readArray element => element.IsPlain
  | readCollection element => element.IsPlain
  | readMap key entry => key.IsPlain ∧ entry.IsPlain
  | writeArray element => element.IsPlain
  | writeCollection => True
  | writeMap => True

namespace Server

open Addition

variable {X : Type} {scope : Scope} {p : Property} {t : JavaType}

/-- A job for types without brackets, if it is that of a helper. -/
def IsPlainJob : Job X → Prop
  | .inl job => job.IsPlain
  | .inr _ => True

/-! ## Properties -/

theorem excess_javaParse (k : Bracket) (kind : ScalarKind) :
    excess k kind.javaParse.1 * excess k kind.javaParse.2 = 1 := by
  cases kind <;> cases k <;> rfl

theorem isBalanced_onValue {call var : String} (hcall : IsBalanced call) (hvar : IsPlain var)
    (hp : p.IsPlain) : IsBalanced (onValue call var p) := by
  refine isBalanced_iff.2 fun k => ?_
  unfold onValue
  simp only [excess_append, hcall.excess k, hvar.excess k, hp.getter.excess k, one_mul, mul_one]
  repeat rw [excess_ofList k]
  cases k <;> rfl

section Scope
variable (hs : scope.IsBalanced)
include hs

theorem isBalanced_scalarText {style : AccessStyle} {var : String} (hvar : IsPlain var)
    (hp : p.IsPlain) : IsBalanced (scalarText scope style var p) := by
  unfold scalarText
  split
  · exact hs.accessText hp hvar (excess_javaParse · _) none
  · exact .empty

/-- The call that fills a collection or a map is open in front of the element. -/
theorem excess_fillLead {call types : String} (hcall : IsBalanced call) (htypes : IsPlain types)
    (ht : t.IsPlain) (k : Bracket) : excess k (fillLead scope call t types) * excess k ")" = 1 := by
  unfold fillLead
  simp only [excess_append, hcall.excess k, htypes.excess k,
    Config.excess_indent hs.session.config, ht.simpleName.excess k, one_mul, mul_one]
  repeat rw [excess_ofList k]
  cases k <;> rfl

theorem isBalanced_readAddition {style : AccessStyle} {var : String} (hvar : IsPlain var)
    (hp : p.IsPlain) :
    (readAddition scope style var p : Addition (Job X)).IsBalanced IsPlainJob := by
  have hread {lead : String} (hlead : ∀ k, excess k lead * excess k ")" = 1) :
      (ofText (scope.accessText style var p lead ")" (some .element)) :
        Addition (Job X)).IsBalanced IsPlainJob :=
    isBalanced_ofText (hs.accessText hp hvar hlead _)
  have huses {t : JavaType} (ht : t.IsPlain) :
      (ofUses (scope.usesOfType t) : Addition (Job X)).IsBalanced IsPlainJob :=
    isBalanced_ofUses (Scope.IsBalanced.isPlain_usesOfType ht)
  have hcategory := hp.category
  unfold readAddition
  cases h : p.category with
  | basic => exact isBalanced_ofText (isBalanced_scalarText hs hvar hp)
  | entity =>
    exact (isBalanced_ofUses (hs.isPlain_usesOfRef _ _)).append
      (hread fun k => excess_call ((hs.builderCall hp.type isPlain_dot _).excess k) rfl)
  | array t =>
    rw [h] at hcategory
    have ht : t.IsPlain := hcategory
    have hjob : IsPlainJob (.inl (.readArray t) : Job X) := ht
    dsimp only
    split
    · exact isBalanced_empty
    · exact (isBalanced_ofAsk hjob).append (hread fun k =>
        excess_call ((hs.nameOf_single ht.simpleName.capitalize _).excess k) rfl)
  | collection kind t implementation =>
    rw [h] at hcategory
    obtain ⟨ht, himplementation⟩ := hcategory
    have hjob : IsPlainJob (.inl (.readCollection t) : Job X) := ht
    have hcall := hs.callOf ht isPlain_dot
      (List.forall_mem_singleton.2 ht.wrapperName.capitalize) getEntityCollection getCollection
    exact (huses himplementation).append ((huses ht).append
      ((isBalanced_callAddition hs hjob).append
        (hread (excess_fillLead hs hcall ht.wrapperName himplementation))))
  | map key entry implementation =>
    rw [h] at hcategory
    obtain ⟨hkey, hentry, himplementation⟩ := hcategory
    have hjob : IsPlainJob (.inl (.readMap key entry) : Job X) := ⟨hkey, hentry⟩
    have hname := hs.nameOf_single
      (hkey.wrapperName.capitalize.append hentry.wrapperName.capitalize) getMap
    have htypes := (hkey.wrapperName.append (by decide : IsPlain ", ")).append hentry.wrapperName
    exact (huses himplementation).append ((huses hkey).append ((huses hentry).append
      ((isBalanced_ofAsk hjob).append (hread (excess_fillLead hs hname htypes himplementation)))))

theorem isBalanced_valueText {inner : AccessStyle} {var : String} (hvar : IsPlain var)
    (ht : t.IsPlain) : IsBalanced (valueText scope inner var t) := by
  unfold valueText
  split
  · refine isBalanced_iff.2 fun k => ?_
    rw [excess_append, excess_append, excess_append,
      (hs.builderCall ht isPlain_dot getInstance).excess k, hvar.excess k, one_mul, mul_one]
    repeat rw [excess_ofList k]
    cases k <;> rfl
  · exact isBalanced_scalarText hs hvar (scope.session.isPlain_synthetic ht)

theorem isBalanced_nestedText {call : String} (hcall : IsBalanced call) (hp : p.IsPlain) :
    IsBalanced (nestedText scope call p) := by
  have hc := hs.session.config
  refine isBalanced_iff.2 fun k => ?_
  unfold nestedText
  simp only [excess_append, Config.excess_lineText hc, Config.excess_blockText hc,
    hcall.excess k, hp.node.excess k, mul_one]
  repeat rw [excess_ofList k]
  cases k <;> rfl

theorem isBalanced_simpleText {var : String} (hvar : IsPlain var) (hp : p.IsPlain) :
    IsBalanced (simpleText scope var p) := by
  have hc := hs.session.config
  refine isBalanced_iff.2 fun k => ?_
  unfold simpleText
  simp only [excess_append, Config.excess_lineText hc, hvar.excess k, hp.getter.excess k,
    hp.node.excess k, mul_one]
  repeat rw [excess_ofList k]
  cases k <;> rfl

theorem isBalanced_writeAddition {var : String} (hvar : IsPlain var) (hp : p.IsPlain) :
    (writeAddition scope var p : Addition (Job X)).IsBalanced IsPlainJob := by
  have hwrite {call : String} (hcall : IsBalanced call) :
      (ofText (nestedText scope (onValue call var p) p) :
        Addition (Job X)).IsBalanced IsPlainJob :=
    isBalanced_ofText (isBalanced_nestedText hs (isBalanced_onValue hcall hvar hp) hp)
  have hsimple : (ofText (simpleText scope var p) : Addition (Job X)).IsBalanced IsPlainJob :=
    isBalanced_ofText (isBalanced_simpleText hs hvar hp)
  have hcategory := hp.category
  unfold writeAddition
  cases h : p.category with
  | basic => exact hsimple
  | entity =>
    exact (isBalanced_ofUses (hs.isPlain_usesOfRef _ _)).append
      (hwrite (hs.builderCall hp.type isPlain_dot getElement))
  | array t =>
    rw [h] at hcategory
    have ht : t.IsPlain := hcategory
    have hjob : IsPlainJob (.inl (.writeArray t) : Job X) := ht
    dsimp only
    split
    · exact hsimple
    · exact (isBalanced_callAddition hs hjob).append (hwrite (hs.callOf ht isPlain_dot
        (List.forall_mem_singleton.2 ht.simpleName.capitalize) _ _))
  | collection kind t implementation =>
    rw [h] at hcategory
    have hjob : IsPlainJob (.inl .writeCollection : Job X) := trivial
    exact (isBalanced_callAddition hs hjob).append
      (hwrite (hs.callOf hcategory.1 isPlain_dot (List.forall_mem_nil _) _ _))
  | map key entry implementation =>
    rw [h] at hcategory
    have hjob : IsPlainJob (.inl .writeMap : Job X) := trivial
    have hsep : IsPlain (".\n" ++ scope.session.config.indent 4) :=
      (by decide : IsPlain ".\n").append (Config.isPlain_indent hs.session.config 4)
    exact (isBalanced_callAddition hs hjob).append
      (hwrite (hs.callOf hcategory.2.1 hsep (List.forall_mem_nil _) _ _))

end Scope

/-! ## Texts of methods -/

theorem isBalanced_cast : IsBalanced "final Element el = (Element)obj;" :=
  isBalanced_iff.2 fun k => by cases k <;> rfl

section Config
variable {c : Config} (hc : c.IsPlain)
include hc

theorem isBalanced_fillText {bound parameter name : String} {statements : List String}
    (hbound : IsPlain bound) (hparameter : IsPlain parameter) (hname : IsBalanced name)
    (hstatements : ∀ s ∈ statements, IsBalanced s) :
    IsBalanced (fillText c bound parameter name statements) := by
  refine isBalanced_iff.2 fun k => ?_
  have hlines := Config.excess_linesText hc 3 fun s hs => (hstatements s hs).excess k
  unfold fillText
  simp only [excess_append, Config.excess_lineText hc, Config.excess_blockText hc, hlines,
    Config.excess_indent hc, hbound.excess k, hparameter.excess k, hname.excess k, mul_one]
  repeat rw [excess_ofList k]
  cases k <;> rfl

theorem isBalanced_loopText {node name type parameter header : String} {statements : List String}
    (hnode : IsPlain node) (hname : IsBalanced name) (htype : IsPlain type)
    (hparameter : IsPlain parameter) (hheader : IsBalanced header)
    (hstatements : ∀ s ∈ statements, IsBalanced s) :
    IsBalanced (loopText c node name type parameter header statements) := by
  refine isBalanced_iff.2 fun k => ?_
  have hlines := Config.excess_linesText hc 3 fun s hs => (hstatements s hs).excess k
  unfold loopText
  simp only [excess_append, Config.excess_lineText hc, Config.excess_blockText hc, hlines,
    hnode.excess k, hname.excess k, htype.excess k, hparameter.excess k, hheader.excess k,
    one_mul, mul_one]
  repeat rw [excess_ofList k]
  cases k <;> rfl

theorem isBalanced_attributeText (hp : p.IsPlain) : IsBalanced (attributeText c p) := by
  refine isBalanced_iff.2 fun k => ?_
  unfold attributeText
  simp only [excess_append, Config.excess_lineText hc, hp.getter.excess k, hp.node.excess k,
    mul_one]
  repeat rw [excess_ofList k]
  cases k <;> rfl

theorem isBalanced_addEntry (level : Nat) : IsBalanced (addEntry (c.indent level)) := by
  refine isBalanced_iff.2 fun k => ?_
  unfold addEntry
  simp only [excess_append, Config.excess_indent hc, mul_one]
  repeat rw [excess_ofList k]
  cases k <;> rfl

theorem isBalanced_addMapEntry (level : Nat) : IsBalanced (addMapEntry (c.indent level)) := by
  refine isBalanced_iff.2 fun k => ?_
  unfold addMapEntry
  simp only [excess_append, Config.excess_indent hc, mul_one]
  repeat rw [excess_ofList k]
  cases k <;> rfl

end Config

/-! ## Methods of every builder -/

section Scope
variable (hs : scope.IsBalanced)
include hs

theorem isBalanced_lead {args : List String} (hargs : ∀ a ∈ args, IsPlain a) (key : String) :
    IsBalanced (lead scope key args) :=
  hs.session.methodLead hargs key _

theorem isPlain_bean : IsPlain (bean scope) := hs.frame.entity.simpleName

theorem isPlain_usesOfBean : ∀ q ∈ usesOfBean scope, IsPlain q := by
  have htype : scope.frame.entity.type.IsPlain := hs.frame.entity.descriptor.name
  exact Scope.IsBalanced.isPlain_usesOfType htype

theorem isBalanced_beanLead (key : String) : IsBalanced (lead scope key [bean scope]) :=
  isBalanced_lead hs (List.forall_mem_singleton.2 (isPlain_bean hs)) key

/-- The method that reads a bean is open up to its properties. -/
theorem excess_instanceHead (k : Bracket) :
    excess k (instanceHead scope) = excess k "\x7b" := by
  have hc := hs.session.config
  unfold instanceHead
  simp only [excess_append, Config.excess_lineText hc, Config.excess_blockText hc,
    (isBalanced_beanLead hs _).excess k, (isPlain_bean hs).excess k, (hs.nameOf_nil _).excess k,
    one_mul, mul_one]
  repeat rw [excess_ofList k]
  cases k <;> rfl

/-- The method that writes a bean is open up to its elements. -/
theorem excess_elementHead (k : Bracket) : excess k (elementHead scope) = excess k "\x7b" := by
  have hc := hs.session.config
  have hattributes : IsBalanced (String.join ((scope.frame.attributes.filter fun p =>
      !p.isLazy .serverWrite).map (attributeText scope.session.config))) := by
    refine .join fun l hl => ?_
    obtain ⟨p, hp, rfl⟩ := List.mem_map.1 hl
    exact isBalanced_attributeText hc (hs.frame.attributes p (List.mem_of_mem_filter hp))
  unfold elementHead
  simp only [excess_append, Config.excess_lineText hc, Config.excess_blockText hc,
    (isBalanced_beanLead hs _).excess k, (isPlain_bean hs).excess k, hattributes.excess k,
    (hs.nameOf_nil _).excess k, hs.frame.node.excess k, one_mul, mul_one]
  repeat rw [excess_ofList k]
  cases k <;> rfl

/-- The end of a method closes its block. -/
theorem excess_methodEnd (k : Bracket) {head : String} (hhead : excess k head = excess k "\x7b")
    {statement : String} (hstatement : IsPlain statement) :
    excess k head * excess k (scope.session.config.lineText 2 statement ++
      scope.session.config.lineText 1 "\x7d") = 1 := by
  rw [hhead, excess_append, Config.excess_lineText hs.session.config,
    Config.excess_lineText hs.session.config, hstatement.excess k]
  repeat rw [excess_ofList k]
  cases k <;> rfl

theorem isBalanced_instanceAddition :
    (instanceAddition scope : Addition (Job X)).IsBalanced IsPlainJob := by
  have hreads {ps : List Property} (hps : ∀ p ∈ ps, p.IsPlain) :
      (readsAddition scope ps : Addition (Job X)).IsBalanced IsPlainJob :=
    .ofProperties fun p hp => isBalanced_readAddition hs (by decide) (hps p hp)
  unfold instanceAddition
  rw [← append_assoc (readsAddition scope scope.frame.attributes)]
  exact (isBalanced_ofUses (isPlain_usesOfBean hs)).append
    (((hreads hs.frame.attributes).append (hreads hs.frame.elements)).between fun k =>
      excess_methodEnd hs k (excess_instanceHead hs k) (by decide))

theorem isBalanced_elementAddition :
    (elementAddition scope : Addition (Job X)).IsBalanced IsPlainJob := by
  have hwrites : (writesAddition scope scope.frame.elements : Addition (Job X)).IsBalanced
      IsPlainJob :=
    .ofProperties fun p hp => isBalanced_writeAddition hs (by decide) (hs.frame.elements p hp)
  have huses : ∀ q ∈ usesOfBean scope ++ scope.usesOf documentHelper, IsPlain q :=
    List.forall_mem_append.2 ⟨isPlain_usesOfBean hs,
      Scope.IsBalanced.isPlain_usesOf (.ofList (by decide))⟩
  exact (isBalanced_ofUses huses).append
    (hwrites.between fun k => excess_methodEnd hs k (excess_elementHead hs k) (by decide))

theorem isBalanced_beanFillAddition :
    (beanFillAddition scope : Addition (Job X)).IsBalanced IsPlainJob := by
  have hbound : IsPlain ("Collection<" ++ bean scope ++ ">") :=
    ((by decide : IsPlain "Collection<").append (isPlain_bean hs)).append (by decide)
  have hstatement : IsBalanced ("coll.add(" ++ scope.nameOf getInstance [] ++ "((Element)obj));") :=
    (hs.nameOf_nil getInstance).around fun k => by cases k <;> rfl
  refine ⟨?_, ?_, List.forall_mem_nil _⟩
  · exact (isBalanced_beanLead hs _).append (isBalanced_fillText hs.session.config hbound
      (by decide) (hs.nameOf_nil _) (List.forall_mem_singleton.2 hstatement))
  · exact List.forall_mem_append.2 ⟨isPlain_usesOfBean hs,
      Scope.IsBalanced.isPlain_usesOf (.ofList (by decide))⟩

theorem isBalanced_beanLoopAddition {type parameter header : String}
    {statements uses : List String} (htype : IsPlain type) (hparameter : IsPlain parameter)
    (hheader : IsBalanced header) (hstatements : ∀ s ∈ statements, IsBalanced s)
    (huses : ∀ q ∈ uses, IsPlain q) (key : String) :
    (beanLoopAddition scope key type parameter header statements uses :
      Addition (Job X)).IsBalanced IsPlainJob := by
  refine ⟨?_, ?_, List.forall_mem_nil _⟩
  · exact (isBalanced_beanLead hs key).append (isBalanced_loopText hs.session.config hs.frame.node
      (hs.nameOf_nil key) htype hparameter hheader hstatements)
  · exact List.forall_mem_append.2 ⟨List.forall_mem_append.2 ⟨isPlain_usesOfBean hs, huses⟩,
      Scope.IsBalanced.isPlain_usesOf (.ofList (by decide))⟩

/-- The methods of every builder. -/
theorem isBalanced_standingAddition :
    (standingAddition scope : Addition (Job X)).IsBalanced IsPlainJob := by
  have hbean := isPlain_bean hs
  have hwriter := hs.nameOf_nil getElement
  have hstatement : IsBalanced ("el.add(" ++ scope.nameOf getElement [] ++ "(obj));") :=
    hwriter.around fun k => by cases k <;> rfl
  have harray : (beanArrayAddition scope : Addition (Job X)).IsBalanced IsPlainJob :=
    isBalanced_beanLoopAddition hs (hbean.append (by decide)) (by decide)
      (hbean.isBalanced.around fun k => by cases k <;> rfl)
      (List.forall_mem_singleton.2 hstatement) (List.forall_mem_nil _) _
  have hcollection : (beanCollectionAddition scope : Addition (Job X)).IsBalanced IsPlainJob :=
    isBalanced_beanLoopAddition hs
      (((by decide : IsPlain "Collection<").append hbean).append (by decide)) (by decide)
      (hbean.isBalanced.around fun k => by cases k <;> rfl)
      (List.forall_mem_singleton.2 hstatement)
      (Scope.IsBalanced.isPlain_usesOf (.ofList (by decide))) _
  have hmap : (beanMapAddition scope : Addition (Job X)).IsBalanced IsPlainJob := by
    have hkey : IsBalanced ("ell.addAttribute(\"" ++ mapKeyAttribute ++
        "\", String.valueOf(key));") :=
      (by decide : IsPlain mapKeyAttribute).isBalanced.around fun k => by cases k <;> rfl
    have hadd : IsBalanced "el.add(ell);" := isBalanced_iff.2 fun k => by cases k <;> rfl
    refine isBalanced_beanLoopAddition hs
      (((by decide : IsPlain "Map<?, ").append hbean).append (by decide)) (by decide)
      (isBalanced_iff.2 fun k => by cases k <;> rfl) (List.forall_mem_cons.2 ⟨?_,
        List.forall_mem_cons.2 ⟨hkey, List.forall_mem_singleton.2 hadd⟩⟩)
      (Scope.IsBalanced.isPlain_usesOf (.ofList (by decide))) _
    exact hwriter.around fun k => by cases k <;> rfl
  exact (isBalanced_instanceAddition hs).append ((isBalanced_elementAddition hs).append
    ((isBalanced_beanFillAddition hs).append (harray.append (hcollection.append hmap))))

/-! ## Helpers -/

theorem isBalanced_arrayAddition (ht : t.IsPlain) :
    (arrayAddition scope t : Addition (Job X)).IsBalanced IsPlainJob := by
  have hc := hs.session.config
  have hitem := ht.simpleName
  have hlead := isBalanced_lead hs (List.forall_mem_singleton.2 hitem) getArray
  have hname : IsBalanced (arrayReader scope t) := hs.nameOf_single hitem.capitalize _
  have hvalue : IsBalanced (valueText scope .dom4jText "e" t) :=
    isBalanced_valueText hs (by decide) ht
  refine ⟨isBalanced_iff.2 fun k => ?_, ?_, List.forall_mem_nil _⟩
  · unfold arrayAddition
    simp only [excess_append, Config.excess_lineText hc, Config.excess_blockText hc,
      hlead.excess k, hitem.excess k, hname.excess k, hvalue.excess k, one_mul, mul_one]
    repeat rw [excess_ofList k]
    cases k <;> rfl
  · exact List.forall_mem_append.2 ⟨List.forall_mem_append.2
      ⟨Scope.IsBalanced.isPlain_usesOfType ht, hs.isPlain_usesOfRef _ t⟩,
      Scope.IsBalanced.isPlain_usesOf (.ofList (by decide))⟩

theorem isBalanced_collectionAddition (ht : t.IsPlain) :
    (collectionAddition scope t : Addition (Job X)).IsBalanced IsPlainJob := by
  have hwrapper := ht.wrapperName
  have hbound : IsPlain ("Collection<" ++ t.wrapperName ++ ">") :=
    ((by decide : IsPlain "Collection<").append hwrapper).append (by decide)
  have hvalue : IsBalanced (valueText scope .dom4jText "el" t) :=
    isBalanced_valueText hs (by decide) ht
  have hadd : IsBalanced ("coll.add(" ++ valueText scope .dom4jText "el" t ++ ");") :=
    hvalue.around fun k => by cases k <;> rfl
  refine ⟨?_, ?_, List.forall_mem_nil _⟩
  · exact (isBalanced_lead hs (List.forall_mem_singleton.2 hwrapper) _).append
      (isBalanced_fillText hs.session.config hbound (by decide)
        (hs.nameOf_single hwrapper.capitalize _)
        (List.forall_mem_cons.2 ⟨isBalanced_cast, List.forall_mem_singleton.2 hadd⟩))
  · exact List.forall_mem_append.2 ⟨List.forall_mem_append.2
      ⟨Scope.IsBalanced.isPlain_usesOfType ht, hs.isPlain_usesOfRef _ t⟩,
      Scope.IsBalanced.isPlain_usesOf (.ofList (by decide))⟩

theorem isBalanced_entryText (ht : t.IsPlain) : IsBalanced (entryText scope t) := by
  have hvalue : IsBalanced (valueText scope .dom4jText "el" t) :=
    isBalanced_valueText hs (by decide) ht
  unfold entryText
  dsimp only
  split
  · exact ((by decide : IsPlain "\n").append
      (Config.isPlain_indent hs.session.config 5)).isBalanced.append hvalue
  · exact hvalue

theorem isBalanced_mapAddition {key entry : JavaType} (hkey : key.IsPlain)
    (hentry : entry.IsPlain) :
    (mapAddition scope key entry : Addition (Job X)).IsBalanced IsPlainJob := by
  have hk := hkey.wrapperName
  have he := hentry.wrapperName
  have htypes : IsPlain (mapTypes key entry) := hk.capitalize.append he.capitalize
  have hlead := isBalanced_lead hs (List.forall_mem_cons.2 ⟨htypes,
    List.forall_mem_cons.2 ⟨hk, List.forall_mem_singleton.2 he⟩⟩) getMap
  have hbound : IsPlain ("Map<" ++ key.wrapperName ++ ", " ++ entry.wrapperName ++ ">") :=
    ((((by decide : IsPlain "Map<").append hk).append (by decide)).append he).append (by decide)
  have hkeyValue : IsBalanced (valueText scope .dom4jKey "el" key) :=
    isBalanced_valueText hs (by decide) hkey
  have hput : IsBalanced ("map.put(" ++ valueText scope .dom4jKey "el" key ++ ", " ++
      entryText scope entry ++ ");") := by
    refine isBalanced_iff.2 fun k => ?_
    simp only [excess_append, hkeyValue.excess k, (isBalanced_entryText hs hentry).excess k,
      mul_one]
    repeat rw [excess_ofList k]
    cases k <;> rfl
  refine ⟨?_, ?_, List.forall_mem_nil _⟩
  · exact hlead.append (isBalanced_fillText hs.session.config hbound (by decide)
      (hs.nameOf_single htypes _)
      (List.forall_mem_cons.2 ⟨isBalanced_cast, List.forall_mem_singleton.2 hput⟩))
  · simp only [mapAddition, List.forall_mem_append]
    exact ⟨⟨⟨⟨Scope.IsBalanced.isPlain_usesOfType hkey,
      Scope.IsBalanced.isPlain_usesOfType hentry⟩, hs.isPlain_usesOfRef _ key⟩,
      hs.isPlain_usesOfRef _ entry⟩, Scope.IsBalanced.isPlain_usesOf (.ofList (by decide))⟩

theorem isBalanced_entryLoopAddition {args : List String} (hargs : ∀ a ∈ args, IsPlain a)
    {doc type parameter header : String} (hdoc : IsPlain doc) (htype : IsPlain type)
    (hparameter : IsPlain parameter) (hheader : IsBalanced header)
    {statements uses : List String} (hstatements : ∀ s ∈ statements, IsBalanced s)
    (huses : ∀ q ∈ uses, IsPlain q) (key : String) :
    (entryLoopAddition scope key args doc type parameter header statements uses :
      Addition (Job X)).IsBalanced IsPlainJob := by
  refine ⟨?_, ?_, List.forall_mem_nil _⟩
  · exact (isBalanced_lead hs (List.forall_mem_singleton.2 hdoc) key).append
      (isBalanced_loopText hs.session.config hs.frame.node (hs.nameOf hargs key) htype hparameter
        hheader hstatements)
  · exact List.forall_mem_append.2
      ⟨huses, Scope.IsBalanced.isPlain_usesOf (.ofList (by decide))⟩

/-- The methods of helpers for types without brackets. -/
theorem isBalanced_helperAddition {job : ServerHelper} (hjob : job.IsPlain) :
    (helperAddition scope job : Addition (Job X)).IsBalanced IsPlainJob := by
  have hentry := List.forall_mem_singleton.2 (isBalanced_addEntry hs.session.config 5)
  cases job with
  | readArray t => exact isBalanced_arrayAddition hs hjob
  | readCollection t => exact isBalanced_collectionAddition hs hjob
  | readMap key entry => exact isBalanced_mapAddition hs hjob.1 hjob.2
  | writeArray t =>
    have hitem := JavaType.IsPlain.simpleName hjob
    exact isBalanced_entryLoopAddition hs (List.forall_mem_singleton.2 hitem.capitalize) hitem
      (hitem.append (by decide)) (by decide)
      (hitem.isBalanced.around fun k => by cases k <;> rfl) hentry
      (Scope.IsBalanced.isPlain_usesOfType hjob) _
  | writeCollection =>
    exact isBalanced_entryLoopAddition hs (List.forall_mem_nil _) isPlain_empty (by decide)
      (by decide) (isBalanced_iff.2 fun k => by cases k <;> rfl) hentry
      (Scope.IsBalanced.isPlain_usesOf (.ofList (by decide))) _
  | writeMap =>
    exact isBalanced_entryLoopAddition hs (List.forall_mem_nil _) isPlain_empty (by decide)
      (by decide) (isBalanced_iff.2 fun k => by cases k <;> rfl)
      (List.forall_mem_singleton.2 (isBalanced_addMapEntry hs.session.config 5))
      (Scope.IsBalanced.isPlain_usesOf (.ofList (by decide))) _

end Scope

/-! ## Classes -/

/-- A server builder of an entity without brackets is balanced. -/
theorem isBalanced_source {s : Session} {e : Entity} {ps : List Property} {f : ClassFrame}
    {c : GeneratedClass} (hc : s.catalog.NamesMethods) (hs : s.IsBalanced) (he : e.IsPlain)
    (h : Builder.Builds Handler.serverDialect s e ps f c) : IsBalanced c.source := by
  have hf := h.isPlain hs.config he
  have hscope : (scopeOf s f).IsBalanced := ⟨hs, hf⟩
  refine (assembles_of_builds hc h).isBalanced hs hf ?_ (isBalanced_standingAddition hscope) ?_
  · exact List.forall_mem_singleton.2 (.ofList (by decide))
  · intro job hjob
    cases job with
    | inl job => exact isBalanced_helperAddition hscope hjob
    | inr x => exact x.elim

end Server

end XmlBinding
