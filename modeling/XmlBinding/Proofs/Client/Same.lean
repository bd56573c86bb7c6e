import XmlBinding.Handler
import XmlBinding.Proofs.Client.Class
import XmlBinding.Proofs.Emission.Same

/-!
# Client builders show what the client sees

Writers, methods and helpers of client builders do the same in scopes that are alike on the client.
Of a collection or a map they use the elements, never the implementation.

* `Client.regards_readers`, `regards_elements` : the writers of properties;
* `Client.same_valueExpression` : the expressions that read single values;
* `Client.regards_dialect` : the dialect.
-/

namespace XmlBinding.Client

open Emit

variable {X : Type} {a b : Scope} {s s' : Session} {p p' : Property}

/-! ## Acceptance -/

section Accepts
variable (hs : s.AlikeOn .client s') (hp : p.AlikeOn .client p') (style : AccessStyle)
include hp

theorem sequenceElement?_congr : sequenceElement? style p = sequenceElement? style p' := by
  unfold sequenceElement?
  rw [hp.category.element?_eq]

theorem mapValue?_congr : mapValue? style p = mapValue? style p' := by
  have hcategory := hp.category
  unfold mapValue?
  generalize p.category = c, p'.category = c' at hcategory
  cases hcategory <;> rfl

include hs

theorem acceptsBasicArray_congr : acceptsBasicArray s style p = acceptsBasicArray s' style p' := by
  unfold acceptsBasicArray
  rw [sequenceElement?_congr hp, funext hs.isEntity]

theorem acceptsEntityArray_congr :
    acceptsEntityArray s style p = acceptsEntityArray s' style p' := by
  unfold acceptsEntityArray
  rw [sequenceElement?_congr hp, funext hs.isEntity]

theorem acceptsBasicMap_congr : acceptsBasicMap s style p = acceptsBasicMap s' style p' := by
  unfold acceptsBasicMap
  rw [mapValue?_congr hp, funext hs.isEntity]

theorem acceptsEntityMap_congr : acceptsEntityMap s style p = acceptsEntityMap s' style p' := by
  unfold acceptsEntityMap
  rw [mapValue?_congr hp, funext hs.isEntity]

end Accepts

/-! ## Reading -/

theorem same_nodeTail : Same a b (nodeTail : Emit (Job X) String) nodeTail :=
  same_style.bind fun _ => same_pure _

section Readers
variable (h : a.AlikeOn .client b) (hp : p.AlikeOn .client p') (var : String)
include h hp

theorem same_readScalar (lead tail : String) :
    Same a b (readScalar lead tail var p : Emit (Job X) Unit) (readScalar lead tail var p') :=
  same_access h hp var lead tail none

theorem same_readString :
    Same a b (readString var p : Emit (Job X) Unit) (readString var p') := by
  unfold readString
  rw [hp.node]
  refine same_helperCall h getString [] _ _ fun name => ?_
  dsimp only
  refine Same.ite ?_ ?_
  · exact (same_pure _).bind fun tail => same_access h hp var _ tail none
  · exact same_nodeTail.bind fun tail => same_access h hp var _ tail none

theorem same_readEntity :
    Same a b (readEntity var p : Emit (Job X) Unit) (readEntity var p') := by
  unfold readEntity
  rw [hp.type]
  refine same_builderCall h p'.type getInstance [] fun builder method => ?_
  exact same_nodeTail.bind fun tail => same_access h hp var _ tail _

theorem same_readBasicArray :
    Same a b (readBasicArray var p : Emit (Job X) Unit) (readBasicArray var p') := by
  unfold readBasicArray
  rw [hp.category.element?_eq]
  cases p'.category.element? with
  | some element =>
    refine same_helperCall h getBasicArray _ _ _ fun name => ?_
    exact same_access h hp var _ _ _
  | none => exact same_pure ()

theorem same_readEntityArray :
    Same a b (readEntityArray var p : Emit (Job X) Unit) (readEntityArray var p') := by
  unfold readEntityArray
  rw [hp.category.element?_eq]
  cases p'.category.element? with
  | some element =>
    refine same_builderCall h element getEntityArray [] fun builder method => ?_
    exact same_access h hp var _ _ _
  | none => exact same_pure ()

theorem same_readBasicMap :
    Same a b (readBasicMap var p : Emit (Job X) Unit) (readBasicMap var p') := by
  have hcategory := hp.category
  unfold readBasicMap
  generalize p.category = c, p'.category = c' at hcategory
  cases hcategory with
  | map key entry =>
    refine same_helperCall h getBasicMap _ _ _ fun name => ?_
    exact same_access h hp var _ _ _
  | basic | entity | array | collection => exact same_pure ()

theorem same_readEntityMap :
    Same a b (readEntityMap var p : Emit (Job X) Unit) (readEntityMap var p') := by
  have hcategory := hp.category
  unfold readEntityMap
  generalize p.category = c, p'.category = c' at hcategory
  cases hcategory with
  | map key entry =>
    refine same_builderCall h entry getEntityMap [] fun builder method => ?_
    exact same_access h hp var _ _ _
  | basic | entity | array | collection => exact same_pure ()

end Readers

theorem regards_readers :
    ∀ w ∈ (readers : PropertyRegistry (Job X)).writers, w.Regards .client := by
  rw [readers_eq]
  simp only [List.forall_mem_cons]
  refine ⟨⟨fun hs hp style => ?_, fun h hp var => same_readEntityMap h hp var⟩,
    ⟨fun hs hp style => ?_, fun h hp var => same_readEntityArray h hp var⟩,
    ⟨fun hs hp style => ?_, fun h hp var => same_readBasicMap h hp var⟩,
    ⟨fun hs hp style => ?_, fun h hp var => same_readString h hp var⟩,
    ⟨fun hs hp style => ?_, fun h hp var => same_readEntity h hp var⟩,
    ⟨fun hs hp style => ?_, fun h hp var => same_readBasicArray h hp var⟩,
    ⟨fun hs hp style => ?_, fun h hp var => same_readScalar h hp var _ _⟩,
    ⟨fun hs hp style => ?_, fun h hp var => same_readScalar h hp var _ _⟩,
    ⟨fun hs hp style => ?_, fun h hp var => same_readScalar h hp var _ _⟩,
    fun w hw => nomatch hw⟩
  · exact acceptsEntityMap_congr hs hp style
  · exact acceptsEntityArray_congr hs hp style
  · exact acceptsBasicMap_congr hs hp style
  · dsimp only [acceptsScalar]
    rw [hp.scalar?]
  · exact hp.isEntity
  · exact acceptsBasicArray_congr hs hp style
  · dsimp only [acceptsScalar]
    rw [hp.scalar?]
  · dsimp only [acceptsScalar]
    rw [hp.scalar?]
  · dsimp only [acceptsScalar]
    rw [hp.scalar?]

theorem same_valueExpression (h : a.AlikeOn .client b) (t : JavaType) :
    Same a b (valueExpression t : Emit (Job X) String) (valueExpression t) :=
  same_expression regards_readers h _ _ t

/-! ## Writing -/

section Writers
variable (h : a.AlikeOn .client b) (hp : p.AlikeOn .client p') (var : String)
include h hp

theorem same_writeLiteralCall (call : String) :
    Same a b (writeLiteralCall call var p : Emit (Job X) Unit) (writeLiteralCall call var p') := by
  unfold writeLiteralCall
  rw [hp.name, hp.node]
  exact same_line h _ _

theorem same_writeEntityMap :
    Same a b (writeEntityMap var p : Emit (Job X) Unit) (writeEntityMap var p') := by
  have hcategory := hp.category
  unfold writeEntityMap
  generalize p.category = c, p'.category = c' at hcategory
  cases hcategory with
  | map key entry =>
    exact same_builderCall h entry _ _ fun builder method => same_writeLiteralCall h hp var _
  | basic | entity | array | collection => exact same_pure ()

theorem same_writeBasicMap :
    Same a b (writeBasicMap var p : Emit (Job X) Unit) (writeBasicMap var p') := by
  unfold writeBasicMap
  exact same_helperCall h _ _ _ _ fun name => same_writeLiteralCall h hp var name

theorem same_writeArray :
    Same a b (writeArray var p : Emit (Job X) Unit) (writeArray var p') := by
  unfold writeArray
  rw [hp.category.element?_eq]
  cases p'.category.element? with
  | some element =>
    refine (same_isEntity h element).bind fun _ => ?_
    dsimp only
    refine Same.ite ?_ ?_
    · refine same_builderCall h element _ _ fun builder method => ?_
      exact (same_pure _).bind fun call => same_writeLiteralCall h hp var call
    · exact (same_methodName h _ _).bind fun call => same_writeLiteralCall h hp var call
  | none => exact same_pure ()

theorem same_writeEntity :
    Same a b (writeEntity var p : Emit (Job X) Unit) (writeEntity var p') := by
  unfold writeEntity
  rw [hp.type]
  exact same_builderCall h p'.type _ _ fun builder method => same_writeLiteralCall h hp var _

theorem same_writeBasic :
    Same a b (writeBasic var p : Emit (Job X) Unit) (writeBasic var p') := by
  unfold writeBasic
  exact (same_methodName h _ _).bind fun name => same_writeLiteralCall h hp var name

end Writers

theorem regards_elements :
    ∀ w ∈ (elements : PropertyRegistry (Job X)).writers, w.Regards .client := by
  rw [elements_eq]
  simp only [List.forall_mem_cons]
  refine ⟨⟨fun hs hp style => ?_, fun h hp var => same_writeEntityMap h hp var⟩,
    ⟨fun hs hp style => ?_, fun h hp var => same_writeBasicMap h hp var⟩,
    ⟨fun hs hp style => ?_, fun h hp var => same_writeArray h hp var⟩,
    ⟨fun hs hp style => ?_, fun h hp var => same_writeEntity h hp var⟩,
    ⟨fun hs hp style => rfl, fun h hp var => same_writeBasic h hp var⟩, fun w hw => nomatch hw⟩
  · exact acceptsEntityMap_congr hs hp style
  · exact acceptsBasicMap_congr hs hp style
  · dsimp only [acceptsSequence]
    rw [sequenceElement?_congr hp]
  · exact hp.isEntity

/-! ## Methods -/

section Alike
variable (h : a.AlikeOn .client b)
include h

theorem same_modelName : Same a b (modelName : Emit (Job X) String) modelName := by
  unfold modelName Entity.type
  refine Same.bind_frame ?_
  rw [h.frame.entity]
  exact same_classRef h rfl _

theorem same_emitGetInstance :
    Same a b (emitGetInstance : Emit (Job X) Unit) emitGetInstance := by
  unfold emitGetInstance
  refine Same.bind_frame ((same_modelName h).bind fun model => ?_)
  refine (same_beginMethod h _ _ _).bind fun name => ?_
  refine (same_openBlock h 2 _).bind fun _ => ?_
  refine (same_line h 3 _).bind fun _ => ?_
  refine (same_line h 3 _).bind fun _ => ?_
  refine (same_writeProperties regards_readers h h.frame.attributes rfl "o").bind fun _ => ?_
  refine (same_writeProperties regards_readers h h.frame.elements rfl "o").bind fun _ => ?_
  exact (same_line h 3 _).bind fun _ => same_closeBrace h 2

theorem same_emitChildrenLoop (name type target statement : String) :
    Same a b (emitChildrenLoop name type target statement : Emit (Job X) Unit)
      (emitChildrenLoop name type target statement) := by
  unfold emitChildrenLoop
  refine (same_openBlock h 2 _).bind fun _ => ?_
  refine (same_line h 3 _).bind fun _ => ?_
  refine (same_line h 3 _).bind fun _ => ?_
  refine (same_openBlock h 3 _).bind fun _ => ?_
  refine (same_line h 4 statement).bind fun _ => ?_
  refine (same_closeBrace h 3).bind fun _ => ?_
  exact (same_line h 3 _).bind fun _ => same_closeBrace h 2

theorem same_emitGetEntityArray :
    Same a b (emitGetEntityArray : Emit (Job X) Unit) emitGetEntityArray := by
  unfold emitGetEntityArray
  refine (same_modelName h).bind fun model => ?_
  refine (same_methodName h _ _).bind fun single => ?_
  exact (same_beginMethod h _ _ _).bind fun name => same_emitChildrenLoop h _ _ _ _

theorem same_emitGetEntityMap :
    Same a b (emitGetEntityMap : Emit (Job X) Unit) emitGetEntityMap := by
  unfold emitGetEntityMap
  refine (same_modelName h).bind fun model => ?_
  refine (same_methodName h _ _).bind fun single => ?_
  exact (same_beginMethod h _ _ _).bind fun name => same_emitChildrenLoop h _ _ _ _

theorem same_emitGetString :
    Same a b (emitGetString : Emit (Job X) Unit) emitGetString := by
  unfold emitGetString
  refine (same_beginMethod h _ _ _).bind fun name => ?_
  refine (same_openBlock h 2 _).bind fun _ => ?_
  refine (same_line h 3 _).bind fun _ => ?_
  exact (same_line h 3 _).bind fun _ => same_closeBrace h 2

theorem same_emitGetBasicArray (element : JavaType) :
    Same a b (emitGetBasicArray element : Emit (Job X) Unit) (emitGetBasicArray element) := by
  unfold emitGetBasicArray
  refine (same_valueExpression h element).bind fun value => ?_
  exact (same_beginMethod h _ _ _).bind fun name => same_emitChildrenLoop h _ _ _ _

theorem same_emitGetBasicMap (entry : JavaType) :
    Same a b (emitGetBasicMap entry : Emit (Job X) Unit) (emitGetBasicMap entry) := by
  unfold emitGetBasicMap
  refine (same_valueExpression h entry).bind fun value => ?_
  exact (same_beginMethod h _ _ _).bind fun name => same_emitChildrenLoop h _ _ _ _

omit h in
theorem literalAttributes_congr {ps ps' : List Property}
    (hps : List.Forall₂ (Property.AlikeOn .client) ps ps') :
    literalAttributes ps = literalAttributes ps' := by
  unfold literalAttributes
  induction hps with
  | nil => rfl
  | @cons p p' ps ps' hp _ ih =>
    rw [List.filter_cons, List.filter_cons, hp.isLazy .clientWrite rfl]
    cases p'.isLazy .clientWrite with
    | true => exact ih
    | false =>
      simp only [Bool.not_false, if_true, List.map_cons, String.join_cons]
      rw [hp.name, hp.node, ih]

theorem same_emitGetXml : Same a b (emitGetXml : Emit (Job X) Unit) emitGetXml := by
  unfold emitGetXml
  refine Same.bind_frame ((same_modelName h).bind fun model => ?_)
  rw [h.frame.node, literalAttributes_congr h.frame.attributes]
  refine (same_beginMethod h _ _ _).bind fun name => ?_
  refine (same_openBlock h 2 _).bind fun _ => ?_
  refine (same_line h 3 _).bind fun _ => ?_
  refine (same_writeProperties regards_elements h h.frame.elements rfl "o").capture.bind
    fun written => ?_
  have hend : Same a b
      (line 3 "if(name != null) el.setName(name);" >>= fun _ =>
        line 3 "return el;" >>= fun _ => closeBrace 2 : Emit (Job X) Unit) _ :=
    (same_line h 3 _).bind fun _ => (same_line h 3 _).bind fun _ => same_closeBrace h 2
  dsimp only
  refine Same.ite ?_ ?_
  · exact (same_line h 3 _).bind fun _ => hend
  · refine (same_line h 3 _).bind fun _ => ?_
    refine (same_write _).bind fun _ => ?_
    exact (same_line h 3 _).bind fun _ => hend

theorem same_emitGetBasicXml :
    Same a b (emitGetBasicXml : Emit (Job X) Unit) emitGetBasicXml := by
  unfold emitGetBasicXml
  refine (same_beginMethod h _ _ _).bind fun name => ?_
  refine (same_openBlock h 2 _).bind fun _ => ?_
  refine (same_line h 3 _).bind fun _ => ?_
  exact (same_line h 3 _).bind fun _ => same_closeBrace h 2

theorem same_emitListXml (name parameter type header : String) (statements : List String) :
    Same a b (emitListXml name parameter type header statements : Emit (Job X) Unit)
      (emitListXml name parameter type header statements) := by
  unfold emitListXml
  refine (same_openBlock h 2 _).bind fun _ => ?_
  refine (same_line h 3 _).bind fun _ => ?_
  refine (same_line h 3 _).bind fun _ => ?_
  refine (same_openBlock h 3 _).bind fun _ => ?_
  refine (same_lines h 4 statements).bind fun _ => ?_
  refine (same_closeBrace h 3).bind fun _ => ?_
  exact (same_line h 3 _).bind fun _ => same_closeBrace h 2

theorem same_emitGetEntityXmlList :
    Same a b (emitGetEntityXmlList : Emit (Job X) Unit) emitGetEntityXmlList := by
  unfold emitGetEntityXmlList
  refine (same_modelName h).bind fun model => ?_
  refine (same_methodName h _ _).bind fun single => ?_
  exact (same_beginMethod h _ _ _).bind fun name => same_emitListXml h _ _ _ _ _

theorem same_emitGetBasicXmlList :
    Same a b (emitGetBasicXmlList : Emit (Job X) Unit) emitGetBasicXmlList :=
  (same_beginMethod h _ _ _).bind fun _ => same_emitListXml h _ _ _ _ _

theorem same_emitGetEntityMapXml :
    Same a b (emitGetEntityMapXml : Emit (Job X) Unit) emitGetEntityMapXml := by
  unfold emitGetEntityMapXml
  refine (same_modelName h).bind fun model => ?_
  refine (same_methodName h _ _).bind fun single => ?_
  exact (same_beginMethod h _ _ _).bind fun name => same_emitListXml h _ _ _ _ _

theorem same_emitHelper (helper : ClientHelper) :
    Same a b (emitHelper helper : Emit (Job X) Unit) (emitHelper helper) := by
  cases helper with
  | readString => exact same_emitGetString h
  | readArray element => exact same_emitGetBasicArray h element
  | readMap entry => exact same_emitGetBasicMap h entry
  | writeMap => exact (same_beginMethod h _ _ _).bind fun _ => same_emitListXml h _ _ _ _ _

end Alike

/-- Client builders show what the client sees. -/
theorem regards_dialect : Handler.clientDialect.Regards .client where
  target := rfl
  methods := by
    intro w hw a b h
    have hmem : w ∈ (methods : MethodRegistry (Job Empty)).writers := hw
    rw [methods_eq] at hmem
    simp only [List.mem_cons, List.not_mem_nil, or_false] at hmem
    rcases hmem with rfl | rfl | rfl | rfl | rfl | rfl | rfl | rfl
    · exact same_emitGetInstance h
    · exact same_emitGetXml h
    · exact same_emitGetBasicXml h
    · exact same_emitGetEntityArray h
    · exact same_emitGetEntityXmlList h
    · exact same_emitGetBasicXmlList h
    · exact same_emitGetEntityMap h
    · exact same_emitGetEntityMapXml h
  run := by
    intro job a b h
    cases job with
    | inl helper => exact same_emitHelper h helper
    | inr x => exact nomatch x

end XmlBinding.Client
