import XmlBinding.Handler
import XmlBinding.Proofs.Emission.Same
import XmlBinding.Proofs.Server.Class

/-!
# Server builders show what the server sees

Writers, methods and helpers of server builders do the same in scopes that are alike on the server.

* `Server.regards_readers`, `regards_elements` : the writers of properties;
* `Server.same_valueExpression` : the expressions that read single values;
* `Server.regards_dialect` : the dialect.
-/

namespace XmlBinding.Server

open Emit

variable {X : Type} {a b : Scope} {p p' : Property}

/-! ## Reading -/

section Alike
variable (h : a.AlikeOn .server b)
include h

section Readers
variable (hp : p.AlikeOn .server p') (var : String)
include hp

theorem same_readScalar :
    Same a b (readScalar var p : Emit (Job X) Unit) (readScalar var p') := by
  unfold readScalar
  rw [hp.type]
  cases ScalarKind.of? p'.type with
  | some kind => exact same_access h hp var _ _ none
  | none => exact same_pure ()

theorem same_readEntity :
    Same a b (readEntity var p : Emit (Job X) Unit) (readEntity var p') := by
  unfold readEntity
  rw [hp.type]
  refine same_builderCall h p'.type getInstance [] fun builder method => ?_
  exact same_access h hp var _ _ _

theorem same_readArray :
    Same a b (readArray var p : Emit (Job X) Unit) (readArray var p') := by
  unfold readArray
  rw [hp.category_eq]
  cases p'.category with
  | array element =>
    refine same_helperCall h getArray _ _ _ fun name => ?_
    exact same_access h hp var _ _ _
  | basic | entity | collection | map => exact same_pure ()

end Readers

theorem same_collectionCall (element : JavaType) :
    Same a b (collectionCall element : Emit (Job X) String) (collectionCall element) := by
  unfold collectionCall
  refine (same_isEntity h element).bind fun _ => Same.ite ?_ ?_
  · exact same_builderCall h element _ _ fun builder method => same_pure _
  · exact same_helperCall h _ _ _ _ fun name => same_pure name

section Readers
variable (hp : p.AlikeOn .server p') (var : String)
include hp

theorem same_readCollection :
    Same a b (readCollection var p : Emit (Job X) Unit) (readCollection var p') := by
  unfold readCollection
  rw [hp.category_eq]
  cases p'.category with
  | collection kind element implementation =>
    refine (same_javaRef h implementation).bind fun implementation => ?_
    refine (same_importType h element).bind fun _ => ?_
    refine (same_collectionCall h element).bind fun call => ?_
    refine (same_indent h 4).bind fun indent => ?_
    exact same_access h hp var _ _ _
  | basic | entity | array | map => exact same_pure ()

theorem same_readMap :
    Same a b (readMap var p : Emit (Job X) Unit) (readMap var p') := by
  unfold readMap
  rw [hp.category_eq]
  cases p'.category with
  | map key entry implementation =>
    refine (same_isEntity h key).bind fun isEntity => ?_
    dsimp only
    refine Same.ite ?_ ?_
    · refine Same.bind_frame ?_
      rw [h.frame.entity, hp.name]
      exact same_throw _ _ _
    · refine (same_javaRef h implementation).bind fun implementation => ?_
      refine (same_importType h key).bind fun _ => ?_
      refine (same_importType h entry).bind fun _ => ?_
      refine same_helperCall h getMap _ _ _ fun name => ?_
      refine (same_indent h 4).bind fun indent => ?_
      exact same_access h hp var _ _ _
  | basic | entity | array | collection => exact same_pure ()

end Readers

end Alike

theorem regards_readers :
    ∀ w ∈ (readers : PropertyRegistry (Job X)).writers, w.Regards .server := by
  rw [readers_eq]
  simp only [List.forall_mem_cons]
  refine ⟨⟨fun _ hp style => ?_, fun h hp var => same_readEntity h hp var⟩,
    ⟨fun _ hp style => ?_, fun h hp var => same_readArray h hp var⟩,
    ⟨fun _ hp style => ?_, fun h hp var => same_readCollection h hp var⟩,
    ⟨fun _ hp style => ?_, fun h hp var => same_readMap h hp var⟩,
    ⟨fun _ hp style => ?_, fun h hp var => same_readScalar h hp var⟩, fun w hw => nomatch hw⟩
  · exact congrArg (style.isPrimary && ·) hp.isEntity
  · dsimp only [acceptsArray]
    rw [hp.category_eq]
  · dsimp only [acceptsCollection]
    rw [hp.category_eq]
  · dsimp only [acceptsMap]
    rw [hp.category_eq]
  · exact congrArg Option.isSome hp.scalar?

theorem same_valueExpression (h : a.AlikeOn .server b) (style : AccessStyle) (var : String)
    (t : JavaType) :
    Same a b (valueExpression style var t : Emit (Job X) String) (valueExpression style var t) := by
  unfold valueExpression
  refine (same_isEntity h t).bind fun _ => Same.ite ?_ ?_
  · exact same_builderCall h t getInstance [] fun builder method => same_pure _
  · exact same_expression regards_readers h style var t

/-! ## Writing -/

section Alike
variable (h : a.AlikeOn .server b)
include h

section Writers
variable (hp : p.AlikeOn .server p') (var : String)
include hp

/-- A call on the value of a property, whose answer is added under the name of its node. -/
theorem same_writeNested (call : String) :
    Same a b (writeNested (onValue call var p) p : Emit (Job X) Unit)
      (writeNested (onValue call var p') p') := by
  unfold writeNested onValue
  rw [hp.getter, hp.node]
  refine (same_line h 2 _).bind fun _ => ?_
  refine (same_openBlock h 2 _).bind fun _ => ?_
  refine (same_line h 3 _).bind fun _ => ?_
  refine (same_line h 3 _).bind fun _ => ?_
  exact same_closeBrace h 2

theorem same_writeSimple :
    Same a b (writeSimple var p : Emit (Job X) Unit) (writeSimple var p') := by
  unfold writeSimple
  rw [hp.getter, hp.node]
  exact (same_line h 2 _).bind fun _ => same_line h 2 _

theorem same_writeEntity :
    Same a b (writeEntity var p : Emit (Job X) Unit) (writeEntity var p') := by
  unfold writeEntity
  rw [hp.type]
  refine same_builderCall h p'.type getElement [] fun builder method => ?_
  exact same_writeNested h hp var _

theorem same_writeArray :
    Same a b (writeArray var p : Emit (Job X) Unit) (writeArray var p') := by
  unfold writeArray
  rw [hp.category_eq]
  cases p'.category with
  | array element =>
    refine (same_isEntity h element).bind fun _ => ?_
    dsimp only
    refine Same.ite ?_ ?_
    · refine same_builderCall h element _ _ fun builder method => ?_
      exact (same_pure _).bind fun call => same_writeNested h hp var call
    · refine same_helperCall h _ _ _ _ fun name => ?_
      exact (same_pure name).bind fun call => same_writeNested h hp var call
  | basic | entity | collection | map => exact same_pure ()

theorem same_writeCollection :
    Same a b (writeCollection var p : Emit (Job X) Unit) (writeCollection var p') := by
  unfold writeCollection
  rw [hp.category_eq]
  cases p'.category with
  | collection kind element implementation =>
    refine (same_isEntity h element).bind fun _ => ?_
    dsimp only
    refine Same.ite ?_ ?_
    · refine same_builderCall h element _ _ fun builder method => ?_
      exact (same_pure _).bind fun call => same_writeNested h hp var call
    · refine same_helperCall h _ _ _ _ fun name => ?_
      exact (same_pure name).bind fun call => same_writeNested h hp var call
  | basic | entity | array | map => exact same_pure ()

theorem same_writeMap :
    Same a b (writeMap var p : Emit (Job X) Unit) (writeMap var p') := by
  unfold writeMap
  rw [hp.category_eq]
  cases p'.category with
  | map key entry implementation =>
    refine (same_isEntity h entry).bind fun _ => ?_
    dsimp only
    refine Same.ite ?_ ?_
    · refine (same_builderRef h entry).bind fun builder => ?_
      refine (same_indent h 4).bind fun indent => ?_
      refine (same_methodName h _ _).bind fun method => ?_
      exact (same_pure _).bind fun call => same_writeNested h hp var call
    · refine same_helperCall h _ _ _ _ fun name => ?_
      exact (same_pure name).bind fun call => same_writeNested h hp var call
  | basic | entity | array | collection => exact same_pure ()

end Writers

end Alike

theorem regards_elements :
    ∀ w ∈ (elements : PropertyRegistry (Job X)).writers, w.Regards .server := by
  rw [elements_eq]
  simp only [List.forall_mem_cons]
  refine ⟨⟨fun _ hp style => ?_, fun h hp var => same_writeArray h hp var⟩,
    ⟨fun _ hp style => ?_, fun h hp var => same_writeCollection h hp var⟩,
    ⟨fun _ hp style => ?_, fun h hp var => same_writeEntity h hp var⟩,
    ⟨fun _ hp style => ?_, fun h hp var => same_writeMap h hp var⟩,
    ⟨fun _ _ style => rfl, fun h hp var => same_writeSimple h hp var⟩, fun w hw => nomatch hw⟩
  · dsimp only [acceptsArray]
    rw [hp.category_eq]
  · dsimp only [acceptsCollection]
    rw [hp.category_eq]
  · exact congrArg (style.isPrimary && ·) hp.isEntity
  · dsimp only [acceptsMap]
    rw [hp.category_eq]

/-! ## Methods -/

section Alike
variable (h : a.AlikeOn .server b)
include h

theorem same_beanName : Same a b (beanName : Emit (Job X) String) beanName := by
  unfold beanName Entity.type
  refine Same.bind_frame ?_
  rw [h.frame.entity]
  exact same_javaRef h _

theorem same_emitGetInstance :
    Same a b (emitGetInstance : Emit (Job X) Unit) emitGetInstance := by
  unfold emitGetInstance
  refine Same.bind_frame ((same_beanName h).bind fun bean => ?_)
  refine (same_beginMethod h _ _ _).bind fun name => ?_
  refine (same_openBlock h 1 _).bind fun _ => ?_
  refine (same_line h 2 _).bind fun _ => ?_
  refine (same_line h 2 _).bind fun _ => ?_
  refine (same_writeProperties regards_readers h h.frame.attributes rfl "o").bind fun _ => ?_
  refine (same_writeProperties regards_readers h h.frame.elements rfl "o").bind fun _ => ?_
  exact (same_line h 2 _).bind fun _ => same_closeBrace h 1

theorem same_emitFill (bound parameter name : String) (statements : List String) :
    Same a b (emitFill bound parameter name statements : Emit (Job X) Unit)
      (emitFill bound parameter name statements) := by
  unfold emitFill
  refine (same_indent h 3).bind fun indent => ?_
  refine (same_openBlock h 1 _).bind fun _ => ?_
  refine (same_line h 2 _).bind fun _ => ?_
  refine (same_openBlock h 2 _).bind fun _ => ?_
  refine (same_lines h 3 statements).bind fun _ => ?_
  refine (same_closeBrace h 2).bind fun _ => ?_
  exact (same_line h 2 _).bind fun _ => same_closeBrace h 1

theorem same_emitGetEntityCollection :
    Same a b (emitGetEntityCollection : Emit (Job X) Unit) emitGetEntityCollection := by
  unfold emitGetEntityCollection
  refine (same_beanName h).bind fun bean => ?_
  refine (same_methodName h _ _).bind fun single => ?_
  refine (same_beginMethod h _ _ _).bind fun name => ?_
  exact (same_importClass h _).bind fun _ => same_emitFill h _ _ _ _

theorem same_emitGetArray (element : JavaType) :
    Same a b (emitGetArray element : Emit (Job X) Unit) (emitGetArray element) := by
  unfold emitGetArray
  refine (same_javaRef h element).bind fun item => ?_
  refine (same_valueExpression h _ _ element).bind fun value => ?_
  refine (same_beginMethod h _ _ _).bind fun name => ?_
  refine (same_importClass h _).bind fun _ => ?_
  refine (same_openBlock h 1 _).bind fun _ => ?_
  refine (same_line h 2 _).bind fun _ => ?_
  refine (same_line h 2 _).bind fun _ => ?_
  refine (same_line h 2 _).bind fun _ => ?_
  refine (same_line h 2 _).bind fun _ => ?_
  refine (same_openBlock h 2 _).bind fun _ => ?_
  refine (same_line h 3 _).bind fun _ => ?_
  refine (same_line h 3 _).bind fun _ => ?_
  refine (same_closeBrace h 2).bind fun _ => ?_
  exact (same_line h 2 _).bind fun _ => same_closeBrace h 1

theorem same_emitGetCollection (element : JavaType) :
    Same a b (emitGetCollection element : Emit (Job X) Unit) (emitGetCollection element) := by
  unfold emitGetCollection
  refine (same_importType h element).bind fun _ => ?_
  refine (same_valueExpression h _ _ element).bind fun value => ?_
  refine (same_beginMethod h _ _ _).bind fun name => ?_
  exact (same_importClass h _).bind fun _ => same_emitFill h _ _ _ _

theorem same_emitGetMap (key entry : JavaType) :
    Same a b (emitGetMap key entry : Emit (Job X) Unit) (emitGetMap key entry) := by
  unfold emitGetMap
  refine (same_importType h key).bind fun _ => ?_
  refine (same_importType h entry).bind fun _ => ?_
  refine (same_valueExpression h _ _ key).bind fun keyValue => ?_
  refine (same_valueExpression h _ _ entry).bind fun entryValue => ?_
  have hfill (entryValue : String) : Same a b
      (beginMethod getMap [mapTypes key entry]
          [mapTypes key entry, key.wrapperName, entry.wrapperName] >>= fun name =>
        importClass "java.util.Map" >>= fun _ =>
        emitFill ("Map<" ++ key.wrapperName ++ ", " ++ entry.wrapperName ++ ">") "map" name
          ["final Element el = (Element)obj;",
            "map.put(" ++ keyValue ++ ", " ++ entryValue ++ ");"] : Emit (Job X) Unit) _ :=
    (same_beginMethod h _ _ _).bind fun name =>
      (same_importClass h _).bind fun _ => same_emitFill h _ _ _ _
  refine (same_isEntity h entry).bind fun _ => ?_
  dsimp only
  refine Same.ite ?_ ((same_pure entryValue).bind hfill)
  exact (same_indent h 5).bind fun indent => (same_pure _).bind hfill

theorem same_attributes :
    Same a b
      ((a.frame.attributes.filter fun p => !p.isLazy .serverWrite).forM fun p => do
        Emit.line 2 ("str = String.valueOf(o." ++ p.getter ++ "());")
        Emit.line 2 ("el.addAttribute(\"" ++ p.node.name ++ "\", ((str == null) ? \"\" : str));") :
          Emit (Job X) Unit)
      ((b.frame.attributes.filter fun p => !p.isLazy .serverWrite).forM fun p => do
        Emit.line 2 ("str = String.valueOf(o." ++ p.getter ++ "());")
        Emit.line 2
          ("el.addAttribute(\"" ++ p.node.name ++ "\", ((str == null) ? \"\" : str));")) := by
  have hfilter := List.rel_filter (R := Property.AlikeOn .server)
    (p := fun p => !p.isLazy .serverWrite) (q := fun p => !p.isLazy .serverWrite)
    (fun p p' hp => by
      show (!p.isLazy .serverWrite) = true ↔ (!p'.isLazy .serverWrite) = true
      rw [hp.isLazy .serverWrite rfl]) h.frame.attributes
  refine same_forM (R := Property.AlikeOn .server) (fun p p' hp => ?_) hfilter
  rw [hp.getter, hp.node]
  exact (same_line h 2 _).bind fun _ => same_line h 2 _

theorem same_emitGetElement :
    Same a b (emitGetElement : Emit (Job X) Unit) emitGetElement := by
  unfold emitGetElement
  refine Same.bind_frame ((same_beanName h).bind fun bean => ?_)
  rw [h.frame.node]
  refine (same_beginMethod h _ _ _).bind fun name => ?_
  refine (same_importClass h _).bind fun _ => ?_
  refine (same_openBlock h 1 _).bind fun _ => ?_
  refine (same_line h 2 _).bind fun _ => ?_
  refine (same_line h 2 _).bind fun _ => ?_
  refine (same_line h 2 _).bind fun _ => ?_
  refine (same_line h 2 _).bind fun _ => ?_
  refine (same_attributes h).bind fun _ => ?_
  refine (same_writeProperties regards_elements h h.frame.elements rfl "o").bind fun _ => ?_
  exact (same_line h 2 _).bind fun _ => same_closeBrace h 1

theorem same_emitElementLoop (key : String) (nameArgs : List String)
    (doc type parameter header : String) (statements : List String) :
    Same a b (emitElementLoop key nameArgs doc type parameter header statements : Emit (Job X) Unit)
      (emitElementLoop key nameArgs doc type parameter header statements) := by
  unfold emitElementLoop
  refine (same_beginMethod h _ _ _).bind fun name => ?_
  refine (same_importClass h _).bind fun _ => Same.bind_frame ?_
  rw [h.frame.node]
  refine (same_openBlock h 1 _).bind fun _ => ?_
  refine (same_line h 2 _).bind fun _ => ?_
  refine (same_line h 2 _).bind fun _ => ?_
  refine (same_openBlock h 2 _).bind fun _ => ?_
  refine (same_lines h 3 statements).bind fun _ => ?_
  refine (same_closeBrace h 2).bind fun _ => ?_
  exact (same_line h 2 _).bind fun _ => same_closeBrace h 1

theorem same_emitGetEntityArrayElement :
    Same a b (emitGetEntityArrayElement : Emit (Job X) Unit) emitGetEntityArrayElement := by
  unfold emitGetEntityArrayElement
  refine (same_beanName h).bind fun bean => ?_
  exact (same_methodName h _ _).bind fun element => same_emitElementLoop h _ _ _ _ _ _ _

theorem same_emitGetEntityCollectionElement :
    Same a b (emitGetEntityCollectionElement : Emit (Job X) Unit)
      emitGetEntityCollectionElement := by
  unfold emitGetEntityCollectionElement
  refine (same_beanName h).bind fun bean => ?_
  refine (same_methodName h _ _).bind fun element => ?_
  exact (same_importClass h _).bind fun _ => same_emitElementLoop h _ _ _ _ _ _ _

theorem same_emitGetEntityMapElement :
    Same a b (emitGetEntityMapElement : Emit (Job X) Unit) emitGetEntityMapElement := by
  unfold emitGetEntityMapElement
  refine (same_beanName h).bind fun bean => ?_
  refine (same_methodName h _ _).bind fun element => ?_
  exact (same_importClass h _).bind fun _ => same_emitElementLoop h _ _ _ _ _ _ _

theorem same_emitHelper (helper : ServerHelper) :
    Same a b (emitHelper helper : Emit (Job X) Unit) (emitHelper helper) := by
  cases helper with
  | readArray element => exact same_emitGetArray h element
  | readCollection element => exact same_emitGetCollection h element
  | readMap key entry => exact same_emitGetMap h key entry
  | writeArray element =>
    refine (same_javaRef h element).bind fun item => ?_
    exact (same_indent h 5).bind fun indent => same_emitElementLoop h _ _ _ _ _ _ _
  | writeCollection =>
    refine (same_importClass h _).bind fun _ => ?_
    exact (same_indent h 5).bind fun indent => same_emitElementLoop h _ _ _ _ _ _ _
  | writeMap =>
    refine (same_importClass h _).bind fun _ => ?_
    exact (same_indent h 5).bind fun indent => same_emitElementLoop h _ _ _ _ _ _ _

end Alike

/-- Server builders show what the server sees. -/
theorem regards_dialect : Handler.serverDialect.Regards .server where
  target := rfl
  methods := by
    intro w hw a b h
    have hmem : w ∈ (methods : MethodRegistry (Job Empty)).writers := hw
    rw [methods_eq] at hmem
    simp only [List.mem_cons, List.not_mem_nil, or_false] at hmem
    rcases hmem with rfl | rfl | rfl | rfl | rfl | rfl
    · exact same_emitGetInstance h
    · exact same_emitGetElement h
    · exact same_emitGetEntityCollection h
    · exact same_emitGetEntityArrayElement h
    · exact same_emitGetEntityCollectionElement h
    · exact same_emitGetEntityMapElement h
  run := by
    intro job a b h
    cases job with
    | inl helper => exact same_emitHelper h helper
    | inr x => exact nomatch x

end XmlBinding.Server
