import XmlBinding.Proofs.Catalog.Bracket
import XmlBinding.Proofs.Description
import XmlBinding.Proofs.Form

/-!
# Brackets in the parts of a class

* `Session.IsBalanced`, `Scope.IsBalanced` : what classes are made from: names without brackets and
  templates whose brackets are balanced;
* `Scope.IsBalanced.accessText` : an access is balanced where its tail closes what its lead opens;
* `AccessStyle.excess_class` : the frame of a class closes what it opens;
* `Addition.IsBalanced` : what an action adds, with balanced brackets;
* `Dialect.Assembles.isBalanced` : a class is balanced where its methods and helpers are.
-/

namespace XmlBinding

/-! ## Sessions and scopes -/

/-- Names have no brackets, and templates have balanced ones. -/
structure Session.IsBalanced (s : Session) : Prop extends s.HasPlainNames where
  catalog : s.catalog.IsBalanced

theorem Session.IsBalanced.methodLead {s : Session} (hs : s.IsBalanced) {args : List String}
    (hargs : ∀ a ∈ args, IsPlain a) (key : String) (level : Nat) :
    XmlBinding.IsBalanced (s.methodLead key args level) := by
  have hstart : IsPlain "\n" := by decide
  refine hstart.isBalanced.append ?_
  cases h : s.catalog.methodDoc? key args with
  | none => exact .empty
  | some doc =>
    have hdoc := Catalog.isBalanced_methodDoc? hs.catalog (fun a ha => (hargs a ha).isBalanced) h
    exact isBalanced_iff.2 fun k =>
      (excess_docComment hs.config doc level).trans (hdoc.excess k)

/-- Documentation of a class is balanced. -/
theorem Session.IsBalanced.classDoc {s : Session} (hs : s.IsBalanced) {args : List String}
    (hargs : ∀ a ∈ args, IsPlain a) (key : String) (level : Nat) :
    XmlBinding.IsBalanced (match s.catalog.classDoc? key args with
      | some doc => docComment s.config doc level
      | none => "") := by
  cases h : s.catalog.classDoc? key args with
  | none => exact .empty
  | some doc =>
    have hdoc := Catalog.isBalanced_classDoc? hs.catalog (fun a ha => (hargs a ha).isBalanced) h
    exact isBalanced_iff.2 fun k =>
      (excess_docComment hs.config doc level).trans (hdoc.excess k)

/-- A frame without brackets. -/
structure ClassFrame.IsPlain (f : ClassFrame) : Prop where
  entity : f.entity.IsPlain
  package : XmlBinding.IsPlain f.package
  className : XmlBinding.IsPlain f.className
  node : XmlBinding.IsPlain f.node
  superclass : XmlBinding.IsPlain (f.superclass.getD "")
  interfaces : ∀ i ∈ f.interfaces, XmlBinding.IsPlain i
  attributes : ∀ p ∈ f.attributes, p.IsPlain
  elements : ∀ p ∈ f.elements, p.IsPlain

/-- The frame of an entity without brackets. -/
theorem Builder.Builds.isPlain {J : Type} {d : Dialect J} {s : Session} {e : Entity}
    {ps : List Property} {f : ClassFrame} {c : GeneratedClass} (h : Builds d s e ps f c)
    (hs : s.config.IsPlain) (he : e.IsPlain) : f.IsPlain := by
  have hps := Session.isPlain_of_describe he h.described
  have hattributes : ∀ p ∈ f.attributes, p.IsPlain := fun p hp => hps p (h.mem_attributes.1 hp).1
  have helements : ∀ p ∈ f.elements, p.IsPlain := fun p hp => hps p (h.mem_elements.1 hp).1
  obtain ⟨f₀, hopen, hfill⟩ := bind_eq_ok.1 h.filled
  obtain ⟨package, node, hpackage, hnode, rfl⟩ := openFrame_eq_ok_iff.1 hopen
  obtain ⟨-, rfl⟩ := addProperties_eq_ok_iff.1 hfill
  exact ⟨he, Session.isPlain_packageFor hs he hpackage, Session.isPlain_className hs he d.target,
    he.rootNode hnode, isPlain_empty, fun _ hi => (nomatch hi), hattributes, helements⟩

theorem AccessStyle.isPlain_dom4jAccessor (node : NodeBinding) (placement : Option Placement) :
    XmlBinding.IsPlain (AccessStyle.dom4jAccessor node placement) := by
  unfold AccessStyle.dom4jAccessor
  split
  · decide
  · split <;> decide

/-- What a class is made from. -/
structure Scope.IsBalanced (scope : Scope) : Prop where
  session : scope.session.IsBalanced
  frame : scope.frame.IsPlain

namespace Scope.IsBalanced

variable {scope : Scope} {k : Bracket} {t : JavaType}

/-! ## Imports -/

theorem isPlain_usesOf {q : String} (hq : IsPlain q) : ∀ r ∈ scope.usesOf q, IsPlain r := by
  unfold usesOf
  split
  · exact List.forall_mem_nil _
  · exact List.forall_mem_singleton.2 hq

theorem isPlain_usesOfType (ht : t.IsPlain) : ∀ r ∈ scope.usesOfType t, IsPlain r := by
  unfold usesOfType
  split
  · next q hq => exact isPlain_usesOf (ht.importName? hq)
  · exact List.forall_mem_nil _

variable (hs : scope.IsBalanced)
include hs

theorem isPlain_usesOfRef (target : Target) (t : JavaType) :
    ∀ r ∈ scope.usesOfRef target t, IsPlain r := by
  unfold usesOfRef
  split
  · exact List.forall_mem_nil _
  · next e he =>
    have hplain := hs.session.entity? he
    exact isPlain_usesOf ((Session.isPlain_home hs.session.config hplain target).qualify
      (Session.isPlain_className hs.session.config hplain target))

/-! ## Names -/

theorem nameOf {args : List String} (hargs : ∀ a ∈ args, IsPlain a) (key : String) :
    XmlBinding.IsBalanced (scope.nameOf key args) :=
  Catalog.isBalanced_nameOf hs.session.catalog (fun a ha => (hargs a ha).isBalanced) key

theorem nameOf_nil (key : String) : XmlBinding.IsBalanced (scope.nameOf key []) :=
  hs.nameOf (List.forall_mem_nil _) key

theorem nameOf_single {arg : String} (harg : IsPlain arg) (key : String) :
    XmlBinding.IsBalanced (scope.nameOf key [arg]) :=
  hs.nameOf (List.forall_mem_singleton.2 harg) key

theorem builderName (ht : t.IsPlain) : IsPlain (scope.builderName t) :=
  Session.isPlain_refName hs.session.toHasPlainNames scope.target ht

/-- The call of a method of the builder of a type. -/
theorem builderCall (ht : t.IsPlain) {sep : String} (hsep : IsPlain sep) (key : String) :
    XmlBinding.IsBalanced (scope.builderName t ++ sep ++ scope.nameOf key []) :=
  ((hs.builderName ht).append hsep).isBalanced.append (hs.nameOf_nil key)

theorem callOf (ht : t.IsPlain) {sep : String} (hsep : IsPlain sep) {args : List String}
    (hargs : ∀ a ∈ args, IsPlain a) (standing helper : String) :
    XmlBinding.IsBalanced (scope.callOf t sep standing helper args) := by
  unfold Scope.callOf
  split
  · exact hs.builderCall ht hsep standing
  · exact hs.nameOf hargs helper

/-! ## Access -/

/-- An access is balanced where its tail closes what its lead opens. -/
theorem accessText {style : AccessStyle} {p : Property} (hp : p.IsPlain) {var lead tail : String}
    (hvar : IsPlain var) (haround : ∀ k, excess k lead * excess k tail = 1)
    (placement : Option Placement) :
    XmlBinding.IsBalanced (scope.accessText style var p lead tail placement) := by
  refine isBalanced_iff.2 fun k => ?_
  have haround' (a : Excess) : excess k lead * (excess k tail * a) = a := by
    rw [← mul_assoc, haround, one_mul]
  have hindent : excess k (scope.session.config.indent style.bodyLevel) = 1 :=
    Config.excess_indent hs.session.config _
  have hvar := hvar.excess k
  unfold Scope.accessText AccessStyle.access?
  cases style with
  | dom4j =>
    have hsetter := hp.setter
    cases h : p.setter with
    | none => rfl
    | some setter =>
      have hname : excess k setter = 1 := by
        rw [h] at hsetter
        exact hsetter.excess k
      have haccessor := (AccessStyle.isPlain_dom4jAccessor p.node placement).excess k
      have hel : excess k "el." = 1 := by cases k <;> rfl
      have hnode : excess k "(\"" * (excess k "\")" * (excess k tail * excess k ");\n")) =
          excess k tail * excess k ");\n" := by
        have hpair : excess k "(\"" * excess k "\")" = 1 := by cases k <;> rfl
        rw [← mul_assoc, hpair, one_mul]
      simp only [Option.map_some, Option.getD_some, excess_append, hindent, hvar, hname,
        haccessor, hel, hp.node.excess k, mul_assoc, one_mul, hnode, haround']
      cases k <;> rfl
  | dom4jText =>
    have hget : excess k ".getTextTrim()" = 1 := by cases k <;> rfl
    simp only [Option.getD_some, excess_append, hvar, hget, mul_one, haround]
  | dom4jKey =>
    have hget : excess k ".attributeValue(\"" * (excess k mapKeyAttribute *
        (excess k "\")" * excess k tail)) = excess k tail := by
      have hpair : excess k ".attributeValue(\"" * (excess k mapKeyAttribute * excess k "\")") =
          1 := by cases k <;> rfl
      rw [← mul_assoc (excess k mapKeyAttribute), ← mul_assoc, hpair, one_mul]
    simp only [Option.getD_some, excess_append, hvar, mul_assoc, one_mul, hget, haround]
  | as3 =>
    dsimp only
    split
    · rfl
    · have hend : excess k ";\n" = 1 := by cases k <;> rfl
      have hnod : excess k "nod." = 1 := by cases k <;> rfl
      have hset : excess k " = " = 1 := by cases k <;> rfl
      simp only [Option.getD_some, excess_append, hindent, hvar, isPlain_dot.excess k, hset, hnod,
        hend, hp.name.excess k, (hp.node.e4xPath).excess k, one_mul, mul_one, haround]
  | as3Text => simp only [Option.getD_some, excess_append, hvar, mul_one, haround]

end Scope.IsBalanced

/-! ## Frames of classes -/

namespace AccessStyle

variable {c : Config} {k : Bracket} (hc : c.IsPlain) (s : AccessStyle)
include hc

theorem excess_packageHeader {package : String} (hp : IsPlain package) {imports : List String}
    (hi : ∀ i ∈ imports, IsPlain i) :
    excess k (s.packageHeader c package imports) = if s.isJava then 1 else excess k "\x7b" := by
  have hplain {u : String} (hu : IsPlain u) : excess k u = 1 := hu.excess k
  have hblank : excess k (if imports.isEmpty then "" else "\n") = 1 := by
    split <;> cases k <;> rfl
  have hnamed (a b : String) (ha : IsPlain a) (hb : IsPlain b) :
      excess k (if package.isEmpty then "" else a ++ package ++ b) = 1 := by
    split
    · rfl
    · exact hplain ((ha.append hp).append hb)
  have himport (indent : String) (hindent : excess k indent = 1) :
      excess k (String.join (imports.map fun i => indent ++ "import " ++ i ++ ";\n")) = 1 := by
    refine excess_join_eq_one fun l hl => ?_
    obtain ⟨i, hi', rfl⟩ := List.mem_map.1 hl
    have hword : excess k "import " = 1 := by cases k <;> rfl
    have hend : excess k ";\n" = 1 := by cases k <;> rfl
    simp only [excess_append, hindent, hword, hend, hplain (hi i hi'), mul_one]
  unfold packageHeader
  cases s.isJava with
  | true =>
    have hstatement := hnamed "package " ";\n\n" (by decide) (by decide)
    have himports := himport "" rfl
    simp only [String.empty_append] at himports
    simp only [if_true, excess_append, hstatement, himports, hblank, mul_one]
  | false =>
    have hname := hnamed " " "" (by decide) (by decide)
    have hword : excess k "package" = 1 := by cases k <;> rfl
    rw [String.append_empty] at hname
    simp only [Bool.false_eq_true, if_false, excess_append, hword, hname, hblank,
      himport _ (Config.excess_indent hc 1), Config.excess_openBrace hc, one_mul, mul_one]

theorem excess_classHeader {name : String} (hname : IsPlain name) {superclass : Option String}
    (hsuper : IsPlain (superclass.getD "")) {interfaces : List String}
    (hi : ∀ i ∈ interfaces, IsPlain i) :
    excess k (s.classHeader c name superclass interfaces) = excess k "\x7b" := by
  have hclass : excess k "public class " = 1 := by cases k <;> rfl
  have hlist : excess k (if interfaces.isEmpty then "" else
      " implements " ++ ", ".intercalate interfaces) = 1 := by
    split
    · rfl
    · exact ((by decide : IsPlain " implements ").append
        (IsPlain.intercalate (by decide) hi)).excess k
  have hparts {base : String} (hbase : excess k base = 1) :
      excess k (c.indent s.classLevel ++ "public class " ++ name ++ base ++
        (if interfaces.isEmpty then "" else " implements " ++ ", ".intercalate interfaces) ++
        c.openBrace s.classLevel) = excess k "\x7b" := by
    simp only [excess_append, Config.excess_indent hc, Config.excess_openBrace hc, hclass,
      hname.excess k, hbase, hlist, one_mul]
  cases superclass with
  | none => exact hparts rfl
  | some base => exact hparts (((by decide : IsPlain " extends ").append hsuper).excess k)

theorem excess_classFooter : excess k (s.classFooter c) =
    if s.isJava then excess k "\x7d" else excess k "\x7d" * excess k "\x7d" := by
  unfold classFooter
  cases s.isJava with
  | true =>
    simp only [if_true]
    cases k <;> rfl
  | false =>
    simp only [Bool.false_eq_true, if_false, excess_append, Config.excess_indent hc, one_mul]
    cases k <;> rfl

/-- The frame of a class closes what it opens, whatever is balanced inside. -/
theorem excess_class {package name : String} (hp : IsPlain package) (hname : IsPlain name)
    {imports interfaces : List String} (himports : ∀ i ∈ imports, IsPlain i)
    {superclass : Option String} (hsuper : IsPlain (superclass.getD ""))
    (hinterfaces : ∀ i ∈ interfaces, IsPlain i) {doc body : String} (hdoc : excess k doc = 1)
    (hbody : excess k body = 1) :
    excess k (s.packageHeader c package imports ++ doc ++
      s.classHeader c name superclass interfaces ++ body ++ s.classFooter c) = 1 := by
  simp only [excess_append, excess_packageHeader hc s hp himports,
    excess_classHeader hc s hname hsuper hinterfaces, excess_classFooter hc s, hdoc, hbody, mul_one]
  cases s.isJava <;> cases k <;> rfl

end AccessStyle

/-! ## Additions -/

variable {J : Type} {P : J → Prop}

/-- A text of balanced brackets, imports without brackets, and helpers of a kind. -/
structure Addition.IsBalanced (P : J → Prop) (x : Addition J) : Prop where
  text : XmlBinding.IsBalanced x.text
  uses : ∀ q ∈ x.uses, IsPlain q
  asks : ∀ h ∈ x.asks, P h.job

namespace Addition

theorem isBalanced_empty : (empty : Addition J).IsBalanced P :=
  ⟨.empty, fun _ h => (nomatch h), fun _ h => (nomatch h)⟩

theorem isBalanced_ofText {t : String} (h : XmlBinding.IsBalanced t) :
    (ofText t : Addition J).IsBalanced P :=
  ⟨h, fun _ h => (nomatch h), fun _ h => (nomatch h)⟩

theorem isBalanced_ofUses {us : List String} (h : ∀ q ∈ us, IsPlain q) :
    (ofUses us : Addition J).IsBalanced P :=
  ⟨.empty, h, fun _ h => (nomatch h)⟩

theorem isBalanced_ofAsk {id : HelperId} {job : J} (h : P job) :
    (ofAsk id job).IsBalanced P :=
  ⟨.empty, fun _ h => (nomatch h), fun _ ha => List.mem_singleton.1 ha ▸ h⟩

namespace IsBalanced

variable {x y : Addition J}

theorem append (hx : x.IsBalanced P) (hy : y.IsBalanced P) : (x ++ y).IsBalanced P :=
  ⟨hx.text.append hy.text, fun q hq => (List.mem_append.1 hq).elim (hx.uses q) (hy.uses q),
    fun h hh => (List.mem_append.1 hh).elim (hx.asks h) (hy.asks h)⟩

theorem ofProperties {d : Direction} {f : Property → Addition J} {ps : List Property}
    (h : ∀ p ∈ ps, (f p).IsBalanced P) : (Addition.ofProperties d f ps).IsBalanced P := by
  have hconcat (xs : List (Addition J)) (hxs : ∀ x ∈ xs, x.IsBalanced P) :
      (concat xs).IsBalanced P := by
    induction xs with
    | nil => exact isBalanced_empty
    | cons x xs ih =>
      exact (hxs x List.mem_cons_self).append (ih fun y hy => hxs y (List.mem_cons_of_mem x hy))
  refine hconcat _ fun x hx => ?_
  obtain ⟨p, hp, rfl⟩ := List.mem_map.1 hx
  exact h p (List.mem_of_mem_filter hp)

/-- A block that is closed behind what stands in it. -/
theorem between (hx : x.IsBalanced P) {head tail : String}
    (h : ∀ k, excess k head * excess k tail = 1) :
    (ofText head ++ (x ++ ofText tail)).IsBalanced P := by
  refine ⟨isBalanced_iff.2 fun k => ?_, ?_, ?_⟩
  · simp only [text_append, text_ofText, excess_append, hx.text.excess k, one_mul]
    exact h k
  · simpa using hx.uses
  · simpa using hx.asks

end IsBalanced

/-- The use of a method of another builder, or of a helper. -/
theorem isBalanced_callAddition {scope : Scope} (hs : scope.IsBalanced) {t : JavaType}
    {id : HelperId} {job : J} (h : P job) : (scope.callAddition t id job).IsBalanced P := by
  unfold Scope.callAddition
  split
  · exact isBalanced_ofUses (hs.isPlain_usesOfRef _ t)
  · exact isBalanced_ofAsk h

end Addition

/-! ## Classes -/

/-- Helpers that are written are of the kind of those that are asked for. -/
theorem Emission.Settles.forall_job {make : J → Addition J} {s t : Emission J}
    {hs : List (Helper J)} (h : Settles make s hs t) (hpending : ∀ x ∈ s.pending, P x.job)
    (hmake : ∀ j, P j → ∀ x ∈ (make j).asks, P x.job) : ∀ x ∈ hs, P x.job := by
  induction h with
  | done _ => exact fun _ hx => (nomatch hx)
  | @wave s t hs _ _ ih =>
    intro x hx
    rcases List.mem_append.1 hx with hx | hx
    · exact hpending x hx
    · refine ih (fun y hy => ?_) x hx
      rcases Emission.mem_pending_add hy with hy | ⟨hy, -⟩
      · cases hy
      · rw [waveAddition, Addition.asks_concat, List.flatMap_map] at hy
        obtain ⟨z, hz, hasked⟩ := List.mem_flatMap.1 hy
        exact hmake z.job (hpending z hz) y hasked

/-- A class is balanced where its methods are, and its helpers of the kind that is asked for. -/
theorem Dialect.Assembles.isBalanced {d : Dialect J} {s : Session} {f : ClassFrame}
    {x : Addition J} {make : J → Addition J} {c : GeneratedClass} (h : d.Assembles s f x make c)
    (hs : s.IsBalanced) (hf : f.IsPlain) (hbase : ∀ q ∈ d.baseImports, IsPlain q)
    (hx : x.IsBalanced P) (hmake : ∀ j, P j → (make j).IsBalanced P) :
    XmlBinding.IsBalanced c.source := by
  obtain ⟨hs', t, hset, rfl⟩ := h
  have hjobs : ∀ y ∈ hs', P y.job := by
    refine hset.forall_job (fun y hy => ?_) fun j hj => (hmake j hj).asks
    rcases Emission.mem_pending_add hy with hy | ⟨hy, -⟩
    · cases hy
    · rw [Addition.asks_append, Addition.asks_ofUses, List.nil_append] at hy
      exact hx.asks y hy
  have himports : ∀ i ∈ t.imports, IsPlain i := by
    intro i hi
    rcases hset.mem_imports.1 hi with hi | ⟨y, hy, hi⟩
    · rcases mem_imports_standing.1 hi with hi | hi
      · obtain ⟨q, hq, hi⟩ := List.mem_flatMap.1 hi
        exact Scope.IsBalanced.isPlain_usesOf (hbase q hq) i hi
      · exact hx.uses i hi
    · exact (hmake y.job (hjobs y hy)).uses i hi
  refine isBalanced_iff.2 fun k => ?_
  have hbody : excess k t.output = 1 := by
    have hhelpers : excess k (String.join (hs'.map fun y => (make y.job).text)) = 1 := by
      refine excess_join_eq_one fun l hl => ?_
      obtain ⟨y, hy, rfl⟩ := List.mem_map.1 hl
      exact (hmake y.job (hjobs y hy)).text.excess k
    rw [hset.output, standing, Emission.add_output, Addition.text_append, Addition.text_ofUses,
      String.empty_append, excess_append, excess_append, hx.text.excess k, hhelpers]
    rfl
  have hargs : ∀ a ∈ [f.className, f.entity.name], IsPlain a :=
    List.forall_mem_cons.2 ⟨hf.className, List.forall_mem_singleton.2 hf.entity.descriptor.name⟩
  exact d.style.excess_class hs.config hf.package hf.className himports hf.superclass
    hf.interfaces ((hs.classDoc hargs d.classDocKey d.style.classLevel).excess k) hbody

end XmlBinding
