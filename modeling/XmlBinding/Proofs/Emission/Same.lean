import XmlBinding.Dialect
import XmlBinding.Proofs.Emission.Body
import XmlBinding.Proofs.Side

/-!
# Actions that do the same in two scopes

* `Emit.Same a b act act'` : from every emission, `act` does in `a` what `act'` does in `b`,
  failures included;
* `Same.bind`, `same_forM` : actions in a row; then one lemma for each action, for scopes that are
  alike on a side;
* `PropertyWriter.Regards side w` : `w` treats alike properties alike; `same_writeProperties`,
  `same_expression` : so do the registries of such writers;
* `Dialect.Regards side d`, `render_congr` : alike frames have one class.
-/

namespace XmlBinding

namespace Emit

variable {J α β γ : Type} {side : Side} {a b : Scope}

/-- From every emission, two actions do the same in two scopes. -/
def Same (a b : Scope) (act act' : Emit J α) : Prop := ∀ s : Emission J, act a s = act' b s

theorem Same.bind {act act' : Emit J α} {next next' : α → Emit J β} (h : Same a b act act')
    (hnext : ∀ x, Same a b (next x) (next' x)) : Same a b (act >>= next) (act' >>= next') := by
  intro s
  rw [bind_apply, bind_apply, h s]
  cases act' b s with
  | mk r t =>
    cases r with
    | error failure => rfl
    | ok x => exact hnext x t

/-- Actions behind a look at the scope. -/
theorem Same.bind_read {next next' : Scope → Emit J α} (h : Same a b (next a) (next' b)) :
    Same a b (read >>= next) (read >>= next') := by
  intro s
  rw [bind_apply, bind_apply]
  exact h s

/-- Actions behind a look at the class at hand. -/
theorem Same.bind_frame {next next' : ClassFrame → Emit J α}
    (h : Same a b (next a.frame) (next' b.frame)) :
    Same a b (frame >>= next) (frame >>= next') := by
  intro s
  rw [bind_apply, bind_apply]
  exact h s

/-- Actions behind a look at the configuration. -/
theorem Same.bind_config {next next' : Config → Emit J α}
    (h : Same a b (next a.session.config) (next' b.session.config)) :
    Same a b (config >>= next) (config >>= next') := by
  intro s
  rw [bind_apply, bind_apply]
  exact h s

theorem same_pure (x : α) : Same a b (pure x : Emit J α) (pure x) := fun _ => rfl

/-- Nothing behind a failure is done. -/
theorem same_throw (failure : Failure) (next next' : α → Emit J β) :
    Same a b (throw failure >>= next) (throw failure >>= next') := by
  intro s
  rw [bind_apply, bind_apply]
  rfl

theorem Same.ite {c : Bool} {act act' other other' : Emit J α} (ht : Same a b act act')
    (hf : Same a b other other') :
    Same a b (if c = true then act else other) (if c = true then act' else other') := by
  cases c
  · exact hf
  · exact ht

/-- Rows of actions, one for each pair of two lists. -/
theorem same_forM {R : β → γ → Prop} {act : β → Emit J Unit} {act' : γ → Emit J Unit}
    (h : ∀ x y, R x y → Same a b (act x) (act' y)) {xs : List β} {ys : List γ}
    (hxs : List.Forall₂ R xs ys) : Same a b (xs.forM act) (ys.forM act') := by
  induction hxs with
  | nil => exact same_pure ()
  | cons hxy _ ih => exact (h _ _ hxy).bind fun _ => ih

/-- A row of actions that each do the same. -/
theorem same_forM_self {act act' : β → Emit J Unit} {xs : List β}
    (h : ∀ x ∈ xs, Same a b (act x) (act' x)) : Same a b (xs.forM act) (xs.forM act') := by
  induction xs with
  | nil => exact same_pure ()
  | cons x xs ih =>
    exact (h x List.mem_cons_self).bind fun _ => ih fun y hy => h y (List.mem_cons_of_mem _ hy)

theorem Same.discard {act act' : Emit J α} (h : Same a b act act') :
    Same a b (Functor.discard act) (Functor.discard act') := by
  rw [discard_eq, discard_eq]
  exact h.bind fun _ => same_pure ()

theorem same_get : Same a b (get : Emit J (Emission J)) get := fun _ => rfl

theorem same_style : Same a b (Emit.style : Emit J AccessStyle) Emit.style := fun _ => rfl

theorem same_write (text : String) : Same a b (write text : Emit J Unit) (write text) :=
  fun _ => rfl

theorem same_request (id : HelperId) (job : J) :
    Same a b (Functor.discard (request id job)) (Functor.discard (request id job)) := by
  refine Same.discard fun s => ?_
  rw [request_apply, request_apply]

theorem Same.withStyle {act act' : Emit J α} (h : Same a b act act') (style : AccessStyle) :
    Same a b (Emit.withStyle style act) (Emit.withStyle style act') := by
  intro s
  rw [withStyle_apply, withStyle_apply, h]

theorem Same.capture {act act' : Emit J α} (h : Same a b act act') :
    Same a b (Emit.capture act) (Emit.capture act') := by
  intro s
  rw [capture_apply, capture_apply, h]

/-- Helpers whose jobs do the same are written alike. -/
theorem same_drainWaves {run : J → Emit J Unit} (h : ∀ job, Same a b (run job) (run job))
    (waves : Nat) : Same a b (drainWaves run waves) (drainWaves run waves) := by
  induction waves with
  | zero =>
    unfold drainWaves
    have hthrow : Same a b (throw (.helperExpansionLimit maxWaves) : Emit J Nat)
        (throw (.helperExpansionLimit maxWaves)) := fun _ => rfl
    exact same_get.bind fun s => Same.ite (same_pure 0) hthrow
  | succ waves ih =>
    unfold drainWaves
    have htake : Same a b (takePending : Emit J (List (Helper J))) takePending := fun _ => rfl
    refine same_get.bind fun s => Same.ite (same_pure 0) ?_
    refine htake.bind fun wave => ?_
    refine (same_forM_self fun helper _ => h helper.job).bind fun _ => ?_
    exact ih.bind fun count => same_pure _

/-! ## Scopes that are alike -/

section Alike
variable (h : a.AlikeOn side b)
include h

theorem same_indent (level : Nat) : Same a b (indent level : Emit J String) (indent level) := by
  unfold indent
  refine Same.bind_config ?_
  rw [h.session.indent]
  exact same_pure _

theorem same_line (level : Nat) (text : String) :
    Same a b (line level text : Emit J Unit) (line level text) :=
  (same_indent h level).bind fun _ => same_write _

theorem same_lines (level : Nat) (lines : List String) :
    Same a b (lines.forM fun l => line level l : Emit J Unit) (lines.forM fun l => line level l) :=
  same_forM_self fun l _ => same_line h level l

theorem same_openBlock (level : Nat) (header : String) :
    Same a b (openBlock level header : Emit J Unit) (openBlock level header) := by
  unfold openBlock
  refine (same_indent h level).bind fun indent => Same.bind_config ?_
  rw [h.session.openBrace]
  exact same_write _

theorem same_closeBrace (level : Nat) :
    Same a b (closeBrace level : Emit J Unit) (closeBrace level) :=
  same_line h level "\x7d"

/-! ## Imports and names -/

theorem same_importClass (qualified : String) :
    Same a b (importClass qualified : Emit J Unit) (importClass qualified) := by
  unfold importClass
  refine Same.bind_frame ?_
  rw [h.frame.package]
  have hmodify : Same a b
      (modify fun s => { s with imports := insertSorted qualified s.imports } : Emit J Unit)
      (modify fun s => { s with imports := insertSorted qualified s.imports }) := fun _ => rfl
  exact Same.ite (same_pure ()) hmodify

theorem same_importType (t : JavaType) :
    Same a b (importType t : Emit J Unit) (importType t) := by
  unfold importType
  cases t.importName? with
  | some qualified => exact same_importClass h qualified
  | none => exact same_pure ()

theorem same_javaRef (t : JavaType) : Same a b (javaRef t : Emit J String) (javaRef t) :=
  (same_importType h t).bind fun _ => same_pure _

theorem same_isEntity (t : JavaType) : Same a b (isEntity t : Emit J Bool) (isEntity t) := by
  unfold isEntity
  refine Same.bind_read ?_
  rw [h.session.isEntity]
  exact same_pure _

theorem same_classRef {target : Target} (ht : target.side = side) (t : JavaType) :
    Same a b (classRef target t : Emit J String) (classRef target t) := by
  unfold classRef
  refine Same.bind_read ?_
  dsimp only
  rcases h.session.entity?_cases t with ⟨ha, hb⟩ | ⟨e, e', ha, hb, he⟩
  · rw [ha, hb]
    exact same_pure _
  · rw [ha, hb]
    dsimp only
    rw [he.packageFor target ht, he.className target ht]
    have hlift : Same a b (liftM (b.session.packageFor e' target) : Emit J String)
        (liftM (b.session.packageFor e' target)) := fun _ => rfl
    refine hlift.bind fun package => ?_
    exact (same_importClass h _).bind fun _ => same_pure _

theorem same_builderRef (t : JavaType) :
    Same a b (builderRef t : Emit J String) (builderRef t) := by
  unfold builderRef
  refine Same.bind_read ?_
  rw [h.target]
  exact same_classRef h h.side t

theorem same_methodName (key : String) (args : List String) :
    Same a b (methodName key args : Emit J String) (methodName key args) := by
  unfold methodName
  refine Same.bind_read ?_
  rw [h.session.catalog]
  exact fun _ => rfl

/-- Call of a method of the builder of a type. -/
theorem same_builderCall (t : JavaType) (key : String) (args : List String)
    {next next' : String → String → Emit J α}
    (hnext : ∀ builder method, Same a b (next builder method) (next' builder method)) :
    Same a b (builderRef t >>= fun builder => methodName key args >>= next builder)
      (builderRef t >>= fun builder => methodName key args >>= next' builder) :=
  (same_builderRef h t).bind fun builder =>
    (same_methodName h key args).bind fun method => hnext builder method

/-- Call of a helper, which is asked for. -/
theorem same_helperCall (key : String) (args : List String) (id : HelperId) (job : J)
    {next next' : String → Emit J α} (hnext : ∀ name, Same a b (next name) (next' name)) :
    Same a b
      (methodName key args >>= fun name => Functor.discard (request id job) >>= fun _ => next name)
      (methodName key args >>= fun name =>
        Functor.discard (request id job) >>= fun _ => next' name) :=
  (same_methodName h key args).bind fun name =>
    (same_request id job).bind fun _ => hnext name

theorem same_beginMethod (key : String) (nameArgs docArgs : List String) :
    Same a b (beginMethod key nameArgs docArgs : Emit J String)
      (beginMethod key nameArgs docArgs) := by
  have hdoc (level : Nat) : (fun doc => docComment a.session.config doc level) =
      fun doc => docComment b.session.config doc level := by
    funext doc
    exact h.session.docComment doc level
  unfold beginMethod
  refine (same_methodName h key nameArgs).bind fun name => Same.bind_config ?_
  refine same_style.bind fun style => Same.bind_read ?_
  dsimp only
  rw [h.session.catalog, hdoc]
  exact (same_write _).bind fun _ => same_pure name

/-! ## Properties -/

theorem same_access {p p' : Property} (hp : p.AlikeOn side p') (var lead tail : String)
    (placement : Option Placement) :
    Same a b (access var p lead tail placement : Emit J Unit)
      (access var p' lead tail placement) := by
  unfold access
  refine same_style.bind fun style => ?_
  have htext : style.access? a.session.config var p lead tail placement =
      style.access? b.session.config var p' lead tail placement := by
    unfold AccessStyle.access?
    cases style with
    | dom4j => simp only [h.session.indent, hp.setter, hp.node]
    | as3 => simp only [h.session.indent, hp.isReadOnly, hp.name, hp.node]
    | dom4jText => rfl
    | dom4jKey => rfl
    | as3Text => rfl
  refine Same.bind_config ?_
  rw [htext]
  cases style.access? b.session.config var p' lead tail placement with
  | some text => exact same_write text
  | none => exact same_pure ()

end Alike

end Emit

/-! ## Writers -/

/-- A writer that treats properties alike where a side does not tell them apart. -/
structure PropertyWriter.Regards {J : Type} (side : Side) (w : PropertyWriter J) : Prop where
  accepts : ∀ {s s' : Session} {p p' : Property}, s.AlikeOn side s' → p.AlikeOn side p' →
    ∀ style, w.accepts s style p = w.accepts s' style p'
  emit : ∀ {a b : Scope} {p p' : Property}, a.AlikeOn side b → p.AlikeOn side p' →
    ∀ var, Emit.Same a b (w.emit var p) (w.emit var p')

theorem PropertyRegistry.dispatch?_congr {J : Type} {side : Side} {r : PropertyRegistry J}
    (hr : ∀ w ∈ r.writers, w.Regards side) {s s' : Session} {p p' : Property}
    (hs : s.AlikeOn side s') (hp : p.AlikeOn side p') (style : AccessStyle) :
    r.dispatch? s style p = r.dispatch? s' style p' := by
  unfold dispatch?
  generalize r.writers = ws at hr
  induction ws with
  | nil => rfl
  | cons w ws ih =>
    rw [List.find?_cons, List.find?_cons, (hr w List.mem_cons_self).accepts hs hp,
      ih fun w hw => hr w (List.mem_cons_of_mem _ hw)]

namespace Emit

section Writers
variable {J : Type} {side : Side} {a b : Scope} {r : PropertyRegistry J}
variable (hr : ∀ w ∈ r.writers, w.Regards side) (h : a.AlikeOn side b)
include hr h

theorem same_writeProperty {p p' : Property} (hp : p.AlikeOn side p') {d : Direction}
    (hd : p.isLazy d = p'.isLazy d) (var : String) :
    Same a b (writeProperty r var p d) (writeProperty r var p' d) := by
  intro s
  -- Both properties take part or neither does, and both go to one writer.
  have hpart : p.takesPart d = p'.takesPart d := by
    unfold Property.takesPart
    rw [hd, hp.isHidden]
  rw [writeProperty_apply, writeProperty_apply, hpart,
    PropertyRegistry.dispatch?_congr hr h.session hp]
  cases hw : r.dispatch? b.session s.style p' with
  | none => rfl
  | some w =>
    have hmem : w ∈ r.writers := List.mem_of_find?_eq_some hw
    dsimp only
    rw [(hr w hmem).emit h hp var s]

theorem same_writeProperties {ps ps' : List Property}
    (hps : List.Forall₂ (Property.AlikeOn side) ps ps') {d : Direction} (hd : d.side = side)
    (var : String) :
    Same a b (writeProperties r var ps d) (writeProperties r var ps' d) :=
  same_forM (R := Property.AlikeOn side)
    (fun _ _ hp => same_writeProperty hr h hp (hp.isLazy d hd) var) hps

/-- What stands for a value is never lazy, so the direction does not matter. -/
theorem same_expression (style : AccessStyle) (var : String) (t : JavaType) :
    Same a b (expression r style var t) (expression r style var t) := by
  unfold expression
  refine Same.bind_read ?_
  have hwrite : Same a b (writeProperty r var (a.session.synthetic t) .serverRead)
      (writeProperty r var (b.session.synthetic t) .serverRead) :=
    same_writeProperty hr h (h.session.synthetic t) rfl var
  exact (hwrite.capture.withStyle style).bind fun x => same_pure x.2

end Writers

end Emit

/-! ## Dialects -/

/-- A dialect of a side whose classes show only what that side sees. -/
structure Dialect.Regards {J : Type} (side : Side) (d : Dialect J) : Prop where
  target : d.target.side = side
  methods : ∀ w ∈ d.methods.writers, ∀ {a b : Scope}, a.AlikeOn side b → Emit.Same a b w.emit w.emit
  run : ∀ (job : J) {a b : Scope}, a.AlikeOn side b → Emit.Same a b (d.run job) (d.run job)

namespace Dialect

variable {J : Type} {side : Side} {d : Dialect J}

theorem Regards.body (hd : d.Regards side) {a b : Scope} (h : a.AlikeOn side b) :
    Emit.Same a b d.body d.body := by
  unfold Dialect.body Emit.drain
  refine (Emit.same_forM_self fun q _ => Emit.same_importClass h q).bind fun _ => ?_
  refine (Emit.same_forM_self fun w hw => hd.methods w hw h).bind fun _ => ?_
  exact (Emit.same_drainWaves (fun job => hd.run job h) _).discard

theorem assemble_congr (d : Dialect J) {s s' : Session} {f f' : ClassFrame}
    (hs : s.AlikeOn side s') (hf : f.AlikeOn side f') (imports : List String) (body : String) :
    d.assemble s f imports body = d.assemble s' f' imports body := by
  have hindent : s.config.indent = s'.config.indent := funext hs.indent
  have hbrace : s.config.openBrace = s'.config.openBrace := funext hs.openBrace
  have hdoc : docComment s.config = docComment s'.config := by
    funext text level
    exact hs.docComment text level
  unfold assemble AccessStyle.packageHeader AccessStyle.classHeader AccessStyle.classFooter
  simp only [hindent, hbrace, hdoc, hs.catalog, hf.entity, hf.package, hf.className, hf.superclass,
    hf.interfaces]

/-- Alike frames of alike sessions have one class or fail alike. -/
theorem Regards.render_congr (hd : d.Regards side) {s s' : Session} {f f' : ClassFrame}
    (hs : s.AlikeOn side s') (hf : f.AlikeOn side f') : d.render s f = d.render s' f' := by
  have hbody := hd.body (a := ⟨s, f, d.target⟩) (b := ⟨s', f', d.target⟩)
    ⟨hs, hf, rfl, hd.target⟩ (.start d.style)
  rw [render_eq, render_eq, hbody]
  congr 1
  funext _
  exact d.assemble_congr hs hf _ _

end Dialect

end XmlBinding
