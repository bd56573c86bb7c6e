import XmlBinding.Dialect
import XmlBinding.Proofs.Emission.Makes

/-!
# Emissions only grow

Whatever an action does and however it ends, it takes nothing back: the style is kept, one text goes
behind the output, and classes to import and helpers asked for are only added. Which text that is
does not depend on what has been written before.

* `Emission.Grows s t` : from `s` to `t` nothing but output and queue is lost;
* `Emit.Extends scope act` : `act` puts one text behind any output, and all else grows;
* `extends_look`, `extends_modify`, `Extends.bind`, `Extends.withStyle`, `Extends.capture` : what
  actions are made of; then one lemma for each action;
* `Emit.Extends.captures` : what is captured is what would have been written;
* `Emit.expression_captures` : an expression is what the writer of the value writes;
* `Dialect.Extends d` : the writers, the methods and the helpers of a dialect; `Extends.body` : what
  is made of them.
-/

namespace XmlBinding

variable {J α β : Type}

/-! ## Emissions -/

namespace Emission

/-- Nothing is taken back: the style is the same, and classes to import and helpers asked for are
only added. -/
structure Grows (s t : Emission J) : Prop where
  style : t.style = s.style
  imports : s.imports ⊆ t.imports
  requested : s.requested <+: t.requested

theorem Grows.refl (s : Emission J) : s.Grows s :=
  ⟨rfl, List.Subset.refl _, List.prefix_refl _⟩

theorem Grows.trans {s t u : Emission J} (h : s.Grows t) (h' : t.Grows u) : s.Grows u :=
  ⟨h'.style.trans h.style, List.Subset.trans h.imports h'.imports, h.requested.trans h'.requested⟩

end Emission

/-! ## Actions -/

namespace Emit

variable {scope : Scope}

/-- From every emission, an action has one result and puts one text behind the output, whatever has
been written before. All else only grows. -/
def Extends (scope : Scope) (act : Emit J α) : Prop :=
  ∀ s : Emission J, ∃ (r : Except Failure α) (t : Emission J) (text : String), s.Grows t ∧
    ∀ output, act scope { s with output } = (r, { t with output := output ++ text })

/-- An action that only looks at the emission, but not at the output. -/
theorem extends_of_result {act : Emit J α}
    (h : ∀ s : Emission J, ∃ r, ∀ output, act scope { s with output } = (r, { s with output })) :
    Extends scope act := by
  intro s
  obtain ⟨r, hr⟩ := h s
  exact ⟨r, s, "", .refl s, fun output => by rw [hr, String.append_empty]⟩

theorem extends_pure (a : α) : Extends scope (pure a : Emit J α) :=
  extends_of_result fun _ => ⟨.ok a, fun _ => rfl⟩

theorem extends_throw (failure : Failure) : Extends scope (throw failure : Emit J α) :=
  extends_of_result fun _ => ⟨.error failure, fun _ => rfl⟩

theorem extends_liftM (r : Except Failure α) : Extends scope (liftM r : Emit J α) := by
  refine extends_of_result fun _ => ⟨r, fun _ => ?_⟩
  cases r <;> rfl

theorem extends_read : Extends scope (read : Emit J Scope) :=
  extends_of_result fun _ => ⟨.ok scope, fun _ => rfl⟩

/-- A change that leaves the output alone. -/
theorem extends_modify {f : Emission J → Emission J}
    (hf : ∀ s output, f { s with output } = { f s with output })
    (hgrows : ∀ s : Emission J, s.Grows (f s)) :
    Extends scope (modify f : Emit J Unit) := by
  refine fun s => ⟨.ok (), f s, "", hgrows s, fun output => ?_⟩
  rw [String.append_empty, ← hf s output]
  rfl

theorem extends_write (text : String) : Extends scope (write text : Emit J Unit) :=
  fun s => ⟨.ok (), s, text, .refl s, fun _ => rfl⟩

theorem Extends.bind {act : Emit J α} {next : α → Emit J β} (h : Extends scope act)
    (h' : ∀ a, Extends scope (next a)) : Extends scope (act >>= next) := by
  intro s
  obtain ⟨r, t, text, hgrows, hact⟩ := h s
  cases r with
  | error failure =>
    refine ⟨.error failure, t, text, hgrows, fun output => ?_⟩
    rw [bind_apply, hact]
  | ok a =>
    obtain ⟨r, u, more, hmore, hnext⟩ := h' a t
    refine ⟨r, u, text ++ more, hgrows.trans hmore, fun output => ?_⟩
    rw [bind_apply, hact]
    dsimp only
    rw [hnext, String.append_assoc]

/-- An action behind a look at the emission that passes over the output. -/
theorem extends_look {next : Emission J → Emit J α}
    (hlook : ∀ s output, next { s with output } = next s) (h : ∀ s, Extends scope (next s)) :
    Extends scope (get >>= next) := by
  intro s
  obtain ⟨r, t, text, hgrows, hnext⟩ := h s s
  refine ⟨r, t, text, hgrows, fun output => ?_⟩
  rw [bind_apply, ← hnext, ← hlook s output]
  rfl

theorem Extends.ite {c : Prop} [Decidable c] {act other : Emit J α} (ht : Extends scope act)
    (hf : Extends scope other) : Extends scope (if c then act else other) := by
  split
  · exact ht
  · exact hf

theorem Extends.discard {act : Emit J α} (h : Extends scope act) :
    Extends scope (Functor.discard act) := by
  rw [discard_eq]
  exact h.bind fun _ => extends_pure ()

theorem extends_forM {act : β → Emit J Unit} {xs : List β} (h : ∀ x ∈ xs, Extends scope (act x)) :
    Extends scope (xs.forM act) := by
  induction xs with
  | nil => exact extends_pure ()
  | cons x xs ih =>
    exact (h x List.mem_cons_self).bind fun _ => ih fun y hy => h y (List.mem_cons_of_mem _ hy)

theorem Extends.withStyle {act : Emit J α} (h : Extends scope act) (style : AccessStyle) :
    Extends scope (Emit.withStyle style act) := by
  intro s
  obtain ⟨r, t, text, hgrows, hact⟩ := h { s with style }
  refine ⟨r, { t with style := s.style }, text, ⟨rfl, hgrows.imports, hgrows.requested⟩,
    fun output => ?_⟩
  have hrun := hact output
  dsimp only at hrun
  rw [withStyle_apply, hrun]

/-- What an action writes when it is captured is what it would have written. Output and style are as
they were, also where it fails. -/
theorem Extends.captures {act : Emit J α} (h : Extends scope act) (s : Emission J) :
    ∃ (r : Except Failure α) (t : Emission J) (text : String), s.Grows t ∧
      act scope s = (r, { t with output := s.output ++ text }) ∧
      capture act scope s = (r.map (·, text), { t with output := s.output }) := by
  obtain ⟨r, t, text, hgrows, hact⟩ := h s
  refine ⟨r, t, text, hgrows, hact s.output, ?_⟩
  rw [capture_apply, hact "", String.empty_append]

theorem Extends.capture {act : Emit J α} (h : Extends scope act) :
    Extends scope (Emit.capture act) := by
  intro s
  obtain ⟨r, t, text, hgrows, hact⟩ := h s
  refine ⟨r.map (·, text), t, "", hgrows, fun output => ?_⟩
  rw [capture_apply, hact "", String.empty_append, String.append_empty]

/-! ## Output -/

theorem extends_config : Extends scope (config : Emit J Config) :=
  extends_read.bind fun _ => extends_pure _

theorem extends_frame : Extends scope (frame : Emit J ClassFrame) :=
  extends_read.bind fun _ => extends_pure _

theorem extends_style : Extends scope (Emit.style : Emit J AccessStyle) :=
  extends_look (fun _ _ => rfl) fun s => extends_pure s.style

theorem extends_indent (level : Nat) : Extends scope (indent level : Emit J String) :=
  extends_config.bind fun _ => extends_pure _

theorem extends_line (level : Nat) (text : String) :
    Extends scope (line level text : Emit J Unit) :=
  (extends_indent level).bind fun _ => extends_write _

theorem extends_lines (level : Nat) (lines : List String) :
    Extends scope (lines.forM fun l => line level l : Emit J Unit) :=
  extends_forM fun l _ => extends_line level l

theorem extends_openBlock (level : Nat) (header : String) :
    Extends scope (openBlock level header : Emit J Unit) :=
  (extends_indent level).bind fun _ => extends_config.bind fun _ => extends_write _

theorem extends_closeBrace (level : Nat) : Extends scope (closeBrace level : Emit J Unit) :=
  extends_line level "\x7d"

/-! ## Imports and names -/

theorem extends_importClass (qualified : String) :
    Extends scope (importClass qualified : Emit J Unit) := by
  unfold importClass
  refine extends_frame.bind fun frame => Extends.ite (extends_pure ()) ?_
  refine extends_modify (fun _ _ => rfl) fun s => ⟨rfl, fun q hq => ?_, List.prefix_refl _⟩
  exact SortedMap.mem_insertSorted.2 (.inr hq)

theorem extends_importType (t : JavaType) : Extends scope (importType t : Emit J Unit) := by
  unfold importType
  cases t.importName? with
  | some qualified => exact extends_importClass qualified
  | none => exact extends_pure ()

theorem extends_javaRef (t : JavaType) : Extends scope (javaRef t : Emit J String) :=
  (extends_importType t).bind fun _ => extends_pure _

theorem extends_isEntity (t : JavaType) : Extends scope (isEntity t : Emit J Bool) :=
  extends_read.bind fun _ => extends_pure _

theorem extends_classRef (target : Target) (t : JavaType) :
    Extends scope (classRef target t : Emit J String) := by
  unfold classRef
  refine extends_read.bind fun sc => ?_
  dsimp only
  cases sc.session.entity? t with
  | none => exact extends_pure _
  | some entity =>
    refine (extends_liftM _).bind fun package => ?_
    exact (extends_importClass _).bind fun _ => extends_pure _

theorem extends_builderRef (t : JavaType) : Extends scope (builderRef t : Emit J String) :=
  extends_read.bind fun sc => extends_classRef sc.target t

theorem extends_methodName (key : String) (args : List String) :
    Extends scope (methodName key args : Emit J String) :=
  extends_read.bind fun _ => extends_liftM _

theorem extends_beginMethod (key : String) (nameArgs docArgs : List String) :
    Extends scope (beginMethod key nameArgs docArgs : Emit J String) := by
  unfold beginMethod
  refine (extends_methodName key nameArgs).bind fun name => extends_config.bind fun c => ?_
  refine extends_style.bind fun style => extends_read.bind fun sc => ?_
  exact (extends_write _).bind fun _ => extends_pure name

theorem extends_access (var : String) (p : Property) (lead tail : String)
    (placement : Option Placement) :
    Extends scope (access var p lead tail placement : Emit J Unit) := by
  unfold access
  refine extends_style.bind fun style => extends_config.bind fun c => ?_
  cases style.access? c var p lead tail placement with
  | some text => exact extends_write text
  | none => exact extends_pure ()

/-! ## Helpers -/

theorem extends_request (id : HelperId) (job : J) : Extends scope (request id job) := by
  unfold request
  refine extends_look (fun _ _ => rfl) fun s => ?_
  refine Extends.ite (extends_pure false) ((extends_modify (fun _ _ => rfl) fun s => ?_).bind
    fun _ => extends_pure true)
  exact ⟨rfl, List.Subset.refl _, List.prefix_append _ _⟩

/-- Call of a method of the builder of a type. -/
theorem extends_builderCall (t : JavaType) (key : String) (args : List String)
    {next : String → String → Emit J α}
    (h : ∀ builder method, Extends scope (next builder method)) :
    Extends scope
      (builderRef t >>= fun builder => methodName key args >>= fun method => next builder method) :=
  (extends_builderRef t).bind fun builder =>
    (extends_methodName key args).bind fun method => h builder method

/-- Call of a helper, which is asked for. -/
theorem extends_helperCall (key : String) (args : List String) (id : HelperId) (job : J)
    {next : String → Emit J α} (h : ∀ name, Extends scope (next name)) :
    Extends scope (methodName key args >>= fun name =>
      Functor.discard (request id job) >>= fun _ => next name) :=
  (extends_methodName key args).bind fun name =>
    (extends_request id job).discard.bind fun _ => h name

/-- Helpers are written in waves, each taken from the queue as a whole. -/
theorem extends_drainWaves {run : J → Emit J Unit} (h : ∀ job, Extends scope (run job))
    (waves : Nat) : Extends scope (drainWaves run waves) := by
  induction waves with
  | zero =>
    unfold drainWaves
    exact extends_look (fun _ _ => rfl) fun s => Extends.ite (extends_pure 0) (extends_throw _)
  | succ waves ih =>
    unfold drainWaves
    have htake : Extends scope (takePending : Emit J (List (Helper J))) := fun s =>
      ⟨.ok s.pending, { s with pending := [] }, "", ⟨rfl, List.Subset.refl _, List.prefix_refl _⟩,
        fun output => by rw [String.append_empty]; rfl⟩
    refine extends_look (fun _ _ => rfl) fun s =>
      Extends.ite (extends_pure 0) (htake.bind fun wave => ?_)
    refine (extends_forM fun helper _ => h helper.job).bind fun _ => ?_
    exact ih.bind fun count => extends_pure _

/-! ## Properties -/

section Property
variable {r : PropertyRegistry J} (hr : ∀ w ∈ r.writers, ∀ var p, Extends scope (w.emit var p))
include hr

theorem extends_writeProperty (var : String) (p : Property) (d : Direction) :
    Extends scope (writeProperty r var p d) := by
  unfold writeProperty
  refine Extends.ite (extends_pure ()) ?_
  refine extends_read.bind fun sc => extends_style.bind fun style => ?_
  cases hw : r.dispatch? sc.session style p with
  | none => exact extends_pure ()
  | some w => exact hr w (List.mem_of_find?_eq_some hw) var p

theorem extends_writeProperties (var : String) (ps : List Property) (d : Direction) :
    Extends scope (writeProperties r var ps d) :=
  extends_forM fun p _ => extends_writeProperty hr var p d

theorem extends_expression (style : AccessStyle) (var : String) (t : JavaType) :
    Extends scope (expression r style var t) := by
  unfold expression
  refine extends_read.bind fun sc => ?_
  exact ((extends_writeProperty hr var _ _).capture.withStyle style).bind fun x => extends_pure x.2

/-- An expression is what the writer of the value writes in the style of the expression. Output and
style are as they were, also where the writer fails. -/
theorem expression_captures (style : AccessStyle) (var : String) (t : JavaType) (s : Emission J) :
    ∃ (failed : Except Failure Unit) (u : Emission J) (text : String), s.Grows u ∧
      writeProperty r var (scope.session.synthetic t) .serverRead scope { s with style } =
        (failed, { u with style, output := s.output ++ text }) ∧
      expression r style var t scope s =
        (failed.map fun _ => text, { u with output := s.output }) := by
  obtain ⟨failed, u, text, hgrows, hwrite, hcapture⟩ :=
    (extends_writeProperty hr var (scope.session.synthetic t) .serverRead).captures { s with style }
  refine ⟨failed, { u with style := s.style }, text,
    ⟨rfl, hgrows.imports, hgrows.requested⟩, ?_, ?_⟩
  · rw [hwrite]
    have hstyle : u.style = style := hgrows.style
    rw [← hstyle]
  · unfold expression
    rw [bind_apply]
    show (Emit.withStyle style (capture (writeProperty r var (scope.session.synthetic t)
      .serverRead)) >>= fun x => pure x.2) scope s = _
    rw [bind_apply, withStyle_apply, hcapture]
    cases failed <;> rfl

end Property

end Emit

/-! ## Dialects -/

/-- A dialect whose writers, methods and helpers take nothing back, in any scope. -/
structure Dialect.Extends (d : Dialect J) : Prop where
  readers : ∀ w ∈ d.readers.writers, ∀ scope var p, Emit.Extends scope (w.emit var p)
  elements : ∀ w ∈ d.elements.writers, ∀ scope var p, Emit.Extends scope (w.emit var p)
  methods : ∀ w ∈ d.methods.writers, ∀ scope, Emit.Extends scope w.emit
  run : ∀ job scope, Emit.Extends scope (d.run job)

/-- The body of a class takes nothing back. -/
theorem Dialect.Extends.body {d : Dialect J} (h : d.Extends) (scope : Scope) :
    Emit.Extends scope d.body := by
  unfold Dialect.body Emit.drain
  refine (Emit.extends_forM fun q _ => Emit.extends_importClass q).bind fun _ => ?_
  refine (Emit.extends_forM fun w hw => h.methods w hw scope).bind fun _ => ?_
  exact (Emit.extends_drainWaves (fun job => h.run job scope) _).discard

end XmlBinding
