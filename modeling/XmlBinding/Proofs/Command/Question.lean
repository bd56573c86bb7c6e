import XmlBinding.Command

/-!
# Questions to a machine

Up to the generation a command only asks: it reads files and looks into directories. Where the
questions of a machine leave its state as it is, so does everything that a command does until then.

* `Asks act` : an action leaves the state as it is; `Asks.andThen`, `asks_foldlM`, … : actions in a
  row;
* `run_andThen`, `exists_of_run_andThen`, `Command.run_during` : the run of actions in a row;
* `Host.Answers` : a machine whose questions leave its state as it is;
* `Command.gathered`, `Command.buildGenerator_eq` : the steps from the inputs to a generator;
* `Host.Answers.loadConfig`, `Host.Answers.buildGenerator` : a command asks for its inputs.
-/

namespace XmlBinding

variable {α β ε σ : Type}

/-! ## Questions -/

/-- An action that leaves the state as it is. -/
def Asks (act : StateM σ α) : Prop := ∀ w, (act.run w).2 = w

theorem asks_pure (a : α) : Asks (pure a : StateM σ α) := fun _ => rfl

theorem Asks.bind {act : StateM σ α} {next : α → StateM σ β} (h : Asks act)
    (h' : ∀ a, Asks (next a)) : Asks (act >>= next) := by
  intro w
  show ((next (act.run w).1).run (act.run w).2).2 = w
  rw [h' _ _, h]

theorem asks_filterM {test : α → StateM σ Bool} (h : ∀ a, Asks (test a)) (l : List α) :
    Asks (l.filterM test) := by
  have haux (acc : List α) : Asks (l.filterAuxM test acc) := by
    induction l generalizing acc with
    | nil => exact asks_pure acc
    | cons a l ih => exact (h a).bind fun b => ih _
  exact (haux []).bind fun kept => asks_pure _

section Failing
variable {act : ExceptT ε (StateM σ) α} {next : α → ExceptT ε (StateM σ) β}

theorem Asks.lift {act : StateM σ α} (h : Asks act) :
    Asks (liftM act : ExceptT ε (StateM σ) α).run := h

theorem asks_return (a : α) : Asks (pure a : ExceptT ε (StateM σ) α).run := fun _ => rfl

theorem asks_throw (e : ε) : Asks (throw e : ExceptT ε (StateM σ) α).run := fun _ => rfl

theorem Asks.andThen (h : Asks act.run) (h' : ∀ a, Asks (next a).run) :
    Asks (act >>= next).run := by
  rw [ExceptT.run_bind]
  refine Asks.bind h fun r => ?_
  cases r with
  | ok a => exact h' a
  | error e => exact asks_pure _

theorem asks_foldlM {step : β → α → ExceptT ε (StateM σ) β} (h : ∀ b a, Asks (step b a).run)
    (l : List α) (b : β) : Asks (l.foldlM step b).run := by
  induction l generalizing b with
  | nil => exact asks_pure _
  | cons a l ih =>
    rw [List.foldlM_cons]
    exact (h b a).andThen ih

theorem asks_mapM {act : α → ExceptT ε (StateM σ) β} (h : ∀ a, Asks (act a).run) (l : List α) :
    Asks (l.mapM act).run := by
  induction l with
  | nil => exact asks_return []
  | cons a l ih =>
    rw [List.mapM_cons]
    exact (h a).andThen fun b => ih.andThen fun bs => asks_return _

/-- Actions in a row succeed where each does, from where the one before it ends. -/
theorem run_andThen_eq_ok_iff {act : ExceptT ε (StateM σ) Unit} {next : ExceptT ε (StateM σ) β}
    {b : β} {w : σ} :
    ((act >>= fun _ => next).run.run w).1 = .ok b ↔
      (act.run.run w).1 = .ok () ∧ (next.run.run (act.run.run w).2).1 = .ok b := by
  rw [ExceptT.run_bind, StateT.run_bind]
  cases act.run.run w with
  | mk r w' =>
    cases r with
    | ok _ => exact (and_iff_right rfl).symm
    | error fault => exact iff_of_false nofun fun h => nomatch h.1

/-- A fault ends actions in a row. -/
theorem run_andThen_error {fault : ε} {w w' : σ} (h : act.run.run w = (.error fault, w')) :
    (act >>= next).run.run w = (.error fault, w') := by
  rw [ExceptT.run_bind, StateT.run_bind, h]
  rfl

/-- An action goes on where the one before it has a result. -/
theorem run_andThen {a : α} {w w' : σ} (h : act.run.run w = (.ok a, w')) :
    (act >>= next).run.run w = (next a).run.run w' := by
  rw [ExceptT.run_bind, StateT.run_bind, h]
  rfl

theorem exists_of_run_andThen {b : β} {w w' : σ} (h : (act >>= next).run.run w = (.ok b, w')) :
    ∃ a w₁, act.run.run w = (.ok a, w₁) ∧ (next a).run.run w₁ = (.ok b, w') := by
  rw [ExceptT.run_bind, StateT.run_bind] at h
  cases hact : act.run.run w with
  | mk r w₁ =>
    rw [hact] at h
    cases r with
    | error e => cases h
    | ok a => exact ⟨a, w₁, rfl, h⟩

end Failing

/-- The questions of a machine leave its state as it is. -/
structure Host.Answers (host : Host (StateM σ)) : Prop where
  read : ∀ p, Asks (host.read p)
  isFile : ∀ p, Asks (host.isFile p)
  isDirectory : ∀ p, Asks (host.isDirectory p)
  list : ∀ p, Asks (host.list p)

theorem World.answers_host : World.host.Answers where
  read _ _ := rfl
  isFile _ _ := rfl
  isDirectory _ _ := rfl
  list _ _ := rfl

theorem Asks.during {act : ExceptT Failure (StateM σ) α} (h : Asks act.run)
    (stage : Command.Stage) : Asks (Command.during stage act).run := by
  refine Asks.andThen (Asks.lift h) fun r => ?_
  cases r with
  | ok a => exact asks_return a
  | error cause => exact asks_throw _

theorem Command.run_during {act : ExceptT Failure (StateM σ) α} {a : α} {w w' : σ}
    (stage : Command.Stage) (h : act.run.run w = (.ok a, w')) :
    (during stage act).run.run w = (.ok a, w') := by
  have hlift : (liftM act.run : Run (StateM σ) (Except Failure α)).run.run w = (.ok (.ok a), w') :=
    congrArg (fun out : Except Failure α × σ => (Except.ok out.1, out.2)) h
  unfold during
  rw [run_andThen hlift]
  rfl

theorem Command.run_register {adding : StateM σ (Except Failure Nat × Generator)} {count : Nat}
    {g : Generator} {w w' : σ} (stage : Command.Stage)
    (h : adding.run w = ((.ok count, g), w')) :
    (register stage adding).run.run w = (.ok g, w') := by
  have hlift : (liftM adding : Run (StateM σ) (Except Failure Nat × Generator)).run.run w =
      (.ok (.ok count, g), w') :=
    congrArg (fun out : (Except Failure Nat × Generator) × σ => (Except.ok out.1, out.2)) h
  unfold register
  rw [run_andThen hlift]
  rfl

theorem Asks.addRead {reading : ExceptT Failure (StateM σ) (List EntityDescriptor)}
    (h : Asks reading.run) (g : Generator) : Asks (g.addRead reading) := by
  refine h.bind fun r => ?_
  cases r <;> exact asks_pure _

theorem Asks.register {adding : StateM σ (Except Failure Nat × Generator)} (h : Asks adding)
    (stage : Command.Stage) : Asks (Command.register stage adding).run := by
  refine h.lift.andThen fun out => ?_
  obtain ⟨r, g⟩ := out
  cases r with
  | ok count => exact asks_return g
  | error cause => exact asks_throw _

namespace Host.Answers

variable {host : Host (StateM σ)}

theorem readText (hh : host.Answers) (p : Path) : Asks (Source.readText host p).run := by
  refine (hh.read p).lift.andThen fun r => ?_
  cases r with
  | ok text => exact asks_return text
  | error fault => exact asks_throw _

theorem readDescriptors (hh : host.Answers) (p : Path) :
    Asks (Source.readDescriptors host p).run := by
  refine (hh.readText p).andThen fun text => ?_
  cases Descriptor.parse text host.toml with
  | ok descriptors => exact asks_return descriptors
  | error fault => exact asks_throw _

theorem readConfig (hh : host.Answers) (p : Path) : Asks (Source.readConfig host p).run := by
  refine (hh.readText p).andThen fun text => ?_
  cases Config.parse text host.toml with
  | ok config => exact asks_return config
  | error failure => exact asks_throw failure

theorem readBundle (hh : host.Answers) (p : Path) : Asks (Source.readBundle host p).run := by
  refine (hh.readText p).andThen fun text => ?_
  cases Catalog.Bundle.parse text host.toml with
  | ok bundle => exact asks_return bundle
  | error fault => exact asks_throw _

theorem newGenerator (hh : host.Answers) (config : Config) :
    Asks (Source.newGenerator host config).run := by
  unfold Source.newGenerator
  cases config.validate with
  | error fault => exact asks_throw _
  | ok _ =>
    cases config.documentation with
    | none => exact asks_return _
    | some p => exact (hh.readBundle p).andThen fun bundle => asks_return _

theorem candidate (hh : host.Answers) (package : String) (dir : Path) (name : String) :
    Asks (ClassPath.candidate host package dir name) := by
  refine (hh.readDescriptors _).bind fun r => ?_
  cases r <;> exact asks_pure _

theorem descriptorNames (hh : host.Answers) (dir : Path) (names : List String) :
    Asks (ClassPath.descriptorNames host dir names) := by
  refine (asks_filterM (fun name => ?_) names).bind fun files => asks_pure _
  split
  · exact hh.isFile _
  · exact asks_pure false

theorem scan (hh : host.Answers) (c : ClassPath) (package : String) :
    Asks (ClassPath.scan host c package).run := by
  refine (hh.isDirectory _).lift.andThen fun there => ?_
  cases there with
  | false => exact asks_throw _
  | true =>
    refine (hh.list _).lift.andThen fun r => ?_
    cases r with
    | error fault => exact asks_throw _
    | ok names =>
      refine (hh.descriptorNames _ names).lift.andThen fun files => ?_
      exact (asks_mapM (fun name => (hh.candidate _ _ name).lift) files).andThen
        fun found => asks_return _

open Command

theorem loadConfig (hh : host.Answers) (inputs : InputArgs) :
    Asks (loadConfig host inputs).run := by
  unfold Command.loadConfig
  cases inputs.config with
  | some path => exact (hh.readConfig path).during _
  | none =>
    refine (hh.isFile _).lift.andThen fun there => ?_
    cases there with
    | true => exact (hh.readConfig _).during _
    | false => exact asks_return _

theorem addFile (hh : host.Answers) (g : Generator) (p : Path) : Asks (g.addFile host p) :=
  (hh.readDescriptors p).addRead g

theorem addPackage (hh : host.Answers) (g : Generator) (c : ClassPath) (package : String) :
    Asks (g.addPackage host c package) :=
  (hh.scan c package).addRead g

end Host.Answers

/-! ## Inputs -/

namespace Command

section Monadic
variable {m : Type → Type} [Monad m]

/-- The generator with the entities of descriptor files. -/
def addFiles (host : Host m) (files : List Path) (g : Generator) : Run m Generator :=
  files.foldlM (fun g path => register (.loadingDescriptor path) (g.addFile host path)) g

def addPackages (host : Host m) (classPath : Option Path) (packages : List String) (g : Generator) :
    Run m Generator :=
  match classPath with
  | none => pure g
  | some root =>
    packages.foldlM
      (fun g package => register (.scanning package) (g.addPackage host ⟨root⟩ package)) g

/-- Refuses a generator without entities. -/
def peopled (g : Generator) : Run m Generator :=
  if g.session.entities.entries.isEmpty then throw .nothingToGenerate else pure g

/-- The generator of a command that names inputs. -/
def gathered (host : Host m) (inputs : InputArgs) (config : Config) : Run m Generator := do
  let g ← during .validating (Source.newGenerator host config)
  let g ← addFiles host inputs.files g.withAllHandlers
  let g ← addPackages host inputs.classPath inputs.packages g
  peopled g

theorem throw_bind [LawfulMonad m] {ε α β : Type} (e : ε) (next : α → ExceptT ε m β) :
    throw e >>= next = throw e := by
  apply ExceptT.ext
  rw [ExceptT.run_bind]
  exact pure_bind (Except.error e) _

theorem buildGenerator_eq [LawfulMonad m] (host : Host m) (inputs : InputArgs) (config : Config) :
    buildGenerator host inputs config =
      if inputs.files.isEmpty && inputs.packages.isEmpty then throw .noInputs
      else gathered host inputs config := by
  unfold buildGenerator gathered
  simp only [throw_bind]
  refine ite_congr rfl (fun _ => rfl) fun _ => ?_
  refine bind_congr fun g => bind_congr fun g => ?_
  cases inputs.classPath <;> rfl

end Monadic

end Command

namespace Host.Answers

open Command

variable {host : Host (StateM σ)}

theorem addFiles (hh : host.Answers) (files : List Path) (g : Generator) :
    Asks (addFiles host files g).run :=
  asks_foldlM (fun g path => (hh.addFile g path).register _) files g

theorem addPackages (hh : host.Answers) (classPath : Option Path) (packages : List String)
    (g : Generator) : Asks (addPackages host classPath packages g).run := by
  unfold Command.addPackages
  cases classPath with
  | none => exact asks_return g
  | some root =>
    exact asks_foldlM (fun g package => (hh.addPackage g ⟨root⟩ package).register _) packages g

theorem buildGenerator (hh : host.Answers) (inputs : InputArgs) (config : Config) :
    Asks (buildGenerator host inputs config).run := by
  rw [buildGenerator_eq]
  split
  · exact asks_throw _
  · refine ((hh.newGenerator config).during _).andThen fun g => ?_
    refine (hh.addFiles _ _).andThen fun g => (hh.addPackages _ _ g).andThen fun g => ?_
    unfold peopled
    split
    · exact asks_throw _
    · exact asks_return g

end Host.Answers

end XmlBinding
