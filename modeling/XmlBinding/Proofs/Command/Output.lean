import XmlBinding.Proofs.Command.Question
import XmlBinding.Proofs.Generator.Independence

/-!
# Where classes go

The output of a configuration says where classes go. Neither the inputs of a command nor the classes
depend on it.

* `Config.withOutput`, `Session.withOutput`, `Generator.withOutput` : another output;
* `Generator.produce_withOutput` : the classes are the same;
* `Command.buildGenerator_withOutput` : so are the inputs, and they fail alike.
-/

namespace XmlBinding

def Config.withOutput (o : OutputConfig) (config : Config) : Config := { config with output := o }

def Session.withOutput (o : OutputConfig) (s : Session) : Session :=
  { s with config := s.config.withOutput o }

def Generator.withOutput (o : OutputConfig) (g : Generator) : Generator :=
  { g with session := g.session.withOutput o }

theorem Session.withOutput_alikeOn (o : OutputConfig) (s : Session) (side : Side) :
    (s.withOutput o).AlikeOn side s where
  indentation := rfl
  braceOnNewLine := rfl
  usingUnderscore _ := rfl
  catalog := rfl
  entity? t := by
    have hfound : (s.withOutput o).entity? t = s.entity? t := by cases t <;> rfl
    rw [hfound]
    cases s.entity? t with
    | none => exact .none
    | some e => exact .some ⟨rfl, fun _ _ => rfl, fun t _ => by cases t <;> rfl⟩

namespace Generator

variable (o : OutputConfig) (g : Generator)

/-- What is generated does not depend on where it goes. -/
theorem produce_withOutput : (g.withOutput o).produce = g.produce := by
  have hentity : Production.ofEntity (g.session.withOutput o) = Production.ofEntity g.session :=
    funext fun e => Production.ofEntity_congr (g.session.withOutput_alikeOn o)
      fun _ => ⟨rfl, fun _ _ => rfl, fun t _ => by cases t <;> rfl⟩
  unfold produce
  simp only [withOutput, hentity]
  rfl

theorem add_withOutput (e : Entity) : (g.withOutput o).add e = (g.add e).withOutput o := by
  unfold add Session.register
  cases e.descriptor.transient <;> rfl

theorem addDescriptors_withOutput (ds : List EntityDescriptor) :
    (g.withOutput o).addDescriptors ds =
      ((g.addDescriptors ds).1, (g.addDescriptors ds).2.withOutput o) := by
  induction ds generalizing g with
  | nil => rfl
  | cons d ds ih =>
    unfold addDescriptors
    cases Entity.ofDescriptor d with
    | error failure => rfl
    | ok e =>
      dsimp only
      rw [add_withOutput, ih]

end Generator

/-! ## Inputs -/

namespace Command

variable {m : Type → Type} [Monad m] [LawfulMonad m] (host : Host m) (o : OutputConfig)

theorem map_throw {ε α β : Type} (f : α → β) (e : ε) :
    f <$> (throw e : ExceptT ε m α) = throw e := by
  rw [map_eq_pure_bind, throw_bind]

theorem map_bind_of_map {M : Type → Type} [Monad M] [LawfulMonad M] {γ : Type} {f : γ → γ}
    {next : γ → M γ} (h : ∀ g, next (f g) = f <$> next g) (act : M γ) :
    f <$> act >>= next = f <$> (act >>= next) := by
  rw [bind_map_left, map_bind]
  exact bind_congr h

theorem foldlM_map {M : Type → Type} [Monad M] [LawfulMonad M] {α γ : Type} {f : γ → γ}
    {step : γ → α → M γ} (h : ∀ g a, step (f g) a = f <$> step g a) (l : List α) (g : γ) :
    l.foldlM step (f g) = f <$> l.foldlM step g := by
  induction l generalizing g with
  | nil => exact (map_pure f g).symm
  | cons a l ih =>
    rw [List.foldlM_cons, List.foldlM_cons, h]
    exact map_bind_of_map ih (step g a)

theorem during_map {α β : Type} (stage : Stage) (f : α → β) (act : ExceptT Failure m α) :
    during stage (f <$> act) = f <$> during stage act := by
  unfold during
  rw [ExceptT.run_map, liftM_map, bind_map_left, map_bind]
  refine bind_congr fun r => ?_
  cases r with
  | ok a => exact (map_pure f a).symm
  | error cause => exact (map_throw f _).symm

theorem newGenerator_eq {config : Config} (h : config.validate = .ok ()) :
    Source.newGenerator host config = match config.documentation with
      | none => pure (.new config none)
      | some p => (fun bundle => .new config (some bundle)) <$> Source.readBundle host p := by
  unfold Source.newGenerator
  rw [h]
  cases config.documentation with
  | none => rfl
  | some p => exact (map_eq_pure_bind _ _).symm

theorem new_withOutput (config : Config) (user : Option Catalog.Bundle) :
    Generator.new (config.withOutput o) user = (Generator.new config user).withOutput o := by
  simp only [Generator.new, Generator.withOutput, Session.withOutput, Config.withOutput]

theorem newGenerator_withOutput {config : Config} (h : config.validate = .ok ())
    (h' : (config.withOutput o).validate = .ok ()) :
    Source.newGenerator host (config.withOutput o) =
      Generator.withOutput o <$> Source.newGenerator host config := by
  have hdocumentation : (config.withOutput o).documentation = config.documentation := rfl
  rw [newGenerator_eq host h, newGenerator_eq host h', hdocumentation]
  simp only [new_withOutput]
  cases config.documentation with
  | none => exact (map_pure _ _).symm
  | some p => exact (Functor.map_map _ _ _).symm

/-- What a registration answers, with another output in its generator. -/
def registeredWithOutput (out : Except Failure Nat × Generator) : Except Failure Nat × Generator :=
  (out.1, out.2.withOutput o)

theorem addRead_withOutput (reading : ExceptT Failure m (List EntityDescriptor)) (g : Generator) :
    (g.withOutput o).addRead reading = registeredWithOutput o <$> g.addRead reading := by
  unfold Generator.addRead
  rw [map_bind]
  refine bind_congr fun r => ?_
  cases r with
  | ok ds =>
    dsimp only
    rw [map_pure, Generator.addDescriptors_withOutput]
    rfl
  | error failure =>
    dsimp only
    rw [map_pure]
    rfl

theorem register_withOutput (stage : Stage) (adding : m (Except Failure Nat × Generator)) :
    register stage (registeredWithOutput o <$> adding) =
      Generator.withOutput o <$> register stage adding := by
  unfold register
  rw [liftM_map, bind_map_left, map_bind]
  refine bind_congr fun out => ?_
  obtain ⟨r, g⟩ := out
  cases r with
  | ok count => exact (map_pure _ g).symm
  | error cause => exact (map_throw _ _).symm

theorem addFiles_withOutput (files : List Path) (g : Generator) :
    addFiles host files (g.withOutput o) = Generator.withOutput o <$> addFiles host files g := by
  refine foldlM_map (fun g path => ?_) files g
  rw [← register_withOutput]
  exact congrArg _ (addRead_withOutput o _ g)

theorem addPackages_withOutput (classPath : Option Path) (packages : List String) (g : Generator) :
    addPackages host classPath packages (g.withOutput o) =
      Generator.withOutput o <$> addPackages host classPath packages g := by
  unfold addPackages
  cases classPath with
  | none => exact (map_pure _ g).symm
  | some root =>
    refine foldlM_map (fun g package => ?_) packages g
    rw [← register_withOutput]
    exact congrArg _ (addRead_withOutput o _ g)

theorem peopled_withOutput (g : Generator) :
    (peopled (g.withOutput o) : Run m Generator) = Generator.withOutput o <$> peopled g := by
  unfold peopled
  show (if g.session.entities.entries.isEmpty then throw Fault.nothingToGenerate else _) = _
  split
  · exact (map_throw _ _).symm
  · exact (map_pure _ g).symm

/-- The generators of two configurations that differ in their output do so, too. -/
theorem buildGenerator_withOutput (inputs : InputArgs) {config : Config}
    (h : config.validate = .ok ()) (h' : (config.withOutput o).validate = .ok ()) :
    buildGenerator host inputs (config.withOutput o) =
      Generator.withOutput o <$> buildGenerator host inputs config := by
  rw [buildGenerator_eq, buildGenerator_eq]
  split
  · exact (map_throw _ _).symm
  · unfold gathered
    rw [newGenerator_withOutput host o h h', during_map]
    refine map_bind_of_map (fun g => ?_) _
    show addFiles host inputs.files (g.withAllHandlers.withOutput o) >>= _ = _
    rw [addFiles_withOutput]
    refine map_bind_of_map (fun g => ?_) _
    rw [addPackages_withOutput]
    exact map_bind_of_map (peopled_withOutput o) _

end Command

end XmlBinding
