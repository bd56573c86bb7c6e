import XmlBinding.Proofs.Command.Question
import XmlBinding.Proofs.Generator.Reachable

/-!
# Generators of commands

A command builds its generator from what it reads. Whatever that is, calls lead from a new generator
to the one that it builds, so what holds of all such generators holds of those of commands.

* `Reachable.addRead` : reading descriptors is a registration, or nothing at all;
* `run_foldlM_keeps` : what each action in a row keeps, all of them keep;
* `Command.of_during`, `of_register`, `exists_newGenerator` : where a step of a command succeeds;
* `Command.reachable_of_addFiles`, `reachable_of_addPackages`, `reachable_of_buildGenerator` : the
  steps of a command, and all of them.
-/

namespace XmlBinding

variable {σ : Type} {w w' : σ}

/-- Descriptors that can be read are registered, others leave the generator as it is. -/
theorem Generator.Reachable.addRead {config : Config} {user : Option Catalog.Bundle} {g : Generator}
    (h : g.Reachable config user) (reading : ExceptT Failure (StateM σ) (List EntityDescriptor))
    (w : σ) : ((g.addRead reading).run w).1.2.Reachable config user := by
  unfold Generator.addRead
  rw [StateT.run_bind]
  cases reading.run.run w with
  | mk r w₁ =>
    cases r with
    | ok descriptors => exact h.register (.descriptors descriptors)
    | error failure => exact h

theorem run_foldlM_keeps {α β ε : Type} {step : β → α → ExceptT ε (StateM σ) β} {p : β → Prop}
    (hstep : ∀ b a b' w w', p b → (step b a).run.run w = (.ok b', w') → p b') {l : List α}
    {b b' : β} (hb : p b) (h : (l.foldlM step b).run.run w = (.ok b', w')) : p b' := by
  induction l generalizing b w with
  | nil =>
    cases h
    exact hb
  | cons a l ih =>
    rw [List.foldlM_cons] at h
    obtain ⟨b₁, w₁, hfirst, hrest⟩ := exists_of_run_andThen h
    exact ih (hstep b a b₁ w w₁ hb hfirst) hrest

namespace Command

variable {host : Host (StateM σ)} {config : Config} {user : Option Catalog.Bundle}
  {g g' : Generator}

theorem of_during {α : Type} {act : ExceptT Failure (StateM σ) α} {stage : Stage} {a : α}
    (h : (during stage act).run.run w = (.ok a, w')) : act.run.run w = (.ok a, w') := by
  obtain ⟨r, w₁, hact, hanswer⟩ := exists_of_run_andThen h
  cases r with
  | error cause => cases hanswer
  | ok b =>
    cases hanswer
    have hvalue := Except.ok.inj (congrArg Prod.fst hact)
    have hstate := congrArg Prod.snd hact
    exact Prod.ext hvalue hstate

theorem of_register {adding : StateM σ (Except Failure Nat × Generator)} {stage : Stage}
    (h : (register stage adding).run.run w = (.ok g, w')) : (adding.run w).1.2 = g := by
  obtain ⟨⟨r, g₁⟩, w₁, hadding, hanswer⟩ := exists_of_run_andThen h
  cases r with
  | error cause => cases hanswer
  | ok count =>
    cases hanswer
    exact congrArg Prod.snd (Except.ok.inj (congrArg Prod.fst hadding))

theorem exists_newGenerator (h : (Source.newGenerator host config).run.run w = (.ok g, w')) :
    ∃ user, g = .new config user := by
  unfold Source.newGenerator at h
  cases hvalid : config.validate with
  | error fault =>
    rw [hvalid] at h
    cases h
  | ok _ =>
    rw [hvalid] at h
    cases hdocs : config.documentation with
    | none =>
      rw [hdocs] at h
      cases h
      exact ⟨none, rfl⟩
    | some p =>
      rw [hdocs] at h
      obtain ⟨bundle, w₁, -, hanswer⟩ := exists_of_run_andThen h
      cases hanswer
      exact ⟨some bundle, rfl⟩

theorem reachable_of_addFiles {files : List Path} (hg : g.Reachable config user)
    (h : (addFiles host files g).run.run w = (.ok g', w')) : g'.Reachable config user := by
  refine run_foldlM_keeps (fun g path g' w w' hg hstep => ?_) hg h
  rw [← of_register hstep]
  exact hg.addRead _ w

theorem reachable_of_addPackages {classPath : Option Path} {packages : List String}
    (hg : g.Reachable config user)
    (h : (addPackages host classPath packages g).run.run w = (.ok g', w')) :
    g'.Reachable config user := by
  unfold addPackages at h
  cases classPath with
  | none =>
    cases h
    exact hg
  | some root =>
    refine run_foldlM_keeps (fun g package g' w w' hg hstep => ?_) hg h
    rw [← of_register hstep]
    exact hg.addRead _ w

/-- Calls lead to the generator of a command, under the configuration of the command. -/
theorem reachable_of_buildGenerator {inputs : InputArgs}
    (h : (buildGenerator host inputs config).run.run w = (.ok g, w')) :
    ∃ user, g.Reachable config user := by
  rw [buildGenerator_eq] at h
  split at h
  · cases h
  · obtain ⟨fresh, w₁, hfresh, hfiled⟩ := exists_of_run_andThen h
    obtain ⟨user, rfl⟩ := exists_newGenerator (of_during hfresh)
    obtain ⟨filed, w₂, hfiles, hscanned⟩ := exists_of_run_andThen hfiled
    obtain ⟨scanned, w₃, hpackages, hpeopled⟩ := exists_of_run_andThen hscanned
    have hreachable : scanned.Reachable config user :=
      reachable_of_addPackages
        (reachable_of_addFiles (Generator.reachable_withAllHandlers config user) hfiles) hpackages
    unfold peopled at hpeopled
    split at hpeopled
    · cases hpeopled
    · cases hpeopled
      exact ⟨user, hreachable⟩

end Command

end XmlBinding
