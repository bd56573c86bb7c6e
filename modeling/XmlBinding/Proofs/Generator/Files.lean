import XmlBinding.Proofs.Generator.Outputs
import XmlBinding.Proofs.Path
import XmlBinding.Sink

/-!
# Files of generated classes

A class is kept under its path, and nothing prevents two classes from having one.

* `Draft.IsClassOf.places` : target, package and name of the class of an entity;
* `Generator.generate_memory` : what is kept in memory;
* `Generator.memory_keeps_all_iff` : every class is kept where no two share a path.
-/

namespace XmlBinding

/-- Where the class of an entity for a target stands. -/
structure Session.Places (s : Session) (e : Entity) (t : Target) (c : GeneratedClass) : Prop where
  target : c.target = t
  package : s.packageFor e t = .ok c.package
  className : c.className = s.className e t

namespace Draft

variable {s : Session} {e : Entity} {t : Target} {ps : List Property} {c : GeneratedClass}

/-- A class is rendered for the target of its dialect, with package and name of its frame. -/
theorem of_render {J : Type} {d : Dialect J} {f : ClassFrame} (h : d.render s f = .ok c) :
    c.target = d.target ∧ c.package = f.package ∧ c.className = f.className := by
  rw [Dialect.render_eq] at h
  obtain ⟨-, -, rfl⟩ := map_eq_ok.1 h
  exact ⟨rfl, rfl, rfl⟩

theorem places_of_builds {J : Type} {d : Dialect J} {f : ClassFrame}
    (h : Builder.Builds d s e ps f c) : s.Places e d.target c := by
  obtain ⟨f₀, hopen, hfill⟩ := bind_eq_ok.1 h.filled
  obtain ⟨package, node, hpackage, -, rfl⟩ := Builder.openFrame_eq_ok_iff.1 hopen
  obtain ⟨-, rfl⟩ := Builder.addProperties_eq_ok_iff.1 hfill
  obtain ⟨htarget, hpackage', hclass⟩ := of_render h.rendered
  exact ⟨htarget, hpackage.trans (congrArg _ hpackage'.symm), hclass⟩

theorem foldl_addVisible (s : Session) (ps : List Property) (m : ClientModel) :
    (ps.foldl (fun m p => addVisible s p m) m).package = m.package ∧
      (ps.foldl (fun m p => addVisible s p m) m).className = m.className := by
  induction ps generalizing m with
  | nil => exact ⟨rfl, rfl⟩
  | cons p ps ih =>
    obtain ⟨hpackage, hclass⟩ := ih (addVisible s p m)
    have hadd : (addVisible s p m).package = m.package ∧
        (addVisible s p m).className = m.className := by
      unfold addVisible
      split
      · exact ⟨rfl, rfl⟩
      · exact ⟨rfl, rfl⟩
    exact ⟨hpackage.trans hadd.1, hclass.trans hadd.2⟩

theorem places_of_model (h : ofTarget s ps e .clientModel = .ok c) :
    s.Places e .clientModel c := by
  obtain ⟨d, hd, h⟩ := bind_eq_ok.1 h
  obtain ⟨m, hm, rfl⟩ := map_eq_ok.1 hd
  rw [receives_model] at h
  obtain ⟨package, hpackage, hm⟩ := bind_eq_ok.1 hm
  obtain ⟨imports, -, hm⟩ := bind_eq_ok.1 hm
  cases hm
  cases h
  obtain ⟨hkept, hclass⟩ := foldl_addVisible s ps ⟨package, s.className e .clientModel, _⟩
  exact ⟨rfl, hpackage.trans (congrArg _ hkept.symm), hclass⟩

/-- The class of an entity for a target stands in its package and has its name. -/
theorem IsClassOf.places (h : IsClassOf s e t c) : s.Places e t c := by
  obtain ⟨ps, hps, hc⟩ := h
  cases t with
  | clientModel => exact places_of_model hc
  | clientBuilder =>
    obtain ⟨f, hf⟩ := (ofTarget_clientBuilder_iff hps).1 hc
    exact places_of_builds hf
  | serverBuilder =>
    obtain ⟨f, hf⟩ := (ofTarget_serverBuilder_iff hps).1 hc
    exact places_of_builds hf

end Draft

/-- Classes of one side, in one package and of one name have one path. -/
theorem Session.Places.sharesPath {s : Session} {e e' : Entity} {t t' : Target}
    {c d : GeneratedClass} (hc : s.Places e t c) (hd : s.Places e' t' d)
    (hside : t.isClient = t'.isClient) (hpackage : s.packageFor e t = s.packageFor e' t')
    (hname : s.className e t = s.className e' t') : c.SharesPath d := by
  have hextension : c.target.extension = d.target.extension := by
    rw [hc.target, hd.target]
    unfold Target.extension
    rw [hside]
  have hsame : c.package = d.package :=
    Except.ok.inj (hc.package.symm.trans (hpackage.trans hd.package))
  unfold GeneratedClass.SharesPath GeneratedClass.relativePath
  rw [hextension, hsame, hc.className, hd.className, hname]

/-! ## Classes in memory -/

theorem deliver_memory (cs : List GeneratedClass) (files : SortedMap Path String) :
    (deliver Sink.memory cs).run files =
      ((cs.map (·.relativePath), []),
        (cs.map fun c => (c.relativePath, c.source)).foldl
          (fun m e => m.insert e.1 e.2) files) := by
  induction cs generalizing files with
  | nil => rfl
  | cons c cs ih =>
    have hstep : (deliver Sink.memory (c :: cs)).run files =
        ((c.relativePath :: ((deliver Sink.memory cs).run
            (files.insert c.relativePath c.source)).1.1,
          ((deliver Sink.memory cs).run (files.insert c.relativePath c.source)).1.2),
          ((deliver Sink.memory cs).run (files.insert c.relativePath c.source)).2) := rfl
    rw [hstep, ih]
    rfl

namespace Generator

/-- The files of some classes, in order: of two classes under one path, the later one is kept. -/
def filesOf (cs : List GeneratedClass) : SortedMap Path String :=
  (cs.map fun c => (c.relativePath, c.source)).foldl (fun m e => m.insert e.1 e.2) .empty

/-- A generation into memory notes all classes as written. -/
theorem generate_memory (g : Generator) :
    let run := (g.generate Sink.memory).run .empty
    run.1.1 = g.produce.outcome.map
        (⟨·, g.produce.classes.map (·.relativePath), []⟩) ∧
      run.2 = filesOf g.produce.classes := by
  have hdeliver := deliver_memory g.produce.classes .empty
  have hrun : (g.generate Sink.memory).run .empty =
      ((g.produce.outcome.map
          (⟨·, ((deliver Sink.memory g.produce.classes).run .empty).1.1,
            ((deliver Sink.memory g.produce.classes).run .empty).1.2⟩),
        { g with handlers := g.produce.handlers }),
        ((deliver Sink.memory g.produce.classes).run .empty).2) := rfl
  rw [hrun, hdeliver]
  exact ⟨rfl, rfl⟩

theorem generate_memory_of_outcome {g : Generator} {count : Nat}
    (h : g.produce.outcome = .ok count) :
    ((g.generate Sink.memory).run .empty).1.1 =
      .ok ⟨count, g.produce.classes.map (·.relativePath), []⟩ := by
  rw [g.generate_memory.1, h]
  rfl

theorem find?_filesOf (cs : List GeneratedClass) (path : Path) :
    (filesOf cs).find? path =
      (cs.reverse.find? fun c => path.components = c.relativePath.components).map
        GeneratedClass.source := by
  have hnone : (SortedMap.empty : SortedMap Path String).find? path = none := rfl
  unfold filesOf
  rw [SortedMap.find?_foldl_insert, hnone, Option.or_none, ← List.map_reverse, List.find?_map,
    Option.map_map]
  have htest : ((fun e : Path × String => decide (compare path e.1 = .eq)) ∘
      fun c : GeneratedClass => (c.relativePath, c.source)) =
        fun c => decide (path.components = c.relativePath.components) := by
    funext c
    exact decide_eq_decide.2 Path.compare_eq_iff
  rw [htest]
  rfl

/-- There is a file for each class where no two classes share a path. -/
theorem length_filesOf_iff (cs : List GeneratedClass) :
    (filesOf cs).entries.length = cs.length ↔ cs.Pairwise fun c d => ¬c.SharesPath d := by
  have hcount := SortedMap.length_foldl_insert_iff (cs.map fun c => (c.relativePath, c.source))
    (.empty : SortedMap Path String)
  have hzero : (SortedMap.empty : SortedMap Path String).entries.length = 0 := rfl
  rw [hzero, Nat.zero_add, List.length_map, List.pairwise_map] at hcount
  have hnew : ∀ e ∈ cs.map fun c => (c.relativePath, c.source),
      (SortedMap.empty : SortedMap Path String).find? e.1 = none := fun _ _ => rfl
  unfold filesOf
  rw [hcount, and_iff_left hnew]
  simp only [ne_eq, Path.compare_eq_iff]
  exact Iff.rfl

/-- Generation into memory ends with a file for each class that it notes as written where no two
classes share a path; of those that do, the last is kept. Classes of plain names share their path
where they are on one side, in one package and of one name. -/
theorem memory_keeps_all_iff (config : Config) (user : Option Catalog.Bundle)
    (rs : List Registration) :
    let g := rs.foldl register (new config user).withAllHandlers
    let run := (g.generate Sink.memory).run .empty
    let classes := g.produce.classes
    ∀ report, run.1.1 = .ok report →
      List.Forall₂ (fun o c => g.session.Places o.1 o.2 c)
        (g.session.entities.values.flatMap fun e => Target.all.map fun t => (e, t)) classes ∧
      report.written = classes.map (·.relativePath) ∧ report.failed = [] ∧
      (∀ path, run.2.find? path =
        (classes.reverse.find? fun c => path.components = c.relativePath.components).map
          GeneratedClass.source) ∧
      (run.2.entries.length = report.written.length ↔
        classes.Pairwise fun c d => ¬c.SharesPath d) ∧
      ∀ c ∈ classes, ∀ d ∈ classes, c.HasPlainNames → d.HasPlainNames →
        (c.SharesPath d ↔ c.target.isClient = d.target.isClient ∧
          Package.segments c.package = Package.segments d.package ∧ c.className = d.className) := by
  intro g run classes report hreport
  obtain ⟨es, hes⟩ := exists_foldl_register rs (new config user).withAllHandlers
  obtain ⟨hclean, htargets, -⟩ := clean_foldl_add_withAllHandlers config user es
  rw [← hes] at hclean htargets
  obtain ⟨houtcome, hfiles⟩ := g.generate_memory
  have hmapped : g.produce.outcome.map
      (⟨·, g.produce.classes.map (·.relativePath), []⟩) = .ok report := houtcome.symm.trans hreport
  obtain ⟨count, hcount, rfl⟩ := map_eq_ok.1 hmapped
  have houtputs : g.outputs =
      g.session.entities.values.flatMap fun e => Target.all.map fun t => (e, t) := by
    unfold outputs Draft.outputs
    rw [htargets]
  have hplaces : List.Forall₂ (fun o c => g.session.Places o.1 o.2 c) g.outputs classes :=
    (forall₂_outputs hclean hcount).imp fun o c h => h.places
  rw [houtputs] at hplaces
  refine ⟨hplaces, rfl, rfl, fun path => ?_, ?_, ?_⟩
  · exact (congrArg (SortedMap.find? · path) hfiles).trans (find?_filesOf classes path)
  · have hlength : run.2.entries.length = (filesOf classes).entries.length :=
      congrArg (fun m : SortedMap Path String => m.entries.length) hfiles
    rw [hlength, List.length_map]
    exact length_filesOf_iff classes
  · intro c _ d _ hc hd
    exact GeneratedClass.sharesPath_iff hc hd

/-! ## Namesakes -/

/-- An entity without properties. -/
def bare (name : String) : Entity := ⟨⟨name, none, false, none, none, []⟩, []⟩

/-- Two entities such that the builder of the one has the name of the model of the other. -/
def namesakes : List Registration :=
  [.entity (bare "shop.Person"), .entity (bare "shop.PersonBuilder")]

def ofNamesakes : Generator := namesakes.foldl register (new .standard none).withAllHandlers

theorem reachable_ofNamesakes : Reachable .standard none ofNamesakes :=
  ((reachable_withAllHandlers _ _).register (.entity (bare "shop.Person"))).register
      (.entity (bare "shop.PersonBuilder"))

theorem values_ofNamesakes :
    ofNamesakes.session.entities.values = [bare "shop.Person", bare "shop.PersonBuilder"] := rfl

theorem exists_outcome_ofNamesakes : ∃ count, ofNamesakes.produce.outcome = .ok count := by
  refine reachable_ofNamesakes.exists_outcome rfl fun e he => ?_
  have hbare (name : String) : ofNamesakes.session.Generable (bare name) :=
    Session.generable_of_standard rfl rfl rfl rfl fun p hp => (nomatch hp)
  rw [values_ofNamesakes] at he
  rcases List.mem_pair.1 he with rfl | rfl
  · exact hbare _
  · exact hbare _

/-- The builder of the one and the model of the other share a path. -/
theorem sharesPath_ofNamesakes {c d : GeneratedClass}
    (hc : ofNamesakes.session.Places (bare "shop.Person") .clientBuilder c)
    (hd : ofNamesakes.session.Places (bare "shop.PersonBuilder") .clientModel d) :
    c.SharesPath d := by
  have hfolder : (bare "shop.Person").package = (bare "shop.PersonBuilder").package := by decide
  have hconfig : ofNamesakes.session.config = .standard := rfl
  refine hc.sharesPath hd rfl ?_ ?_
  · rw [Session.packageFor_standard hconfig rfl, Session.packageFor_standard hconfig rfl, hfolder]
  · unfold Session.className Session.modelName
    rw [hconfig]
    decide

/-- Of the six classes of the two entities, one is lost. -/
theorem memory_loses_builder_of_person :
    ∃ report, ((ofNamesakes.generate Sink.memory).run .empty).1.1 = .ok report ∧
      report.written.length = 6 ∧
      ((ofNamesakes.generate Sink.memory).run .empty).2.entries.length ≠ 6 := by
  obtain ⟨count, hcount⟩ := exists_outcome_ofNamesakes
  have hreport := generate_memory_of_outcome hcount
  have hvalues := values_ofNamesakes
  have hshares := @sharesPath_ofNamesakes
  unfold ofNamesakes at hreport hvalues hshares ⊢
  obtain ⟨hplaces, -, -, -, hlength, -⟩ := memory_keeps_all_iff .standard none namesakes _ hreport
  -- what the generator is made of no longer matters
  generalize namesakes.foldl register (new .standard none).withAllHandlers = g at *
  rw [hvalues] at hplaces
  have hwritten : (g.produce.classes.map (·.relativePath)).length = 6 := by
    rw [List.length_map, ← hplaces.length_eq]
    rfl
  refine ⟨_, hreport, hwritten, fun hsix => ?_⟩
  have hapart := hlength.1 (hsix.trans hwritten.symm)
  have hget := (List.forall₂_iff_get.1 hplaces).2
  have hone : 1 < g.produce.classes.length := by rw [← hplaces.length_eq]; decide
  have hthree : 3 < g.produce.classes.length := by rw [← hplaces.length_eq]; decide
  exact List.pairwise_iff_getElem.1 hapart 1 3 hone hthree (by decide)
    (hshares (hget 1 (by decide) hone) (hget 3 (by decide) hthree))

end Generator

end XmlBinding
