import XmlBinding.Proofs.Command.Output
import XmlBinding.Proofs.Generator.Delivery

/-!
# A check predicts a generation

`check` and `generate` ask a machine the same questions, and their configurations differ in the
output at most. So a generation can fail after a successful check only where the place of its
classes, console or disk, refuses one.

* `exists_receiver` : a valid configuration has a place for classes; `run_toConsole_eq_ok_iff` :
  when a console receives one; `run_toConsole_world` : what it then shows;
* `of_check`, `run_generate` : what a successful check has done, and what a generation does;
* `outcomeOf` : the outcome of a generation by what its place has answered;
* `generate_of_check` : a generation after a successful check.
-/

namespace XmlBinding

variable {σ : Type}

namespace Command

variable {host : Host (StateM σ)} {inputs : InputArgs} {output : OutputArgs} {config : Config}
  {g : Generator} {w w' : σ}

theorem validated_eq (h : config.validate = .ok ()) :
    (validated config : Run (StateM σ) Unit) = pure () := by
  unfold validated
  rw [h]

theorem of_validated {w₁ : σ}
    (h : (validated config : Run (StateM σ) Unit).run.run w = (.ok (), w₁)) :
    config.validate = .ok () ∧ w₁ = w := by
  unfold validated at h
  cases hvalid : config.validate with
  | error fault =>
    rw [hvalid] at h
    cases h
  | ok _ =>
    rw [hvalid] at h
    cases h
    exact ⟨rfl, rfl⟩

/-- A valid configuration that sends classes to files has a root for both sides. -/
theorem exists_layout (h : config.validate = .ok ()) (hmode : config.output.mode = .file) :
    ∃ layout, FileLayout.ofConfig config.output = .ok layout := by
  unfold Config.validate at h
  split_ifs at h with hsuffix hindent hclient hserver
  obtain ⟨client, hclient⟩ := Option.ne_none_iff_exists'.1 fun hnone => hclient ⟨hmode, hnone⟩
  obtain ⟨server, hserver⟩ := Option.ne_none_iff_exists'.1 fun hnone => hserver ⟨hmode, hnone⟩
  have hclientRoot : config.output.root? .clientModel = some client := hclient
  have hserverRoot : config.output.root? .serverBuilder = some server := hserver
  unfold FileLayout.ofConfig
  rw [hclientRoot, hserverRoot]
  exact ⟨_, rfl⟩

/-- A valid configuration has a place for classes. -/
theorem exists_receiver (host : Host (StateM σ)) (h : config.validate = .ok ()) :
    ∃ receive, receiver host config = pure receive := by
  unfold receiver
  cases hmode : config.output.mode with
  | console => exact ⟨_, rfl⟩
  | file =>
    obtain ⟨layout, hlayout⟩ := exists_layout h hmode
    rw [hlayout]
    exact ⟨_, rfl⟩

/-- A check that succeeds has loaded a valid configuration and has generated into memory. -/
theorem of_check (hh : host.Answers) (hcheck : (check host inputs).run.run w = (.ok (), w')) :
    ∃ config g report, (loadConfig host inputs).run.run w = (.ok config, w) ∧
      config.validate = .ok () ∧ (buildGenerator host inputs config).run.run w = (.ok g, w) ∧
      ((g.generate Sink.memory).run .empty).1.1 = .ok report := by
  obtain ⟨config, w₁, hload, hvalidating⟩ := exists_of_run_andThen hcheck
  obtain rfl : w₁ = w := (congrArg Prod.snd hload).symm.trans (hh.loadConfig inputs w)
  obtain ⟨_, w₂, hvalidated, hbuilding⟩ := exists_of_run_andThen hvalidating
  obtain ⟨hvalid, rfl⟩ := of_validated hvalidated
  obtain ⟨g, w₃, hbuild, hgenerating⟩ := exists_of_run_andThen hbuilding
  obtain rfl : w₃ = w₂ :=
    (congrArg Prod.snd hbuild).symm.trans (hh.buildGenerator inputs config w₂)
  refine ⟨config, g, ?_⟩
  generalize (g.generate Sink.memory).run .empty = out at hgenerating
  obtain ⟨⟨result, g'⟩, files⟩ := out
  cases result with
  | ok report => exact ⟨report, hload, hvalid, hbuild, rfl⟩
  | error cause => cases hgenerating

/-- A console receives a class where it takes each part of it and sends all of it on. -/
theorem run_toConsole_eq_ok_iff {c : GeneratedClass} :
    let head := (host.print (Sink.consoleHead c)).run w
    let source := (host.print c.source).run head.2
    let finish := (host.print "\n").run source.2
    ((Sink.toConsole host c).run.run w).1 = .ok () ↔
      head.1 = .ok () ∧ source.1 = .ok () ∧ finish.1 = .ok () ∧
        (host.flush.run finish.2).1 = .ok () := by
  intro head source finish
  unfold Sink.toConsole
  rw [run_andThen_eq_ok_iff, run_andThen_eq_ok_iff, run_andThen_eq_ok_iff]
  rfl

/-- The console of a world shows the parts of a class as one text. -/
theorem run_toConsole_world (c : GeneratedClass) (w : World) :
    (Sink.toConsole World.host c).run.run w =
      (((Sink.console c).run w.printed).1,
        { w with printed := ((Sink.console c).run w.printed).2 }) := by
  have hprint (text : String) (w : World) :
      (ExceptT.mk (World.host.print text)).run.run w =
        (.ok (), { w with printed := w.printed ++ text }) := rfl
  have hflush (w : World) : (ExceptT.mk World.host.flush).run.run w = (.ok (), w) := rfl
  have hshown : w.printed ++ Sink.consoleHead c ++ c.source ++ "\n" =
      ((Sink.console c).run w.printed).2 := by
    show _ = w.printed ++ (Sink.consoleHead c ++ c.source ++ "\n")
    rw [String.append_assoc, String.append_assoc, String.append_assoc]
  unfold Sink.toConsole
  rw [run_andThen (hprint _ w), run_andThen (hprint _ _), run_andThen (hprint _ _), hflush, hshown]
  rfl

/-- A check of a valid configuration succeeds where its generator makes all classes and the console
takes what it says of them. -/
theorem check_of_outcome {count : Nat}
    (hload : (loadConfig host inputs).run.run w = (.ok config, w))
    (hvalid : config.validate = .ok ())
    (hbuild : (buildGenerator host inputs config).run.run w = (.ok g, w))
    (hok : g.produce.outcome = .ok count)
    (hprint : ∀ report, ((host.print (checkText report)).run w).1 = .ok ()) :
    ∃ w', (check host inputs).run.run w = (.ok (), w') := by
  have hresult : ∃ report, ((g.generate Sink.memory).run .empty).1.1 = .ok report := by
    rw [g.run_generate_fst, hok]
    exact ⟨_, rfl⟩
  obtain ⟨report, hreport⟩ := hresult
  unfold check
  rw [run_andThen hload, validated_eq hvalid, pure_bind, run_andThen hbuild]
  generalize (g.generate Sink.memory).run .empty = out at hreport ⊢
  obtain ⟨⟨result, g'⟩, files⟩ := out
  obtain rfl : result = _ := hreport
  refine ⟨((host.print (checkText report)).run w).2, ?_⟩
  have hlift : (liftM (host.print (checkText report)) :
      Run (StateM σ) (Except IoFault Unit)).run.run w =
        (.ok (.ok ()), ((host.print (checkText report)).run w).2) :=
    congrArg (fun answer => (Except.ok answer, ((host.print (checkText report)).run w).2))
      (hprint report)
  exact run_andThen hlift

/-- Outcome of a generation by the calls of what it hands its classes to. -/
def outcomeOf (calls : List Delivery) : Except Fault Unit :=
  if (calls.filterMap Delivery.refusal?).isEmpty then .ok ()
  else .error (.unwritten (calls.filterMap Delivery.refusal?) calls.length)

/-- A generation whose generator makes all classes hands them to the place of its configuration, and
fails where one is refused. -/
theorem run_generate {receive : GeneratedClass → StateM σ (Except IoFault Unit)} {count : Nat}
    (hload : (loadConfig host inputs).run.run w = (.ok config, w))
    (hvalid : (override output config).validate = .ok ())
    (hreceive : receiver host (override output config) = pure receive)
    (hbuild : (buildGenerator host inputs (override output config)).run.run w = (.ok g, w))
    (hok : g.produce.outcome = .ok count) :
    (generate host inputs output).run.run w =
      (outcomeOf (g.calls receive w), ((g.generate receive).run w).2) := by
  have hreport : ((g.generate receive).run w).1.1 = .ok ⟨count,
      ((g.calls receive w).filter Delivery.isReceived).map Delivery.path,
      (g.calls receive w).filterMap Delivery.refusal?⟩ := by
    rw [g.run_generate_fst receive w, hok]
    rfl
  unfold generate
  rw [run_andThen hload]
  dsimp only
  rw [validated_eq hvalid, hreceive, pure_bind, pure_bind, run_andThen hbuild]
  have hgenerate : (liftM (g.generate receive) : Run (StateM σ) _).run.run w =
      (.ok ((g.generate receive).run w).1, ((g.generate receive).run w).2) := rfl
  rw [run_andThen hgenerate]
  generalize (g.generate receive).run w = out at hreport ⊢
  obtain ⟨⟨result, g'⟩, w'⟩ := out
  obtain rfl : result = _ := hreport
  have htotal := Delivery.length_received_add_refused (g.calls receive w)
  unfold outcomeOf Report.isSuccess
  dsimp only
  rw [List.length_map, Nat.add_comm, htotal]
  split <;> rfl

theorem outcomeOf_eq_ok_iff {calls : List Delivery} :
    outcomeOf calls = .ok () ↔ ∀ d ∈ calls, d.isReceived = true := by
  have hrefused : (calls.filterMap Delivery.refusal?).isEmpty = true ↔
      ∀ d ∈ calls, d.isReceived = true := by
    rw [List.isEmpty_iff, List.filterMap_eq_nil_iff]
    refine forall₂_congr fun d _ => ?_
    obtain ⟨c, answer⟩ := d
    cases answer with
    | ok _ => exact iff_of_true rfl rfl
    | error fault => exact iff_of_false nofun nofun
  rw [← hrefused, outcomeOf]
  split
  · exact iff_of_true rfl ‹_›
  · exact iff_of_false nofun ‹_›

/-- A failure counts the refused among all classes. -/
theorem message_of_outcomeOf {calls : List Delivery} {fault : Fault}
    (h : outcomeOf calls = .error fault) :
    let refused := calls.filter fun d => !d.isReceived
    fault = .unwritten (calls.filterMap Delivery.refusal?) calls.length ∧
      fault.message = s!"{refused.length} of {calls.length} classes could not be written" := by
  intro refused
  unfold outcomeOf at h
  split at h
  · cases h
  · cases h
    refine ⟨rfl, ?_⟩
    have hlength := congrArg List.length (Delivery.map_fst_refusals calls)
    rw [List.length_map, List.length_map] at hlength
    show s!"{_} of {calls.length} classes could not be written" = _
    rw [hlength]

/-- Where a check succeeds and the configuration of a generation is valid, the generation starts,
and the place of its classes is handed the classes that the check has put into memory, in their
order. The generation fails only where one is refused, and its message counts the refused. -/
theorem generate_of_check (hh : host.Answers)
    (hcheck : (check host inputs).run.run w = (.ok (), w'))
    (hload : ((loadConfig host inputs).run.run w).1 = .ok config)
    (hvalid : (override output config).validate = .ok ()) :
    ∃ g g' receive,
      ((buildGenerator host inputs config).run.run w).1 = .ok g ∧
      ((buildGenerator host inputs (override output config)).run.run w).1 = .ok g' ∧
      ((receiver host (override output config)).run.run w).1 = .ok receive ∧
      let calls := g'.calls receive w
      let refused := calls.filter fun d => !d.isReceived
      let run := (generate host inputs output).run.run w
      calls.map Delivery.handed = (g.calls Sink.memory .empty).map Delivery.handed ∧
      run.2 = ((g'.generate receive).run w).2 ∧
      (run.1 = .ok () ↔ ∀ d ∈ calls, d.isReceived = true) ∧
      ∀ fault, run.1 = .error fault →
        fault = .unwritten (calls.filterMap Delivery.refusal?) calls.length ∧
        fault.message = s!"{refused.length} of {calls.length} classes could not be written" := by
  obtain ⟨config', g, report, hload', hvalid', hbuild, hreport⟩ := of_check hh hcheck
  obtain rfl : config' = config := Except.ok.inj ((congrArg Prod.fst hload').symm.trans hload)
  obtain ⟨receive, hreceive⟩ := exists_receiver host hvalid
  have hbuild' : (buildGenerator host inputs (override output config')).run.run w =
      (.ok (g.withOutput (override output config').output), w) := by
    have hsame : buildGenerator host inputs (override output config') =
        Generator.withOutput _ <$> buildGenerator host inputs config' :=
      buildGenerator_withOutput host (override output config').output inputs hvalid' hvalid
    rw [hsame, ExceptT.run_map, StateT.run_map, hbuild]
    rfl
  have hok : ∃ count,
      (g.withOutput (override output config').output).produce.outcome = .ok count := by
    rw [g.produce_withOutput]
    rw [g.run_generate_fst] at hreport
    obtain ⟨count, hcount, -⟩ := map_eq_ok.1 hreport
    exact ⟨count, hcount⟩
  obtain ⟨count, hcount⟩ := hok
  have hrun := run_generate hload' hvalid hreceive hbuild' hcount
  refine ⟨g, _, receive, congrArg Prod.fst hbuild, congrArg Prod.fst hbuild', ?_, ?_, ?_, ?_, ?_⟩
  · rw [hreceive]
    rfl
  · rw [Generator.map_handed_calls, Generator.map_handed_calls, g.produce_withOutput]
  · rw [hrun]
  · rw [hrun]
    exact outcomeOf_eq_ok_iff
  · intro fault hfault
    rw [hrun] at hfault
    exact message_of_outcomeOf hfault

/-! ## A person on a disk -/

def stranger : Entity := ⟨⟨"shop.Person", none, false, none, none, []⟩, []⟩

def strangerText : String := "name = \"shop.Person\""

def shelf : World := ⟨⟨.directory [("person.toml", .file strangerText)], []⟩, ""⟩

def shelfInputs : InputArgs := ⟨[⟨"person.toml"⟩], none, [], none⟩

/-- The generator with the person. -/
def ofStranger : Generator := (Generator.new .standard none).withAllHandlers.add stranger

/-- A host whose console takes one text and is gone. -/
def fleeting : Host (StateM World) :=
  { World.host with
    print := fun text => do
      if (← get).printed.isEmpty then World.host.print text else return .error .brokenPipe }

theorem answers_fleeting : fleeting.Answers :=
  ⟨World.answers_host.read, World.answers_host.isFile, World.answers_host.isDirectory,
    World.answers_host.list⟩

theorem print_fleeting_empty {w : World} (h : w.printed = "") (text : String) :
    (ExceptT.mk (fleeting.print text)).run.run w = (.ok (), { w with printed := text }) := by
  show (if w.printed.isEmpty then World.host.print text else _ : StateM World _) w = _
  rw [if_pos (String.isEmpty_iff.2 h)]
  show (Except.ok (), { w with printed := w.printed ++ text }) = _
  rw [h, String.empty_append]

theorem print_fleeting_gone {w : World} (h : w.printed ≠ "") (text : String) :
    (ExceptT.mk (fleeting.print text)).run.run w = (.error .brokenPipe, w) := by
  show (if w.printed.isEmpty then _ else _ : StateM World _) w = _
  rw [if_neg (by rwa [String.isEmpty_iff])]
  rfl

/-- The console is gone when the source of a class comes. -/
theorem run_toConsole_fleeting (c : GeneratedClass) (w : World) :
    ((Sink.toConsole fleeting c).run.run w).1 = .error .brokenPipe := by
  unfold Sink.toConsole
  by_cases h : w.printed = ""
  · have hhead : Sink.consoleHead c ≠ "" := by simp [Sink.consoleHead]
    have hsource := print_fleeting_gone (w := { w with printed := Sink.consoleHead c }) hhead
    rw [run_andThen (print_fleeting_empty h _), run_andThen_error (hsource c.source)]
  · rw [run_andThen_error (print_fleeting_gone h _)]

theorem not_isReceived_fleeting {d : Delivery}
    (hd : d ∈ g.calls (fun c => (Sink.toConsole fleeting c).run) shelf) :
    d.isReceived = false := by
  rw [Generator.calls_eq] at hd
  unfold Delivery.isReceived
  rw [Sink.answer_of_mem_callsOf run_toConsole_fleeting hd]
  rfl

theorem load_shelf :
    (loadConfig World.host shelfInputs).run.run shelf = (.ok .standard, shelf) := by
  have hmissing : shelf.disk.isFile defaultConfig = false := by decide
  have hask : (liftM (World.host.isFile defaultConfig) : Run (StateM World) Bool).run.run shelf =
      (.ok false, shelf) := congrArg (fun there => (Except.ok there, shelf)) hmissing
  exact run_andThen hask

theorem parse_strangerText : Descriptor.parse strangerText = .ok [stranger.descriptor] := by
  decide +kernel

theorem addDescriptors_stranger :
    (Generator.new .standard none).withAllHandlers.addDescriptors [stranger.descriptor] =
      (.ok 1, ofStranger) := by
  have hnamed : Entity.isWellNamed stranger.descriptor.name = true := by decide +kernel
  have hentity : Entity.ofDescriptor stranger.descriptor = .ok stranger := if_pos hnamed
  unfold Generator.addDescriptors
  rw [hentity]
  rfl

theorem addFile_shelf :
    ((Generator.new .standard none).withAllHandlers.addFile World.host ⟨"person.toml"⟩).run shelf =
      ((.ok 1, ofStranger), shelf) := by
  have hdescriptors : (Source.readDescriptors World.host ⟨"person.toml"⟩).run.run shelf =
      (.ok [stranger.descriptor], shelf) := by
    have htext : (Source.readText World.host ⟨"person.toml"⟩).run.run shelf =
        (.ok strangerText, shelf) := rfl
    have htoml : World.host.toml = Toml.parse := rfl
    unfold Source.readDescriptors
    rw [run_andThen htext, htoml, parse_strangerText]
    rfl
  unfold Generator.addFile Generator.addRead
  rw [StateT.run_bind, hdescriptors, ← addDescriptors_stranger]
  rfl

theorem build_shelf :
    (buildGenerator World.host shelfInputs .standard).run.run shelf = (.ok ofStranger, shelf) := by
  have hnew : (Source.newGenerator World.host .standard).run.run shelf =
      (.ok (Generator.new .standard none), shelf) := rfl
  have hfiles : (addFiles World.host shelfInputs.files
      (Generator.new .standard none).withAllHandlers).run.run shelf = (.ok ofStranger, shelf) := by
    exact run_andThen (run_register _ addFile_shelf)
  rw [buildGenerator_eq]
  show (gathered World.host shelfInputs .standard).run.run shelf = _
  unfold gathered
  rw [run_andThen (run_during _ hnew), run_andThen hfiles]
  rfl

theorem reachable_ofStranger : ofStranger.Reachable .standard none :=
  (Generator.reachable_withAllHandlers _ _).register (.entity stranger)

theorem exists_outcome_ofStranger : ∃ count, ofStranger.produce.outcome = .ok count := by
  refine reachable_ofStranger.exists_outcome rfl ?_
  refine Session.generable_of_mem_values (e := stranger) rfl ?_
  exact Session.generable_of_standard rfl rfl rfl rfl fun p hp => nomatch hp

theorem length_classes_ofStranger : ofStranger.produce.classes.length = 3 := by
  obtain ⟨count, hcount⟩ := exists_outcome_ofStranger
  exact (Generator.forall₂_outputs reachable_ofStranger.wellKept.clean hcount).length_eq.symm

/-- A check of the person, and then a generation into files. Where the console takes one text and is
gone, the check succeeds too, but a generation that prints fails, and none of its classes could be
written. -/
theorem generate_of_check_shelf :
    let output : OutputArgs := ⟨some .file, some ⟨"client"⟩, some ⟨"server"⟩⟩
    (∃ w', (check World.host shelfInputs).run.run shelf = (.ok (), w')) ∧
    (∃ g g' receive,
      ((buildGenerator World.host shelfInputs .standard).run.run shelf).1 = .ok g ∧
      ((buildGenerator World.host shelfInputs (override output .standard)).run.run shelf).1 =
        .ok g' ∧
      ((receiver World.host (override output .standard)).run.run shelf).1 = .ok receive ∧
      let calls := g'.calls receive shelf
      let refused := calls.filter fun d => !d.isReceived
      let run := (generate World.host shelfInputs output).run.run shelf
      calls.map Delivery.handed = (g.calls Sink.memory .empty).map Delivery.handed ∧
      run.2 = ((g'.generate receive).run shelf).2 ∧
      (run.1 = .ok () ↔ ∀ d ∈ calls, d.isReceived = true) ∧
      ∀ fault, run.1 = .error fault →
        fault = .unwritten (calls.filterMap Delivery.refusal?) calls.length ∧
        fault.message = s!"{refused.length} of {calls.length} classes could not be written") ∧
    (∃ w', (check fleeting shelfInputs).run.run shelf = (.ok (), w')) ∧
    ∃ fault, ((generate fleeting shelfInputs ⟨none, none, none⟩).run.run shelf).1 = .error fault ∧
      fault.message = "3 of 3 classes could not be written" := by
  intro output
  obtain ⟨count, hok⟩ := exists_outcome_ofStranger
  obtain ⟨w', hcheck⟩ := check_of_outcome load_shelf rfl build_shelf hok fun _ => rfl
  have hload : (loadConfig fleeting shelfInputs).run.run shelf = (.ok .standard, shelf) :=
    load_shelf
  have hbuild : (buildGenerator fleeting shelfInputs .standard).run.run shelf =
      (.ok ofStranger, shelf) := build_shelf
  obtain ⟨w'', hcheck'⟩ := check_of_outcome hload rfl hbuild hok fun _ =>
    congrArg Prod.fst (print_fleeting_empty rfl _)
  refine ⟨⟨w', hcheck⟩,
    generate_of_check World.answers_host hcheck (congrArg Prod.fst load_shelf) rfl,
    ⟨w'', hcheck'⟩, ?_⟩
  have hvalid : (override ⟨none, none, none⟩ .standard).validate = .ok () := rfl
  obtain ⟨g, g', receive, -, hbuild', hreceive, -, -, hiff, hfault⟩ :=
    generate_of_check answers_fleeting hcheck' (congrArg Prod.fst hload) hvalid
  obtain rfl : ofStranger = g' := Except.ok.inj ((congrArg Prod.fst hbuild).symm.trans hbuild')
  have hprint : receive = fun c => (Sink.toConsole fleeting c).run :=
    (Except.ok.inj hreceive).symm
  have hrefused : ∀ d ∈ ofStranger.calls receive shelf, d.isReceived = false := by
    rw [hprint]
    exact fun d hd => not_isReceived_fleeting hd
  have hlength : (ofStranger.calls receive shelf).length = 3 := by
    rw [← length_classes_ofStranger, ← ofStranger.map_handed_calls receive shelf, List.length_map]
  have hall : (ofStranger.calls receive shelf).filter (fun d => !d.isReceived) =
      ofStranger.calls receive shelf := by
    refine List.filter_eq_self.2 fun d hd => ?_
    rw [hrefused d hd]
    rfl
  cases hrun : ((generate fleeting shelfInputs ⟨none, none, none⟩).run.run shelf).1 with
  | ok _ =>
    have hsome : 0 < (ofStranger.calls receive shelf).length := hlength.symm ▸ Nat.succ_pos 2
    obtain ⟨d, hd⟩ := List.exists_mem_of_length_pos hsome
    exact absurd ((hiff.1 hrun d hd).symm.trans (hrefused d hd)) Bool.noConfusion
  | error fault =>
    refine ⟨fault, rfl, ?_⟩
    rw [(hfault fault hrun).2, hall, hlength]
    decide

end Command

end XmlBinding
