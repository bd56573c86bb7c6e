import XmlBinding.Proofs.Client.Signature
import XmlBinding.Proofs.Linking
import XmlBinding.Proofs.Server.Signature

/-!
# Methods told apart

A helper is made once for each identity, and the name of its method is put together from other
texts than the identity. So two helpers can have one method, and a helper that of every builder.

* `Generator.Reachable.named_of_mem_zip` : with a built-in catalog, the classes where each method
  has a signature of its own, and those where the names of methods are identifiers;
* `Generator.readers_of_tally_clash` : readers of `long[]` and `Long[]` in one class.
-/

namespace XmlBinding.Generator

variable {config : Config} {g : Generator}

/-- With a built-in catalog, the methods of a server builder have signatures of their own exactly
where the names of types, in upper case, tell the readers that the class asks for apart, and from
the methods for entities. Those of a client builder have names of their own exactly where no reader
is for a type by the name of entities. Their names are identifiers exactly where the names of types
in them are made of characters of identifiers, and so not for collections and maps of arrays. -/
theorem Reachable.named_of_mem_zip (h : Reachable config none g) {e : Entity} {t : Target}
    {c : GeneratedClass} (hc : ((e, t), c) ∈ g.outputs.zip g.produce.classes) :
    (t = .serverBuilder →
      ∃ ps f code, Builder.Builds Handler.serverDialect g.session e ps f c ∧
        IsBody g.session e .serverBuilder code c ∧
        ((code.signatures g.session.catalog).Nodup ↔
          Server.SignaturesApart e.simpleName (Server.requests g.session f)) ∧
        ∀ l : Lexicon,
          ((∀ name ∈ code.names g.session.catalog, l.IsIdentifier name) ↔
            ∀ j ∈ Server.requests g.session f, l.IsMade (Server.subject j)) ∧
          ∀ component, (.readCollection (.array component) ∈ Server.requests g.session f ∨
              ∃ key, .readMap key (.array component) ∈ Server.requests g.session f) →
            ¬∀ name ∈ code.names g.session.catalog, l.IsIdentifier name) ∧
    (t = .clientBuilder →
      ∃ ps f code, Builder.Builds Handler.clientDialect g.session e ps f c ∧
        IsBody g.session e .clientBuilder code c ∧
        ((code.names g.session.catalog).Nodup ↔
          ∀ u, .readArray u ∈ Client.requests g.session f ∨
              .readMap u ∈ Client.requests g.session f →
            capitalize u.clientName ≠ "Entity") ∧
        ∀ l : Lexicon, (∀ name ∈ code.names g.session.catalog, l.IsIdentifier name) ↔
          ∀ j ∈ Client.requests g.session f, l.IsMade (Client.subject j)) := by
  have hclass := isClassOf_of_mem_zip h.wellKept.clean hc
  rw [h.wellKept.worded]
  refine ⟨?_, ?_⟩
  · rintro rfl
    obtain ⟨code, hbody⟩ := hclass.exists_body h.namesMethods (by decide)
    cases hbody with
    | @server ps f c jobs built closed stands =>
      have hcode := (Server.hasMethods_of_builds built jobs).definitions
      have hnames := Server.isIdentifier_names_iff hcode closed config.locale
      have hbean : Server.bean (Server.scopeOf g.session f) = e.simpleName := by
        rw [← built.placed.1]
        rfl
      refine ⟨ps, f, _, built, .server built closed stands, ?_, fun l => ⟨hnames l, ?_⟩⟩
      · rw [Server.nodup_signatures_iff hcode closed config.locale, hbean]
      · intro component hcomponent hall
        have hmade := (hnames l).1 hall
        obtain ⟨hcollection, hmap⟩ := Server.not_isMade_subject_of_array l component
        rcases hcomponent with hr | ⟨key, hr⟩
        · exact hcollection (hmade _ hr)
        · exact hmap key (hmade _ hr)
  · rintro rfl
    obtain ⟨code, hbody⟩ := hclass.exists_body h.namesMethods (by decide)
    cases hbody with
    | @client ps f c jobs built closed stands =>
      have hcode := (Client.hasMethods_of_builds built jobs).definitions
      exact ⟨ps, f, _, built, .client built closed stands,
        Client.nodup_names_iff hcode closed config.locale,
        Client.isIdentifier_names_iff hcode closed config.locale⟩

/-! ## A tally of counts and totals -/

def tallyArray (name : String) (element : JavaType) : Property :=
  ⟨name, .array element, accessorName "get" name, some (accessorName "set" name),
    .array element, ⟨.element, name⟩, none, none, none, none, false⟩

/-- A tally with counts as primitives and totals as objects. -/
def tally : Entity :=
  let property (p : Property) (type : String) : BeanProperty :=
    ⟨p.name, p.type, p.getter, p.setter,
      ⟨p.name, type, true, none, none, none, none, none, none, none, none⟩⟩
  ⟨⟨"shop.Tally", none, false, none, none, []⟩,
    [property (tallyArray "counts" (.primitive .long)) "long[]",
      property (tallyArray "totals" (.reference "java.lang.Long")) "Long[]"]⟩

def ofTally : Generator := (new .standard none).withAllHandlers.add tally

theorem reachable_ofTally : Reachable .standard none ofTally :=
  (reachable_withAllHandlers _ _).register (.entity tally)

theorem describe_tally : ofTally.session.describe tally =
    .ok [tallyArray "counts" (.primitive .long),
      tallyArray "totals" (.reference "java.lang.Long")] := rfl

theorem generable_of_mem_ofTally :
    ∀ e ∈ ofTally.session.entities.values, ofTally.session.Generable e := by
  refine Session.generable_of_mem_values (e := tally) rfl ?_
  refine Session.generable_of_standard rfl rfl rfl describe_tally fun p hp => ?_
  rcases List.mem_pair.1 hp with rfl | rfl
  · exact ⟨rfl, fun _ _ _ h => nomatch h⟩
  · exact ⟨rfl, fun _ _ _ h => nomatch h⟩

theorem requests_server_tally {f : ClassFrame} {c : GeneratedClass} {ps : List Property}
    (hf : Builder.Builds Handler.serverDialect ofTally.session tally ps f c) :
    Server.requests ofTally.session f =
      [.readArray (.primitive .long), .readArray (.reference "java.lang.Long"),
        .writeArray (.primitive .long), .writeArray (.reference "java.lang.Long")] := by
  cases describe_tally.symm.trans hf.described
  unfold Server.requests ClassFrame.requests
  rw [hf.attributes_eq, hf.elements_eq]
  rfl

/-- The server builder of a tally has two methods of one signature: the readers of its counts and of
its totals. -/
theorem readers_of_tally_clash :
    ∃ c code, ((tally, .serverBuilder), c) ∈ ofTally.outputs.zip ofTally.produce.classes ∧
      IsBody ofTally.session tally .serverBuilder code c ∧
      ¬(code.signatures ofTally.session.catalog).Nodup := by
  obtain ⟨c, hc⟩ := reachable_ofTally.exists_mem_zip rfl generable_of_mem_ofTally
    (List.mem_singleton.2 rfl) .serverBuilder
  obtain ⟨ps, f, code, hf, hbody, hnodup, -⟩ := (reachable_ofTally.named_of_mem_zip hc).1 rfl
  refine ⟨c, code, hc, hbody, fun h => ?_⟩
  have happart := hnodup.1 h
  rw [requests_server_tally hf] at happart
  have hsame := happart.arrays (.primitive .long) (.reference "java.lang.Long")
    List.mem_cons_self (List.mem_cons_of_mem _ List.mem_cons_self) (by decide)
  exact absurd hsame (by decide)

end XmlBinding.Generator
