import XmlBinding.Proofs.Client.Identity
import XmlBinding.Proofs.Generator.Outputs
import XmlBinding.Proofs.Pass
import XmlBinding.Proofs.Server.Identity

/-!
# What the identity of a helper says

* `HelpersOf` : a source has the helpers that its methods ask for;
* `Generator.Reachable.alike_of_mem_zip` : in the class of a builder, helpers of one identity are of
  one kind, for types of the same names; what this means for the types differs between the sides.
-/

namespace XmlBinding

/-- The methods of a class ask for some helpers, and of those of one identity the first asked for
stands in its source. -/
structure HelpersOf {H X : Type} (identity : H → HelperId) (asked : List H) (x : Addition (H ⊕ X))
    (text : H → String) (source : String) : Prop where
  asks : x.asks = asked.map fun j => ⟨identity j, .inl j⟩
  served : ∀ j ∈ asked, servedBy identity asked j ∈ asked ∧
    identity (servedBy identity asked j) = identity j ∧
    Occurs (text (servedBy identity asked j)) source

namespace Generator

variable {config : Config} {user : Option Catalog.Bundle} {g : Generator}

/-- In the class of a builder, helpers of one identity are of one kind, for types of the same names.
On the server they are for the same types but for primitives and wrappers, where their names tell
the types apart. On the client, where helpers ask for no other than the one that reads strings, they
are the same helper if both read scalars or neither does. -/
theorem Reachable.alike_of_mem_zip (h : Reachable config user g) {e : Entity} {t : Target}
    {c : GeneratedClass} (hc : ((e, t), c) ∈ g.outputs.zip g.produce.classes) :
    (t = .serverBuilder → ∃ ps f, Builder.Builds Handler.serverDialect g.session e ps f c ∧
      let scope := Server.scopeOf g.session f
      let asked := Server.requests g.session f
      let helper (j : ServerHelper) : Addition (Server.Job Empty) := Server.helperAddition scope j
      HelpersOf Server.identity asked (Server.standingAddition scope : Addition (Server.Job Empty))
        (fun j => (helper j).text) c.source ∧
      (∀ j, (helper j).asks = []) ∧
      (∀ j k, Server.identity j = Server.identity k ↔ Server.Alike j k) ∧
      (∀ j ∈ asked, ∀ k ∈ asked, Server.ToldApart j k →
        Server.identity j = Server.identity k → j.boxed = k.boxed)) ∧
    (t = .clientBuilder → ∃ ps f, Builder.Builds Handler.clientDialect g.session e ps f c ∧
      let scope := Client.scopeOf g.session f
      let asked := Client.requests g.session f
      let helper (j : ClientHelper) : Addition (Client.Job Empty) := Client.helperAddition scope j
      HelpersOf Client.identity asked (Client.standingAddition scope : Addition (Client.Job Empty))
        (fun j => (helper j).text) c.source ∧
      (∀ j, ∀ a ∈ (helper j).asks, a.job = .inl .readString) ∧
      (∀ j k, Client.identity j = Client.identity k ↔ Client.Alike j k) ∧
      (∀ j ∈ asked, ∀ k ∈ asked, Client.identity j = Client.identity k →
        j.readsScalars = k.readsScalars → helper j = helper k)) := by
  obtain ⟨ps, hps, hclass⟩ := isClassOf_of_mem_zip h.wellKept.clean hc
  constructor
  · intro ht
    subst ht
    obtain ⟨f, hf⟩ := (Draft.ofTarget_serverBuilder_iff hps).1 hclass
    refine ⟨ps, f, hf, ⟨Server.asks_standingAddition _, fun j hj => ⟨?_, ?_, ?_⟩⟩, fun j => ?_,
      fun j k => Server.identity_eq_iff, fun j _ k _ hapart he => ?_⟩
    · exact servedBy_mem hj
    · exact Server.identity_served g.session f j
    · exact Server.occurs_served h.namesMethods hf hj
    · exact Server.asks_jobAddition _ (.inl j)
    · exact Server.boxed_eq_of_alike hapart (Server.identity_eq_iff.1 he)
  · intro ht
    subst ht
    obtain ⟨f, hf⟩ := (Draft.ofTarget_clientBuilder_iff hps).1 hclass
    refine ⟨ps, f, hf, ⟨Client.asks_standingAddition _, fun j hj => ⟨?_, ?_, ?_⟩⟩, fun j a ha => ?_,
      fun j k => Client.identity_eq_iff, fun j hj k hk he hscalar => ?_⟩
    · exact servedBy_mem hj
    · exact Client.identity_served g.session f j
    · exact Client.occurs_served h.namesMethods hf hj
    · cases j with
      | readString => cases ha
      | writeMap => cases ha
      | readArray t => exact Client.asks_valueAddition _ t ha
      | readMap t => exact Client.asks_valueAddition _ t ha
    · exact Client.helperAddition_eq_of_alike hj hk (Client.identity_eq_iff.1 he) hscalar

/-! ## Counts and weights -/

def chartArray (name : String) (element : Primitive) : Property :=
  ⟨name, .array (.primitive element), accessorName "get" name, some (accessorName "set" name),
    .array (.primitive element), ⟨.element, name⟩, none, none, none, none, false⟩

/-- A chart with whole counts and real weights. -/
def chart : Entity :=
  let property (p : Property) (type : String) : BeanProperty :=
    ⟨p.name, p.type, p.getter, p.setter,
      ⟨p.name, type, true, none, none, none, none, none, none, none, none⟩⟩
  ⟨⟨"shop.Chart", none, false, none, none, []⟩,
    [property (chartArray "counts" .long) "long[]",
      property (chartArray "weights" .double) "double[]"]⟩

def ofChart : Generator := (new .standard none).withAllHandlers.add chart

theorem reachable_ofChart : Reachable .standard none ofChart :=
  (reachable_withAllHandlers _ _).register (.entity chart)

theorem describe_chart : ofChart.session.describe chart =
    .ok [chartArray "counts" .long, chartArray "weights" .double] := rfl

theorem exists_mem_zip_chart (t : Target) :
    ∃ c, ((chart, t), c) ∈ ofChart.outputs.zip ofChart.produce.classes := by
  have hgenerable : ofChart.session.Generable chart := by
    refine Session.generable_of_standard rfl rfl rfl describe_chart fun p hp => ?_
    rcases List.mem_pair.1 hp with rfl | rfl
    · exact ⟨rfl, fun _ _ _ h => nomatch h⟩
    · exact ⟨rfl, fun _ _ _ h => nomatch h⟩
  exact reachable_ofChart.exists_mem_zip rfl (Session.generable_of_mem_values rfl hgenerable)
    (List.mem_singleton.2 rfl) t

theorem requests_client_chart {f : ClassFrame} {c : GeneratedClass} {ps : List Property}
    (hf : Builder.Builds Handler.clientDialect ofChart.session chart ps f c) :
    Client.requests ofChart.session f =
      [.readArray (.primitive .long), .readArray (.primitive .double)] := by
  cases describe_chart.symm.trans hf.described
  unfold Client.requests ClassFrame.requests
  rw [hf.attributes_eq, hf.elements_eq]
  rfl

theorem requests_server_chart {f : ClassFrame} {c : GeneratedClass} {ps : List Property}
    (hf : Builder.Builds Handler.serverDialect ofChart.session chart ps f c) :
    Server.requests ofChart.session f =
      [.readArray (.primitive .long), .readArray (.primitive .double),
        .writeArray (.primitive .long), .writeArray (.primitive .double)] := by
  cases describe_chart.symm.trans hf.described
  unfold Server.requests ClassFrame.requests
  rw [hf.attributes_eq, hf.elements_eq]
  rfl

/-- Counts and weights have helpers of their own on the server, and the same helper on the
client. -/
theorem alike_of_chart :
    (∃ f c, ((chart, .serverBuilder), c) ∈ ofChart.outputs.zip ofChart.produce.classes ∧
      ∀ j ∈ Server.requests ofChart.session f, ∀ k ∈ Server.requests ofChart.session f,
        Server.ToldApart j k ∧ (Server.identity j = Server.identity k → j.boxed = k.boxed)) ∧
    ∃ f c, ((chart, .clientBuilder), c) ∈ ofChart.outputs.zip ofChart.produce.classes ∧
      (Client.helperAddition (Client.scopeOf ofChart.session f) (.readArray (.primitive .long)) :
          Addition (Client.Job Empty)) =
        Client.helperAddition (Client.scopeOf ofChart.session f)
          (.readArray (.primitive .double)) := by
  obtain ⟨server, hserver⟩ := exists_mem_zip_chart .serverBuilder
  obtain ⟨client, hclient⟩ := exists_mem_zip_chart .clientBuilder
  constructor
  · obtain ⟨ps, f, hf, -, -, -, hboxed⟩ := (reachable_ofChart.alike_of_mem_zip hserver).1 rfl
    have hapart : ∀ j ∈ Server.requests ofChart.session f,
        ∀ k ∈ Server.requests ofChart.session f, Server.ToldApart j k := by
      rw [requests_server_chart hf]
      simp only [List.mem_cons, List.not_mem_nil, or_false]
      rintro j (rfl | rfl | rfl | rfl) k (rfl | rfl | rfl | rfl)
      all_goals first
        | exact trivial | exact fun _ => rfl | exact fun hname => absurd hname (by decide)
    refine ⟨f, server, hserver, fun j hj k hk => ⟨hapart j hj k hk, ?_⟩⟩
    exact hboxed j hj k hk (hapart j hj k hk)
  · obtain ⟨ps, f, hf, -, -, -, hsame⟩ := (reachable_ofChart.alike_of_mem_zip hclient).2 rfl
    rw [requests_client_chart hf] at hsame
    exact ⟨f, client, hclient, hsame _ List.mem_cons_self _
      (List.mem_cons_of_mem _ List.mem_cons_self) (by decide) (by decide)⟩

/-- The types of helpers of one identity need not be the same, even but for primitives and wrappers:
the weights of a chart are asked for under the identity of the counts. -/
theorem weights_asked_for_as_counts :
    ∃ ps f c, ((chart, .clientBuilder), c) ∈ ofChart.outputs.zip ofChart.produce.classes ∧
      Builder.Builds Handler.clientDialect ofChart.session chart ps f c ∧
      ∃ j ∈ Client.requests ofChart.session f, ∃ k ∈ Client.requests ofChart.session f,
        Client.identity j = Client.identity k ∧
          j.valueType?.map JavaType.boxed ≠ k.valueType?.map JavaType.boxed := by
  obtain ⟨client, hclient⟩ := exists_mem_zip_chart .clientBuilder
  obtain ⟨ps, hps, hclass⟩ := isClassOf_of_mem_zip reachable_ofChart.wellKept.clean hclient
  obtain ⟨f, hf⟩ := (Draft.ofTarget_clientBuilder_iff hps).1 hclass
  refine ⟨ps, f, client, hclient, hf, ?_⟩
  rw [requests_client_chart hf]
  exact ⟨_, List.mem_cons_self, _, List.mem_cons_of_mem _ List.mem_cons_self, by decide, by decide⟩

end Generator

end XmlBinding
