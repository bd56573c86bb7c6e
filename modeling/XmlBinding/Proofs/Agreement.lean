import XmlBinding.Proofs.Client.Reads
import XmlBinding.Proofs.Client.Writes
import XmlBinding.Proofs.Generator.Classes
import XmlBinding.Proofs.Server.Reads
import XmlBinding.Proofs.Server.Writes

/-!
# Agreement of the builders

Both builders write a property as the same node, unless it is an array of arrays. A builder reads
the node that is written, unless a helper was made for values of another form first.

* `Property.IsArrayOfArrays`, `Server.ReadsAsWritten`, `Client.ReadsAsWritten` : where nodes differ;
* `Builder.client_reads_as_server_writes_iff` : from the server to the client;
* `Builder.reads_as_written_iff` : from the client to the server, and on each side.
-/

namespace XmlBinding

/-! ## Nodes that are read and written -/

def Property.IsArrayOfArrays (p : Property) : Prop :=
  ∃ t, p.category = .array t ∧ t.isArray = true

namespace Server

variable {s : Session} {f : ClassFrame} {p : Property}

/-- Whether entries are read as they are written, and keys at all: so they are by the helper that
was asked for first. -/
def ReadsAsWritten (s : Session) (f : ClassFrame) (p : Property) : Prop :=
  match p.category with
  | .basic | .entity => True
  | .array t => ∃ u, served s f (.readArray t) = .readArray u ∧ s.ReadsAs t u
  | .collection _ t _ =>
    s.isEntity t = true ∨ ∃ u, served s f (.readCollection t) = .readCollection u ∧ s.ReadsAs t u
  | .map key t _ =>
    ∃ k u, served s f (.readMap key t) = .readMap k u ∧ (ScalarKind.of? k).isSome = true ∧
      s.ReadsAs t u

theorem readNode_eq_iff : readNode s f p = Client.writeNode s p ↔ ReadsAsWritten s f p := by
  unfold readNode Client.writeNode ReadsAsWritten
  rw [Property.nodeIn_inj]
  cases p.category with
  | basic => exact iff_of_true rfl trivial
  | entity => exact iff_of_true rfl trivial
  | array t =>
    obtain ⟨u, hu, -⟩ := eq_readArray (identity_served s f (.readArray t))
    dsimp only
    rw [hu, XmlForm.list.injEq, entryReadBy, Session.entryRead_eq_entryWritten_iff]
    simp only [ServerHelper.readArray.injEq, exists_eq_left']
  | collection kind t implementation =>
    obtain ⟨u, hu, -⟩ := eq_readCollection (identity_served s f (.readCollection t))
    dsimp only
    rw [hu, XmlForm.list.injEq, entryReadBy, Session.beanOr_entryRead_eq_iff]
    simp only [ServerHelper.readCollection.injEq, exists_eq_left']
  | map key t implementation =>
    obtain ⟨k, u, hu, -⟩ := eq_readMap (identity_served s f (.readMap key t))
    have hkey : Session.keyRead k = .attribute ↔ (ScalarKind.of? k).isSome = true := by
      unfold Session.keyRead
      cases (ScalarKind.of? k).isSome <;> simp
    dsimp only
    rw [hu, XmlForm.map.injEq, entryReadBy, keyReadBy, Session.entryRead_eq_entryWritten_iff, hkey]
    constructor
    · exact fun h => ⟨k, u, rfl, h⟩
    · rintro ⟨k', u', hu', h⟩
      cases hu'
      exact h

theorem writeNode_eq_iff : writeNode s p = Client.writeNode s p ↔ ¬p.IsArrayOfArrays := by
  unfold writeNode Client.writeNode Property.IsArrayOfArrays
  rw [Property.nodeIn_inj]
  cases p.category with
  | array t => cases ht : t.isArray <;> simp [ht]
  | basic | entity | collection kind t implementation | map key t implementation => simp

end Server

namespace Client

variable {s : Session} {f : ClassFrame} {p : Property}

/-- Whether entries are read as they are written: so they are by the helper that was asked for
first. -/
def ReadsAsWritten (s : Session) (f : ClassFrame) (p : Property) : Prop :=
  match p.category with
  | .basic | .entity => True
  | .array t | .collection _ t _ =>
    s.isEntity t = true ∨ ∃ u, served s f (.readArray t) = .readArray u ∧ s.ReadsAs t u
  | .map _ t _ =>
    s.isEntity t = true ∨ ∃ u, served s f (.readMap t) = .readMap u ∧ s.ReadsAs t u

theorem list_eq_iff (s : Session) (f : ClassFrame) (t : JavaType) :
    XmlForm.list (if s.isEntity t then .bean else entryReadBy s (served s f (.readArray t))) =
        .list (s.entryWritten t) ↔
      s.isEntity t = true ∨ ∃ u, served s f (.readArray t) = .readArray u ∧ s.ReadsAs t u := by
  obtain ⟨u, hu, -⟩ := eq_readArray (identity_served s f (.readArray t))
  rw [hu, XmlForm.list.injEq, entryReadBy, Session.beanOr_entryRead_eq_iff]
  simp only [ClientHelper.readArray.injEq, exists_eq_left']

theorem readNode_eq_iff : readNode s f p = writeNode s p ↔ ReadsAsWritten s f p := by
  unfold readNode writeNode ReadsAsWritten
  rw [Property.nodeIn_inj]
  cases p.category with
  | basic => exact iff_of_true rfl trivial
  | entity => exact iff_of_true rfl trivial
  | array t => exact list_eq_iff s f t
  | collection kind t implementation => exact list_eq_iff s f t
  | map key t implementation =>
    obtain ⟨u, hu, -⟩ := eq_readMap (identity_served s f (.readMap t))
    dsimp only
    rw [hu, XmlForm.map.injEq, entryReadBy, Session.beanOr_entryRead_eq_iff]
    simp only [ClientHelper.readMap.injEq, exists_eq_left', true_and]

end Client

/-! ## Builders of a session -/

/-- The catalog of a generator names all methods, whatever is registered. -/
theorem Generator.namesMethods_register (config : Config) (user : Option Catalog.Bundle)
    (rs : List Registration) :
    (rs.foldl register (new config user)).session.catalog.NamesMethods := by
  obtain ⟨es, hes⟩ := exists_foldl_register rs (new config user)
  have hcatalog : (es.foldl add (new config user)).session.catalog =
      Catalog.load config.locale user := by
    rw [foldl_add_catalog, session_new]
  rw [hes, hcatalog]
  exact Catalog.namesMethods_load config.locale user

namespace Builder

variable {e : Entity} {ps : List Property} {fs fc : ClassFrame} {server client : GeneratedClass}

/-- Where the server writes a property and the client reads it, both classes have the code for a
node, and these have one name. They are the same but for arrays of arrays, and for entries that the
client reads by a helper for values of another form. -/
theorem client_reads_as_server_writes_iff (config : Config) (user : Option Catalog.Bundle)
    (rs : List Registration) :
    let s := (rs.foldl Generator.register (Generator.new config user)).session
    Builds Handler.serverDialect s e ps fs server →
    Builds Handler.clientDialect s e ps fc client →
    ∀ p ∈ ps, Server.writeCode (Server.scopeOf s fs) p ≠ "" →
      Client.readCode (Client.scopeOf s fc) p ≠ "" →
      Server.Writes (Server.scopeOf s fs) server.source p (Server.writeNode s p) ∧
      Client.Reads (Client.scopeOf s fc) client.source p (Client.readNode s fc p) ∧
      (Server.writeNode s p).name = (Client.readNode s fc p).name ∧
      (Server.writeNode s p = Client.readNode s fc p ↔
        ¬p.IsArrayOfArrays ∧ Client.ReadsAsWritten s fc p) := by
  intro s hserver hclient p hp hw hr
  have hc : s.catalog.NamesMethods := Generator.namesMethods_register config user rs
  refine ⟨(Server.writes_of_builds hc hserver hp hw).2,
    (Client.reads_of_builds hc hclient hp hr).2, rfl, ?_⟩
  rw [← Client.readNode_eq_iff]
  by_cases ha : p.IsArrayOfArrays
  · refine iff_of_false (fun h => ?_) (fun h => h.1 ha)
    obtain ⟨t, hcategory, ht⟩ := ha
    unfold Server.writeNode Client.readNode at h
    rw [hcategory, Property.nodeIn_inj] at h
    dsimp only at h
    rw [if_pos ht] at h
    cases h
  · rw [Server.writeNode_eq_iff.2 ha]
    exact ⟨fun h => ⟨ha, h.symm⟩, fun h => h.2.symm⟩

/-- The server writes an array of arrays as a text, and the client reads it as entries. -/
theorem client_reads_as_server_writes_array_of_arrays :
    let type : JavaType := .array (.array (.primitive .int))
    let grid : Entity := ⟨⟨"shop.Grid", none, false, none, none, []⟩,
      [⟨"cells", type, "getCells", some "setCells",
        ⟨"cells", "int[][]", true, none, none, none, none, none, none, none, none⟩⟩]⟩
    let cells : Property := ⟨"cells", type, "getCells", some "setCells",
      .array (.array (.primitive .int)), ⟨.element, "cells"⟩, none, none, none, none, false⟩
    let s := ([Registration.entity grid].foldl Generator.register
      (Generator.new .standard none)).session
    ∃ fs fc server client, Builds Handler.serverDialect s grid [cells] fs server ∧
      Builds Handler.clientDialect s grid [cells] fc client ∧
      Server.Writes (Server.scopeOf s fs) server.source cells (cells.nodeIn .text) ∧
      Client.Reads (Client.scopeOf s fc) client.source cells (Client.readNode s fc cells) ∧
      cells.nodeIn .text ≠ Client.readNode s fc cells := by
  intro type grid cells s
  have hps : s.describe grid = .ok [cells] := rfl
  have hvalues : s.entities.values = [grid] := rfl
  have hconfig : s.config = .standard := rfl
  have hgrid : s.Generable grid := by
    refine Session.generable_of_standard hconfig rfl rfl hps fun p hp => ?_
    cases List.mem_singleton.1 hp
    exact ⟨by decide, fun _ _ _ h => (nomatch h)⟩
  have hplaced : ∀ e ∈ s.entities.values, ∀ t, ∃ package, s.packageFor e t = .ok package := by
    intro e he
    rw [hvalues] at he
    cases List.mem_singleton.1 he
    exact hgrid.placed
  obtain ⟨⟨fs, server, hserver⟩, fc, client, hclient⟩ := hgrid.exists_builds
    (Generator.namesMethods_register .standard none [.entity grid]) hplaced hps
  obtain ⟨hwrites, hreads, -, hsame⟩ := client_reads_as_server_writes_iff .standard none
    [.entity grid] hserver hclient cells (List.mem_singleton.2 rfl)
    (Server.writeCode_ne_empty_iff.2 (by decide))
    (Client.readCode_ne_empty_iff.2 ⟨by decide, by decide, fun h => (nomatch h)⟩)
  refine ⟨fs, fc, server, client, hserver, hclient, hwrites, hreads, fun h => ?_⟩
  exact (hsame.1 h).1 ⟨.array (.primitive .int), rfl, rfl⟩

/-- Where one side writes a property and a side reads it, both classes have the code for a node, and
these have one name. They are the same but for entries that are read by a helper for values of
another form, and for keys that the server does not read. -/
theorem reads_as_written_iff (config : Config) (user : Option Catalog.Bundle)
    (rs : List Registration) :
    let s := (rs.foldl Generator.register (Generator.new config user)).session
    Builds Handler.serverDialect s e ps fs server →
    Builds Handler.clientDialect s e ps fc client →
    ∀ p ∈ ps,
      (Client.writeCode (Client.scopeOf s fc) p ≠ "" →
        Server.readCode (Server.scopeOf s fs) p ≠ "" →
        Client.Writes (Client.scopeOf s fc) client.source p (Client.writeNode s p) ∧
        Server.Reads (Server.scopeOf s fs) server.source p (Server.readNode s fs p) ∧
        (Client.writeNode s p).name = (Server.readNode s fs p).name ∧
        (Client.writeNode s p = Server.readNode s fs p ↔ Server.ReadsAsWritten s fs p)) ∧
      (Client.writeCode (Client.scopeOf s fc) p ≠ "" →
        Client.readCode (Client.scopeOf s fc) p ≠ "" →
        Client.Writes (Client.scopeOf s fc) client.source p (Client.writeNode s p) ∧
        Client.Reads (Client.scopeOf s fc) client.source p (Client.readNode s fc p) ∧
        (Client.writeNode s p).name = (Client.readNode s fc p).name ∧
        (Client.writeNode s p = Client.readNode s fc p ↔ Client.ReadsAsWritten s fc p)) ∧
      (Server.writeCode (Server.scopeOf s fs) p ≠ "" →
        Server.readCode (Server.scopeOf s fs) p ≠ "" →
        Server.Writes (Server.scopeOf s fs) server.source p (Server.writeNode s p) ∧
        Server.Reads (Server.scopeOf s fs) server.source p (Server.readNode s fs p) ∧
        (Server.writeNode s p).name = (Server.readNode s fs p).name ∧
        (Server.writeNode s p = Server.readNode s fs p ↔ Server.ReadsAsWritten s fs p)) := by
  intro s hserver hclient p hp
  have hc : s.catalog.NamesMethods := Generator.namesMethods_register config user rs
  refine ⟨fun hw hr => ⟨(Client.writes_of_builds hc hclient hp hw).2,
    (Server.reads_of_builds hc hserver hp hr).2, rfl, eq_comm.trans Server.readNode_eq_iff⟩,
    fun hw hr => ⟨(Client.writes_of_builds hc hclient hp hw).2,
      (Client.reads_of_builds hc hclient hp hr).2, rfl, eq_comm.trans Client.readNode_eq_iff⟩,
    fun hw hr => ⟨(Server.writes_of_builds hc hserver hp hw).2,
      (Server.reads_of_builds hc hserver hp hr).2, rfl, ?_⟩⟩
  -- The server has no code that reads arrays of arrays.
  have ha : ¬p.IsArrayOfArrays := by
    rintro ⟨t, hcategory, ht⟩
    have hreader := (Server.readCode_ne_empty_iff.1 hr).2.2
    unfold Server.HasReader at hreader
    rw [hcategory] at hreader
    cases ht.symm.trans hreader
  rw [Server.writeNode_eq_iff.2 ha]
  exact eq_comm.trans Server.readNode_eq_iff

/-- An array of strings is written as texts. Behind an array of beans of another class `String`, the
server reads it by the same helper, as those beans. -/
theorem reads_as_written_after_other_type :
    let string : JavaType := .reference "java.lang.String"
    let label : JavaType := .reference "shop.String"
    let property (name getter setter : String) (t : JavaType) : BeanProperty :=
      ⟨name, .array t, getter, some setter,
        ⟨name, t.qualifiedName ++ "[]", true, none, none, none, none, none, none, none, none⟩⟩
    let labels : Property := ⟨"labels", .array label, "getLabels", some "setLabels",
      .array label, ⟨.element, "labels"⟩, none, none, none, none, false⟩
    let names : Property := ⟨"names", .array string, "getNames", some "setNames",
      .array string, ⟨.element, "names"⟩, none, none, none, none, false⟩
    let basket : Entity := ⟨⟨"shop.Basket", none, false, none, none, []⟩,
      [property "labels" "getLabels" "setLabels" label,
       property "names" "getNames" "setNames" string]⟩
    let other : Entity := ⟨⟨"shop.String", none, false, none, none, []⟩, []⟩
    let s := ([Registration.entity basket, .entity other].foldl Generator.register
      (Generator.new .standard none)).session
    ∃ fs fc server client, Builds Handler.serverDialect s basket [labels, names] fs server ∧
      Builds Handler.clientDialect s basket [labels, names] fc client ∧
      Client.Writes (Client.scopeOf s fc) client.source names (names.nodeIn (.list .text)) ∧
      Server.Reads (Server.scopeOf s fs) server.source names (names.nodeIn (.list .bean)) ∧
      Server.Writes (Server.scopeOf s fs) server.source names (names.nodeIn (.list .text)) := by
  intro string label property labels names basket other s
  have hps : s.describe basket = .ok [labels, names] := rfl
  have hconfig : s.config = .standard := rfl
  have hbasket : s.Generable basket := by
    refine Session.generable_of_standard hconfig rfl rfl hps fun p hp => ?_
    rcases List.mem_pair.1 hp with rfl | rfl
    · exact ⟨by decide, fun _ _ _ h => (nomatch h)⟩
    · exact ⟨by decide, fun _ _ _ h => (nomatch h)⟩
  have hplaced : ∀ e ∈ s.entities.values, ∀ t, ∃ package, s.packageFor e t = .ok package := by
    intro e he t
    rcases Session.mem_values_register he with rfl | he
    · exact ⟨_, Session.packageFor_standard hconfig rfl t⟩
    · rcases Session.mem_values_register he with rfl | he
      · exact ⟨_, Session.packageFor_standard hconfig rfl t⟩
      · cases he
  obtain ⟨⟨fs, server, hserver⟩, fc, client, hclient⟩ := hbasket.exists_builds
    (Generator.namesMethods_register .standard none [.entity basket, .entity other]) hplaced hps
  have hserved : Server.served s fs (.readArray string) = .readArray label := by
    obtain ⟨-, package, className, node, rfl⟩ := hserver.frame_eq
    rfl
  have hstring : s.isEntity string = false := by decide
  have hlabel : s.isEntity label = true := by decide
  have hwritten : Client.writeNode s names = names.nodeIn (.list .text) := by
    unfold Client.writeNode Session.entryWritten
    dsimp only [names]
    rw [hstring]
    rfl
  have hread : Server.readNode s fs names = names.nodeIn (.list .bean) := by
    unfold Server.readNode
    dsimp only [names]
    rw [hserved, Server.entryReadBy, Session.entryRead, hlabel]
    rfl
  have hmem : names ∈ [labels, names] := List.mem_cons_of_mem _ List.mem_cons_self
  have hcode : Server.readCode (Server.scopeOf s fs) names ≠ "" :=
    Server.readCode_ne_empty_iff.2 ⟨by decide, by decide, rfl⟩
  obtain ⟨hclientServer, -, hserverServer⟩ := reads_as_written_iff .standard none
    [.entity basket, .entity other] hserver hclient names hmem
  obtain ⟨hwrites, hreads, -, -⟩ :=
    hclientServer (Client.writeCode_ne_empty_iff.2 (by decide)) hcode
  obtain ⟨hwrites', -, -, -⟩ :=
    hserverServer (Server.writeCode_ne_empty_iff.2 (by decide)) hcode
  have hsame : Server.writeNode s names = Client.writeNode s names :=
    Server.writeNode_eq_iff.2 fun ⟨t, ht, harray⟩ => by cases ht; cases harray
  rw [hwritten] at hwrites
  rw [hsame, hwritten] at hwrites'
  rw [hread] at hreads
  exact ⟨fs, fc, server, client, hserver, hclient, hwrites, hreads, hwrites'⟩

end Builder

end XmlBinding
