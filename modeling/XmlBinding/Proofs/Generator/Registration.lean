import XmlBinding.Generator

/-!
# Registering entities

* `Registration`, `Generator.register` : the ways in which entities come into a generator;
* `exists_foldl_register` : each amounts to adding some entities in order;
* `foldl_add_handlers`, `foldl_add_config`, `foldl_add_catalog` : nothing else changes.
-/

namespace XmlBinding

/-- Ways in which entities come into a generator: one by itself, or those of the descriptors of a
file or a package. -/
inductive Registration where
  | entity (e : Entity)
  | descriptors (ds : List EntityDescriptor)

namespace Generator

/-- The generator after a registration. Descriptors before one that is no entity count. -/
def register (g : Generator) : Registration → Generator
  | .entity e => g.add e
  | .descriptors ds => (g.addDescriptors ds).2

theorem exists_addDescriptors (ds : List EntityDescriptor) (g : Generator) :
    ∃ es : List Entity, (g.addDescriptors ds).2 = es.foldl add g := by
  induction ds generalizing g with
  | nil => exact ⟨[], rfl⟩
  | cons d ds ih =>
    unfold addDescriptors
    cases Entity.ofDescriptor d with
    | error failure => exact ⟨[], rfl⟩
    | ok e =>
      obtain ⟨es, hes⟩ := ih (g.add e)
      exact ⟨e :: es, hes⟩

theorem exists_register (g : Generator) (r : Registration) :
    ∃ es : List Entity, g.register r = es.foldl add g := by
  cases r with
  | entity e => exact ⟨[e], rfl⟩
  | descriptors ds => exact exists_addDescriptors ds g

theorem exists_foldl_register (rs : List Registration) (g : Generator) :
    ∃ es : List Entity, rs.foldl register g = es.foldl add g := by
  induction rs generalizing g with
  | nil => exact ⟨[], rfl⟩
  | cons r rs ih =>
    obtain ⟨es, hes⟩ := exists_register g r
    obtain ⟨fs, hfs⟩ := ih (g.register r)
    refine ⟨es ++ fs, ?_⟩
    rw [List.foldl_cons, hfs, hes, List.foldl_append]

/-! ## What does not change -/

theorem session_new (config : Config) (user : Option Catalog.Bundle) :
    (new config user).session = ⟨config, Catalog.load config.locale user, .empty⟩ := by
  rw [new]

theorem handlers_new (config : Config) (user : Option Catalog.Bundle) :
    (new config user).handlers = [] := by
  rw [new]

variable {g : Generator} {e : Entity}

theorem add_handlers : (g.add e).handlers = g.handlers := rfl

theorem add_config : (g.add e).session.config = g.session.config := by
  unfold add Session.register
  cases e.descriptor.transient <;> rfl

theorem add_catalog : (g.add e).session.catalog = g.session.catalog := by
  unfold add Session.register
  cases e.descriptor.transient <;> rfl

theorem foldl_add_handlers (es : List Entity) (g : Generator) :
    (es.foldl add g).handlers = g.handlers := by
  induction es generalizing g with
  | nil => rfl
  | cons e es ih => exact (ih (g.add e)).trans add_handlers

theorem foldl_add_config (es : List Entity) (g : Generator) :
    (es.foldl add g).session.config = g.session.config := by
  induction es generalizing g with
  | nil => rfl
  | cons e es ih => exact (ih (g.add e)).trans add_config

theorem foldl_add_catalog (es : List Entity) (g : Generator) :
    (es.foldl add g).session.catalog = g.session.catalog := by
  induction es generalizing g with
  | nil => rfl
  | cons e es ih => exact (ih (g.add e)).trans add_catalog

theorem foldl_addHandler_handlers (ts : List Target) (g : Generator) :
    (ts.foldl addHandler g).handlers = g.handlers ++ ts.map Handler.fresh := by
  induction ts generalizing g with
  | nil => exact (List.append_nil _).symm
  | cons t ts ih =>
    rw [List.foldl_cons, ih, List.map_cons]
    exact List.append_assoc g.handlers [Handler.fresh t] _

theorem foldl_addHandler_session (ts : List Target) (g : Generator) :
    (ts.foldl addHandler g).session = g.session := by
  induction ts generalizing g with
  | nil => rfl
  | cons t ts ih => exact ih (g.addHandler t)

end Generator

end XmlBinding
