import Mathlib.Data.List.Forall2
import XmlBinding.Proofs.Form

/-!
# The code of a pass

Each of the four passes between a bean and its XML has its own conditions for the properties it
handles.

* `Property.isHandled d` : whether the pass in a direction handles a property;
* `Property.handled d ps` : the properties that the pass handles, in the order in which it does;
  `handled_perm` : each once, and no other;
* `Codes code ps texts` : texts that are the code of properties, one text each;
* `join_handled` : the texts of a frame's properties are the code of the handled ones.
-/

namespace XmlBinding

namespace Property

/-- Whether the pass in a direction handles a property. Reading needs a setter and a type that can
be read; whatever is written has a text. -/
def isHandled (d : Direction) (p : Property) : Bool :=
  p.transience.isNone && !p.isLazy d &&
    match d with
    | .serverWrite | .clientWrite => true
    | .serverRead =>
      p.setter.isSome && match p.category with
        | .basic => (ScalarKind.of? p.type).isSome
        | .array t => !t.isArray
        | .entity | .collection .. | .map .. => true
    | .clientRead =>
      p.setter.isSome && match p.category with
        | .basic => (ScalarKind.of? p.type).isSome
        | .entity | .array _ | .collection .. | .map .. => true

variable {d : Direction} {p : Property}

theorem takesPart_of_isHandled (hh : p.isHidden .marshalling = p.transience.isSome)
    (h : p.isHandled d = true) : p.takesPart d = true := by
  simp only [isHandled, Bool.and_eq_true, Bool.not_eq_true', Option.isNone_iff_eq_none] at h
  rw [takesPart_iff, hh, h.1.1]
  exact ⟨h.1.2, rfl⟩

/-- Whatever takes part in writing is handled. -/
theorem isHandled_iff_takesPart (hd : d = .serverWrite ∨ d = .clientWrite)
    (hh : p.isHidden .marshalling = p.transience.isSome) :
    p.isHandled d = true ↔ p.takesPart d = true := by
  refine ⟨takesPart_of_isHandled hh, fun h => ?_⟩
  obtain ⟨hlazy, hhidden⟩ := takesPart_iff.1 h
  rw [hh, Option.isSome_eq_false_iff] at hhidden
  rcases hd with rfl | rfl
  · simp [isHandled, hlazy, hhidden]
  · simp [isHandled, hlazy, hhidden]

/-! ## Order -/

/-- The properties in a place that a pass handles, in the order of the entity. -/
def handledAt (d : Direction) (place : Property → Bool) (ps : List Property) : List Property :=
  ps.filter fun p => p.isHandled d && place p

/-- The properties that a pass handles: first those bound to attributes, then the others. -/
def handled (d : Direction) (ps : List Property) : List Property :=
  handledAt d (·.node.isAttribute) ps ++ handledAt d (!·.node.isAttribute) ps

/-- A pass comes to each property that it handles, once, and to no other. -/
theorem handled_perm (d : Direction) (ps : List Property) :
    (handled d ps).Perm (ps.filter (·.isHandled d)) := by
  have hsplit (place : Property → Bool) :
      handledAt d place ps = (ps.filter (·.isHandled d)).filter place := by
    rw [List.filter_filter]
    exact List.filter_congr fun p _ => Bool.and_comm _ _
  unfold handled
  rw [hsplit, hsplit]
  exact List.filter_append_perm _ _

theorem mem_handled_iff {ps : List Property} :
    p ∈ handled d ps ↔ p ∈ ps ∧ p.isHandled d = true := by
  rw [(handled_perm d ps).mem_iff, List.mem_filter]

end Property

/-- Texts are the code of properties, one text for each. -/
def Codes (code : Property → Option String) (ps : List Property) (texts : List String) : Prop :=
  List.Forall₂ (fun p text => code p = some text) ps texts

theorem codes_map {code : Property → Option String} {text : Property → String}
    {ps : List Property} (h : ∀ p ∈ ps, code p = some (text p)) : Codes code ps (ps.map text) := by
  unfold Codes
  rwa [List.forall₂_map_right_iff, List.forall₂_same]

/-- Additions without a text leave that of others alone. -/
theorem Addition.text_append_of_empty {J : Type} {x : Addition J} (h : x.text = "")
    (y : Addition J) : (x ++ y).text = y.text := by
  rw [text_append, h, String.empty_append]

section Texts
variable {d : Direction} {ps : List Property} {text : Property → String}

/-- Elements without a text can be left out of a join. -/
theorem join_filter_eq {α : Type} {l : List α} {keep keep' : α → Bool} {text : α → String}
    (hkeep : ∀ a ∈ l, keep' a = true → keep a = true)
    (htext : ∀ a ∈ l, keep a = true → keep' a = false → text a = "") :
    String.join ((l.filter keep).map text) = String.join ((l.filter keep').map text) := by
  induction l with
  | nil => rfl
  | cons a l ih =>
    have hrest := ih (fun b hb => hkeep b (List.mem_cons_of_mem a hb))
      (fun b hb => htext b (List.mem_cons_of_mem a hb))
    cases hk' : keep' a with
    | true =>
      rw [List.filter_cons_of_pos hk', List.filter_cons_of_pos (hkeep a List.mem_cons_self hk'),
        List.map_cons, List.map_cons, String.join_cons, String.join_cons, hrest]
    | false =>
      have hskip' : (a :: l).filter keep' = l.filter keep' :=
        List.filter_cons_of_neg (Bool.eq_false_iff.1 hk')
      rw [hskip']
      cases hk : keep a with
      | true =>
        rw [List.filter_cons_of_pos hk, List.map_cons, String.join_cons,
          htext a List.mem_cons_self hk hk', String.empty_append, hrest]
      | false =>
        have hskip : (a :: l).filter keep = l.filter keep :=
          List.filter_cons_of_neg (Bool.eq_false_iff.1 hk)
        rw [hskip, hrest]

theorem Property.takesPart_of_not_isHidden {p : Property} (d : Direction)
    (h : p.isHidden .marshalling = false) : p.takesPart d = !p.isLazy d := by
  unfold takesPart
  rw [h, Bool.or_false]

variable (place : Property → Bool) {part : Property → Bool} {code : Property → String}
  (hps : ∀ p ∈ ps, p.isHidden .marshalling = p.transience.isSome)
  (hcode : ∀ p ∈ ps, p.takesPart d = true → code p ≠ "" → p.isHandled d = true)
include hps hcode

/-- The texts of those properties in one place of a frame that are not lazy are the code of the
handled ones. -/
theorem join_handled (hpart : ∀ p, p.isHidden .marshalling = false → part p = !p.isLazy d)
    (htext : ∀ p, p.takesPart d = true → place p = true → text p = code p) :
    String.join (((ps.filter fun p => !p.isHidden .marshalling && place p).filter part).map text) =
      String.join ((Property.handledAt d place ps).map code) := by
  unfold Property.handledAt
  have hkept {p : Property} (h : (part p && (!p.isHidden .marshalling && place p)) = true) :
      p.takesPart d = true ∧ place p = true := by
    obtain ⟨hpartp, h⟩ := Bool.and_eq_true_iff.1 h
    obtain ⟨hhidden, hplace⟩ := Bool.and_eq_true_iff.1 h
    rw [Bool.not_eq_true'] at hhidden
    rw [Property.takesPart_of_not_isHidden d hhidden, ← hpart p hhidden]
    exact ⟨hpartp, hplace⟩
  rw [List.filter_filter, List.map_congr_left fun p hp =>
    htext p (hkept (List.mem_filter.1 hp).2).1 (hkept (List.mem_filter.1 hp).2).2]
  refine join_filter_eq (fun p hp h => ?_) (fun p hp h h' => ?_)
  · obtain ⟨hd, hplace⟩ := Bool.and_eq_true_iff.1 h
    obtain ⟨hlazy, hhidden⟩ :=
      Property.takesPart_iff.1 (Property.takesPart_of_isHandled (hps p hp) hd)
    rw [hpart p hhidden, hlazy, hhidden, hplace]
    rfl
  · obtain ⟨hd, hplace⟩ := hkept h
    rw [hplace, Bool.and_true] at h'
    by_contra hne
    rw [hcode p hp hd hne] at h'
    cases h'

/-- What the properties in one place of a frame add is the code of the handled ones. -/
theorem text_ofProperties_handled {J : Type} {x : Property → Addition J}
    (hx : ∀ p, p.takesPart d = true → place p = true → (x p).text = code p) :
    (Addition.ofProperties d x (ps.filter fun p => !p.isHidden .marshalling && place p)).text =
      String.join ((Property.handledAt d place ps).map code) := by
  unfold Addition.ofProperties
  rw [Addition.text_concat, List.map_map]
  exact join_handled place hps hcode (fun p => Property.takesPart_of_not_isHidden d) hx

end Texts

/-! ## Frames -/

namespace Builder.Builds

variable {J : Type} {d : Dialect J} {s : Session} {e : Entity} {ps : List Property}
  {f : ClassFrame} {c : GeneratedClass}

theorem attributes_eq (h : Builds d s e ps f c) : f.attributes = ps.filter isFrameAttribute := by
  obtain ⟨-, package, className, node, rfl⟩ := h.frame_eq
  rfl

theorem elements_eq (h : Builds d s e ps f c) : f.elements = ps.filter isFrameElement := by
  obtain ⟨-, package, className, node, rfl⟩ := h.frame_eq
  rfl

end Builder.Builds

end XmlBinding
