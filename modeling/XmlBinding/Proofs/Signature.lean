import Mathlib.Data.List.Nodup
import XmlBinding.Proofs.Code
import XmlBinding.Proofs.Emission.Closure

/-!
# Names and signatures of methods

* `Lexicon`, `Lexicon.IsIdentifier` : what a language takes for an identifier;
  `isIdentifier_around_iff` : names around the name of a type;
* `Code.names`, `signatures` : the methods of a code by name, and by name and types of parameters;
* `IsClosure.nodup_iff` : whether the methods of a closure have signatures of their own;
  `IsClosure.forall_iff` : what holds of the jobs that are asked for holds of all.
-/

namespace XmlBinding

/-! ## Identifiers -/

/-- What a language takes for characters of identifiers: the letters of the alphabet, no closing
bracket, and of the others what it likes. -/
structure Lexicon where
  isStart : Char → Bool
  isPart : Char → Bool
  letters : ∀ c, c.isAlpha = true → isStart c = true ∧ isPart c = true
  bracket : isPart ']' = false

namespace Lexicon

variable (l : Lexicon) {name : String}

/-- A text is made of characters of identifiers. -/
def IsMade (text : String) : Prop := ∀ c ∈ text.toList, l.isPart c = true

def IsIdentifier (name : String) : Prop :=
  (∃ c, name.toList.head? = some c ∧ l.isStart c = true) ∧ l.IsMade name

theorem isMade_append {a b : String} : l.IsMade (a ++ b) ↔ l.IsMade a ∧ l.IsMade b := by
  unfold IsMade
  rw [String.toList_append]
  exact List.forall_mem_append

theorem isMade_of_letters {text : String} (h : text.toList.all Char.isAlpha = true) :
    l.IsMade text := fun c hc => (l.letters c (List.all_eq_true.1 h c hc)).2

/-- Names of letters are identifiers. -/
theorem isIdentifier_of_letters (h : name.toList.all Char.isAlpha = true)
    (hne : name.toList.head?.isSome = true) : l.IsIdentifier name := by
  obtain ⟨c, hc⟩ := Option.isSome_iff_exists.1 hne
  have hletter := List.all_eq_true.1 h c (List.mem_of_mem_head? hc)
  exact ⟨⟨c, hc, (l.letters c hletter).1⟩, l.isMade_of_letters h⟩

/-- A name around the name of a type is an identifier if the latter is made of characters of
identifiers. -/
theorem isIdentifier_around_iff {subject ending : String}
    (h : ending.toList.all Char.isAlpha = true) :
    l.IsIdentifier ("get" ++ subject ++ ending) ↔ l.IsMade subject := by
  have hget : l.IsMade "get" := l.isMade_of_letters (by decide)
  have hmade : l.IsMade ("get" ++ subject ++ ending) ↔ l.IsMade subject := by
    rw [l.isMade_append, l.isMade_append]
    exact ⟨fun h => h.1.2, fun hs => ⟨⟨hget, hs⟩, l.isMade_of_letters h⟩⟩
  refine ⟨fun h => hmade.1 h.2, fun hs => ⟨⟨'g', ?_, (l.letters 'g' (by decide)).1⟩, hmade.2 hs⟩⟩
  rw [String.toList_append, String.toList_append]
  rfl

/-- A text with a closing bracket is not made of characters of identifiers. -/
theorem not_isMade_of_mem {text : String} (h : ']' ∈ text.toList) : ¬l.IsMade text := by
  intro hmade
  have hbracket := hmade ']' h
  rw [l.bracket] at hbracket
  cases hbracket

/-- The name of an array type, in upper case or not, has a closing bracket. -/
theorem not_isMade_capitalize_array (c : JavaType) :
    ¬l.IsMade (capitalize (JavaType.array c).simpleName) := by
  refine l.not_isMade_of_mem ?_
  unfold JavaType.simpleName capitalize
  rw [String.toList_append]
  cases c.simpleName.toList with
  | nil => simp
  | cons d rest => simp

end Lexicon

/-! ## Names by their endings -/

/-- Of two endings of a text one is that of the other. -/
theorem isSuffixOf_or_of_append_eq {a b s t : String} (h : a ++ s = b ++ t) :
    s.toList.isSuffixOf t.toList = true ∨ t.toList.isSuffixOf s.toList = true := by
  have hlists := congrArg String.toList h
  rw [String.toList_append, String.toList_append] at hlists
  have hs : s.toList <:+ b.toList ++ t.toList := ⟨_, hlists⟩
  exact (List.suffix_or_suffix_of_suffix hs (List.suffix_append _ _)).imp
    List.isSuffixOf_iff_suffix.2 List.isSuffixOf_iff_suffix.2

/-- A text with one of some endings is not one that neither has them nor is part of them. -/
theorem append_ne {endings : List String} {name : String}
    (h : ∀ e ∈ endings,
      (e.toList.isSuffixOf name.toList || name.toList.isSuffixOf e.toList) = false)
    {e : String} (he : e ∈ endings) (a : String) : a ++ e ≠ name := by
  intro hname
  have hnone := Bool.or_eq_false_iff.1 (h e he)
  rcases isSuffixOf_or_of_append_eq (hname.trans (String.empty_append).symm) with hs | hs
  · rw [hnone.1] at hs
    cases hs
  · rw [hnone.2] at hs
    cases hs

/-- An ending can be told from a text where no ending is that of another one. -/
theorem append_eq_append_iff {endings : List String}
    (hends : ∀ s ∈ endings, ∀ t ∈ endings, s.toList.isSuffixOf t.toList = true → s = t)
    {a b s t : String} (hs : s ∈ endings) (ht : t ∈ endings) :
    a ++ s = b ++ t ↔ a = b ∧ s = t := by
  refine ⟨fun h => ?_, fun ⟨ha, hs⟩ => ha ▸ hs ▸ rfl⟩
  have hst : s = t := (isSuffixOf_or_of_append_eq h).elim (hends s hs t ht)
    fun hsuffix => (hends t ht s hs hsuffix).symm
  subst hst
  exact ⟨String.append_left_inj s |>.1 h, rfl⟩

/-! ## Methods of a code -/

namespace Code

def names (catalog : Catalog) (code : Code) : List String :=
  code.definitions.map fun d => catalog.nameOf d.1.key d.1.args

/-- Methods of a code by their names and the types of their parameters. -/
def signatures (catalog : Catalog) (code : Code) : List (String × List String) :=
  code.definitions.map fun d => (catalog.nameOf d.1.key d.1.args, d.2.map (·.type))

theorem map_signatures (catalog : Catalog) (code : Code) :
    (code.signatures catalog).map Prod.fst = code.names catalog := by
  unfold signatures names
  rw [List.map_map]
  rfl

end Code

/-! ## Jobs of a closure -/

namespace IsClosure

variable {H σ : Type} {identity : H → HelperId} {asked jobs : List H} {asks : H → List H}

/-- What an identity decides and what holds of all jobs that are asked for in turn holds of the jobs
of a closure where it holds of those that are asked for first. -/
theorem forall_iff (h : IsClosure identity asked asks jobs) {P : H → Prop}
    (hP : ∀ i j, identity i = identity j → P i → P j) (hasks : ∀ i, ∀ j ∈ asks i, P j) :
    (∀ j ∈ jobs, P j) ↔ ∀ j ∈ asked, P j := by
  constructor
  · intro hjobs j hj
    obtain ⟨k, hk, hid⟩ := h.asked j hj
    exact hP k j hid (hjobs k hk)
  · intro hasked j hj
    rcases h.wanted j hj with hj | ⟨i, -, hj⟩
    · exact hasked j hj
    · exact hasks i j hj

/-- Standing methods and those of a closure have signatures of their own exactly where jobs of one
signature are of one identity and none has a standing one. It is enough to look at what is asked for
first, if what is asked for in turn has a signature of its own. -/
theorem nodup_iff (h : IsClosure identity asked asks jobs) {standing : List σ}
    (hstanding : standing.Nodup) {signature : H → σ}
    (hsignature : ∀ i j, identity i = identity j → signature i = signature j)
    (hasks : ∀ i, ∀ j ∈ asks i,
      (∀ k, signature k = signature j → identity k = identity j) ∧ signature j ∉ standing) :
    (standing ++ jobs.map signature).Nodup ↔
      (∀ j ∈ asked, ∀ k ∈ asked, signature j = signature k → identity j = identity k) ∧
        ∀ j ∈ asked, signature j ∉ standing := by
  have hjobs : jobs.Nodup := List.Nodup.of_map identity h.nodup
  have hidentity : ∀ j ∈ jobs, ∀ k ∈ jobs, identity j = identity k → j = k :=
    (List.nodup_map_iff_inj_on hjobs).1 h.nodup
  have hpairs : (∀ j ∈ jobs, ∀ k ∈ jobs, signature j = signature k → identity j = identity k) ↔
      ∀ j ∈ asked, ∀ k ∈ asked, signature j = signature k → identity j = identity k := by
    have hright (j : H) := h.forall_iff (P := fun k => signature j = signature k →
      identity j = identity k)
      (fun i k hid hi hk => (hi (hk.trans (hsignature i k hid).symm)).trans hid)
      fun i k hk => (hasks i k hk).1 j
    simp only [hright]
    refine h.forall_iff (P := fun j => ∀ k ∈ asked, signature j = signature k →
      identity j = identity k) (fun i j hid hi k hk he => ?_) fun i j hj k _ he => ?_
    · exact hid.symm.trans (hi k hk ((hsignature i j hid).trans he))
    · exact ((hasks i j hj).1 k he.symm).symm
  have hnone : (∀ j ∈ jobs, signature j ∉ standing) ↔ ∀ j ∈ asked, signature j ∉ standing :=
    h.forall_iff (fun i j hid hi => hsignature i j hid ▸ hi) fun i j hj => (hasks i j hj).2
  rw [← hpairs, ← hnone, List.nodup_append, List.nodup_map_iff_inj_on hjobs]
  constructor
  · rintro ⟨-, hinj, hdisjoint⟩
    refine ⟨fun j hj k hk he => congrArg identity (hinj j hj k hk he), fun j hj hmem => ?_⟩
    exact hdisjoint _ hmem _ (List.mem_map_of_mem hj) rfl
  · rintro ⟨hsame, hnone⟩
    refine ⟨hstanding, fun j hj k hk he => hidentity j hj k hk (hsame j hj k hk he), ?_⟩
    rintro x hx y hy rfl
    obtain ⟨j, hj, rfl⟩ := List.mem_map.1 hy
    exact hnone j hj hx

end IsClosure

end XmlBinding
