import Mathlib.Data.List.Nodup
import XmlBinding.Proofs.Emission.Drain

/-!
# Waves of any helpers

Helpers may ask for any others, for themselves and for those that are written already, and may fail.
Each is called once all the same, for an identity is queued once. A helper that fails takes with it
those behind it in its wave: they are known from then on, and nobody calls them.

* `Emission.newOf known hs` : the helpers that asking for `hs` adds to the queue;
* `Emit.Asks scope act asks` : all that an action does about helpers is to ask for some;
* `Wave` : the helpers called and asked for in a wave, and the failure that ends it;
* `Emission.waves`, `Emit.drainWaves_eq` : the waves of a drain, and its outcome in terms of them;
  `Emission.WavesTo` : how they come about;
* `BreadthFirst known queue ws` : each wave calls what is queued, what it asks for waits for the
  next; `WavesTo.breadthFirst`;
* `Emission.Lifetime called s` : actions and drains lead to `s`, with the helpers called on the way;
  `Lifetime.nodup` : none is called twice;
* `Emit.drain_fixpoint` : the drain of any helpers.
-/

namespace XmlBinding

variable {J : Type}

/-! ## Asking -/

namespace Emission

/-- The helpers that are not known, the first of each identity. -/
def newOf (known : List HelperId) : List (Helper J) → List (Helper J)
  | [] => []
  | h :: hs => if h.id ∈ known then newOf known hs else h :: newOf (known ++ [h.id]) hs

theorem newOf_cons_of_mem {known : List HelperId} {h : Helper J} (hi : h.id ∈ known)
    (hs : List (Helper J)) : newOf known (h :: hs) = newOf known hs := if_pos hi

theorem newOf_cons_of_not_mem {known : List HelperId} {h : Helper J} (hi : h.id ∉ known)
    (hs : List (Helper J)) : newOf known (h :: hs) = h :: newOf (known ++ [h.id]) hs := if_neg hi

/-- What is asked for later is new where it is new to all that is known by then. -/
theorem newOf_append (known : List HelperId) (hs hs' : List (Helper J)) :
    newOf known (hs ++ hs') =
      newOf known hs ++ newOf (known ++ (newOf known hs).map Helper.id) hs' := by
  induction hs generalizing known with
  | nil => rw [newOf, List.map_nil, List.append_nil, List.nil_append, List.nil_append]
  | cons h hs ih =>
    rw [List.cons_append]
    by_cases hi : h.id ∈ known
    · rw [newOf_cons_of_mem hi, newOf_cons_of_mem hi, ih]
    · rw [newOf_cons_of_not_mem hi, newOf_cons_of_not_mem hi, ih, List.map_cons, List.append_assoc,
        List.singleton_append, List.cons_append]

/-- New helpers are new, and each is once among them. -/
theorem nodup_newOf (known : List HelperId) (hs : List (Helper J)) :
    ((newOf known hs).map Helper.id).Nodup ∧ ∀ h ∈ newOf known hs, h.id ∉ known := by
  induction hs generalizing known with
  | nil => exact ⟨List.nodup_nil, fun _ h => nomatch h⟩
  | cons h hs ih =>
    by_cases hi : h.id ∈ known
    · rw [newOf_cons_of_mem hi]
      exact ih known
    · obtain ⟨hnodup, hnew⟩ := ih (known ++ [h.id])
      rw [newOf_cons_of_not_mem hi, List.map_cons, List.nodup_cons]
      refine ⟨⟨fun hmem => ?_, hnodup⟩, fun x hx => ?_⟩
      · obtain ⟨x, hx, heq⟩ := List.mem_map.1 hmem
        exact hnew x hx (heq ▸ List.mem_append_right _ (List.mem_singleton_self _))
      · rcases List.mem_cons.1 hx with rfl | hx
        · exact hi
        · exact fun hmem => hnew x hx (List.mem_append_left _ hmem)

/-- Each identity that is asked for and not known is among the new ones. -/
theorem mem_newOf {known : List HelperId} {hs : List (Helper J)} {i : HelperId}
    (hi : i ∈ hs.map Helper.id) (hk : i ∉ known) : i ∈ (newOf known hs).map Helper.id := by
  induction hs generalizing known with
  | nil => cases hi
  | cons h hs ih =>
    by_cases hn : h.id ∈ known
    · rw [newOf_cons_of_mem hn]
      rcases List.mem_cons.1 hi with rfl | hi
      · exact absurd hn hk
      · exact ih hi hk
    · rw [newOf_cons_of_not_mem hn, List.map_cons]
      by_cases heq : i = h.id
      · exact heq ▸ List.mem_cons_self
      · refine List.mem_cons_of_mem _ (ih ((List.mem_cons.1 hi).resolve_left heq) fun hmem => ?_)
        exact (List.mem_append.1 hmem).elim hk fun h => heq (List.mem_singleton.1 h)

/-- From one emission to another, some helpers are asked for: those that are new are queued behind
the others, and known from then on. -/
structure AsksFor (s t : Emission J) (hs : List (Helper J)) : Prop where
  pending : t.pending = s.pending ++ newOf s.requested hs
  requested : t.requested = s.requested ++ (newOf s.requested hs).map Helper.id

theorem AsksFor.refl (s : Emission J) : s.AsksFor s [] where
  pending := (List.append_nil _).symm
  requested := (List.append_nil _).symm

theorem AsksFor.trans {s t u : Emission J} {hs hs' : List (Helper J)} (h : s.AsksFor t hs)
    (h' : t.AsksFor u hs') : s.AsksFor u (hs ++ hs') where
  pending := by
    rw [h'.pending, h.pending, h.requested, newOf_append, List.append_assoc]
  requested := by
    rw [h'.requested, h.requested, newOf_append, List.map_append, List.append_assoc]

theorem asksFor_ask (s : Emission J) (h : Helper J) : s.AsksFor (s.ask h) [h] := by
  by_cases hi : h.id ∈ s.requested
  · have hnone : newOf s.requested [h] = [] := newOf_cons_of_mem hi []
    rw [ask_eq_self hi]
    constructor
    · rw [hnone, List.append_nil]
    · rw [hnone, List.map_nil, List.append_nil]
  · have hone : newOf s.requested [h] = [h] := newOf_cons_of_not_mem hi []
    constructor
    · rw [pending_ask hi, hone]
    · rw [requested_ask hi, hone, List.map_singleton]

end Emission

namespace Emit

variable {α β : Type} {scope : Scope}

/-- All that an action does about helpers is to ask for some, in order, before it ends or fails. -/
def Asks (scope : Scope) (act : Emit J α) (asks : Emission J → List (Helper J)) : Prop :=
  ∀ s : Emission J, s.AsksFor (act scope s).2 (asks s)

theorem asks_pure (a : α) : Asks scope (pure a : Emit J α) fun _ => [] := Emission.AsksFor.refl

theorem asks_throw (failure : Failure) : Asks scope (throw failure : Emit J α) fun _ => [] :=
  Emission.AsksFor.refl

theorem asks_write (text : String) : Asks scope (write text : Emit J Unit) fun _ => [] :=
  fun s => ⟨(Emission.AsksFor.refl s).pending, (Emission.AsksFor.refl s).requested⟩

theorem asks_request (id : HelperId) (job : J) :
    Asks scope (request id job) fun _ => [⟨id, job⟩] := by
  intro s
  have hrun : (request id job scope s).2 = s.ask ⟨id, job⟩ := by
    unfold request Emission.ask
    show ((if id ∈ s.requested then _ else _ : Emit J Bool) scope s).2 = _
    split <;> rfl
  rw [hrun]
  exact s.asksFor_ask ⟨id, job⟩

/-- What is asked for by an action and by what follows, where the action does not fail. -/
theorem Asks.bind {act : Emit J α} {next : α → Emit J β} {asks asks' : Emission J → List (Helper J)}
    (h : Asks scope act asks) (h' : ∀ a, Asks scope (next a) asks') :
    Asks scope (act >>= next) fun s =>
      match act scope s with
      | (.ok _, t) => asks s ++ asks' t
      | (.error _, _) => asks s := by
  intro s
  have hs := h s
  rw [bind_apply]
  dsimp only
  rcases hact : act scope s with ⟨failure | a, t⟩
  · rw [hact] at hs
    exact hs
  · rw [hact] at hs
    exact hs.trans (h' a t)

theorem Asks.discard {act : Emit J α} {asks : Emission J → List (Helper J)}
    (h : Asks scope act asks) : Asks scope (discard act) asks := by
  intro s
  have hs := h.bind (fun _ => asks_pure ()) s
  have hasks : (match act scope s with
      | (.ok _, _) => asks s ++ []
      | (.error _, _) => asks s) = asks s := by
    rcases act scope s with ⟨failure | a, t⟩
    · rfl
    · exact List.append_nil _
  rw [discard_eq]
  exact hasks ▸ hs

end Emit

/-! ## Waves -/

/-- What happens in a wave. -/
structure Wave (J : Type) where
  /-- The helpers that are called, in order. -/
  called : List (Helper J)
  /-- The helpers that they ask for, in order, with those asked for before. -/
  asked : List (Helper J)
  /-- The failure of the last one called. -/
  failure : Option Failure

/-- The helpers that are called in some waves. -/
def calledIn (ws : List (Wave J)) : List (Helper J) := ws.flatMap Wave.called

/-- The helpers that are asked for in some waves. -/
def askedIn (ws : List (Wave J)) : List (Helper J) := ws.flatMap Wave.asked

/-- Waves in order: each calls what is queued, up to a helper that fails. What is asked for
meanwhile and is new is queued for the next. -/
def BreadthFirst : List HelperId → List (Helper J) → List (Wave J) → Prop
  | _, _, [] => True
  | known, queue, w :: ws =>
    w.called <+: queue ∧ (w.failure = none → w.called = queue) ∧
      BreadthFirst (known ++ (Emission.newOf known w.asked).map Helper.id)
        (Emission.newOf known w.asked) ws

section Waves
variable (run : J → Emit J Unit) (asks : J → Emission J → List (Helper J)) (scope : Scope)

namespace Emission

/-- The wave that calls helpers in order, and the emission behind it. -/
def wave : List (Helper J) → Emission J → Wave J × Emission J
  | [], s => (⟨[], [], none⟩, s)
  | h :: hs, s =>
    match run h.job scope s with
    | (.error failure, t) => (⟨[h], asks h.job s, some failure⟩, t)
    | (.ok _, t) =>
      let (w, u) := wave hs t
      (⟨h :: w.called, asks h.job s ++ w.asked, w.failure⟩, u)

/-- At most `n` waves, until no helper is queued or one fails, and the emission behind them. -/
def waves : Nat → Emission J → List (Wave J) × Emission J
  | 0, s => ([], s)
  | n + 1, s =>
    if s.pending.isEmpty then ([], s)
    else
      let (w, t) := wave run asks scope s.pending { s with pending := [] }
      match w.failure with
      | some _ => ([w], t)
      | none =>
        let (ws, u) := waves n t
        (w :: ws, u)

/-- How waves come about, with the emissions before and behind them: their number is spent, nothing
is queued, a helper fails, or a wave goes before the others. -/
inductive WavesTo : Nat → Emission J → List (Wave J) → Emission J → Prop
  | spent (s : Emission J) : WavesTo 0 s [] s
  | still {n : Nat} {s : Emission J} (h : s.pending = []) : WavesTo n s [] s
  | failed {n : Nat} {s t : Emission J} {w : Wave J} {failure : Failure} (h : s.pending ≠ [])
      (hw : wave run asks scope s.pending { s with pending := [] } = (w, t))
      (hf : w.failure = some failure) : WavesTo (n + 1) s [w] t
  | next {n : Nat} {s t u : Emission J} {w : Wave J} {ws : List (Wave J)} (h : s.pending ≠ [])
      (hw : wave run asks scope s.pending { s with pending := [] } = (w, t))
      (hf : w.failure = none) (rest : WavesTo n t ws u) : WavesTo (n + 1) s (w :: ws) u

/-- What comes of waves that lead to an emission. -/
def outcome (ws : List (Wave J)) (t : Emission J) : Except Failure Nat :=
  match ws.findSome? Wave.failure with
  | some failure => .error failure
  | none =>
    if t.pending.isEmpty then .ok (calledIn ws).length
    else .error (.helperExpansionLimit Emit.maxWaves)

end Emission

end Waves

section Waves
variable {run : J → Emit J Unit} {asks : J → Emission J → List (Helper J)} {scope : Scope}
  {s : Emission J}

namespace Emission

theorem wave_cons_of_error {h : Helper J} {failure : Failure} {t : Emission J}
    (hrun : run h.job scope s = (.error failure, t)) (hs : List (Helper J)) :
    wave run asks scope (h :: hs) s = (⟨[h], asks h.job s, some failure⟩, t) := by
  rw [wave, hrun]

theorem wave_cons_of_ok {h : Helper J} {t : Emission J} (hrun : run h.job scope s = (.ok (), t))
    (hs : List (Helper J)) :
    wave run asks scope (h :: hs) s =
      (⟨h :: (wave run asks scope hs t).1.called,
        asks h.job s ++ (wave run asks scope hs t).1.asked,
        (wave run asks scope hs t).1.failure⟩, (wave run asks scope hs t).2) := by
  rw [wave, hrun]

theorem waves_of_nil (h : s.pending = []) (n : Nat) : waves run asks scope n s = ([], s) := by
  cases n with
  | zero => rfl
  | succ n => rw [waves, if_pos (by rw [h]; rfl)]

theorem waves_of_failure (h : s.pending ≠ []) {w : Wave J} {failure : Failure} {t : Emission J}
    (hw : wave run asks scope s.pending { s with pending := [] } = (w, t))
    (hf : w.failure = some failure) (n : Nat) :
    waves run asks scope (n + 1) s = ([w], t) := by
  rw [waves, if_neg (by simpa using h), hw]
  dsimp only
  rw [hf]

theorem waves_of_wave (h : s.pending ≠ []) {w : Wave J} {t : Emission J}
    (hw : wave run asks scope s.pending { s with pending := [] } = (w, t))
    (hf : w.failure = none) (n : Nat) :
    waves run asks scope (n + 1) s =
      (w :: (waves run asks scope n t).1, (waves run asks scope n t).2) := by
  rw [waves, if_neg (by simpa using h), hw]
  dsimp only
  rw [hf]

theorem wavesTo_waves (n : Nat) (s : Emission J) :
    WavesTo run asks scope n s (waves run asks scope n s).1 (waves run asks scope n s).2 := by
  induction n generalizing s with
  | zero => exact .spent s
  | succ n ih =>
    by_cases h : s.pending = []
    · rw [waves_of_nil h]
      exact .still h
    · rcases hw : wave run asks scope s.pending { s with pending := [] } with ⟨w, t⟩
      cases hf : w.failure with
      | some failure =>
        rw [waves_of_failure h hw hf]
        exact .failed h hw hf
      | none =>
        rw [waves_of_wave h hw hf]
        exact .next h hw hf (ih t)

/-- A wave calls its helpers in order, all of them where none fails. -/
theorem called_of_wave {hs : List (Helper J)} {t : Emission J} {w : Wave J}
    (hw : wave run asks scope hs s = (w, t)) :
    w.called <+: hs ∧ (w.failure = none → w.called = hs) := by
  induction hs generalizing s t w with
  | nil =>
    cases hw
    exact ⟨List.prefix_refl _, fun _ => rfl⟩
  | cons h hs ih =>
    rcases hrun : run h.job scope s with ⟨failure | _, u⟩
    · rw [wave_cons_of_error hrun] at hw
      cases hw
      exact ⟨List.cons_prefix_cons.2 ⟨rfl, List.nil_prefix⟩, fun hf => nomatch hf⟩
    · rw [wave_cons_of_ok hrun] at hw
      cases hw
      obtain ⟨hbegins, hall⟩ := ih (s := u) rfl
      exact ⟨List.cons_prefix_cons.2 ⟨rfl, hbegins⟩, fun hf => congrArg (h :: ·) (hall hf)⟩

/-- A wave that does not fail adds to the count of those behind it. -/
theorem outcome_cons {w : Wave J} (hf : w.failure = none) (ws : List (Wave J)) (t : Emission J) :
    outcome (w :: ws) t = (outcome ws t).map (w.called.length + ·) := by
  unfold outcome
  rw [List.findSome?_cons, hf]
  cases ws.findSome? Wave.failure with
  | some failure => rfl
  | none =>
    dsimp only
    split
    · rw [calledIn, List.flatMap_cons, List.length_append]
      rfl
    · rfl

theorem outcome_of_quiet {ws : List (Wave J)} (hws : ∀ w ∈ ws, w.failure = none)
    (t : Emission J) :
    outcome ws t = if t.pending.isEmpty then .ok (calledIn ws).length
      else .error (.helperExpansionLimit Emit.maxWaves) := by
  rw [outcome, List.findSome?_eq_none_iff.2 hws]

/-- Where a drain succeeds, no helper fails and none is left. -/
theorem eq_of_outcome {ws : List (Wave J)} {t : Emission J} {n : Nat} (h : outcome ws t = .ok n) :
    (∀ w ∈ ws, w.failure = none) ∧ t.pending = [] ∧ n = (calledIn ws).length := by
  cases hfind : ws.findSome? Wave.failure with
  | some failure =>
    rw [outcome, hfind] at h
    cases h
  | none =>
    have hws := List.findSome?_eq_none_iff.1 hfind
    rw [outcome_of_quiet hws] at h
    split at h
    · next hempty => exact ⟨hws, List.isEmpty_iff.1 hempty, (Except.ok.inj h).symm⟩
    · cases h

/-- The failure of a helper ends the waves. -/
theorem WavesTo.outcome_of_failure {n : Nat} {ws : List (Wave J)} {t : Emission J}
    (h : WavesTo run asks scope n s ws t) {w : Wave J} {failure : Failure} (hw : w ∈ ws)
    (hf : w.failure = some failure) : outcome ws t = .error failure := by
  induction h with
  | spent | still => cases hw
  | failed =>
    rw [List.mem_singleton.1 hw] at hf
    rw [outcome, List.findSome?_cons, hf]
  | next _ _ hquiet _ ih =>
    rcases List.mem_cons.1 hw with rfl | hw
    · rw [hquiet] at hf
      cases hf
    · rw [outcome_cons hquiet, ih hw]
      rfl

/-- Waves end before their number is spent, where nothing fails and nothing is left. -/
theorem WavesTo.length_le {n : Nat} {ws : List (Wave J)} {t : Emission J}
    (h : WavesTo run asks scope n s ws t) :
    ws.length ≤ n ∧
      ((∀ w ∈ ws, w.failure = none) → t.pending ≠ [] → ws.length = n) := by
  induction h with
  | spent => exact ⟨Nat.le_refl 0, fun _ _ => rfl⟩
  | still hnil => exact ⟨Nat.zero_le _, fun _ hne => absurd hnil hne⟩
  | @failed n s t w failure _ _ hf =>
    refine ⟨Nat.le_add_left 1 n, fun hquiet => ?_⟩
    rw [hquiet w (List.mem_singleton_self _)] at hf
    cases hf
  | next _ _ _ _ ih =>
    refine ⟨Nat.succ_le_succ ih.1, fun hquiet hne => congrArg Nat.succ (ih.2 ?_ hne)⟩
    exact fun w hw => hquiet w (List.mem_cons_of_mem _ hw)

/-! ## What waves call -/

section Asking
variable (hrun : ∀ j, (run j).Asks scope (asks j))
include hrun

theorem asksFor_wave {hs : List (Helper J)} {t : Emission J} {w : Wave J}
    (hw : wave run asks scope hs s = (w, t)) : s.AsksFor t w.asked := by
  induction hs generalizing s t w with
  | nil =>
    cases hw
    exact .refl s
  | cons h hs ih =>
    have hfirst := hrun h.job s
    rcases hcall : run h.job scope s with ⟨failure | _, u⟩
    · rw [hcall] at hfirst
      rw [wave_cons_of_error hcall] at hw
      cases hw
      exact hfirst
    · rw [hcall] at hfirst
      rw [wave_cons_of_ok hcall] at hw
      cases hw
      exact hfirst.trans (ih rfl)

/-- What is queued behind a wave is what is asked for in it and new. -/
theorem queued_of_wave {t : Emission J} {w : Wave J}
    (hw : wave run asks scope s.pending { s with pending := [] } = (w, t)) :
    t.pending = newOf s.requested w.asked ∧
      t.requested = s.requested ++ (newOf s.requested w.asked).map Helper.id := by
  have hasks := asksFor_wave hrun hw
  exact ⟨hasks.pending, hasks.requested⟩

/-- Waves go through the helpers breadth first. -/
theorem WavesTo.breadthFirst {n : Nat} {ws : List (Wave J)} {t : Emission J}
    (h : WavesTo run asks scope n s ws t) : BreadthFirst s.requested s.pending ws := by
  induction h with
  | spent | still => trivial
  | failed _ hw =>
    obtain ⟨hbegins, hall⟩ := called_of_wave hw
    exact ⟨hbegins, hall, trivial⟩
  | next _ hw _ _ ih =>
    obtain ⟨hbegins, hall⟩ := called_of_wave hw
    obtain ⟨hpending, hrequested⟩ := queued_of_wave hrun hw
    rw [hpending, hrequested] at ih
    exact ⟨hbegins, hall, ih⟩

/-- The helpers that waves call and leave in the queue are among those that were queued and those
that are asked for and new, in this order; without a failure they are these. -/
theorem WavesTo.called {n : Nat} {ws : List (Wave J)} {t : Emission J}
    (h : WavesTo run asks scope n s ws t) :
    (calledIn ws ++ t.pending).Sublist (s.pending ++ newOf s.requested (askedIn ws)) ∧
      ((∀ w ∈ ws, w.failure = none) →
        calledIn ws ++ t.pending = s.pending ++ newOf s.requested (askedIn ws)) ∧
      t.requested = s.requested ++ (newOf s.requested (askedIn ws)).map Helper.id := by
  have hnone (s : Emission J) : calledIn ([] : List (Wave J)) ++ s.pending =
      s.pending ++ newOf s.requested (askedIn ([] : List (Wave J))) := (List.append_nil _).symm
  induction h with
  | spent | still => exact ⟨(hnone _).symm ▸ .refl _, fun _ => hnone _, (List.append_nil _).symm⟩
  | @failed n s t w failure _ hw hf =>
    obtain ⟨hpending, hrequested⟩ := queued_of_wave hrun hw
    have hcalled : calledIn [w] = w.called := List.flatMap_singleton _ _
    have hasked : askedIn [w] = w.asked := List.flatMap_singleton _ _
    rw [hcalled, hasked, hpending]
    refine ⟨(called_of_wave hw).1.sublist.append_right _, fun hquiet => ?_, hrequested⟩
    rw [hquiet w (List.mem_singleton_self _)] at hf
    cases hf
  | @next n s t u w ws _ hw hf _ ih =>
    obtain ⟨hpending, hrequested⟩ := queued_of_wave hrun hw
    obtain ⟨hsub, heq, hknown⟩ := ih
    rw [hpending, hrequested] at hsub heq
    rw [hrequested] at hknown
    have hcalled : calledIn (w :: ws) = s.pending ++ calledIn ws := by
      rw [calledIn, List.flatMap_cons, (called_of_wave hw).2 hf]
      rfl
    have hasked : newOf s.requested (askedIn (w :: ws)) =
        newOf s.requested w.asked ++
          newOf (s.requested ++ (newOf s.requested w.asked).map Helper.id) (askedIn ws) := by
      rw [askedIn, List.flatMap_cons, newOf_append]
      rfl
    rw [hcalled, hasked, List.append_assoc]
    refine ⟨hsub.append_left _, fun hquiet => congrArg (s.pending ++ ·) (heq ?_), ?_⟩
    · exact fun w hw => hquiet w (List.mem_cons_of_mem _ hw)
    · rw [hknown, List.map_append, List.append_assoc]

end Asking

end Emission

/-! ## The drain in terms of its waves -/

namespace Emit
open Emission

theorem forM_eq_wave (hs : List (Helper J)) (s : Emission J) :
    (hs.forM fun h => run h.job) scope s =
      (match (wave run asks scope hs s).1.failure with
        | some failure => .error failure
        | none => .ok (), (wave run asks scope hs s).2) := by
  induction hs generalizing s with
  | nil => rfl
  | cons h hs ih =>
    show (run h.job >>= fun _ => hs.forM fun h => run h.job) scope s = _
    rw [bind_apply]
    rcases hrun : run h.job scope s with ⟨failure | _, t⟩
    · rw [wave_cons_of_error hrun]
    · rw [wave_cons_of_ok hrun]
      exact ih t

/-- A drain comes to what its waves come to. -/
theorem drainWaves_eq (n : Nat) (s : Emission J) :
    drainWaves run n scope s =
      (outcome (waves run asks scope n s).1 (waves run asks scope n s).2,
        (waves run asks scope n s).2) := by
  induction n generalizing s with
  | zero =>
    by_cases h : s.pending = []
    · rw [drainWaves_of_nil h, waves_of_nil h, outcome]
      simp [h, calledIn]
    · rw [drainWaves, waves, outcome]
      show (if s.pending.isEmpty = true then _ else _ : Emit J Nat) scope s = _
      have hne : s.pending.isEmpty = false := by simpa using h
      rw [hne]
      rfl
  | succ n ih =>
    by_cases h : s.pending = []
    · rw [drainWaves_of_nil h, waves_of_nil h, outcome]
      simp [h, calledIn]
    · rw [drainWaves_succ h, bind_apply, @forM_eq_wave J run asks scope]
      rcases hw : wave run asks scope s.pending { s with pending := [] } with ⟨w, t⟩
      cases hf : w.failure with
      | some failure =>
        rw [waves_of_failure h hw hf, outcome]
        simp [hf]
      | none =>
        have hcalled : w.called = s.pending := (called_of_wave hw).2 hf
        rw [waves_of_wave h hw hf]
        show (drainWaves run n >>= fun k => pure (s.pending.length + k)) scope t = _
        rw [bind_apply, ih t, ← hcalled]
        rw [outcome_cons hf]
        cases outcome (waves run asks scope n t).1 (waves run asks scope n t).2 <;> rfl

theorem drain_eq {ws : List (Wave J)} {t : Emission J}
    (hws : waves run asks scope maxWaves s = (ws, t)) :
    drain run scope s = (outcome ws t, t) := by
  have heq := @drainWaves_eq J run asks scope maxWaves s
  rwa [hws] at heq

end Emit

end Waves

/-! ## The lifetime of an emission -/

section Lifetime
variable (run : J → Emit J Unit) (asks : J → Emission J → List (Helper J)) (scope : Scope)

/-- The helpers that a drain calls. -/
def Emission.drained (s : Emission J) : List (Helper J) :=
  calledIn (waves run asks scope Emit.maxWaves s).1

/-- Actions that ask for helpers and drains lead from the start to an emission, with the helpers
that are called on the way. -/
inductive Emission.Lifetime : List (Helper J) → Emission J → Prop
  | start (style : AccessStyle) : Lifetime [] (.start style)
  | act {called : List (Helper J)} {s : Emission J} (h : Lifetime called s) {α : Type}
      {act : Emit J α} {made : Emission J → List (Helper J)} (ha : act.Asks scope made) :
      Lifetime called (act scope s).2
  | drain {called : List (Helper J)} {s : Emission J} (h : Lifetime called s) :
      Lifetime (called ++ s.drained run asks scope) (Emit.drain run scope s).2

end Lifetime

/-- Every helper that was called or is queued is known, and there is one of each identity. -/
structure Emission.CallsOnce (called : List (Helper J)) (s : Emission J) : Prop where
  nodup : ((called ++ s.pending).map Helper.id).Nodup
  known : ∀ h ∈ called ++ s.pending, h.id ∈ s.requested

section Lifetime
variable {run : J → Emit J Unit} {asks : J → Emission J → List (Helper J)} {scope : Scope}
  {called : List (Helper J)} {s : Emission J}

namespace Emission

/-- More is called and queued, of what was queued and of what is asked for and new. -/
theorem CallsOnce.grow (h : CallsOnce called s) {called' hs : List (Helper J)} {t : Emission J}
    (hsub : (called' ++ t.pending).Sublist (called ++ (s.pending ++ newOf s.requested hs)))
    (hknown : t.requested = s.requested ++ (newOf s.requested hs).map Helper.id) :
    CallsOnce called' t := by
  obtain ⟨hnodup, hnew⟩ := nodup_newOf s.requested hs
  rw [← List.append_assoc] at hsub
  constructor
  · refine (hsub.map Helper.id).nodup ?_
    rw [List.map_append]
    refine List.nodup_append.2 ⟨h.nodup, hnodup, fun i hi j hj heq => ?_⟩
    obtain ⟨x, hx, rfl⟩ := List.mem_map.1 hi
    obtain ⟨y, hy, rfl⟩ := List.mem_map.1 hj
    exact hnew y hy (heq ▸ h.known x hx)
  · intro x hx
    rw [hknown]
    rcases List.mem_append.1 (hsub.subset hx) with hx | hx
    · exact List.mem_append_left _ (h.known x hx)
    · exact List.mem_append_right _ (List.mem_map_of_mem hx)

variable (hrun : ∀ j, (run j).Asks scope (asks j))
include hrun

theorem CallsOnce.waves (h : CallsOnce called s) {n : Nat} {ws : List (Wave J)} {t : Emission J}
    (hws : WavesTo run asks scope n s ws t) : CallsOnce (called ++ calledIn ws) t := by
  obtain ⟨hsub, -, hknown⟩ := hws.called hrun
  refine h.grow ?_ hknown
  rw [List.append_assoc]
  exact hsub.append_left called

/-- Whatever becomes of an emission, no helper is called twice. -/
theorem Lifetime.callsOnce (h : Lifetime run asks scope called s) : CallsOnce called s := by
  induction h with
  | start style => exact ⟨List.nodup_nil, fun _ h => nomatch h⟩
  | @act called s _ α act made ha ih =>
    have hasks := ha s
    refine ih.grow ?_ hasks.requested
    rw [hasks.pending]
  | @drain called s _ ih =>
    rw [drained, Emit.drain_eq rfl]
    exact ih.waves hrun (wavesTo_waves Emit.maxWaves s)

end Emission

/-- The drain of any helpers. No identity is called twice in the lifetime of the emission. There are
at most 64 waves, breadth first. Where the drain succeeds, none is queued, the count is that of the
helpers called, and these are those that were queued and those that were asked for and not known, in
this order. A helper that fails ends the drain with its failure; where none does, helpers are given
up exactly where some are queued behind all 64 waves. -/
theorem Emit.drain_fixpoint (hrun : ∀ j, (run j).Asks scope (asks j))
    (hs : Emission.Lifetime run asks scope called s) :
    ∃ ws t, Emission.waves run asks scope maxWaves s = (ws, t) ∧
      (drain run scope s).2 = t ∧
      ((called ++ calledIn ws).map Helper.id).Nodup ∧
      ws.length ≤ 64 ∧
      BreadthFirst s.requested s.pending ws ∧
      (∀ n, (drain run scope s).1 = .ok n →
        t.pending = [] ∧ n = (calledIn ws).length ∧
        calledIn ws = s.pending ++ Emission.newOf s.requested (askedIn ws) ∧
        ∀ i, i ∈ s.pending.map Helper.id ∨ i ∈ (askedIn ws).map Helper.id ∧ i ∉ s.requested →
          ((calledIn ws).map Helper.id).count i = 1) ∧
      (∀ w ∈ ws, ∀ failure, w.failure = some failure →
        (drain run scope s).1 = .error failure) ∧
      ((∀ w ∈ ws, w.failure = none) →
        ((drain run scope s).1 = .error (.helperExpansionLimit 64) ↔ t.pending ≠ []) ∧
        (t.pending ≠ [] → ws.length = 64)) := by
  rcases hws : Emission.waves run asks scope maxWaves s with ⟨ws, t⟩
  have hto : Emission.WavesTo run asks scope maxWaves s ws t := by
    have hto := @Emission.wavesTo_waves J run asks scope maxWaves s
    rwa [hws] at hto
  have hdrain := drain_eq hws
  have honce := (hs.callsOnce hrun).waves hrun hto
  obtain ⟨-, hall, -⟩ := hto.called hrun
  have hnodup : ((called ++ calledIn ws).map Helper.id).Nodup :=
    (((List.sublist_append_left _ t.pending).map Helper.id).nodup honce.nodup)
  obtain ⟨hle, hspent⟩ := hto.length_le
  refine ⟨ws, t, rfl, congrArg Prod.snd hdrain, hnodup, hle, hto.breadthFirst hrun,
    fun n hn => ?_, fun w hw failure hf => ?_, fun hquiet => ⟨?_, hspent hquiet⟩⟩
  · rw [hdrain] at hn
    obtain ⟨hquiet, hempty, hcount⟩ := Emission.eq_of_outcome hn
    have hcalled := hall hquiet
    rw [hempty, List.append_nil] at hcalled
    refine ⟨hempty, hcount, hcalled, fun i hi => List.count_eq_one_of_mem ?_ ?_⟩
    · rw [List.map_append] at hnodup
      exact (List.nodup_append.1 hnodup).2.1
    · rw [hcalled, List.map_append, List.mem_append]
      exact hi.imp_right fun h => Emission.mem_newOf h.1 h.2
  · rw [hdrain]
    exact hto.outcome_of_failure hw hf
  · rw [hdrain]
    dsimp only
    rw [Emission.outcome_of_quiet hquiet]
    cases t.pending with
    | nil => exact iff_of_false (fun h => nomatch h) fun h => h rfl
    | cons h hs => exact iff_of_true rfl (List.cons_ne_nil h hs)

end Lifetime

/-! ## A drain behind one that failed -/

/-- Helpers of a trial. -/
inductive Errand where
  | plain
  /-- Asks for the plain one. -/
  | asking
  /-- Fails as a drain does that gives up. -/
  | failing
  deriving DecidableEq

namespace Errand

def id : Errand → HelperId
  | plain => ⟨"chain", "int"⟩
  | asking => ⟨"outer", "int[]"⟩
  | failing => ⟨"get_array", "b.Up"⟩

def helper (e : Errand) : Helper Errand := ⟨e.id, e⟩

def run : Errand → Emit Errand Unit
  | plain => Emit.write "plain\n"
  | asking => discard (Emit.request plain.id plain)
  | failing => throw (.helperExpansionLimit Emit.maxWaves)

def asks : Errand → Emission Errand → List (Helper Errand)
  | plain, _ => []
  | asking, _ => [plain.helper]
  | failing, _ => []

theorem asks_run (scope : Scope) (e : Errand) : (run e).Asks scope (asks e) := by
  cases e with
  | plain => exact Emit.asks_write _
  | asking => exact (Emit.asks_request _ _).discard
  | failing => exact Emit.asks_throw _

/-- A class to try errands in. -/
def scope : Scope :=
  ⟨⟨.standard, Catalog.load "en" none, .empty⟩,
    .opening ⟨⟨"shop.A", none, false, none, none, []⟩, []⟩ "shop" "ABuilder" "A", .serverBuilder⟩

/-- A failing errand is queued, and a plain one behind it. -/
def queued : Emission Errand :=
  (Emit.request plain.id plain scope
    (Emit.request failing.id failing scope (.start .dom4j)).2).2

/-- After the drain that fails, an errand is queued that asks for the plain one once more. -/
def resumed : Emission Errand :=
  (Emit.request asking.id asking scope (Emit.drain run scope queued).2).2

theorem lifetime_resumed : Emission.Lifetime run asks scope [failing.helper] resumed := by
  have hqueued : Emission.Lifetime run asks scope [] queued :=
    ((Emission.Lifetime.start .dom4j).act (Emit.asks_request _ _)).act (Emit.asks_request _ _)
  exact hqueued.drain.act (Emit.asks_request _ _)

theorem waves_resumed : (Emission.waves run asks scope Emit.maxWaves resumed).1 =
    [⟨[asking.helper], [plain.helper], none⟩] := rfl

/-- The drain behind the failure calls the errand that is queued, and leaves none. -/
theorem drain_fixpoint_resumed :
    Emission.Lifetime run asks scope [failing.helper] resumed ∧
      ∃ ws t, Emission.waves run asks scope Emit.maxWaves resumed = (ws, t) ∧
        (Emit.drain run scope resumed).1 = .ok 1 ∧ t.pending = [] ∧
        calledIn ws = resumed.pending ++ Emission.newOf resumed.requested (askedIn ws) := by
  obtain ⟨ws, t, hws, -, -, -, -, hok, -, -⟩ :=
    Emit.drain_fixpoint (asks_run scope) lifetime_resumed
  obtain ⟨hempty, -, hcalled, -⟩ := hok 1 rfl
  exact ⟨lifetime_resumed, ws, t, hws, rfl, hempty, hcalled⟩

/-- A drain has the failure of a helper, which is that of a drain that gives up, and leaves none
queued. The next one succeeds and counts one helper. The plain errand was queued before the failure
and is asked for by the helper that is counted, but is never called. -/
theorem drain_passes_over_plain :
    (Emission.waves run asks scope Emit.maxWaves queued).1 =
        [⟨[failing.helper], [], some (.helperExpansionLimit 64)⟩] ∧
      (Emit.drain run scope queued).1 = .error (.helperExpansionLimit 64) ∧
      (Emit.drain run scope queued).2.pending = [] ∧
      Emission.Lifetime run asks scope [failing.helper] resumed ∧
      (Emit.drain run scope resumed).1 = .ok 1 ∧
      ∃ h ∈ askedIn (Emission.waves run asks scope Emit.maxWaves resumed).1,
        h.id ∉ ([failing.helper] ++ resumed.drained run asks scope).map Helper.id := by
  have hdrained : resumed.drained run asks scope = [asking.helper] := rfl
  refine ⟨rfl, rfl, rfl, lifetime_resumed, rfl, plain.helper, ?_, ?_⟩
  · rw [waves_resumed]
    exact List.mem_singleton_self _
  · rw [hdrained]
    decide

end Errand

end XmlBinding
