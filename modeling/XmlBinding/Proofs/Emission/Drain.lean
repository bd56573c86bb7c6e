import XmlBinding.Proofs.Emission.Makes

/-!
# How the pending helpers are written

* `Emission.Tidy s` : every pending helper is noted as asked for, and none is pending twice;
* `Emission.Tidy.add`, `mem_pending_add`, `find?_pending_foldl_ask` : what asking changes;
* `Emission.Settles make s hs t` : wave by wave, the helpers `hs` are written from `s` to `t`;
* `Settles.output`, `Settles.nodup` : their texts stand in a row, and each stands once;
* `Settles.mem_imports`, `pairwise_imports` : what is imported for them, in order;
* `Emit.drainWaves_settles` : where each helper asks only for lower ones, the waves suffice.
-/

namespace XmlBinding

variable {J : Type}

/-! ## Pending helpers -/

namespace Emission

/-- The pending helpers are noted, and none is pending twice. -/
structure Tidy (s : Emission J) : Prop where
  noted : ∀ h ∈ s.pending, h.id ∈ s.requested
  nodup : (s.pending.map Helper.id).Nodup

theorem tidy_of_pending_nil {s : Emission J} (h : s.pending = []) : s.Tidy where
  noted x hx := absurd (h ▸ hx) List.not_mem_nil
  nodup := by rw [h]; exact List.nodup_nil

theorem ask_eq_self {s : Emission J} {h : Helper J} (hi : h.id ∈ s.requested) : s.ask h = s :=
  if_pos hi

theorem pending_ask {s : Emission J} {h : Helper J} (hi : h.id ∉ s.requested) :
    (s.ask h).pending = s.pending ++ [h] := by
  rw [ask, if_neg hi]

theorem requested_ask {s : Emission J} {h : Helper J} (hi : h.id ∉ s.requested) :
    (s.ask h).requested = s.requested ++ [h.id] := by
  rw [ask, if_neg hi]

theorem Tidy.ask {s : Emission J} (hs : s.Tidy) (h : Helper J) : (s.ask h).Tidy := by
  by_cases hi : h.id ∈ s.requested
  · rwa [ask_eq_self hi]
  · refine ⟨fun x hx => ?_, ?_⟩
    · rw [pending_ask hi] at hx
      rw [requested_ask hi]
      rcases List.mem_append.1 hx with hx | hx
      · exact List.mem_append_left _ (hs.noted x hx)
      · rw [List.mem_singleton.1 hx]
        exact List.mem_append_right _ List.mem_cons_self
    · rw [pending_ask hi, List.map_append]
      refine List.nodup_append.2 ⟨hs.nodup, List.pairwise_singleton _ _, fun i hx j hj he => ?_⟩
      obtain ⟨y, hy, rfl⟩ := List.mem_map.1 hx
      rw [List.mem_singleton.1 hj] at he
      exact hi (he ▸ hs.noted y hy)

theorem Tidy.foldl_ask {s : Emission J} (hs : s.Tidy) (hs' : List (Helper J)) :
    (hs'.foldl Emission.ask s).Tidy := by
  induction hs' generalizing s with
  | nil => exact hs
  | cons h rest ih => exact ih (hs.ask h)

theorem Tidy.add {s : Emission J} (hs : s.Tidy) (x : Addition J) : (s.add x).Tidy := by
  have h := hs.foldl_ask x.asks
  refine ⟨fun i hi => ?_, ?_⟩
  · rw [add_requested]
    rw [add_pending] at hi
    exact h.noted i hi
  · rw [add_pending]
    exact h.nodup

/-- A pending helper is the one of its identity. -/
theorem Tidy.find?_pending {s : Emission J} (hs : s.Tidy) {h : Helper J} (hh : h ∈ s.pending) :
    s.pending.find? (·.id = h.id) = some h := by
  obtain ⟨before, after, hsplit⟩ := List.append_of_mem hh
  have hnodup := hs.nodup
  rw [hsplit, List.map_append, List.map_cons] at hnodup
  have hbefore : ∀ g ∈ before, g.id ≠ h.id := fun g hg he =>
    (List.nodup_append.1 hnodup).2.2 _ (List.mem_map_of_mem hg) _ List.mem_cons_self he
  have hnone : before.find? (·.id = h.id) = none :=
    List.find?_eq_none.2 fun g hg => by simpa using hbefore g hg
  rw [hsplit, List.find?_append, hnone, Option.none_or]
  exact List.find?_cons_of_pos (by simp)

/-- What is pending after asking was pending before, or is asked for and was not noted. -/
theorem mem_pending_foldl_ask {s : Emission J} {hs : List (Helper J)} {h : Helper J}
    (hh : h ∈ (hs.foldl ask s).pending) : h ∈ s.pending ∨ h ∈ hs ∧ h.id ∉ s.requested := by
  induction hs generalizing s with
  | nil => exact .inl hh
  | cons x rest ih =>
    rw [List.foldl_cons] at hh
    by_cases hi : x.id ∈ s.requested
    · rw [ask_eq_self hi] at hh
      exact (ih hh).imp_right fun hr => ⟨List.mem_cons_of_mem _ hr.1, hr.2⟩
    · rcases ih hh with hp | ⟨hr, hn⟩
      · rw [pending_ask hi] at hp
        rcases List.mem_append.1 hp with hp | hp
        · exact .inl hp
        · rw [List.mem_singleton.1 hp]
          exact .inr ⟨List.mem_cons_self, hi⟩
      · rw [requested_ask hi] at hn
        exact .inr ⟨List.mem_cons_of_mem _ hr, fun hm => hn (List.mem_append_left _ hm)⟩

theorem mem_pending_add {s : Emission J} {x : Addition J} {h : Helper J}
    (hh : h ∈ (s.add x).pending) : h ∈ s.pending ∨ h ∈ x.asks ∧ h.id ∉ s.requested := by
  rw [add_pending] at hh
  exact mem_pending_foldl_ask hh

theorem mem_imports_add {s : Emission J} {x : Addition J} {q : String} :
    q ∈ (s.add x).imports ↔ q ∈ s.imports ∨ q ∈ x.uses := by
  rw [add_imports]
  exact SortedMap.mem_foldl_insertSorted

theorem requested_subset_foldl_ask (s : Emission J) (hs : List (Helper J)) :
    s.requested ⊆ (hs.foldl ask s).requested := by
  induction hs generalizing s with
  | nil => exact fun _ => id
  | cons h rest ih =>
    rw [List.foldl_cons]
    refine List.Subset.trans ?_ (ih (s.ask h))
    by_cases hi : h.id ∈ s.requested
    · rw [ask_eq_self hi]
      exact fun _ => id
    · rw [requested_ask hi]
      exact List.subset_append_left _ _

/-- Asking changes nothing under an identity that has been noted. -/
theorem find?_pending_of_noted {s : Emission J} {i : HelperId} (hi : i ∈ s.requested)
    (hs : List (Helper J)) :
    (hs.foldl ask s).pending.find? (·.id = i) = s.pending.find? (·.id = i) := by
  induction hs generalizing s with
  | nil => rfl
  | cons h rest ih =>
    rw [List.foldl_cons]
    by_cases hn : h.id ∈ s.requested
    · rw [ask_eq_self hn, ih hi]
    · have hne : h.id ≠ i := fun he => hn (he ▸ hi)
      have hi' : i ∈ (s.ask h).requested := by
        rw [requested_ask hn]
        exact List.mem_append_left _ hi
      rw [ih hi', pending_ask hn, List.find?_append, List.find?_cons_of_neg (by simpa using hne),
        List.find?_nil, Option.or_none]

/-- What is pending under an identity not noted before is the first helper asked for. -/
theorem find?_pending_foldl_ask {s : Emission J} {i : HelperId} (hi : i ∉ s.requested)
    (hp : s.pending.find? (·.id = i) = none) (hs : List (Helper J)) :
    (hs.foldl ask s).pending.find? (·.id = i) = hs.find? (·.id = i) := by
  induction hs generalizing s with
  | nil => exact hp
  | cons h rest ih =>
    rw [List.foldl_cons]
    by_cases hn : h.id ∈ s.requested
    · have hne : h.id ≠ i := fun he => hi (he ▸ hn)
      rw [ask_eq_self hn, ih hi hp, List.find?_cons_of_neg (by simpa using hne)]
    · have hpend : (s.ask h).pending.find? (·.id = i) = [h].find? (·.id = i) := by
        rw [pending_ask hn, List.find?_append, hp, Option.none_or]
      have hreq := requested_ask hn
      by_cases he : h.id = i
      · have hi' : i ∈ (s.ask h).requested := by
          rw [hreq, he]
          exact List.mem_append_right _ List.mem_cons_self
        rw [find?_pending_of_noted hi', hpend, List.find?_cons_of_pos (by simpa using he),
          List.find?_cons_of_pos (by simpa using he)]
      · have hi' : i ∉ (s.ask h).requested := by
          rw [hreq]
          intro hm
          rcases List.mem_append.1 hm with hm | hm
          · exact hi hm
          · exact he (List.mem_singleton.1 hm).symm
        rw [List.find?_cons_of_neg (by simpa using he)] at hpend
        rw [ih hi' hpend, List.find?_cons_of_neg (by simpa using he)]

end Emission

/-! ## Waves -/

/-- What the methods of a wave of helpers add. -/
def waveAddition (make : J → Addition J) (wave : List (Helper J)) : Addition J :=
  .concat (wave.map fun h => make h.job)

/-- Emissions in which the pending helpers are written wave by wave, each with what it asks for in
the next, until none is left. -/
inductive Emission.Settles (make : J → Addition J) :
    Emission J → List (Helper J) → Emission J → Prop
  | done {s : Emission J} (h : s.pending = []) : Settles make s [] s
  | wave {s t : Emission J} {hs : List (Helper J)} (h : s.pending ≠ [])
      (rest : Settles make ({ s with pending := [] }.add (waveAddition make s.pending)) hs t) :
      Settles make s (s.pending ++ hs) t

namespace Emission.Settles

variable {make : J → Addition J} {s t : Emission J} {hs : List (Helper J)}

theorem output (h : Settles make s hs t) :
    t.output = s.output ++ String.join (hs.map fun h => (make h.job).text) := by
  induction h with
  | done _ => simp
  | wave _ _ ih =>
    rw [ih, Emission.add_output, List.map_append, String.join_append, waveAddition,
      Addition.text_concat, List.map_map, String.append_assoc]
    rfl

theorem mem_imports (h : Settles make s hs t) {q : String} :
    q ∈ t.imports ↔ q ∈ s.imports ∨ ∃ h ∈ hs, q ∈ (make h.job).uses := by
  induction h with
  | done _ => simp
  | @wave s t hs _ _ ih =>
    rw [ih, Emission.mem_imports_add, waveAddition, Addition.uses_concat, List.flatMap_map,
      List.mem_flatMap, or_assoc]
    simp only [List.mem_append, or_and_right, exists_or]

/-- What is imported while helpers are written stays in ascending order. -/
theorem pairwise_imports (h : Settles make s hs t)
    (hs' : s.imports.Pairwise fun q q' => compare q q' = .lt) :
    t.imports.Pairwise fun q q' => compare q q' = .lt := by
  induction h with
  | done _ => exact hs'
  | wave _ _ ih =>
    refine ih ?_
    rw [Emission.add_imports]
    exact SortedMap.pairwise_foldl_insertSorted _ hs'

/-- A helper that is written is pending at first, or another one asks for it. -/
theorem mem_pending_or_asked (h : Settles make s hs t) {x : Helper J} (hx : x ∈ hs) :
    x ∈ s.pending ∨ ∃ y ∈ hs, x ∈ (make y.job).asks := by
  induction h with
  | done _ => cases hx
  | @wave s t hs _ _ ih =>
    rcases List.mem_append.1 hx with hx | hx
    · exact .inl hx
    · rcases ih hx with hp | ⟨y, hy, hasked⟩
      · rcases Emission.mem_pending_add hp with hp | ⟨hp, -⟩
        · cases hp
        · rw [waveAddition, Addition.asks_concat, List.flatMap_map] at hp
          obtain ⟨y, hy, hasked⟩ := List.mem_flatMap.1 hp
          exact .inr ⟨y, List.mem_append_left _ hy, hasked⟩
      · exact .inr ⟨y, List.mem_append_right _ hy, hasked⟩

theorem pending_subset (h : Settles make s hs t) : s.pending ⊆ hs := by
  cases h with
  | done h => rw [h]; exact List.nil_subset _
  | wave _ _ => exact List.subset_append_left _ _

/-- Helpers are written once: those not pending at first were not noted either. -/
theorem nodup (h : Settles make s hs t) (hs' : s.Tidy) :
    (hs.map Helper.id).Nodup ∧ ∀ x ∈ hs, x ∈ s.pending ∨ x.id ∉ s.requested := by
  induction h with
  | done _ => exact ⟨List.nodup_nil, fun _ hx => nomatch hx⟩
  | @wave s t hs _ rest ih =>
    have htidy : ({ s with pending := [] } : Emission J).Tidy := tidy_of_pending_nil rfl
    obtain ⟨hnodup, hnew⟩ := ih (htidy.add _)
    -- what the later waves write is new to `s`
    have hfresh : ∀ x ∈ hs, x.id ∉ s.requested := by
      intro x hx
      rcases hnew x hx with hp | hn
      · rcases mem_pending_add hp with hp | hp
        · cases hp
        · exact hp.2
      · intro hm
        refine hn ?_
        rw [Emission.add_requested]
        exact requested_subset_foldl_ask _ _ hm
    refine ⟨?_, fun x hx => ?_⟩
    · rw [List.map_append]
      refine List.nodup_append.2 ⟨hs'.nodup, hnodup, fun i hi j hj he => ?_⟩
      obtain ⟨x, hx, rfl⟩ := List.mem_map.1 hi
      obtain ⟨y, hy, rfl⟩ := List.mem_map.1 hj
      exact hfresh y hy (he ▸ hs'.noted x hx)
    · exact (List.mem_append.1 hx).imp_right (hfresh x)

end Emission.Settles

/-! ## Draining -/

namespace Emit

variable {scope : Scope} {style : AccessStyle} {run : J → Emit J Unit} {make : J → Addition J}

theorem drainWaves_of_nil {s : Emission J} (h : s.pending = []) (n : Nat) :
    drainWaves run n scope s = (.ok 0, s) := by
  cases n with
  | zero =>
    unfold drainWaves
    show (if s.pending.isEmpty = true then _ else _ : Emit J Nat) scope s = _
    rw [h]
    rfl
  | succ n =>
    unfold drainWaves
    show (if s.pending.isEmpty = true then _ else _ : Emit J Nat) scope s = _
    rw [h]
    rfl

theorem drainWaves_succ {s : Emission J} (h : s.pending ≠ []) (n : Nat) :
    drainWaves run (n + 1) scope s =
      (do
        s.pending.forM fun helper => run helper.job
        return s.pending.length + (← drainWaves run n) : Emit J Nat) scope
        { s with pending := [] } := by
  rw [drainWaves]
  show (if s.pending.isEmpty = true then _ else _ : Emit J Nat) scope s = _
  rw [if_neg (by simpa using h)]
  rfl

/-- Where helpers ask only for helpers of lower rank, the waves suffice. -/
theorem drainWaves_settles (rank : J → Nat)
    (hrun : ∀ j, Makes scope style (run j) () (make j))
    (hrank : ∀ j, ∀ h ∈ (make j).asks, rank h.job < rank j) (n : Nat) :
    ∀ s : Emission J, s.style = style → (∀ h ∈ s.pending, rank h.job < n) →
      (∃ k hs t, drainWaves run n scope s = (.ok k, t) ∧ s.Settles make hs t) ∨
        ∃ failure t, scope.session.Blames failure ∧
          drainWaves run n scope s = (.error failure, t) := by
  induction n with
  | zero =>
    intro s _ hp
    have hnil : s.pending = [] := List.eq_nil_iff_forall_not_mem.2 fun h hh => by
      simpa using hp h hh
    exact .inl ⟨0, [], s, drainWaves_of_nil hnil 0, .done hnil⟩
  | succ n ih =>
    intro s hs hp
    by_cases hnil : s.pending = []
    · exact .inl ⟨0, [], s, drainWaves_of_nil hnil _, .done hnil⟩
    · rw [drainWaves_succ hnil, bind_apply]
      have hwave : Makes scope style (s.pending.forM fun helper => run helper.job) ()
          (waveAddition make s.pending) := makes_forM fun h _ => hrun h.job
      rcases hwave with hok | ⟨failure, x, hb, herr⟩
      · rw [hok { s with pending := [] } hs]
        have hlow : ∀ h ∈ ({ s with pending := [] }.add (waveAddition make s.pending)).pending,
            rank h.job < n := by
          intro h hh
          rcases Emission.mem_pending_add hh with hh | ⟨hh, _⟩
          · cases hh
          · rw [waveAddition, Addition.asks_concat, List.flatMap_map] at hh
            obtain ⟨g, hg, hh⟩ := List.mem_flatMap.1 hh
            have h1 := hrank g.job h hh
            have h2 := hp g hg
            omega
        rcases ih _ (by rw [Emission.add_style]; exact hs) hlow with
          ⟨k, hs', t, hd, hset⟩ | ⟨failure, t, hb, hd⟩
        · refine .inl ⟨s.pending.length + k, s.pending ++ hs', t, ?_, .wave hnil hset⟩
          show (drainWaves run n >>= fun k => pure (s.pending.length + k)) scope _ = _
          rw [bind_apply, hd]
          rfl
        · refine .inr ⟨failure, t, hb, ?_⟩
          show (drainWaves run n >>= fun k => pure (s.pending.length + k)) scope _ = _
          rw [bind_apply, hd]
      · rw [herr { s with pending := [] } hs]
        exact .inr ⟨failure, _, hb, rfl⟩

end Emit

end XmlBinding
