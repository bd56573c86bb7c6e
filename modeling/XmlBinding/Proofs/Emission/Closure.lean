import XmlBinding.Proofs.Form

/-!
# Every helper that is asked for is written

The helpers of a class are those that its methods ask for, and those that the helpers ask for in
turn: one for each identity, and no other.

* `Emission.asked_noted`, `mem_requested_foldl_ask` : what is noted is what is asked for;
* `Settles.asked_written` : what a helper asks for is written too, under its identity;
* `IsClosure identity asked asks jobs` : jobs that are written where some are asked for;
  `Dialect.Assembles.exists_jobs` : the helpers of a class.
-/

namespace XmlBinding

variable {J : Type}

/-! ## What is noted -/

namespace Emission

/-- What is asked for is noted. -/
theorem asked_noted {s : Emission J} {hs : List (Helper J)} {h : Helper J} (hh : h ∈ hs) :
    h.id ∈ (hs.foldl ask s).requested := by
  induction hs generalizing s with
  | nil => cases hh
  | cons x rest ih =>
    rcases List.mem_cons.1 hh with rfl | hh
    · refine requested_subset_foldl_ask _ rest ?_
      by_cases hi : h.id ∈ s.requested
      · rwa [ask_eq_self hi]
      · rw [requested_ask hi]
        exact List.mem_append_right _ List.mem_cons_self
    · exact ih hh

theorem pending_subset_foldl_ask (s : Emission J) (hs : List (Helper J)) :
    s.pending ⊆ (hs.foldl ask s).pending := by
  induction hs generalizing s with
  | nil => exact fun _ => id
  | cons h rest ih =>
    rw [List.foldl_cons]
    refine List.Subset.trans ?_ (ih (s.ask h))
    by_cases hi : h.id ∈ s.requested
    · rw [ask_eq_self hi]
      exact fun _ => id
    · rw [pending_ask hi]
      exact List.subset_append_left _ _

/-- What is noted in asking is pending then, unless it was noted before. -/
theorem mem_requested_foldl_ask {s : Emission J} {hs : List (Helper J)} {i : HelperId}
    (hi : i ∈ (hs.foldl ask s).requested) :
    i ∈ s.requested ∨ ∃ h ∈ (hs.foldl ask s).pending, h.id = i := by
  induction hs generalizing s with
  | nil => exact .inl hi
  | cons h rest ih =>
    rw [List.foldl_cons] at hi ⊢
    rcases ih hi with hr | hp
    · by_cases hn : h.id ∈ s.requested
      · rw [ask_eq_self hn] at hr
        exact .inl hr
      · rw [requested_ask hn] at hr
        rcases List.mem_append.1 hr with hr | hr
        · exact .inl hr
        · refine .inr ⟨h, pending_subset_foldl_ask _ _ ?_, (List.mem_singleton.1 hr).symm⟩
          rw [pending_ask hn]
          exact List.mem_append_right _ List.mem_cons_self
    · exact .inr hp

/-- What one asks for was noted before, or is pending then under its identity. -/
theorem asked_pending {s : Emission J} {x : Addition J} {h : Helper J} (hh : h ∈ x.asks) :
    h.id ∈ s.requested ∨ ∃ g ∈ (s.add x).pending, g.id = h.id := by
  rw [add_pending]
  exact mem_requested_foldl_ask (asked_noted hh)

end Emission

/-- What a helper asks for is written under its identity, unless it was noted before. -/
theorem Emission.Settles.asked_written {make : J → Addition J} {s t : Emission J}
    {hs : List (Helper J)} (h : Settles make s hs t) {y x : Helper J} (hy : y ∈ hs)
    (hx : x ∈ (make y.job).asks) : x.id ∈ s.requested ∨ ∃ z ∈ hs, z.id = x.id := by
  induction h with
  | done _ => cases hy
  | @wave s t hs _ rest ih =>
    rcases List.mem_append.1 hy with hy | hy
    · have hasked : x ∈ (waveAddition make s.pending).asks := by
        rw [waveAddition, Addition.asks_concat, List.flatMap_map]
        exact List.mem_flatMap.2 ⟨y, hy, hx⟩
      refine (Emission.asked_pending (s := { s with pending := [] }) hasked).imp_right ?_
      rintro ⟨z, hz, hid⟩
      exact ⟨z, List.mem_append_right _ (rest.pending_subset hz), hid⟩
    · rcases ih hy with hn | ⟨z, hz, hid⟩
      · rw [Emission.add_requested] at hn
        refine (Emission.mem_requested_foldl_ask hn).imp_right ?_
        rintro ⟨z, hz, hid⟩
        rw [← Emission.add_pending] at hz
        exact ⟨z, List.mem_append_right _ (rest.pending_subset hz), hid⟩
      · exact .inr ⟨z, List.mem_append_right _ hz, hid⟩

/-! ## Jobs -/

variable {H X : Type}

/-- Jobs that are done where some are asked for, and where each asks for others: one of each
identity that is asked for, and no other. -/
structure IsClosure (identity : H → HelperId) (asked : List H) (asks : H → List H)
    (jobs : List H) : Prop where
  nodup : (jobs.map identity).Nodup
  wanted : ∀ j ∈ jobs, j ∈ asked ∨ ∃ k ∈ jobs, j ∈ asks k
  asked : ∀ j ∈ asked, ∃ k ∈ jobs, identity k = identity j
  asks : ∀ i ∈ jobs, ∀ j ∈ asks i, ∃ k ∈ jobs, identity k = identity j

/-- The job of a helper of a class that has no jobs of a caller. -/
def jobOf : H ⊕ Empty → H := Sum.elim id Empty.elim

theorem inl_jobOf (job : H ⊕ Empty) : .inl (jobOf job) = job := by
  cases job with
  | inl j => rfl
  | inr x => exact x.elim

/-- The source of a class: its methods, then one for each job of a closure. -/
theorem Dialect.Assembles.exists_jobs {d : Dialect (H ⊕ Empty)} {s : Session} {f : ClassFrame}
    {x : Addition (H ⊕ Empty)} {make : H ⊕ Empty → Addition (H ⊕ Empty)} {c : GeneratedClass}
    {identity : H → HelperId} {asked : List H} (asks : H → List H)
    (h : d.Assembles s f x make c) (hx : x.asks = asked.map fun j => ⟨identity j, .inl j⟩)
    (hmake : ∀ j, (make (.inl j)).asks = (asks j).map fun j => ⟨identity j, .inl j⟩) :
    ∃ head jobs, c.source =
        head ++ (x.text ++ String.join (jobs.map fun j => (make (.inl j)).text)) ++
          d.style.classFooter s.config ∧
      IsClosure identity asked asks jobs := by
  obtain ⟨hs, t, hset, rfl⟩ := h
  obtain ⟨head, hhead⟩ : ∃ head, ∀ body, (d.assemble s f t.imports body).source =
      head ++ body ++ d.style.classFooter s.config := ⟨_, fun _ => rfl⟩
  have hpending {g : Helper (H ⊕ Empty)} (hg : g ∈ (d.standing ⟨s, f, d.target⟩ x).pending) :
      ∃ j ∈ asked, g = ⟨identity j, .inl j⟩ := by
    rcases Emission.mem_pending_add hg with hg | ⟨hg, -⟩
    · cases hg
    · rw [Addition.asks_append, Addition.asks_ofUses, List.nil_append, hx] at hg
      obtain ⟨j, hj, rfl⟩ := List.mem_map.1 hg
      exact ⟨j, hj, rfl⟩
  have hmakes {y : Helper (H ⊕ Empty)} {g : Helper (H ⊕ Empty)} :
      g ∈ (make y.job).asks ↔ ∃ j ∈ asks (jobOf y.job), g = ⟨identity j, .inl j⟩ := by
    rw [← inl_jobOf y.job, hmake, List.mem_map]
    simp only [eq_comm]
    rfl
  -- a helper is asked for by the methods or by another one, each time with the identity of its job
  have hwanted : ∀ g ∈ hs, g.id = identity (jobOf g.job) ∧
      (jobOf g.job ∈ asked ∨ ∃ y ∈ hs, jobOf g.job ∈ asks (jobOf y.job)) := by
    intro g hg
    rcases hset.mem_pending_or_asked hg with hp | ⟨y, hy, hasked⟩
    · obtain ⟨j, hj, rfl⟩ := hpending hp
      exact ⟨rfl, .inl hj⟩
    · obtain ⟨j, hj, rfl⟩ := hmakes.1 hasked
      exact ⟨rfl, .inr ⟨y, hy, hj⟩⟩
  have hserved {j : H} (hj : ∃ z ∈ hs, z.id = identity j) :
      ∃ k ∈ hs.map fun h => jobOf h.job, identity k = identity j := by
    obtain ⟨z, hz, hid⟩ := hj
    exact ⟨_, List.mem_map_of_mem hz, (hwanted z hz).1.symm.trans hid⟩
  have hnoted {i : HelperId} (hi : i ∈ (d.standing ⟨s, f, d.target⟩ x).requested) :
      ∃ z ∈ hs, z.id = i := by
    rw [standing, Emission.add_requested] at hi
    rcases Emission.mem_requested_foldl_ask hi with hi | ⟨z, hz, hid⟩
    · cases hi
    · rw [← Emission.add_pending] at hz
      exact ⟨z, hset.pending_subset hz, hid⟩
  refine ⟨head, hs.map fun h => jobOf h.job, ?_, ?_, ?_, fun j hj => hserved (hnoted ?_), ?_⟩
  · rw [hhead, output_of_settles hset, List.map_map]
    simp only [Function.comp_def, inl_jobOf]
  · rw [List.map_map]
    exact (List.map_congr_left fun g hg => (hwanted g hg).1) ▸ (hset.nodup tidy_standing).1
  · intro j hj
    obtain ⟨g, hg, rfl⟩ := List.mem_map.1 hj
    refine (hwanted g hg).2.imp_right ?_
    rintro ⟨y, hy, hasked⟩
    exact ⟨_, List.mem_map_of_mem hy, hasked⟩
  · rw [standing, Emission.add_requested]
    refine Emission.asked_noted (h := ⟨identity j, .inl j⟩) ?_
    rw [Addition.asks_append, hx]
    exact List.mem_append_right _ (List.mem_map_of_mem hj)
  · intro i hi j hj
    obtain ⟨y, hy, rfl⟩ := List.mem_map.1 hi
    have hasked := hset.asked_written hy (hmakes.2 ⟨j, hj, rfl⟩)
    exact hserved (hasked.elim hnoted id)

end XmlBinding
