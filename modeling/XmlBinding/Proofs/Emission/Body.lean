import XmlBinding.Dialect
import XmlBinding.Proofs.Emission.Drain

/-!
# The body of a class

* `Dialect.standing d scope x` : the emission behind the methods of a class, which add `x`;
  `find?_standing`, `mem_imports_standing` : what is pending and imported there,
  `output_of_settles` : what is written from there;
* `Dialect.body_settles` : from there, the body is written to its end by the waves of helpers;
* `Dialect.body_stops` : what stops the methods stops the body;
* `Dialect.Assembles d s f x make c` : the class `c` has the texts of the methods, then those of the
  helpers; `render_assembles`, `Assembles.source`, `Assembles.exists_helpers`.
-/

namespace XmlBinding.Dialect

variable {J : Type}

/-- The emission of a class behind its methods, before its helpers. -/
def standing (d : Dialect J) (scope : Scope) (x : Addition J) : Emission J :=
  (Emission.start d.style).add (.ofUses (d.baseImports.flatMap scope.usesOf) ++ x)

/-- The end of a class: its frame around a body. -/
theorem render_eq (d : Dialect J) (session : Session) (frame : ClassFrame) :
    d.render session frame =
      (d.body ⟨session, frame, d.target⟩ (.start d.style)).1.map fun _ =>
        let t := (d.body ⟨session, frame, d.target⟩ (.start d.style)).2
        d.assemble session frame t.imports t.output := rfl

variable {d : Dialect J} {scope : Scope} {make : J → Addition J} {x : Addition J}

theorem tidy_standing : (d.standing scope x).Tidy :=
  (Emission.tidy_of_pending_nil rfl).add _

/-- Behind the methods, the first helper that they ask for under an identity is pending. -/
theorem find?_standing (i : HelperId) :
    (d.standing scope x).pending.find? (·.id = i) = x.asks.find? (·.id = i) := by
  rw [standing, Emission.add_pending, Addition.asks_append, Addition.asks_ofUses,
    List.nil_append, Emission.find?_pending_foldl_ask List.not_mem_nil rfl]

theorem mem_imports_standing {q : String} : q ∈ (d.standing scope x).imports ↔
    q ∈ d.baseImports.flatMap scope.usesOf ∨ q ∈ x.uses := by
  rw [standing, Emission.mem_imports_add, Addition.uses_append, Addition.uses_ofUses,
    List.mem_append]
  exact or_iff_right List.not_mem_nil

/-- Behind the methods there are their texts, then those of the helpers. -/
theorem output_of_settles {hs : List (Helper J)} {t : Emission J}
    (h : (d.standing scope x).Settles make hs t) :
    t.output = x.text ++ String.join (hs.map fun h => (make h.job).text) := by
  rw [h.output, standing, Emission.add_output]
  simp [Emission.start]

theorem makes_baseImports (d : Dialect J) (style : AccessStyle) :
    Emit.Makes scope style (d.baseImports.forM fun q => (Emit.importClass q : Emit J Unit)) ()
      (.ofUses (d.baseImports.flatMap scope.usesOf)) := by
  refine (Emit.makes_forM fun q _ => Emit.makes_importClass q).of_eq ?_
  induction d.baseImports with
  | nil => rfl
  | cons q rest ih =>
    rw [List.map_cons, Addition.concat_cons, ih, List.flatMap_cons, Addition.ofUses_append]

/-- Where the methods make something and helpers ask only for lower ones, the body is written to its
end, unless a package stops it. -/
theorem body_settles (rank : J → Nat)
    (hm : Emit.Makes scope d.style (d.methods.writers.forM fun w => w.emit) () x)
    (hrun : ∀ j, Emit.Makes scope d.style (d.run j) () (make j))
    (hrank : ∀ j, ∀ h ∈ (make j).asks, rank h.job < rank j)
    (hx : ∀ h ∈ x.asks, rank h.job < Emit.maxWaves) :
    (∃ hs t, d.body scope (.start d.style) = (.ok (), t) ∧ (d.standing scope x).Settles make hs t) ∨
      ∃ failure t, scope.session.Blames failure ∧
        d.body scope (.start d.style) = (.error failure, t) := by
  have hbody : d.body =
      (d.baseImports.forM (fun q => (Emit.importClass q : Emit J Unit)) >>= fun _ =>
        d.methods.writers.forM fun w => w.emit) >>= fun _ =>
      Emit.drainWaves d.run Emit.maxWaves >>= fun _ => pure () := by
    unfold body Emit.drain
    rw [bind_assoc, Emit.discard_eq]
  rw [hbody, Emit.bind_apply]
  have hfirst : Emit.Makes scope d.style
      (d.baseImports.forM (fun q => (Emit.importClass q : Emit J Unit)) >>= fun _ =>
        d.methods.writers.forM fun w => w.emit) ()
      (.ofUses (d.baseImports.flatMap scope.usesOf) ++ x) :=
    (d.makes_baseImports d.style).bind hm
  rcases hfirst with hok | ⟨failure, y, hb, herr⟩
  · rw [hok _ rfl]
    dsimp only
    rw [Emit.bind_apply]
    have hlow : ∀ h ∈ (d.standing scope x).pending, rank h.job < Emit.maxWaves := by
      intro h hh
      rcases Emission.mem_pending_add hh with hh | ⟨hh, _⟩
      · cases hh
      · exact hx h hh
    rcases Emit.drainWaves_settles rank hrun hrank Emit.maxWaves (d.standing scope x)
      (Emission.add_style _ _) hlow with ⟨k, hs, t, hd, hset⟩ | ⟨failure, t, hb, hd⟩
    · refine .inl ⟨hs, t, ?_, hset⟩
      rw [standing] at hd
      rw [hd]
      rfl
    · refine .inr ⟨failure, t, hb, ?_⟩
      rw [standing] at hd
      rw [hd]
  · rw [herr _ rfl]
    exact .inr ⟨failure, _, hb, rfl⟩

/-- What stops the methods stops the body. -/
theorem body_stops {way : Failure → Prop}
    (hway : ∀ failure, scope.session.Blames failure → way failure)
    (hm : Emit.Stops scope d.style (d.methods.writers.forM fun w => w.emit) way) :
    ∃ failure t, way failure ∧ d.body scope (.start d.style) = (.error failure, t) := by
  unfold body
  have hrest : Emit.Stops scope d.style
      (d.methods.writers.forM (fun w => w.emit) >>= fun _ => discard (Emit.drain d.run)) way :=
    hm.bind
  have hbody : Emit.Stops scope d.style
      (d.baseImports.forM (fun q => (Emit.importClass q : Emit J Unit)) >>= fun _ =>
        d.methods.writers.forM (fun w => w.emit) >>= fun _ => discard (Emit.drain d.run)) way :=
    (d.makes_baseImports d.style).stops hway hrest
  obtain ⟨failure, y, hw, herr⟩ := hbody
  exact ⟨failure, _, hw, herr _ rfl⟩

/-! ## The class around the body -/

/-- A class consists of the texts of the methods, which add `x`, and of the helpers they ask for. -/
def Assembles (d : Dialect J) (s : Session) (f : ClassFrame) (x : Addition J)
    (make : J → Addition J) (c : GeneratedClass) : Prop :=
  ∃ hs t, (d.standing ⟨s, f, d.target⟩ x).Settles make hs t ∧ c = d.assemble s f t.imports t.output

theorem render_assembles (rank : J → Nat) {s : Session} {f : ClassFrame}
    (hm : Emit.Makes ⟨s, f, d.target⟩ d.style (d.methods.writers.forM fun w => w.emit) () x)
    (hrun : ∀ j, Emit.Makes ⟨s, f, d.target⟩ d.style (d.run j) () (make j))
    (hrank : ∀ j, ∀ h ∈ (make j).asks, rank h.job < rank j)
    (hx : ∀ h ∈ x.asks, rank h.job < Emit.maxWaves) :
    (∃ c, d.render s f = .ok c ∧ d.Assembles s f x make c) ∨
      ∃ failure, s.Blames failure ∧ d.render s f = .error failure := by
  rw [render_eq]
  rcases body_settles rank hm hrun hrank hx with ⟨hs, t, hb, hset⟩ | ⟨failure, t, hblame, hb⟩
  · rw [hb]
    exact .inl ⟨_, rfl, hs, t, hset, rfl⟩
  · rw [hb]
    exact .inr ⟨failure, hblame, rfl⟩

theorem render_stops {way : Failure → Prop} {s : Session} {f : ClassFrame}
    (hway : ∀ failure, s.Blames failure → way failure)
    (hm : Emit.Stops ⟨s, f, d.target⟩ d.style (d.methods.writers.forM fun w => w.emit) way) :
    ∃ failure, way failure ∧ d.render s f = .error failure := by
  rw [render_eq]
  obtain ⟨failure, t, hw, hb⟩ := body_stops hway hm
  rw [hb]
  exact ⟨failure, hw, rfl⟩

/-- The source of a class: its methods, then one method for each identity asked for, which does the
first job asked for under it. -/
theorem Assembles.source {s : Session} {f : ClassFrame} {c : GeneratedClass}
    (h : d.Assembles s f x make c) :
    ∃ head, ∃ hs : List (Helper J), c.source =
        head ++ x.text ++ String.join (hs.map fun h => (make h.job).text) ++
          d.style.classFooter s.config ∧
      (hs.map Helper.id).Nodup ∧
      ∀ i h, x.asks.find? (·.id = i) = some h → h ∈ hs := by
  obtain ⟨hs, t, hset, rfl⟩ := h
  obtain ⟨head, hhead⟩ : ∃ head, ∀ body, (d.assemble s f t.imports body).source =
      head ++ body ++ d.style.classFooter s.config := ⟨_, fun _ => rfl⟩
  refine ⟨head, hs, ?_, (hset.nodup tidy_standing).1, fun i h hi => hset.pending_subset ?_⟩
  · rw [hhead, output_of_settles hset, ← String.append_assoc]
  · exact List.mem_of_find?_eq_some ((find?_standing i).trans hi)

/-- The imports of a class, in ascending order, are those of its dialect, its methods and its
helpers. A helper is the first of its identity that the methods ask for, or another one asks for
it. -/
theorem Assembles.exists_helpers {s : Session} {f : ClassFrame} {c : GeneratedClass}
    (h : d.Assembles s f x make c) : ∃ imports, ∃ hs : List (Helper J),
      c = d.assemble s f imports (x.text ++ String.join (hs.map fun h => (make h.job).text)) ∧
      imports.Pairwise (· < ·) ∧
      (∀ q, q ∈ imports ↔ q ∈ d.baseImports.flatMap (Scope.usesOf ⟨s, f, d.target⟩) ∨ q ∈ x.uses ∨
        ∃ h ∈ hs, q ∈ (make h.job).uses) ∧
      (∀ i h, x.asks.find? (·.id = i) = some h → h ∈ hs) ∧
      ∀ h ∈ hs, x.asks.find? (·.id = h.id) = some h ∨ ∃ g ∈ hs, h ∈ (make g.job).asks := by
  obtain ⟨hs, t, hset, rfl⟩ := h
  have hascending := hset.pairwise_imports (by
    rw [standing, Emission.add_imports]
    exact SortedMap.pairwise_foldl_insertSorted _ .nil)
  refine ⟨t.imports, hs, by rw [output_of_settles hset],
    hascending.imp compareOfLessAndEq_eq_lt.1, fun q => ?_, fun i h hi => ?_, fun h hh => ?_⟩
  · rw [hset.mem_imports, mem_imports_standing, or_assoc]
  · exact hset.pending_subset (List.mem_of_find?_eq_some ((find?_standing i).trans hi))
  · exact (hset.mem_pending_or_asked hh).imp_left fun hp =>
      (find?_standing h.id).symm.trans (tidy_standing.find?_pending hp)

end XmlBinding.Dialect
