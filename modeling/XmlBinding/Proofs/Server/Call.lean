import XmlBinding.Proofs.Server.Code
import XmlBinding.Proofs.Server.Identity

/-!
# The methods of a server builder and their calls

* `Server.uses_readingCode`, `uses_writingCode`, `uses_valueCode` : what statements call;
* `Server.standingDefinitions` : the methods of every builder, `hasMethods_standingCode`;
* `Server.hasMethods_helperCode`, `hasMethods_code` : those of helpers and of a whole body;
* `definition_eq_of_identity_eq` : helpers of one identity have the same method.
-/

namespace XmlBinding.Server

open Code

variable {scope : Scope} {own : List MethodRef} {p : Property} {t : JavaType}

/-! ## Statements -/

def standingMethods : List MethodRef :=
  [⟨getInstance, []⟩, ⟨getElement, []⟩, ⟨getEntityCollection, []⟩, ⟨getEntityArrayElement, []⟩,
    ⟨getEntityCollectionElement, []⟩, ⟨getEntityMapElement, []⟩]

/-- The code that reads a property calls the helpers that it asks for, and builders of entities. -/
theorem uses_readingCode (style : AccessStyle) (var : String)
    (hentity : p.category = .entity → scope.session.isEntity p.type = true) :
    (readingCode scope style var p).Uses scope.session
      ((readRequests scope.session p).map reference) standingMethods := by
  have hread {own : List MethodRef} {lead : Code}
      (h : lead.Uses scope.session own standingMethods) :=
    uses_accessCode style scope.session.config var p ")" (some .element) h
  unfold readingCode readRequests
  cases hc : p.category with
  | basic => simp
  | entity => exact hread (by simpa using .callOf (hentity hc) (by decide))
  | array t =>
    cases ht : t.isArray with
    | true => simp [ht]
    | false =>
      dsimp only
      rw [ht]
      exact hread (by simpa using .call List.mem_cons_self)
  | collection kind t implementation =>
    refine hread ?_
    simp only [fillLeadCode, uses_cons, uses_text, uses_nil, and_true]
    exact scope.uses_callCode _ (fun h => by simp [h, reference]) (by decide)
  | map key entry implementation =>
    exact hread (by simpa [fillLeadCode] using .call List.mem_cons_self)

/-- The code that writes a property calls the helpers that it asks for, and builders of entities. -/
theorem uses_writingCode (var : String)
    (hentity : p.category = .entity → scope.session.isEntity p.type = true) :
    (writingCode scope var p).Uses scope.session
      ((writeRequests scope.session p).map reference) standingMethods := by
  have hwrite {own : List MethodRef} {call : Piece}
      (h : call.Uses scope.session own standingMethods) :
      (nestedCode scope call var p).Uses scope.session own standingMethods := by
    simp [nestedCode, h]
  unfold writingCode writeRequests
  cases hc : p.category with
  | basic => simp
  | entity => exact hwrite (.callOf (hentity hc) (by decide))
  | array t =>
    cases ht : t.isArray with
    | true => simp [ht]
    | false =>
      dsimp only
      rw [ht]
      exact hwrite (scope.uses_callCode _ (fun h => by simp [h, reference]) (by decide))
  | collection kind t implementation =>
    exact hwrite (scope.uses_callCode _ (fun h => by simp [h, reference]) (by decide))
  | map key t implementation =>
    exact hwrite (scope.uses_callCode _ (fun h => by simp [h, reference]) (by decide))

theorem uses_valueCode (inner : AccessStyle) (var : String) (t : JavaType) :
    (valueCode scope inner var t).Uses scope.session own standingMethods := by
  unfold valueCode
  cases ht : scope.session.isEntity t with
  | true => simpa using .callOf ht (by decide)
  | false => simp

/-! ## Methods of every builder -/

def standingDefinitions (scope : Scope) : List (MethodRef × List Parameter) :=
  [(⟨getInstance, []⟩, [⟨"Element", "el", ""⟩]),
    (⟨getElement, []⟩, [⟨bean scope, "o", ""⟩]),
    (⟨getEntityCollection, []⟩, [⟨"T", "coll", ""⟩, ⟨"Element", "els", ""⟩]),
    (⟨getEntityArrayElement, []⟩, [⟨bean scope ++ "[]", "arr", ""⟩]),
    (⟨getEntityCollectionElement, []⟩, [⟨"Collection<" ++ bean scope ++ ">", "coll", ""⟩]),
    (⟨getEntityMapElement, []⟩, [⟨"Map<?, " ++ bean scope ++ ">", "map", ""⟩])]

theorem map_standingDefinitions (scope : Scope) :
    (standingDefinitions scope).map Prod.fst = standingMethods := rfl

theorem hasMethods_fillCode {docs : List String} {bound parameter : String} {m : MethodRef}
    {statements : List Code} (h : ∀ l ∈ statements, l.Uses scope.session own standingMethods) :
    HasMethods scope.session own standingMethods
      [(m, [⟨"T", parameter, ""⟩, ⟨"Element", "els", ""⟩])]
      (fillCode scope.session.config docs bound parameter m statements) := by
  have hlines := uses_linesCode scope.session.config 3 h
  exact .method (by simp [hlines])

theorem hasMethods_loopCode {docs : List String} {node : String} {m : MethodRef}
    {type parameter header : String} {statements : List Code}
    (h : ∀ l ∈ statements, l.Uses scope.session own standingMethods) :
    HasMethods scope.session own standingMethods [(m, [⟨type, parameter, ""⟩])]
      (loopCode scope.session.config docs node m type parameter header statements) := by
  have hlines := uses_linesCode scope.session.config 3 h
  exact .method (by simp [hlines])

/-- The methods of every builder call one another and the helpers that they ask for. -/
theorem hasMethods_standingCode
    (hentity : ∀ p ∈ scope.frame.attributes ++ scope.frame.elements,
      p.category = .entity → scope.session.isEntity p.type = true) :
    HasMethods scope.session
      ((requests scope.session scope.frame).map reference ++ standingMethods) standingMethods
      (standingDefinitions scope) (standingCode scope) := by
  have hreads {ps : List Property} (hps : ps ⊆ scope.frame.attributes ++ scope.frame.elements) :
      (Code.ofProperties .serverRead (readingCode scope .dom4j "o") ps).Uses scope.session
        ((requests scope.session scope.frame).map reference ++ standingMethods)
        standingMethods := by
    refine uses_ofProperties fun p hp hd => ?_
    refine (uses_readingCode .dom4j "o" (hentity p (hps hp))).mono ?_
    refine List.Subset.trans (List.map_subset reference fun j hj => ?_)
      (List.subset_append_left _ _)
    exact ClassFrame.mem_requests_of_read (hps hp) hd hj
  have hwrites : (Code.ofProperties .serverWrite (writingCode scope "o")
      scope.frame.elements).Uses scope.session
        ((requests scope.session scope.frame).map reference ++ standingMethods)
        standingMethods := by
    refine uses_ofProperties fun p hp hd => ?_
    refine (uses_writingCode "o" (hentity p (List.mem_append_right _ hp))).mono ?_
    refine List.Subset.trans (List.map_subset reference fun j hj => ?_)
      (List.subset_append_left _ _)
    exact ClassFrame.mem_requests_of_write hp hd hj
  have hcall {m : MethodRef} (hm : m ∈ standingMethods) : (Piece.call m).Uses scope.session
      ((requests scope.session scope.frame).map reference ++ standingMethods) standingMethods :=
    .call (List.mem_append_right _ hm)
  have hinstance := hcall (m := ⟨getInstance, []⟩) (by decide)
  have helement := hcall (m := ⟨getElement, []⟩) (by decide)
  have hattributes := hreads (List.subset_append_left _ _)
  have helements := hreads (List.subset_append_right _ _)
  exact (HasMethods.method (by simp [hattributes, helements])).append
    ((HasMethods.method (by simp [hwrites])).append
      ((hasMethods_fillCode (by simp [hinstance])).append
        ((hasMethods_loopCode (by simp [helement])).append
          ((hasMethods_loopCode (by simp [helement])).append
            (hasMethods_loopCode (by simp [helement]))))))

/-! ## Helpers -/

/-- Helpers call builders of entities only. -/
theorem hasMethods_helperCode (job : ServerHelper) :
    HasMethods scope.session own standingMethods [definition job] (helperCode scope job) := by
  cases job with
  | readArray t => exact .method (by simp [uses_valueCode])
  | readCollection t => exact hasMethods_fillCode (by simp [uses_valueCode])
  | readMap key entry =>
    have hentry : (entryCode scope entry).Uses scope.session own standingMethods := by
      unfold entryCode
      cases scope.session.isEntity entry <;> simp [uses_valueCode]
    exact hasMethods_fillCode (by simp [uses_valueCode, hentry])
  | writeArray t | writeCollection | writeMap => exact hasMethods_loopCode (by simp)

/-! ## Bodies -/

/-- A body has the methods of every builder and those of its helpers. They call one another and the
helpers that the properties ask for. -/
theorem hasMethods_code
    (hentity : ∀ p ∈ scope.frame.attributes ++ scope.frame.elements,
      p.category = .entity → scope.session.isEntity p.type = true) (jobs : List ServerHelper) :
    HasMethods scope.session
      ((requests scope.session scope.frame).map reference ++ standingMethods) standingMethods
      (standingDefinitions scope ++ jobs.map definition) (code scope jobs) :=
  (hasMethods_standingCode hentity).append (.flatMap fun j _ => hasMethods_helperCode j)

/-- Helpers of one identity have the same method. -/
theorem definition_eq_of_identity_eq {i j : ServerHelper} (h : identity i = identity j) :
    definition i = definition j := by
  cases identity_eq_iff.1 h with
  | readArray hn | readCollection hn | readMap hn | writeArray hn =>
    simp only [definition, reference, parameters, hn]
  | writeCollection | writeMap => rfl

end XmlBinding.Server
