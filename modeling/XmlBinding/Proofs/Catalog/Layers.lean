import XmlBinding.Catalog
import XmlBinding.Proofs.SortedMap

/-!
# Layers of catalogs

Each field of an entry is that of the last layer which sets it, apart from the other fields.

* `lastSaid f l` : what the last element says that says anything; `lastSaid_append`;
* `MethodText.get`, `Catalog.template?` : the fields of an entry; `Bundle.template?`, `classDoc?`,
  `HasMethod` : what a layer says of a key;
* `bind_find?_foldl` : what is seen of an entry behind the entries of a layer;
* `Shows c bs` : in `c` is what the layers `bs` say; `Shows.overlay`, `Shows.foldl` : one more
  layer, and many;
* `stack locale user` : the layers of a locale with none passed over; `lastSaid_layers` : those
  passed over change nothing;
* `shows_load` : loaded catalogs.
-/

namespace XmlBinding.Catalog

/-! ## The last that says anything -/

section LastSaid
variable {α : Type u} {β : Type v} {f : α → Option β} {l : List α}

/-- What the last element says that says anything. -/
def lastSaid (f : α → Option β) (l : List α) : Option β := l.reverse.findSome? f

@[simp] theorem lastSaid_nil : lastSaid f [] = none := rfl

theorem lastSaid_append (l m : List α) :
    lastSaid f (l ++ m) = (lastSaid f m).or (lastSaid f l) := by
  unfold lastSaid
  rw [List.reverse_append, List.findSome?_append]

@[simp] theorem lastSaid_singleton (a : α) : lastSaid f [a] = f a := by
  unfold lastSaid
  cases h : f a <;> simp [h]

theorem lastSaid_cons (a : α) (l : List α) : lastSaid f (a :: l) = (lastSaid f l).or (f a) := by
  rw [← List.singleton_append, lastSaid_append, lastSaid_singleton]

theorem isSome_lastSaid_iff : (lastSaid f l).isSome = true ↔ ∃ a ∈ l, (f a).isSome = true := by
  unfold lastSaid
  simp

/-- Where all say the same or nothing, nothing else is said. -/
theorem lastSaid_or_of_forall {said : Option β} (h : ∀ a ∈ l, f a = none ∨ f a = said) :
    (lastSaid f l).or said = said := by
  induction l with
  | nil => rfl
  | cons a l ih =>
    have hone : (f a).or said = said := by
      rcases h a List.mem_cons_self with ha | ha
      · rw [ha, Option.none_or]
      · rw [ha, Option.or_self]
    rw [lastSaid_cons, Option.or_assoc, hone]
    exact ih fun a' ha' => h a' (List.mem_cons_of_mem a ha')

theorem lastSaid_filterMap (os : List (Option α)) :
    lastSaid f (os.filterMap id) = lastSaid (·.bind f) os := by
  induction os with
  | nil => rfl
  | cons o os ih =>
    cases o with
    | none =>
      rw [lastSaid_cons, Option.bind_none, Option.or_none]
      exact ih
    | some a =>
      rw [lastSaid_cons, Option.bind_some, ← ih]
      exact lastSaid_cons a _

end LastSaid

/-! ## What is said of a key -/

/-- A field of the templates for a method. -/
inductive Field where
  | name
  | doc

def MethodText.get (text : MethodText) : Field → Option String
  | .name => text.name
  | .doc => text.doc

theorem MethodText.get_over (field : Field) (later : MethodText) (earlier : Option MethodText) :
    (later.over earlier).get field = (later.get field).or (earlier.bind (·.get field)) := by
  cases field <;> exact Option.orElse_eq_or ..

def template? (c : Catalog) (field : Field) (key : String) : Option String :=
  (c.methods.find? key).bind (·.get field)

/-- What an entry says of a key. -/
def ofKey {α : Type u} {β : Type v} (key : String) (f : α → Option β) (entry : String × α) :
    Option β :=
  if entry.1 = key then f entry.2 else none

namespace Bundle

/-- What a layer sets a field of the method of a key to. -/
def template? (b : Bundle) (field : Field) (key : String) : Option String :=
  lastSaid (ofKey key (·.get field)) b.methods

/-- What a layer sets the documentation of the class of a key to. -/
def classDoc? (b : Bundle) (key : String) : Option String := lastSaid (ofKey key some) b.classes

/-- Whether a layer has an entry for the method of a key, be it an empty one. -/
def HasMethod (b : Bundle) (key : String) : Prop := ∃ entry ∈ b.methods, entry.1 = key

end Bundle

/-! ## One layer -/

/-- What is seen of an entry behind others, where later ones are written over earlier ones. -/
theorem bind_find?_foldl {α : Type u} {β : Type v} (write : α → Option α → α)
    (f : α → Option β)
    (hwrite : ∀ later earlier, f (write later earlier) = (f later).or (earlier.bind f))
    (entries : List (String × α)) (m : SortedMap String α) (key : String) :
    ((entries.foldl (fun m entry => m.alter entry.1 (write entry.2)) m).find? key).bind f =
      (lastSaid (ofKey key f) entries).or ((m.find? key).bind f) := by
  induction entries generalizing m with
  | nil => rfl
  | cons entry entries ih =>
    have hone : ((m.alter entry.1 (write entry.2)).find? key).bind f =
        (ofKey key f entry).or ((m.find? key).bind f) := by
      rw [SortedMap.find?_alter]
      unfold ofKey
      by_cases h : entry.1 = key
      · subst h
        rw [if_pos Std.ReflCmp.compare_self, if_pos rfl, Option.bind_some, hwrite]
      · have hne : compare key entry.1 ≠ .eq := by
          intro heq
          exact h (Std.LawfulEqOrd.compare_eq_iff_eq.1 heq).symm
        rw [if_neg hne, if_neg h, Option.none_or]
    rw [List.foldl_cons, ih, hone, lastSaid_cons, Option.or_assoc]

variable {c : Catalog} {b : Bundle} {bs : List Bundle}

/-- Each field is set apart from the other. -/
theorem template?_overlay (c : Catalog) (b : Bundle) (field : Field) (key : String) :
    (c.overlay b).template? field key = (b.template? field key).or (c.template? field key) :=
  bind_find?_foldl MethodText.over (·.get field) (MethodText.get_over field) b.methods c.methods key

theorem find?_classes_overlay (c : Catalog) (b : Bundle) (key : String) :
    (c.overlay b).classes.find? key = (b.classDoc? key).or (c.classes.find? key) := by
  have h := bind_find?_foldl (fun later _ => later) some (fun _ _ => rfl) b.classes c.classes key
  rwa [Option.bind_fun_some, Option.bind_fun_some] at h

theorem isSome_find?_methods_overlay (c : Catalog) (b : Bundle) (key : String) :
    ((c.overlay b).methods.find? key).isSome ↔
      b.HasMethod key ∨ (c.methods.find? key).isSome := by
  -- That there is an entry is seen like a field that every entry sets.
  have h := bind_find?_foldl MethodText.over (fun _ => some ()) (fun _ _ => rfl) b.methods
    c.methods key
  have hseen (o : Option MethodText) : (o.bind fun _ => some ()).isSome = o.isSome := by
    cases o <;> rfl
  rw [← hseen, ← hseen (c.methods.find? key)]
  show ((List.foldl (fun m entry => m.alter entry.1 entry.2.over) c.methods b.methods).find? key
    |>.bind fun _ => some ()).isSome = true ↔ _
  rw [h, Option.isSome_or, Bool.or_eq_true, isSome_lastSaid_iff]
  unfold Bundle.HasMethod ofKey
  simp

/-! ## Many layers -/

/-- In a catalog is what layers say, a later one before an earlier one. -/
structure Shows (c : Catalog) (bs : List Bundle) : Prop where
  template : ∀ field key, c.template? field key = lastSaid (·.template? field key) bs
  classDoc : ∀ key, c.classes.find? key = lastSaid (·.classDoc? key) bs
  hasMethod : ∀ key, (c.methods.find? key).isSome ↔ ∃ b ∈ bs, b.HasMethod key

theorem shows_nil (locale : String) : Shows ⟨locale, .empty, .empty⟩ [] where
  template _ _ := rfl
  classDoc _ := rfl
  hasMethod key := by simp [SortedMap.find?, SortedMap.empty, SortedMap.findIn]

theorem Shows.overlay (h : c.Shows bs) (b : Bundle) : (c.overlay b).Shows (bs ++ [b]) where
  template field key := by
    rw [template?_overlay, h.template, lastSaid_append, lastSaid_singleton]
  classDoc key := by
    rw [find?_classes_overlay, h.classDoc, lastSaid_append, lastSaid_singleton]
  hasMethod key := by
    rw [isSome_find?_methods_overlay, h.hasMethod]
    simp [or_and_right, exists_or, or_comm]

/-- What a layer sets stays set. -/
theorem Shows.isSome_template? (h : c.Shows bs) (hb : b ∈ bs) {field : Field} {key : String}
    (hset : (b.template? field key).isSome = true) : (c.template? field key).isSome = true := by
  rw [h.template]
  exact isSome_lastSaid_iff.2 ⟨b, hb, hset⟩

theorem Shows.foldl (h : c.Shows bs) (later : List Bundle) :
    (later.foldl Catalog.overlay c).Shows (bs ++ later) := by
  induction later generalizing c bs with
  | nil => rwa [List.append_nil]
  | cons b later ih =>
    have hrest := ih (h.overlay b)
    rwa [List.append_assoc, List.singleton_append] at hrest

/-! ## The layers of a locale -/

/-- The layers of a normal locale, in order, with none passed over. -/
def stack (locale : String) (user : Option Bundle) : List Bundle :=
  [some english, builtin? (Locale.language locale), builtin? locale, user].filterMap id

/-- To write a layer over itself changes nothing, so it may be passed over. -/
theorem lastSaid_layers {β : Type v} (f : Bundle → Option β) (locale : String)
    (user : Option Bundle) : lastSaid f (layers locale user) = lastSaid f (stack locale user) := by
  have hlanguage : (((if Locale.language locale = Locale.base then none
      else builtin? (Locale.language locale)).bind f).or (f english)) =
      ((builtin? (Locale.language locale)).bind f).or (f english) := by
    split
    · next h =>
      rw [h, show builtin? Locale.base = some english from rfl, Option.bind_none, Option.none_or,
        Option.bind_some, Option.or_self]
    · rfl
  have hexact (earlier : Option β) : (((if locale = Locale.language locale then none
      else builtin? locale).bind f).or (((builtin? (Locale.language locale)).bind f).or earlier)) =
      ((builtin? locale).bind f).or (((builtin? (Locale.language locale)).bind f).or earlier) := by
    split
    · next h => rw [← h, Option.bind_none, Option.none_or, ← Option.or_assoc, Option.or_self]
    · rfl
  unfold layers stack
  dsimp only
  rw [lastSaid_filterMap, lastSaid_filterMap]
  simp only [lastSaid_cons, lastSaid_nil, Option.none_or, Option.bind_some, Option.or_assoc,
    hlanguage, hexact]

theorem mem_layers_iff {locale : String} {user : Option Bundle} :
    b ∈ layers locale user ↔ b ∈ stack locale user := by
  have h := lastSaid_layers (fun b' => if b' = b then some () else none) locale user
  have hmem (l : List Bundle) :
      b ∈ l ↔ (lastSaid (fun b' => if b' = b then some () else none) l).isSome = true := by
    rw [isSome_lastSaid_iff]
    simp
  rw [hmem, hmem, h]

theorem mem_stack_iff {locale : String} {user : Option Bundle} : b ∈ stack locale user ↔
    english = b ∨ builtin? (Locale.language locale) = some b ∨ builtin? locale = some b ∨
      user = some b := by
  unfold stack
  simp only [List.mem_filterMap, List.mem_cons, List.not_mem_nil, or_false, id]
  constructor
  · rintro ⟨layer, rfl | rfl | rfl | rfl, hb⟩
    · exact .inl (Option.some.inj hb)
    · exact .inr (.inl hb)
    · exact .inr (.inr (.inl hb))
    · exact .inr (.inr (.inr hb))
  · rintro (rfl | h | h | h)
    · exact ⟨_, .inl rfl, rfl⟩
    · exact ⟨_, .inr (.inl rfl), h⟩
    · exact ⟨_, .inr (.inr (.inl rfl)), h⟩
    · exact ⟨_, .inr (.inr (.inr rfl)), h⟩

/-- A loaded catalog shows the layers of its locale. -/
theorem shows_load (locale : String) (user : Option Bundle) :
    (load locale user).Shows (stack (Locale.normalize locale) user) := by
  have h := (shows_nil (Locale.normalize locale)).foldl (layers (Locale.normalize locale) user)
  rw [List.nil_append] at h
  refine ⟨fun field key => ?_, fun key => ?_, fun key => ?_⟩
  · exact (h.template field key).trans (lastSaid_layers _ _ _)
  · exact (h.classDoc key).trans (lastSaid_layers _ _ _)
  · simp only [← mem_layers_iff]
    exact h.hasMethod key

theorem stack_eq_cons (locale : String) (user : Option Bundle) :
    ∃ later, stack locale user = english :: later :=
  ⟨_, List.filterMap_cons_some (f := id) rfl⟩

theorem builtin?_eq {locale : String} (h : builtin? locale = some b) :
    b = english ∨ b = french := by
  unfold builtin? at h
  split at h
  · exact .inl (Option.some.inj h).symm
  · split at h
    · exact .inr (Option.some.inj h).symm
    · cases h

theorem eq_of_mem_stack {locale : String} (h : b ∈ stack locale none) :
    b = english ∨ b = french := by
  rcases mem_stack_iff.1 h with h | h | h | h
  · exact .inl h.symm
  · exact builtin?_eq h
  · exact builtin?_eq h
  · cases h

theorem template?_name_french (key : String) : french.template? .name key = none := by
  have hnames : ∀ entry ∈ french.methods, entry.2.get .name = none := by decide
  refine Option.not_isSome_iff_eq_none.1 fun hset => ?_
  obtain ⟨entry, hentry, hsome⟩ := isSome_lastSaid_iff.1 hset
  rw [ofKey, hnames entry hentry, ite_self] at hsome
  cases hsome

/-- Without a layer of the user the English bundle alone sets names. -/
theorem template?_name_load (locale key : String) :
    (load locale none).template? .name key = english.template? .name key := by
  obtain ⟨later, hstack⟩ := stack_eq_cons (Locale.normalize locale) none
  rw [(shows_load locale none).template, hstack, lastSaid_cons]
  refine lastSaid_or_of_forall fun b hb => ?_
  have hmem : b ∈ stack (Locale.normalize locale) none := by
    rw [hstack]
    exact List.mem_cons_of_mem english hb
  rcases eq_of_mem_stack hmem with rfl | rfl
  · exact .inr rfl
  · exact .inl (template?_name_french key)

/-- What the English bundle names has a name in every locale, whatever the layer of the user. -/
theorem isSome_name_load (locale : String) (user : Option Bundle) {key : String}
    (h : (english.template? .name key).isSome = true) :
    ((load locale user).template? .name key).isSome = true :=
  (shows_load locale user).isSome_template? (mem_stack_iff.2 (.inl rfl)) h

/-! ## What is asked of a catalog -/

theorem methodName_eq_elim (c : Catalog) (key : String) (args : List String) :
    c.methodName key args = ((c.template? .name key).map (Template.fill args)).elim
      (.error (.missingMethodName key)) .ok := by
  unfold methodName
  show _ = Option.elim (((c.methods.find? key).bind (·.name)).map (Template.fill args)) _ _
  cases (c.methods.find? key).bind (·.name) <;> rfl

theorem locale_foldl_overlay (bs : List Bundle) (c : Catalog) :
    (bs.foldl overlay c).locale = c.locale := by
  induction bs generalizing c with
  | nil => rfl
  | cons b bs ih => exact ih (c.overlay b)

theorem locale_load (locale : String) (user : Option Bundle) :
    (load locale user).locale = Locale.normalize locale := by
  unfold load
  rw [locale_foldl_overlay]

/-- A layer sets some fields and leaves all else. A loaded catalog answers with the last layer of
its locale that sets what is asked for, it has a name wherever the English bundle has one, and
without a layer of the user the names are the English ones. -/
theorem load_layered :
    (∀ (c : Catalog) (b : Bundle) (key : String),
      (∀ field, (c.overlay b).template? field key =
        (b.template? field key).or (c.template? field key)) ∧
      (c.overlay b).classes.find? key = (b.classDoc? key).or (c.classes.find? key) ∧
      ((c.methods.find? key).isSome = true → ((c.overlay b).methods.find? key).isSome = true)) ∧
    (∀ (locale : String) (user : Option Bundle),
      (load locale user).locale = Locale.normalize locale ∧
      (load locale user).Shows (stack (Locale.normalize locale) user)) ∧
    (∀ (locale : String) (user : Option Bundle) (key : String) (args : List String),
      (load locale user).methodName key args =
        ((lastSaid (·.template? .name key) (stack (Locale.normalize locale) user)).map
          (Template.fill args)).elim (.error (.missingMethodName key)) .ok ∧
      (load locale user).methodDoc? key args =
        (lastSaid (·.template? .doc key) (stack (Locale.normalize locale) user)).map
          (Template.fill args) ∧
      (load locale user).classDoc? key args =
        (lastSaid (·.classDoc? key) (stack (Locale.normalize locale) user)).map
          (Template.fill args)) ∧
    (∀ (locale : String) (user : Option Bundle) (key : String) (args : List String),
      (english.template? .name key).isSome = true →
        ∃ name, (load locale user).methodName key args = .ok name) ∧
    ∀ (locale key : String) (args : List String),
      (load locale none).methodName key args = (load Locale.base none).methodName key args := by
  refine ⟨fun c b key => ⟨fun field => template?_overlay c b field key,
    find?_classes_overlay c b key, ?_⟩, ?_, ?_, ?_, ?_⟩
  · intro hkey
    exact (isSome_find?_methods_overlay c b key).2 (.inr hkey)
  · intro locale user
    exact ⟨locale_load locale user, shows_load locale user⟩
  · intro locale user key args
    have h := shows_load locale user
    refine ⟨?_, ?_, ?_⟩
    · rw [methodName_eq_elim, h.template]
    · rw [← h.template]
      rfl
    · rw [← h.classDoc]
      rfl
  · intro locale user key args hkey
    obtain ⟨template, htemplate⟩ := Option.isSome_iff_exists.1 (isSome_name_load locale user hkey)
    refine ⟨Template.fill args template, ?_⟩
    rw [methodName_eq_elim, htemplate]
    rfl
  · intro locale key args
    rw [methodName_eq_elim, methodName_eq_elim, template?_name_load, template?_name_load]

/-- A layer with the documentation of a method and one more name. -/
def notes : Bundle where
  classes := [("as3_model", "Model.")]
  methods := [("dom4j.get_instance", ⟨none, some "Custom reader."⟩),
    ("dom4j.custom", ⟨some "custom", none⟩)]

theorem load_layered_notes :
    (load "fr-ca" (some notes)).methodName "dom4j.get_instance" [] = .ok "getInstance" ∧
    (load "fr-ca" (some notes)).methodDoc? "dom4j.get_instance" [] = some "Custom reader." ∧
    (load "fr-ca" (some notes)).methodDoc? "as3.get_string" [] =
      some "Lit le texte d'un nœud XML." ∧
    (load "fr-ca" (some notes)).classDoc? "as3_model" [] = some "Model." ∧
    (∃ name, (load "fr-ca" (some notes)).methodName "as3.get_string" [] = .ok name) := by
  obtain ⟨-, -, hanswers, hnamed, -⟩ := load_layered
  refine ⟨?_, ?_, ?_, ?_, ?_⟩
  · rw [(hanswers _ _ _ _).1]
    decide +kernel
  · rw [(hanswers _ _ _ _).2.1]
    decide +kernel
  · rw [(hanswers _ _ _ _).2.1]
    decide +kernel
  · rw [(hanswers _ _ _ _).2.2]
    decide +kernel
  · exact hnamed _ _ _ _ (by decide +kernel)

end XmlBinding.Catalog
