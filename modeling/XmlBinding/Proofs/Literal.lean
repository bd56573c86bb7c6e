import XmlBinding.Proofs.Introspection
import XmlBinding.Proofs.Session

/-!
# Literals of scalars

* `Denotes cs i` : decimal digits with a sign or without, and their integer; `denotes_toString`;
* `IntegerWidth.read_eq_ok_iff` : what is read is what is denoted, in the range of the width;
* `ScalarKind.width?`, `IntegerWidth.Has` : the integer kinds and their values; `read_integer_iff`,
  `read_boolean_iff`; `read_render` : what is written is read back;
* `ScalarKind.IsLiteral` : the literals of booleans and integers, `exists_read_iff`;
* `Entity.marked e` : the properties whose markers are read; `describe_of_first_failure` : the one
  that an entity fails by;
* `Session.Judges` : what a default means for the description of its entity, `judges_default`;
* `Session.reads_literals` : literals, values and defaults.
-/

namespace XmlBinding

/-! ## Digits and signs -/

/-- Decimal digits, one at least, and their value. -/
structure IsNumeral (digits : List Char) (n : Nat) : Prop where
  ne_nil : digits ≠ []
  isDigit : ∀ c ∈ digits, c.isDigit = true
  value : Nat.ofDigitChars 10 digits 0 = n

/-- Decimal digits with a sign or without, and their integer. -/
inductive Denotes : List Char → Int → Prop where
  | plain {digits : List Char} {n : Nat} (h : IsNumeral digits n) : Denotes digits n
  | plus {digits : List Char} {n : Nat} (h : IsNumeral digits n) : Denotes ('+' :: digits) n
  | minus {digits : List Char} {n : Nat} (h : IsNumeral digits n) : Denotes ('-' :: digits) (-n)

section Digits
variable {digits cs : List Char} {n : Nat} {i : Int}

theorem IsNumeral.head_isDigit {c : Char} (h : IsNumeral (c :: digits) n) : c.isDigit = true :=
  h.isDigit c List.mem_cons_self

theorem not_denotes_nil : ¬Denotes [] i := by
  intro h
  cases h with
  | plain h => exact h.ne_nil rfl

theorem denotes_minus_iff : Denotes ('-' :: digits) i ↔ ∃ n : Nat, IsNumeral digits n ∧ -n = i := by
  constructor
  · intro h
    cases h with
    | plain h => exact absurd h.head_isDigit (by decide)
    | minus h => exact ⟨_, h, rfl⟩
  · rintro ⟨n, h, rfl⟩
    exact .minus h

theorem denotes_plus_iff : Denotes ('+' :: digits) i ↔ ∃ n : Nat, IsNumeral digits n ∧ n = i := by
  constructor
  · intro h
    cases h with
    | plain h => exact absurd h.head_isDigit (by decide)
    | plus h => exact ⟨_, h, rfl⟩
  · rintro ⟨n, h, rfl⟩
    exact .plus h

theorem denotes_unsigned_iff (hminus : ∀ digits, cs ≠ '-' :: digits)
    (hplus : ∀ digits, cs ≠ '+' :: digits) :
    Denotes cs i ↔ ∃ n : Nat, IsNumeral cs n ∧ n = i := by
  constructor
  · intro h
    cases h with
    | plain h => exact ⟨_, h, rfl⟩
    | plus h => exact absurd rfl (hplus _)
    | minus h => exact absurd rfl (hminus _)
  · rintro ⟨n, h, rfl⟩
    exact .plain h

theorem isNumeral_toDigits (n : Nat) : IsNumeral (Nat.toDigits 10 n) n where
  ne_nil := Nat.toDigits_ne_nil
  isDigit c hc := Nat.isDigit_of_mem_toDigits (by decide) (by decide) hc
  value := Nat.ofDigitChars_ten_toDigits

/-- An integer is denoted as it is written. -/
theorem denotes_toString (i : Int) : Denotes (toString i).toList i := by
  cases i with
  | ofNat n =>
    show Denotes n.repr.toList n
    rw [Nat.toList_repr]
    exact .plain (isNumeral_toDigits n)
  | negSucc n =>
    show Denotes ("-" ++ (n + 1).repr).toList (Int.negSucc n)
    rw [String.toList_append, Nat.toList_repr]
    exact .minus (isNumeral_toDigits (n + 1))

end Digits

/-! ## Integers of a width -/

namespace IntegerWidth

variable {w : IntegerWidth} {limit value n : Nat} {beyond : IntegerFault} {digits : List Char}

/-- Whether an integer is in the two's-complement range of the width. -/
def Holds (w : IntegerWidth) (i : Int) : Prop :=
  -(2 ^ (w.bits - 1) : Int) ≤ i ∧ i < 2 ^ (w.bits - 1)

theorem le_ofDigitChars (digits : List Char) (value : Nat) :
    value ≤ Nat.ofDigitChars 10 digits value := by
  rw [Nat.ofDigitChars_eq_ofDigitChars_zero]
  have hle : value ≤ 10 ^ digits.length * value :=
    Nat.le_mul_of_pos_left value (Nat.pow_pos (by decide))
  exact Nat.le_add_right_of_le hle

/-- The value stays within the limit to the end if it does so at the end, since digits only add. -/
theorem readDigits_eq_ok_iff (hvalue : value ≤ limit) :
    readDigits limit beyond value digits = .ok n ↔
      (∀ c ∈ digits, c.isDigit = true) ∧ Nat.ofDigitChars 10 digits value = n ∧ n ≤ limit := by
  induction digits generalizing value with
  | nil =>
    rw [readDigits, Nat.ofDigitChars_nil, Except.ok.injEq]
    constructor
    · rintro rfl
      exact ⟨by simp, rfl, hvalue⟩
    · exact fun h => h.2.1
  | cons c rest ih =>
    rw [readDigits, Nat.ofDigitChars_cons, List.forall_mem_cons]
    by_cases hc : c.isDigit = true
    · rw [if_pos hc]
      dsimp only
      by_cases hnext : limit < 10 * value + (c.toNat - '0'.toNat)
      · rw [if_pos hnext]
        constructor
        · intro h
          cases h
        · rintro ⟨-, hn, hle⟩
          have hbelow := le_ofDigitChars rest (10 * value + (c.toNat - '0'.toNat))
          omega
      · rw [if_neg hnext, ih (by omega)]
        simp [hc]
    · rw [if_neg hc]
      constructor
      · intro h
        cases h
      · intro h
        exact absurd h.1.1 hc

theorem readDigits_eq_ok_iff_isNumeral (hne : digits ≠ []) :
    readDigits limit beyond 0 digits = .ok n ↔ IsNumeral digits n ∧ n ≤ limit := by
  rw [readDigits_eq_ok_iff (Nat.zero_le limit), ← and_assoc]
  refine and_congr_left fun _ => ?_
  constructor
  · rintro ⟨hdigits, hn⟩
    exact ⟨hne, hdigits, hn⟩
  · intro h
    exact ⟨h.isDigit, h.value⟩

theorem holds_neg_iff : w.Holds (-n) ↔ n ≤ w.bound := by
  unfold Holds bound
  cases w <;> simp only [bits, Nat.pow_eq] <;> omega

theorem holds_natCast_iff : w.Holds n ↔ n ≤ w.bound - 1 := by
  unfold Holds bound
  cases w <;> simp only [bits, Nat.pow_eq] <;> omega

/-- Digits that are read with a sign. -/
theorem map_readDigits_eq_ok_iff {f : Nat → Int} {i : Int} (hne : digits ≠ [])
    (hholds : ∀ n, w.Holds (f n) ↔ n ≤ limit) :
    (readDigits limit beyond 0 digits).map f = .ok i ↔
      (∃ n : Nat, IsNumeral digits n ∧ f n = i) ∧ w.Holds i := by
  rw [map_eq_ok]
  simp only [readDigits_eq_ok_iff_isNumeral hne]
  constructor
  · rintro ⟨n, ⟨hn, hle⟩, rfl⟩
    exact ⟨⟨n, hn, rfl⟩, (hholds n).2 hle⟩
  · rintro ⟨⟨n, hn, rfl⟩, hi⟩
    exact ⟨n, ⟨hn, (hholds n).1 hi⟩, rfl⟩

/-- An integer literal of a width is one whose integer is in range. -/
theorem read_eq_ok_iff {text : String} {i : Int} :
    w.read text = .ok i ↔ Denotes text.toList i ∧ w.Holds i := by
  unfold read
  split
  · next heq =>
    rw [heq]
    exact iff_of_false (fun h => nomatch h) fun h => not_denotes_nil h.1
  · next heq =>
    rw [heq, denotes_plus_iff]
    refine iff_of_false (fun h => nomatch h) ?_
    rintro ⟨⟨n, hn, -⟩, -⟩
    exact hn.ne_nil rfl
  · next heq =>
    rw [heq, denotes_minus_iff]
    refine iff_of_false (fun h => nomatch h) ?_
    rintro ⟨⟨n, hn, -⟩, -⟩
    exact hn.ne_nil rfl
  · next digits hne heq =>
    have hmap (r : Except IntegerFault Nat) :
        (r >>= fun n => pure (n : Int)).map (fun i => -i) = r.map fun n : Nat => -(n : Int) := by
      cases r <;> rfl
    rw [heq, denotes_minus_iff, hmap]
    exact map_readDigits_eq_ok_iff hne fun n => holds_neg_iff
  · next digits hne heq =>
    rw [heq, denotes_plus_iff]
    exact map_readDigits_eq_ok_iff hne fun n => holds_natCast_iff
  · next hnil _ _ hminus hplus =>
    rw [denotes_unsigned_iff hminus hplus]
    exact map_readDigits_eq_ok_iff hnil fun n => holds_natCast_iff

end IntegerWidth

/-! ## Scalars -/

def IntegerWidth.value : IntegerWidth → Int → ScalarValue
  | .w16, i => .short (Int16.ofInt i)
  | .w32, i => .int (Int32.ofInt i)
  | .w64, i => .long (Int64.ofInt i)

/-- Whether a value is of the width and stands for an integer. -/
def IntegerWidth.Has : IntegerWidth → ScalarValue → Int → Prop
  | .w16, .short v, i => v.toInt = i
  | .w32, .int v, i => v.toInt = i
  | .w64, .long v, i => v.toInt = i
  | _, _, _ => False

/-- No integer in range is wrapped. -/
theorem IntegerWidth.has_iff {w : IntegerWidth} {v : ScalarValue} {i : Int} (hi : w.Holds i) :
    w.Has v i ↔ w.value i = v := by
  constructor
  · intro h
    unfold Has at h
    split at h
    · next n =>
      rw [← h]
      exact congrArg ScalarValue.short n.ofInt_toInt
    · next n =>
      rw [← h]
      exact congrArg ScalarValue.int n.ofInt_toInt
    · next n =>
      rw [← h]
      exact congrArg ScalarValue.long n.ofInt_toInt
    · exact absurd h id
  · rintro rfl
    obtain ⟨hlow, hhigh⟩ := hi
    cases w with
    | w16 => exact Int16.toInt_ofInt_of_le hlow hhigh
    | w32 => exact Int32.toInt_ofInt_of_le hlow hhigh
    | w64 => exact Int64.toInt_ofInt_of_le hlow hhigh

namespace ScalarKind

variable {k : ScalarKind} {w : IntegerWidth} {v : ScalarValue} {text : String}

def width? : ScalarKind → Option IntegerWidth
  | short | boxedShort => some .w16
  | int | integer => some .w32
  | long | boxedLong => some .w64
  | _ => none

def IsBoolean (k : ScalarKind) : Prop := k = boolean ∨ k = boxedBoolean

/-- Whether values of a type are written as literals of the kind. Floating point is left out. -/
def Takes (k : ScalarKind) : ScalarValue → Prop
  | .bool _ => k.IsBoolean
  | .short _ => k.width? = some .w16
  | .int _ => k.width? = some .w32
  | .long _ => k.width? = some .w64
  | .text _ => k = string
  | .float _ | .double _ => False

/-- Literals of a boolean or integer kind. -/
inductive IsLiteral (k : ScalarKind) (text : String) : Prop where
  | boolean (hk : k.IsBoolean) (b : Bool) (h : toString b = text)
  | integer (w : IntegerWidth) (hw : k.width? = some w) (i : Int) (h : Denotes text.toList i)
    (hi : w.Holds i)

theorem read_of_width (hw : k.width? = some w) (text : String) :
    k.read text = (k.readInteger w text).map w.value := by
  cases k <;> cases hw <;> rfl

theorem read_integer_iff (hw : k.width? = some w) :
    k.read text = .ok v ↔ ∃ i, Denotes text.toList i ∧ w.Holds i ∧ w.Has v i := by
  have hread (i : Int) : k.readInteger w text = .ok i ↔ w.read text = .ok i := by
    unfold readInteger
    cases w.read text <;> simp [Except.mapError]
  rw [read_of_width hw, map_eq_ok]
  constructor
  · rintro ⟨i, h, hv⟩
    obtain ⟨hdenotes, hi⟩ := IntegerWidth.read_eq_ok_iff.1 ((hread i).1 h)
    exact ⟨i, hdenotes, hi, (IntegerWidth.has_iff hi).2 hv⟩
  · rintro ⟨i, hdenotes, hi, hv⟩
    exact ⟨i, (hread i).2 (IntegerWidth.read_eq_ok_iff.2 ⟨hdenotes, hi⟩),
      (IntegerWidth.has_iff hi).1 hv⟩

theorem read_boolean_iff (hk : k.IsBoolean) :
    k.read text = .ok v ↔ ∃ b : Bool, toString b = text ∧ .bool b = v := by
  have hread : k.read text = boolean.read text := by
    rcases hk with rfl | rfl <;> rfl
  rw [hread]
  constructor
  · intro h
    simp only [read] at h
    split at h
    · exact ⟨true, rfl, Except.ok.inj h⟩
    · exact ⟨false, rfl, Except.ok.inj h⟩
    · cases h
  · rintro ⟨b, rfl, rfl⟩
    cases b <;> rfl

/-- What is written is read back. -/
theorem read_render (h : k.Takes v) : k.read v.render = .ok v := by
  cases v with
  | bool b => exact (read_boolean_iff h).2 ⟨b, by cases b <;> rfl, rfl⟩
  | short n =>
    exact (read_integer_iff h).2 ⟨n.toInt, denotes_toString _, ⟨n.le_toInt, n.toInt_lt⟩, rfl⟩
  | int n =>
    exact (read_integer_iff h).2 ⟨n.toInt, denotes_toString _, ⟨n.le_toInt, n.toInt_lt⟩, rfl⟩
  | long n =>
    exact (read_integer_iff h).2 ⟨n.toInt, denotes_toString _, ⟨n.le_toInt, n.toInt_lt⟩, rfl⟩
  | text s =>
    cases h
    rfl
  | float f => exact absurd h id
  | double f => exact absurd h id

theorem exists_read_iff (hk : k.IsBoolean ∨ k.width?.isSome = true) :
    (∃ v, k.read text = .ok v) ↔ k.IsLiteral text := by
  constructor
  · rintro ⟨v, hv⟩
    rcases hk with hk | hk
    · obtain ⟨b, hb, -⟩ := (read_boolean_iff hk).1 hv
      exact .boolean hk b hb
    · obtain ⟨w, hw⟩ := Option.isSome_iff_exists.1 hk
      obtain ⟨i, hdenotes, hi, -⟩ := (read_integer_iff hw).1 hv
      exact .integer w hw i hdenotes hi
  · intro h
    cases h with
    | boolean hk b hb => exact ⟨_, (read_boolean_iff hk).2 ⟨b, hb, rfl⟩⟩
    | integer w hw i hdenotes hi =>
      exact ⟨_, (read_integer_iff hw).2 ⟨i, hdenotes, hi, (IntegerWidth.has_iff hi).2 rfl⟩⟩

theorem not_isLiteral_of_refused {fault : LiteralFault} (hk : k.IsBoolean ∨ k.width?.isSome = true)
    (h : k.read text = .error fault) : ¬k.IsLiteral text := by
  rw [← exists_read_iff hk]
  rintro ⟨v, hv⟩
  cases h.symm.trans hv

theorem isSimple_of_of? {t : JavaType} (h : of? t = some k) :
    t.component? = none ∧ t.isMap = false ∧ t.isCollection = false := by
  unfold of? at h
  split at h
  case h_14 => cases h
  all_goals exact ⟨rfl, by decide, by decide⟩

end ScalarKind

/-! ## Defaults -/

/-- The properties whose markers are read, which are all but those hidden everywhere. -/
def Entity.marked (e : Entity) : List BeanProperty :=
  e.properties.filter fun p => p.descriptor.transience ≠ some .everywhere

namespace Session

variable {s : Session} {e : Entity} {p : BeanProperty} {before after : List BeanProperty}
  {k : ScalarKind} {value : String} {fault : LiteralFault}

/-- No marker is needed to resolve a scalar. -/
theorem exists_classify (s : Session) (e : Entity) (hk : ScalarKind.of? p.type = some k) :
    ∃ category, s.classify e p = .ok category := by
  obtain ⟨hcomponent, hmap, hcollection⟩ := ScalarKind.isSimple_of_of? hk
  unfold classify
  simp only [hcomponent, hmap, hcollection, Bool.false_eq_true, if_false]
  by_cases h : s.isEntity p.type = true
  · exact ⟨.entity, if_pos h⟩
  · exact ⟨.basic, if_neg h⟩

section Default
variable (hk : ScalarKind.of? p.type = some k) (hstring : k ≠ .string) (hnew : value ≠ "new")
include hk hstring hnew

theorem checkDefault_eq : checkDefault e p value =
    ((k.read value).map fun _ => ()).mapError (.invalidDefault e.name p.name value) := by
  unfold checkDefault
  rw [if_neg hnew, hk]
  split
  · next h => cases h
  · next h =>
    cases h
    exact absurd rfl hstring
  · next h =>
    cases h
    cases k.read value <;> rfl

variable (hdefault : p.descriptor.default = some value)
include hdefault

theorem describeProperty_of_read {v : ScalarValue} (hread : k.read value = .ok v) :
    ∃ q, s.describeProperty e p = .ok q := by
  have hcheck : checkDefault e p value = .ok () := by
    rw [checkDefault_eq hk hstring hnew, hread]
    rfl
  obtain ⟨category, hcategory⟩ := exists_classify s e hk
  unfold describeProperty
  rw [hcategory, hdefault]
  simp only [bind, Except.bind, hcheck]
  exact ⟨_, rfl⟩

theorem describeProperty_of_refused (hread : k.read value = .error fault) :
    s.describeProperty e p = .error (.invalidDefault e.name p.name value fault) := by
  have hcheck : checkDefault e p value = .error (.invalidDefault e.name p.name value fault) := by
    rw [checkDefault_eq hk hstring hnew, hread]
    rfl
  obtain ⟨category, hcategory⟩ := exists_classify s e hk
  unfold describeProperty
  rw [hcategory, hdefault]
  simp only [bind, Except.bind, hcheck]

end Default

/-- The first property that cannot be resolved is what an entity fails by. -/
theorem describe_of_first_failure (hmarked : e.marked = before ++ p :: after) {failure : Failure}
    (hbefore : ∀ p' ∈ before, ∃ q, s.describeProperty e p' = .ok q)
    (hp : s.describeProperty e p = .error failure) : s.describe e = .error failure := by
  show e.marked.mapM (s.describeProperty e) = .error failure
  rw [hmarked]
  clear hmarked
  induction before with
  | nil =>
    rw [List.nil_append, List.mapM_cons, hp]
    rfl
  | cons p' before ih =>
    obtain ⟨q, hq⟩ := hbefore p' List.mem_cons_self
    rw [List.cons_append, List.mapM_cons, hq,
      ih fun p'' hp'' => hbefore p'' (List.mem_cons_of_mem p' hp'')]
    rfl

theorem exists_describe_iff (hmarked : e.marked = before ++ p :: after) :
    (∃ ps, s.describe e = .ok ps) ↔ (∃ q, s.describeProperty e p = .ok q) ∧
      ∀ p' ∈ before ++ after, ∃ q, s.describeProperty e p' = .ok q := by
  have hall : (∃ ps, s.describe e = .ok ps) ↔
      ∀ p' ∈ e.marked, ∃ q, s.describeProperty e p' = .ok q := exists_mapM_eq_ok_iff
  rw [hall, hmarked]
  simp only [List.mem_append, List.mem_cons]
  constructor
  · intro h
    refine ⟨h p (.inr (.inl rfl)), fun p' hp' => h p' ?_⟩
    rcases hp' with hp' | hp'
    · exact .inl hp'
    · exact .inr (.inr hp')
  · rintro ⟨hp, hothers⟩ p' (hp' | rfl | hp')
    · exact hothers p' (.inl hp')
    · exact hp
    · exact hothers p' (.inr hp')

/-- What the default of a property between others means for the description of its entity. -/
structure Judges (s : Session) (e : Entity) (before : List BeanProperty) (p : BeanProperty)
    (after : List BeanProperty) (k : ScalarKind) (value : String) : Prop where
  accepts : (∃ q, s.describeProperty e p = .ok q ∧ q.default = some value) ↔ k.IsLiteral value
  refuses : ¬k.IsLiteral value → ∃ fault, k.read value = .error fault ∧
    s.describeProperty e p = .error (.invalidDefault e.name p.name value fault)
  describes : (∃ ps, s.describe e = .ok ps) ↔
    k.IsLiteral value ∧ ∀ p' ∈ before ++ after, ∃ q, s.describeProperty e p' = .ok q
  /-- The default is what the entity fails by, unless an earlier property has failed. -/
  fails : ¬k.IsLiteral value → (∀ p' ∈ before, ∃ q, s.describeProperty e p' = .ok q) →
    ∃ fault, k.read value = .error fault ∧
      s.describe e = .error (.invalidDefault e.name p.name value fault)

theorem judges_default (hmarked : e.marked = before ++ p :: after)
    (hk : ScalarKind.of? p.type = some k) (hkind : k.IsBoolean ∨ k.width?.isSome = true)
    (hdefault : p.descriptor.default = some value) (hnew : value ≠ "new") :
    s.Judges e before p after k value := by
  have hstring : k ≠ .string := by
    rintro rfl
    rcases hkind with (h | h) | h <;> cases h
  have hresolves : (∃ q, s.describeProperty e p = .ok q) ↔ k.IsLiteral value := by
    rw [← ScalarKind.exists_read_iff hkind]
    constructor
    · rintro ⟨q, hq⟩
      cases hread : k.read value with
      | ok v => exact ⟨v, rfl⟩
      | error fault =>
        rw [describeProperty_of_refused hk hstring hnew hdefault hread] at hq
        cases hq
    · rintro ⟨v, hread⟩
      exact describeProperty_of_read hk hstring hnew hdefault hread
  have hrefuses : ¬k.IsLiteral value → ∃ fault, k.read value = .error fault ∧
      s.describeProperty e p = .error (.invalidDefault e.name p.name value fault) := by
    intro hnone
    cases hread : k.read value with
    | ok v => exact absurd ((ScalarKind.exists_read_iff hkind).1 ⟨v, hread⟩) hnone
    | error fault =>
      exact ⟨fault, rfl, describeProperty_of_refused hk hstring hnew hdefault hread⟩
  refine ⟨?_, hrefuses, ?_, fun hnone hbefore => ?_⟩
  · rw [← hresolves]
    constructor
    · rintro ⟨q, hq, -⟩
      exact ⟨q, hq⟩
    · rintro ⟨q, hq⟩
      refine ⟨q, hq, ?_⟩
      rw [eq_of_describeProperty hq]
      exact hdefault
  · rw [exists_describe_iff hmarked, hresolves]
  · obtain ⟨fault, hread, hp⟩ := hrefuses hnone
    exact ⟨fault, hread, describe_of_first_failure hmarked hbefore hp⟩

/-- A literal of an integer kind is a sign or none and decimal digits whose integer is in range, and
what is written of a boolean, an integer or a text is read back. Of the properties that are not
hidden everywhere, a default of a boolean or an integer other than `new` stands where it is a
literal, and it is what its entity fails by where it is none and no earlier property fails. -/
theorem reads_literals :
    (∀ (k : ScalarKind) (w : IntegerWidth) (text : String) (v : ScalarValue), k.width? = some w →
      (k.read text = .ok v ↔ ∃ i, Denotes text.toList i ∧ w.Holds i ∧ w.Has v i)) ∧
    (∀ (k : ScalarKind) (v : ScalarValue), k.Takes v → k.read v.render = .ok v) ∧
    ∀ (s : Session) (e : Entity) (before : List BeanProperty) (p : BeanProperty)
      (after : List BeanProperty) (k : ScalarKind) (value : String),
      e.marked = before ++ p :: after → ScalarKind.of? p.type = some k →
      (k.IsBoolean ∨ k.width?.isSome = true) → p.descriptor.default = some value →
      value ≠ "new" → s.Judges e before p after k value := by
  refine ⟨fun k w text v hw => ScalarKind.read_integer_iff hw,
    fun k v h => ScalarKind.read_render h, ?_⟩
  intro s e before p after k value hmarked hk hkind hdefault hnew
  exact judges_default hmarked hk hkind hdefault hnew

/-! ## Entities with defaults -/

open Entity (bareProperty)

/-- A property whose default is one more than its type holds. -/
def overflowing : PropertyDescriptor :=
  { bareProperty "size" "short" with default := some "+032768" }

def crateLabel : BeanProperty :=
  ⟨"label", .reference "java.lang.String", "getLabel", some "setLabel",
    bareProperty "label" "String"⟩

def crateSize : BeanProperty := ⟨"size", .primitive .short, "getSize", some "setSize", overflowing⟩

/-- A crate with a label, and a size that is none. -/
def crate : Entity where
  descriptor := ⟨"shop.Crate", none, false, none, none,
    [bareProperty "label" "String", overflowing]⟩
  properties := [crateLabel, crateSize]

/-- What a crate is registered in. -/
def warehouse : Session :=
  Session.register ⟨.standard, .load Config.standard.locale none, .empty⟩ crate

/-- The least short is a literal, and the size of a crate is none. -/
theorem reads_literals_crate :
    ScalarKind.short.read "-32768" = .ok (.short (-32768)) ∧
    ScalarKind.boxedShort.read (ScalarValue.short (-32768)).render = .ok (.short (-32768)) ∧
    ∃ fault, warehouse.describe crate =
      .error (.invalidDefault "shop.Crate" "size" "+032768" fault) := by
  obtain ⟨hread, hrender, hdefault⟩ := reads_literals
  have hleast : Denotes "-32768".toList (-(32768 : Nat)) := .minus
    ⟨by decide, List.all_eq_true.1 (by decide), by decide⟩
  have hover : ScalarKind.short.read "+032768" = .error (.integer .short .tooLarge) := by
    decide +kernel
  have hjudges : warehouse.Judges crate [crateLabel] crateSize [] .short "+032768" :=
    hdefault warehouse crate [crateLabel] crateSize [] .short "+032768" rfl rfl (.inr rfl) rfl
      (by decide)
  have hlabel : ∀ p ∈ [crateLabel], ∃ q, warehouse.describeProperty crate p = .ok q := by
    intro p hp
    rw [List.mem_singleton.1 hp]
    exact ⟨_, rfl⟩
  obtain ⟨fault, -, hfails⟩ := hjudges.fails
    (ScalarKind.not_isLiteral_of_refused (.inr rfl) hover) hlabel
  exact ⟨(hread .short .w16 _ _ rfl).2 ⟨_, hleast, ⟨by decide, by decide⟩, rfl⟩,
    hrender .boxedShort _ rfl, fault, hfails⟩

/-- A property whose default is no integer. -/
def misnumbered : PropertyDescriptor := { bareProperty "id" "int" with default := some "abc" }

/-- A lid whose only property is hidden everywhere. -/
def lid : Entity where
  descriptor := ⟨"shop.Lid", none, false, none, none,
    [{ misnumbered with transience := some .everywhere }]⟩
  properties := [⟨"id", .primitive .int, "getId", some "setId",
    { misnumbered with transience := some .everywhere }⟩]

/-- A pallet with a list of nothing. -/
def pallet : Entity where
  descriptor := ⟨"shop.Pallet", none, false, none, none,
    [{ bareProperty "crates" "java.util.List" with list := some ⟨none, none⟩ }, misnumbered]⟩
  properties := [⟨"crates", .reference "java.util.List", "getCrates", some "setCrates",
      { bareProperty "crates" "java.util.List" with list := some ⟨none, none⟩ }⟩,
    ⟨"id", .primitive .int, "getId", some "setId", misnumbered⟩]

/-- A default that is no literal passes where it is hidden everywhere, and where something else
fails first it is not what the entity fails by. -/
theorem describe_besides_default :
    Entity.ofDescriptor lid.descriptor = .ok lid ∧
    Entity.ofDescriptor pallet.descriptor = .ok pallet ∧
    (∀ e ∈ [lid, pallet], ∃ p ∈ e.properties,
      ScalarKind.of? p.type = some .int ∧ p.descriptor.default = some "abc") ∧
    ¬ScalarKind.int.IsLiteral "abc" ∧
    ((warehouse.register lid).register pallet).describe lid = .ok [] ∧
    ((warehouse.register lid).register pallet).describe pallet =
      .error (.missingElementType "shop.Pallet" "crates" "list") := by
  refine ⟨by decide +kernel, by decide +kernel, ?_, ?_, rfl, rfl⟩
  · intro e he
    simp only [List.mem_cons, List.not_mem_nil, or_false] at he
    rcases he with rfl | rfl
    · exact ⟨_, List.mem_cons_self, rfl, rfl⟩
    · exact ⟨_, List.mem_cons_of_mem _ List.mem_cons_self, rfl, rfl⟩
  · have hrefused : ScalarKind.int.read "abc" = .error (.integer .int .invalidDigit) := by
      decide +kernel
    exact ScalarKind.not_isLiteral_of_refused (.inr rfl) hrefused

end Session

end XmlBinding
