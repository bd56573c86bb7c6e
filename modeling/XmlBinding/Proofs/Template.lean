import Mathlib.Data.List.TakeWhile
import XmlBinding.Template

/-!
# What filled templates are

* `Selects args digits arg` : digits in braces that stand for an argument,
  `placeholder?_eq_some_iff`;
* `template_induction` : a text is empty, or begins with a placeholder, or with a character that
  stays;
* `fill_of_not_mem`, `fill_single` : templates with no placeholder and with one;
* `Straddles args a b` : a placeholder begins in `a` and ends in `b`; `fillChars_append` : where
  none does, the two are filled apart;
* `Piece`, `IsCutInto args cs ps` : the placeholders of a text and what stands between them,
  `exists_isCutInto`;
* `fill_substitutes` : to fill a template is to put an argument for each placeholder and nothing else.
-/

namespace XmlBinding.Template

variable {args : List String} {digits cs tail rest a b : List Char} {arg : String} {c : Char}

/-! ## Placeholders -/

/-- Decimal digits that stand for an argument. -/
structure Selects (args : List String) (digits : List Char) (arg : String) : Prop where
  ne_nil : digits ≠ []
  isDigit : ∀ c ∈ digits, c.isDigit = true
  arg_eq : args[Nat.ofDigitChars 10 digits 0]? = some arg

def braced (digits : List Char) : List Char := '\x7b' :: (digits ++ ['\x7d'])

theorem braced_append (digits rest : List Char) :
    braced digits ++ rest = '\x7b' :: (digits ++ '\x7d' :: rest) := by
  simp [braced]

theorem brace_not_mem (h : ∀ c ∈ digits, c.isDigit = true) : '\x7b' ∉ digits ++ ['\x7d'] := by
  intro hmem
  rcases List.mem_append.1 hmem with hmem | hmem
  · exact absurd (h _ hmem) (by decide)
  · exact absurd (List.mem_singleton.1 hmem) (by decide)

theorem takeWhile_digits (h : ∀ c ∈ digits, c.isDigit = true) (rest : List Char) :
    (digits ++ '\x7d' :: rest).takeWhile Char.isDigit = digits := by
  rw [List.takeWhile_append_of_pos h]
  simp

theorem dropWhile_digits (h : ∀ c ∈ digits, c.isDigit = true) (rest : List Char) :
    (digits ++ '\x7d' :: rest).dropWhile Char.isDigit = '\x7d' :: rest := by
  rw [List.dropWhile_append_of_pos h]
  simp

/-- A text begins with one placeholder at most. -/
theorem Selects.unique {digits' rest' : List Char} {arg' : String} (h : Selects args digits arg)
    (h' : Selects args digits' arg') (heq : braced digits ++ rest = braced digits' ++ rest') :
    digits = digits' ∧ arg = arg' ∧ rest = rest' := by
  rw [braced_append, braced_append, List.cons.injEq] at heq
  have hdigits := congrArg (List.takeWhile Char.isDigit) heq.2
  rw [takeWhile_digits h.isDigit, takeWhile_digits h'.isDigit] at hdigits
  subst hdigits
  have harg := h.arg_eq.symm.trans h'.arg_eq
  simp_all

theorem placeholder?_eq_some_iff : placeholder? args tail = some (arg, rest) ↔
    ∃ digits, Selects args digits arg ∧ tail = digits ++ '\x7d' :: rest := by
  unfold placeholder?
  dsimp only
  constructor
  · intro h
    split at h
    · next hdigits hrest =>
      obtain ⟨a, ha, heq⟩ := Option.map_eq_some_iff.1 h
      cases heq
      refine ⟨tail.takeWhile Char.isDigit, ⟨?_, fun c hc => List.mem_takeWhile_imp hc, ha⟩, ?_⟩
      · rw [hdigits]
        exact List.cons_ne_nil _ _
      · rw [← hrest, List.takeWhile_append_dropWhile]
    · cases h
  · rintro ⟨digits, h, rfl⟩
    rw [takeWhile_digits h.isDigit, dropWhile_digits h.isDigit]
    obtain ⟨d, ds, rfl⟩ := List.exists_cons_of_ne_nil h.ne_nil
    exact Option.map_eq_some_iff.2 ⟨arg, h.arg_eq, rfl⟩

/-! ## Filling from left to right -/

/-- Whether no placeholder begins a text. -/
def Stays (args : List String) (cs : List Char) : Prop :=
  ∀ digits arg rest, Selects args digits arg → cs ≠ braced digits ++ rest

theorem stays_cons_iff :
    Stays args (c :: tail) ↔ c ≠ '\x7b' ∨ placeholder? args tail = none := by
  constructor
  · intro h
    refine or_iff_not_imp_left.2 fun hc => Option.eq_none_iff_forall_ne_some.2 ?_
    rintro ⟨arg, rest⟩ hsome
    obtain ⟨digits, hdigits, rfl⟩ := placeholder?_eq_some_iff.1 hsome
    refine h digits arg rest hdigits ?_
    rw [braced_append, not_not.1 hc]
  · rintro h digits arg rest hdigits heq
    rw [braced_append, List.cons.injEq] at heq
    rcases h with h | h
    · exact h heq.1
    · rw [placeholder?_eq_some_iff.2 ⟨digits, hdigits, heq.2⟩] at h
      cases h

theorem fillChars_nil (args : List String) : fillChars args [] = [] := by rw [fillChars]

theorem fillChars_braced (h : Selects args digits arg) (rest : List Char) :
    fillChars args (braced digits ++ rest) = arg.toList ++ fillChars args rest := by
  have hsome : placeholder? args (digits ++ '\x7d' :: rest) = some (arg, rest) :=
    placeholder?_eq_some_iff.2 ⟨digits, h, rfl⟩
  rw [braced_append, fillChars, if_pos rfl]
  split
  · next h' =>
    rw [hsome] at h'
    cases h'
    rfl
  · next h' =>
    rw [hsome] at h'
    cases h'

theorem fillChars_cons (h : Stays args (c :: tail)) :
    fillChars args (c :: tail) = c :: fillChars args tail := by
  rw [fillChars]
  rcases stays_cons_iff.1 h with hc | hnone
  · exact if_neg hc
  · split
    · split
      · next h' =>
        rw [hnone] at h'
        cases h'
      · rfl
    · rfl

/-- A text is empty, or begins with a placeholder, or with a character that stays. -/
@[elab_as_elim]
theorem template_induction {motive : List Char → Prop} (args : List String) (cs : List Char)
    (nil : motive [])
    (slot : ∀ digits arg rest, Selects args digits arg → motive rest →
      motive (braced digits ++ rest))
    (stay : ∀ c tail, Stays args (c :: tail) → motive tail → motive (c :: tail)) : motive cs := by
  fun_induction fillChars args cs with
  | case1 => exact nil
  | case2 tail arg rest h ih =>
    obtain ⟨digits, hdigits, rfl⟩ := placeholder?_eq_some_iff.1 h
    rw [← braced_append]
    exact slot digits arg rest hdigits ih
  | case3 tail h ih => exact stay _ tail (stays_cons_iff.2 (.inr h)) ih
  | case4 c tail h ih => exact stay c tail (stays_cons_iff.2 (.inl h)) ih

/-- A text without placeholders is what it stands for. -/
theorem fillChars_of_no_placeholder (h : ∀ before digits after arg, Selects args digits arg →
    before ++ (braced digits ++ after) ≠ cs) : fillChars args cs = cs := by
  induction cs using template_induction args with
  | nil => exact fillChars_nil args
  | slot digits arg rest hdigits ih => exact absurd rfl (h [] digits rest arg hdigits)
  | stay c tail hstays ih =>
    rw [fillChars_cons hstays, ih fun before digits after arg hdigits heq => ?_]
    exact h (c :: before) digits after arg hdigits (congrArg (c :: ·) heq)

theorem fillChars_of_not_mem (args : List String) (h : '\x7b' ∉ cs) (rest : List Char) :
    fillChars args (cs ++ rest) = cs ++ fillChars args rest := by
  induction cs with
  | nil => rfl
  | cons c cs ih =>
    rw [List.mem_cons, not_or] at h
    rw [List.cons_append, fillChars_cons (stays_cons_iff.2 (.inl (Ne.symm h.1))), ih h.2,
      List.cons_append]

/-- A template without a brace is what it stands for. -/
theorem fill_of_not_mem (args : List String) {template : String}
    (h : '\x7b' ∉ template.toList) : fill args template = template := by
  unfold fill
  have hchars := fillChars_of_not_mem args h []
  rw [List.append_nil, fillChars_nil, List.append_nil] at hchars
  rw [hchars, String.ofList_toList]

/-- A template with one placeholder. -/
theorem fill_single {before after : String} (hb : '\x7b' ∉ before.toList)
    (ha : '\x7b' ∉ after.toList) (arg : String) :
    fill [arg] (before ++ "\x7b0\x7d" ++ after) = before ++ arg ++ after := by
  have hzero : Selects [arg] ['0'] arg :=
    ⟨by decide, List.all_eq_true.1 (by decide), rfl⟩
  have hafter := fillChars_of_not_mem [arg] ha []
  rw [List.append_nil, fillChars_nil, List.append_nil] at hafter
  unfold fill
  apply String.toList_injective
  rw [String.toList_ofList, String.toList_append, String.toList_append, List.append_assoc,
    fillChars_of_not_mem [arg] hb]
  show before.toList ++ fillChars [arg] (braced ['0'] ++ after.toList) = _
  rw [fillChars_braced hzero, hafter, String.toList_append, String.toList_append, List.append_assoc]

/-! ## Cuts -/

/-- Whether a placeholder begins in one text and ends in the next. -/
def Straddles (args : List String) (a b : List Char) : Prop :=
  ∃ u v digits arg, u ≠ [] ∧ v ≠ [] ∧ u <:+ a ∧ v <+: b ∧ Selects args digits arg ∧
    u ++ v = braced digits

theorem Straddles.mem (h : Straddles args a b) : '\x7d' ∈ b := by
  obtain ⟨u, v, digits, arg, -, hv, -, hprefix, -, heq⟩ := h
  obtain ⟨front, x, rfl⟩ := (List.eq_nil_or_concat v).resolve_left hv
  rw [List.concat_eq_append] at heq hprefix
  rw [← List.append_assoc, braced, ← List.cons_append] at heq
  have hx := List.append_inj_right' heq rfl
  apply hprefix.subset
  rw [hx]
  simp

theorem Straddles.of_suffix (h : Straddles args rest b) (ha : rest <:+ a) : Straddles args a b := by
  obtain ⟨u, v, digits, arg, hu, hv, hsuffix, hprefix, hdigits, heq⟩ := h
  exact ⟨u, v, digits, arg, hu, hv, hsuffix.trans ha, hprefix, hdigits, heq⟩

/-- What begins no placeholder begins none with more text behind it, unless that text ends one. -/
theorem Stays.append (h : Stays args (c :: tail)) (hb : ¬Straddles args (c :: tail) b) :
    Stays args (c :: (tail ++ b)) := by
  intro digits arg rest hdigits heq
  rw [← List.cons_append, List.append_eq_append_iff] at heq
  rcases heq with ⟨v, hv, rfl⟩ | ⟨m, hm, -⟩
  · cases v with
    | nil =>
      rw [List.append_nil] at hv
      exact h digits arg [] hdigits (by rw [List.append_nil, hv])
    | cons x v =>
      exact hb ⟨c :: tail, x :: v, digits, arg, List.cons_ne_nil _ _, List.cons_ne_nil _ _,
        List.suffix_rfl, List.prefix_append _ _, hdigits, hv.symm⟩
  · exact h digits arg m hdigits hm

/-- Where no placeholder straddles a cut, the two sides are filled apart. -/
theorem fillChars_append (h : ¬Straddles args a b) :
    fillChars args (a ++ b) = fillChars args a ++ fillChars args b := by
  induction a using template_induction args with
  | nil => rw [fillChars_nil, List.nil_append, List.nil_append]
  | slot digits arg rest hdigits ih =>
    have hrest : ¬Straddles args rest b := fun hs => h (hs.of_suffix (List.suffix_append _ _))
    rw [List.append_assoc, fillChars_braced hdigits, fillChars_braced hdigits, ih hrest,
      List.append_assoc]
  | stay c tail hstays ih =>
    have htail : ¬Straddles args tail b := fun hs => h (hs.of_suffix (List.suffix_cons c tail))
    rw [List.cons_append, fillChars_cons (hstays.append h), fillChars_cons hstays, ih htail,
      List.cons_append]

/-! ## Pieces -/

/-- A part of a template: characters that stay, or digits with the argument they stand for. -/
inductive Piece where
  | plain (text : List Char)
  | slot (digits : List Char) (arg : String)

namespace Piece

def written : Piece → List Char
  | plain text => text
  | slot digits _ => braced digits

def filled : Piece → List Char
  | plain text => text
  | slot _ arg => arg.toList

end Piece

/-- Pieces of a text in which each placeholder of the text, wherever it stands, is a slot. -/
structure IsCutInto (args : List String) (cs : List Char) (ps : List Piece) : Prop where
  written : ps.flatMap Piece.written = cs
  selects : ∀ digits arg, .slot digits arg ∈ ps → Selects args digits arg
  complete : ∀ before digits arg after, Selects args digits arg →
    before ++ (braced digits ++ after) = cs → ∃ ps₁ ps₂, ps = ps₁ ++ .slot digits arg :: ps₂ ∧
      ps₁.flatMap Piece.written = before ∧ ps₂.flatMap Piece.written = after

theorem isCutInto_nil (args : List String) : IsCutInto args [] [] where
  written := rfl
  selects _ _ h := absurd h List.not_mem_nil
  complete before digits arg after _ heq := by simp [braced] at heq

theorem IsCutInto.slot {ps : List Piece} (h : IsCutInto args rest ps)
    (hdigits : Selects args digits arg) :
    IsCutInto args (braced digits ++ rest) (.slot digits arg :: ps) where
  written := by
    rw [List.flatMap_cons, h.written]
    rfl
  selects digits' arg' hmem := by
    rcases List.mem_cons.1 hmem with heq | hmem
    · cases heq
      exact hdigits
    · exact h.selects digits' arg' hmem
  complete before digits' arg' after hdigits' heq := by
    cases before with
    | nil =>
      obtain ⟨rfl, rfl, rfl⟩ := hdigits'.unique hdigits heq
      exact ⟨[], ps, rfl, rfl, h.written⟩
    | cons x before =>
      -- There is no brace inside a placeholder that could begin another.
      have hbehind :
          ∃ m, x :: before = braced digits ++ m ∧ rest = m ++ (braced digits' ++ after) := by
        rcases List.append_eq_append_iff.1 heq with ⟨m, hm, hrest⟩ | ⟨m, hm, hrest⟩
        · cases m with
          | nil =>
            rw [List.append_nil] at hm
            exact ⟨[], by rw [List.append_nil, hm], hrest.symm⟩
          | cons y m =>
            rw [braced_append, List.cons_append, List.cons.injEq] at hrest
            rw [braced, List.cons_append, List.cons.injEq] at hm
            have hmem : '\x7b' ∈ digits ++ ['\x7d'] := by
              rw [hm.2, ← hrest.1]
              simp
            exact absurd hmem (brace_not_mem hdigits.isDigit)
        · exact ⟨m, hm, hrest⟩
      obtain ⟨m, hbefore, hrest⟩ := hbehind
      obtain ⟨ps₁, ps₂, rfl, hm, hafter⟩ := h.complete m digits' arg' after hdigits' hrest.symm
      refine ⟨.slot digits arg :: ps₁, ps₂, rfl, ?_, hafter⟩
      rw [List.flatMap_cons, hm, hbefore]
      rfl

theorem IsCutInto.stay {ps : List Piece} (h : IsCutInto args tail ps)
    (hc : Stays args (c :: tail)) : IsCutInto args (c :: tail) (.plain [c] :: ps) where
  written := by
    rw [List.flatMap_cons, h.written]
    rfl
  selects digits arg hmem := by
    rcases List.mem_cons.1 hmem with heq | hmem
    · cases heq
    · exact h.selects digits arg hmem
  complete before digits arg after hdigits heq := by
    cases before with
    | nil => exact absurd heq.symm (hc digits arg after hdigits)
    | cons x before =>
      rw [List.cons_append, List.cons.injEq] at heq
      obtain ⟨ps₁, ps₂, rfl, hbefore, hafter⟩ := h.complete before digits arg after hdigits heq.2
      refine ⟨.plain [c] :: ps₁, ps₂, rfl, ?_, hafter⟩
      rw [List.flatMap_cons, hbefore, heq.1]
      rfl

/-- Every text has pieces. -/
theorem exists_isCutInto (args : List String) (cs : List Char) : ∃ ps, IsCutInto args cs ps := by
  induction cs using template_induction args with
  | nil => exact ⟨[], isCutInto_nil args⟩
  | slot digits arg rest hdigits ih =>
    obtain ⟨ps, h⟩ := ih
    exact ⟨_, h.slot hdigits⟩
  | stay c tail hstays ih =>
    obtain ⟨ps, h⟩ := ih
    exact ⟨_, h.stay hstays⟩

/-! ## Filling piece by piece -/

namespace IsCutInto

variable {p : Piece} {ps : List Piece}

/-- A placeholder is the first piece, or stands behind it. -/
theorem first_or_behind (h : IsCutInto args cs (p :: ps)) {before after : List Char}
    (hdigits : Selects args digits arg) (heq : before ++ (braced digits ++ after) = cs) :
    (p = .slot digits arg ∧ before = [] ∧ after = ps.flatMap Piece.written) ∨
      ∃ ps₁ ps₂, ps = ps₁ ++ .slot digits arg :: ps₂ ∧
        before = p.written ++ ps₁.flatMap Piece.written ∧ ps₂.flatMap Piece.written = after := by
  obtain ⟨ps₁, ps₂, hps, hbefore, hafter⟩ := h.complete before digits arg after hdigits heq
  cases ps₁ with
  | nil =>
    cases hps
    exact .inl ⟨rfl, hbefore.symm, hafter.symm⟩
  | cons q ps₁ =>
    cases hps
    exact .inr ⟨ps₁, ps₂, rfl, hbefore.symm, hafter⟩

theorem written_append (h : IsCutInto args cs (p :: ps)) :
    p.written ++ ps.flatMap Piece.written = cs := h.written

/-- What stands behind the first piece has the other pieces. -/
theorem behind (h : IsCutInto args cs (p :: ps)) :
    IsCutInto args (ps.flatMap Piece.written) ps where
  written := rfl
  selects digits arg hmem := h.selects digits arg (List.mem_cons_of_mem p hmem)
  complete before digits arg after hdigits heq := by
    have hcs : (p.written ++ before) ++ (braced digits ++ after) = cs := by
      rw [List.append_assoc, heq, h.written_append]
    rcases h.first_or_behind hdigits hcs with ⟨rfl, hnil, -⟩ | ⟨ps₁, ps₂, hps, hbefore, hafter⟩
    · simp [Piece.written, braced] at hnil
    · exact ⟨ps₁, ps₂, hps, (List.append_cancel_left hbefore).symm, hafter⟩

/-- No placeholder begins in the first piece and ends behind it. -/
theorem not_straddles (h : IsCutInto args cs (p :: ps)) :
    ¬Straddles args p.written (ps.flatMap Piece.written) := by
  rintro ⟨u, v, digits, arg, hu, hv, ⟨w, hw⟩, ⟨z, hz⟩, hdigits, huv⟩
  have hcs : w ++ (braced digits ++ z) = cs := by
    rw [← huv, ← h.written_append, ← hw, ← hz]
    simp
  rcases h.first_or_behind hdigits hcs with ⟨-, -, hafter⟩ | ⟨ps₁, ps₂, -, hbefore, -⟩
  · have hlength := congrArg List.length (hafter.trans hz.symm)
    rw [List.length_append] at hlength
    exact hv (List.eq_nil_of_length_eq_zero (by omega))
  · have hlength := congrArg List.length hbefore
    rw [← hw, List.length_append, List.length_append] at hlength
    exact hu (List.eq_nil_of_length_eq_zero (by omega))

theorem fillChars_first (h : IsCutInto args cs (p :: ps)) :
    fillChars args p.written = p.filled := by
  cases p with
  | slot digits arg =>
    have hfill := fillChars_braced (h.selects digits arg List.mem_cons_self) []
    rwa [List.append_nil, fillChars_nil, List.append_nil] at hfill
  | plain text =>
    have hnone (before digits after : List Char) (arg : String)
        (hdigits : Selects args digits arg) : before ++ (braced digits ++ after) ≠ text := by
      intro heq
      have hcs : before ++ (braced digits ++ (after ++ ps.flatMap Piece.written)) = cs := by
        rw [← h.written_append, Piece.written, ← heq]
        simp
      rcases h.first_or_behind hdigits hcs with ⟨hp, -, -⟩ | ⟨ps₁, ps₂, -, hbefore, -⟩
      · cases hp
      · have hlength := congrArg List.length hbefore
        rw [Piece.written, ← heq] at hlength
        simp only [List.length_append, braced, List.length_cons] at hlength
        omega
    exact fillChars_of_no_placeholder hnone

theorem fillChars_eq (h : IsCutInto args cs ps) : fillChars args cs = ps.flatMap Piece.filled := by
  induction ps generalizing cs with
  | nil =>
    rw [← h.written]
    exact fillChars_nil args
  | cons p ps ih =>
    rw [← h.written_append, fillChars_append h.not_straddles, h.fillChars_first, ih h.behind,
      List.flatMap_cons]

end IsCutInto

/-- A template has pieces, and to fill it is to put its argument for each placeholder and to leave
all else. A template is filled side by side wherever it is cut, unless a placeholder straddles the
cut. -/
theorem fill_substitutes (args : List String) :
    (∀ template : String, ∃ ps, IsCutInto args template.toList ps) ∧
    (∀ (template : String) ps, IsCutInto args template.toList ps →
      fill args template = String.ofList (ps.flatMap Piece.filled)) ∧
    ∀ a b : String, ¬Straddles args a.toList b.toList →
      fill args (a ++ b) = fill args a ++ fill args b := by
  refine ⟨fun template => exists_isCutInto args _, fun template ps h => ?_, fun a b h => ?_⟩
  · exact congrArg String.ofList h.fillChars_eq
  · unfold fill
    rw [String.toList_append, fillChars_append h, String.ofList_append]

/-- A number may have leading zeros, an argument that looks like a placeholder stays as it is, and
so does a brace without a partner. -/
theorem fill_substitutes_nested :
    IsCutInto ["\x7b1\x7d", "b"] "\x7b00\x7d\x7b1".toList
      [.slot ['0', '0'] "\x7b1\x7d", .plain ['\x7b'], .plain ['1']] ∧
    fill ["\x7b1\x7d", "b"] "\x7b00\x7d\x7b1" = "\x7b1\x7d\x7b1" ∧
    fill ["\x7b1\x7d", "b"] ("\x7b00\x7d" ++ "\x7b1") =
      fill ["\x7b1\x7d", "b"] "\x7b00\x7d" ++ fill ["\x7b1\x7d", "b"] "\x7b1" := by
  have hzeros : Selects ["\x7b1\x7d", "b"] ['0', '0'] "\x7b1\x7d" :=
    ⟨by decide, List.all_eq_true.1 (by decide), by decide⟩
  have hone : IsCutInto ["\x7b1\x7d", "b"] ['1'] [.plain ['1']] :=
    (isCutInto_nil _).stay (stays_cons_iff.2 (.inl (by decide)))
  have hbrace : IsCutInto ["\x7b1\x7d", "b"] ['\x7b', '1'] [.plain ['\x7b'], .plain ['1']] :=
    hone.stay (stays_cons_iff.2 (.inr (by decide)))
  have hpieces : IsCutInto ["\x7b1\x7d", "b"] "\x7b00\x7d\x7b1".toList _ := hbrace.slot hzeros
  have hcut : ¬Straddles ["\x7b1\x7d", "b"] "\x7b00\x7d".toList "\x7b1".toList :=
    fun h => absurd h.mem (by decide)
  obtain ⟨-, hfill, happend⟩ := fill_substitutes ["\x7b1\x7d", "b"]
  exact ⟨hpieces, hfill _ _ hpieces, happend _ _ hcut⟩

end XmlBinding.Template
