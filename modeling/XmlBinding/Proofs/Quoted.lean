import XmlBinding.Proofs.Client.Members
import XmlBinding.Proofs.Linking
import XmlBinding.Toml.Number

/-!
# Defaults that are texts

A model sets a text to its default between double quotes, character by character. In client code,
some characters do not stand for themselves there: a quote ends the text, a line must not end within
it, and a backslash begins an escape, which is longer than what it denotes.

* `Quoted.Denotes body us` : what stands between double quotes, and the units of the text;
  `Quoted.IsLiteral source text`;
* `Quoted.isLiteral_quote_iff` : the texts that denote themselves between quotes;
  `exists_isLiteral` : there is a literal for every text;
* `Generator.Reachable.denotes_default_iff` : the defaults that a model denotes.
-/

namespace XmlBinding

namespace Quoted

/-! ## Literals of client code -/

/-- The units of a character. Characters beyond the first plane have two. -/
def units (c : Char) : List Nat :=
  if c.toNat < 0x10000 then [c.toNat]
  else [0xD800 + (c.toNat - 0x10000) / 0x400, 0xDC00 + (c.toNat - 0x10000) % 0x400]

def unitsOf (cs : List Char) : List Nat := cs.flatMap units

/-- Characters that end a line. -/
def lineEnds : List Char := ['\n', '\r', '\u2028', '\u2029']

/-- Characters that do not stand for themselves between double quotes. -/
def special : List Char := '"' :: '\\' :: lineEnds

/-- Letters that stand for a control character in an escape. -/
def controls : List (Char × Nat) := [('b', 8), ('t', 9), ('n', 10), ('v', 11), ('f', 12), ('r', 13)]

/-- Letters that announce the hexadecimal digits of a unit, and how many. -/
def leads : List (Char × Nat) := [('x', 2), ('u', 4)]

/-- What follows the backslash of an escape, and the units that the escape denotes. -/
inductive Escapes : List Char → List Nat → Prop
  | control {c : Char} {u : Nat} (h : (c, u) ∈ controls) : Escapes [c] [u]
  | null : Escapes ['0'] [0]
  | digits {c : Char} {ds : List Char} (h : (c, ds.length) ∈ leads)
      (hds : ds.all (Toml.isDigitOf 16) = true) : Escapes (c :: ds) [Toml.valueIn 16 ds]
  | itself {c : Char} (h : c ∉ controls.map Prod.fst ++ leads.map Prod.fst ++ lineEnds)
      (hdigit : c.isDigit = false) : Escapes [c] (units c)

/-- What stands between double quotes, and the units that it denotes. -/
inductive Denotes : List Char → List Nat → Prop
  | nil : Denotes [] []
  | ordinary {c : Char} {cs : List Char} {us : List Nat} (h : c ∉ special) (hcs : Denotes cs us) :
      Denotes (c :: cs) (units c ++ us)
  /-- No digit follows an escape of one. -/
  | escape {es cs : List Char} {vs us : List Nat} (h : Escapes es vs) (hcs : Denotes cs us)
      (hnull : es = ['0'] → ∀ c ∈ cs.head?, c.isDigit = false) :
      Denotes ('\\' :: (es ++ cs)) (vs ++ us)

/-- A source is one literal of a text. -/
def IsLiteral (source text : String) : Prop :=
  ∃ body, source.toList = '"' :: (body ++ ['"']) ∧ Denotes body (unitsOf text.toList)

/-! ## Texts that denote themselves -/

variable {es cs : List Char} {us vs : List Nat} {text : String}

theorem unitsOf_cons (c : Char) (cs : List Char) : unitsOf (c :: cs) = units c ++ unitsOf cs := rfl

theorem unitsOf_append (cs ds : List Char) : unitsOf (cs ++ ds) = unitsOf cs ++ unitsOf ds :=
  List.flatMap_append

theorem length_units_pos (c : Char) : 0 < (units c).length := by
  unfold units
  split
  · exact Nat.one_pos
  · exact Nat.two_pos

/-- An escape denotes no more than what follows its backslash. -/
theorem Escapes.length_le (h : Escapes es vs) : vs.length ≤ (unitsOf es).length := by
  have hone (c : Char) (cs : List Char) : 1 ≤ (unitsOf (c :: cs)).length := by
    have hpos := length_units_pos c
    rw [unitsOf_cons, List.length_append]
    omega
  cases h with
  | control => exact hone _ _
  | null => exact hone _ _
  | digits => exact hone _ _
  | itself => rw [unitsOf_cons, List.length_append]; exact Nat.le_add_right _ _

/-- An escape makes a source longer than what it denotes. -/
theorem Denotes.ordinary_or_lt (h : Denotes cs us) :
    (∀ c ∈ cs, c ∉ special) ∧ us.length = (unitsOf cs).length ∨
      us.length < (unitsOf cs).length := by
  induction h with
  | nil => exact .inl ⟨fun c hc => absurd hc List.not_mem_nil, rfl⟩
  | ordinary h hcs ih =>
    rw [unitsOf_cons, List.length_append, List.length_append]
    rcases ih with ⟨hordinary, heq⟩ | hlt
    · exact .inl ⟨List.forall_mem_cons.2 ⟨h, hordinary⟩, by omega⟩
    · exact .inr (by omega)
  | escape h hcs hnull ih =>
    -- The backslash denotes nothing, and nothing that follows makes up for it.
    refine .inr ?_
    have hescape := h.length_le
    have hslash := length_units_pos '\\'
    rw [unitsOf_cons, unitsOf_append, List.length_append, List.length_append, List.length_append]
    rcases ih with ⟨-, heq⟩ | hlt <;> omega

theorem denotes_unitsOf_iff : Denotes cs (unitsOf cs) ↔ ∀ c ∈ cs, c ∉ special := by
  constructor
  · intro h
    rcases h.ordinary_or_lt with ⟨hordinary, -⟩ | hlt
    · exact hordinary
    · exact absurd hlt (Nat.lt_irrefl _)
  · intro h
    induction cs with
    | nil => exact .nil
    | cons c cs ih =>
      obtain ⟨hc, hcs⟩ := List.forall_mem_cons.1 h
      exact .ordinary hc (ih hcs)

theorem toList_quote (text : String) :
    ("\"" ++ text ++ "\"").toList = '"' :: (text.toList ++ ['"']) := by
  rw [String.toList_append, String.toList_append]
  rfl

/-- Between quotes, a text denotes itself exactly where it has no quotes, backslashes and ends of
lines. -/
theorem isLiteral_quote_iff :
    IsLiteral ("\"" ++ text ++ "\"") text ↔ ∀ c ∈ text.toList, c ∉ special := by
  rw [← denotes_unitsOf_iff]
  unfold IsLiteral
  rw [toList_quote]
  constructor
  · rintro ⟨body, hbody, h⟩
    obtain rfl := List.append_cancel_right (List.cons.inj hbody).2
    exact h
  · exact fun h => ⟨_, rfl, h⟩

/-! ## Literals of all texts -/

/-- Escapes of the characters that do not stand for themselves. -/
def escapes : List (Char × List Char) := [
  ('"', ['"']), ('\\', ['\\']), ('\n', ['n']), ('\r', ['r']),
  ('\u2028', ['u', '2', '0', '2', '8']), ('\u2029', ['u', '2', '0', '2', '9'])]

theorem escapes_of_mem {c : Char} (h : (c, es) ∈ escapes) : Escapes es (units c) := by
  simp only [escapes, List.mem_cons, Prod.mk.injEq, List.not_mem_nil, or_false] at h
  rcases h with ⟨rfl, rfl⟩ | ⟨rfl, rfl⟩ | ⟨rfl, rfl⟩ | ⟨rfl, rfl⟩ | ⟨rfl, rfl⟩ | ⟨rfl, rfl⟩
  · exact .itself (by decide) (by decide)
  · exact .itself (by decide) (by decide)
  · exact .control (u := 10) (by decide)
  · exact .control (u := 13) (by decide)
  · exact .digits (by decide) (by decide)
  · exact .digits (by decide) (by decide)

/-- There is a literal for every text. -/
theorem exists_isLiteral (text : String) : ∃ source, IsLiteral source text := by
  have hbody (cs : List Char) : ∃ body, Denotes body (unitsOf cs) := by
    induction cs with
    | nil => exact ⟨[], .nil⟩
    | cons c cs ih =>
      obtain ⟨body, hdenotes⟩ := ih
      by_cases hc : c ∈ special
      · have hescapes : special.all fun c => escapes.any fun e => e.1 = c ∧ e.2 ≠ ['0'] := by decide
        obtain ⟨⟨d, es⟩, hes, heq⟩ := List.any_eq_true.1 (List.all_eq_true.1 hescapes c hc)
        obtain ⟨rfl, hnull⟩ : d = c ∧ es ≠ ['0'] := of_decide_eq_true heq
        exact ⟨_, .escape (escapes_of_mem hes) hdenotes fun h => absurd h hnull⟩
      · exact ⟨_, .ordinary hc hdenotes⟩
  obtain ⟨body, hdenotes⟩ := hbody text.toList
  exact ⟨String.ofList ('"' :: (body ++ ['"'])), body, String.toList_ofList, hdenotes⟩

end Quoted

/-! ## Fields of models -/

namespace ClientModel

/-- The declaration of a field of type `String`, up to what it is set to. -/
def declaration (c : Config) (p : Property) : String :=
  "private var " ++ (if c.usingUnderscore then "_" else "") ++ p.name ++ ":String = "

/-- A text is set between double quotes, as it is. -/
theorem initializer_string {d : String} (hnew : d ≠ "new") :
    initializer "String" (some d) = " = " ++ ("\"" ++ d ++ "\"") := by
  unfold initializer
  split
  · next h => cases h
  · next h => exact absurd (Option.some.inj h) hnew
  · next h =>
    cases h
    have hlead : " = \"" = " = " ++ "\"" := rfl
    rw [if_pos rfl, hlead, String.append_assoc, String.append_assoc, String.append_assoc]

theorem occurs_declaration {c : Config} {p : Property} {d : String} (hd : p.default = some d)
    (hnew : d ≠ "new") :
    Occurs (declaration c p ++ ("\"" ++ d ++ "\"") ++ ";\n") (propertySource c p "String") := by
  have hfield : fieldSource c p "String" =
      c.indent 2 ++ (declaration c p ++ ("\"" ++ d ++ "\"") ++ ";\n") := by
    have htype : ":String = " = ":" ++ "String" ++ " = " := rfl
    unfold fieldSource declaration
    rw [hd, initializer_string hnew, htype]
    simp only [String.append_assoc]
  unfold propertySource
  rw [hfield]
  have hown := (Occurs.refl (declaration c p ++ ("\"" ++ d ++ "\"") ++ ";\n")).append_left
    (c.indent 2)
  exact ((((hown.append_left "\n").append_right _).append_right _).append_right _).append_right _

end ClientModel

namespace Generator

variable {config : Config} {user : Option Catalog.Bundle} {g : Generator}

/-- In every model, a field of type `String` is set to its default, unless that is `new`, between
double quotes. That is a literal of the default exactly where the default has no quotes, backslashes
and ends of lines. There is a literal of every default. -/
theorem Reachable.denotes_default_iff (h : Reachable config user g) {e : Entity}
    {c : GeneratedClass} (hc : ((e, .clientModel), c) ∈ g.outputs.zip g.produce.classes)
    {ps : List Property} (hps : g.session.describe e = .ok ps) {p : Property} (hp : p ∈ ps)
    (hshown : p.isHidden .marshalling = false)
    (htype : ClientModel.typeName g.session p.type = "String") {d : String}
    (hd : p.default = some d) (hnew : d ≠ "new") :
    Occurs (ClientModel.declaration g.session.config p ++ ("\"" ++ d ++ "\"") ++ ";\n") c.source ∧
      (Quoted.IsLiteral ("\"" ++ d ++ "\"") d ↔ ∀ ch ∈ d.toList, ch ∉ Quoted.special) ∧
      ∃ literal, Quoted.IsLiteral literal d := by
  obtain ⟨ps', hps', hmodel⟩ := isClassOf_of_mem_zip h.wellKept.clean hc
  cases hps.symm.trans hps'
  obtain ⟨m, -, rfl⟩ := Draft.ofTarget_model_eq_ok_iff.1 hmodel
  refine ⟨?_, Quoted.isLiteral_quote_iff, Quoted.exists_isLiteral d⟩
  have hmember : ClientModel.memberSource g.session p =
      ClientModel.propertySource g.session.config p "String" := by
    rw [← htype]
    rfl
  have hfield := ClientModel.occurs_declaration (c := g.session.config) hd hnew
  rw [← hmember] at hfield
  have hmembers := hfield.trans (ClientModel.occurs_memberSource hp hshown)
  exact (hmembers.append_left m.source).append_right _

/-! ## A note -/

/-- A text with quotes in it. -/
def saying : String := "say \"hi\""

def noteText : Property :=
  ⟨"text", .reference "java.lang.String", accessorName "get" "text",
    some (accessorName "set" "text"), .basic, ⟨.element, "text"⟩, none, none, none, some saying,
    false⟩

def note : Entity :=
  ⟨⟨"shop.Note", none, false, none, none, []⟩,
    [⟨noteText.name, noteText.type, noteText.getter, noteText.setter,
      ⟨noteText.name, "String", true, none, none, none, none, none, none, none, some saying⟩⟩]⟩

def ofNotes : Generator := (new .standard none).withAllHandlers.add note

theorem reachable_ofNotes : Reachable .standard none ofNotes :=
  (reachable_withAllHandlers _ _).register (.entity note)

theorem describe_note : ofNotes.session.describe note = .ok [noteText] := rfl

theorem generable_of_mem_ofNotes :
    ∀ e ∈ ofNotes.session.entities.values, ofNotes.session.Generable e := by
  refine Session.generable_of_mem_values (e := note) rfl ?_
  refine Session.generable_of_standard rfl rfl rfl describe_note fun p hp => ?_
  rw [List.mem_singleton.1 hp]
  exact ⟨rfl, fun _ _ _ h => nomatch h⟩

/-- An escape of a quote. -/
theorem escapes_quote : Quoted.Escapes ['"'] [34] := by
  have h : Quoted.Escapes ['"'] (Quoted.units '"') := Quoted.escapes_of_mem (by decide)
  exact h

/-- The model of a note has the text with its quotes as they are, which is no literal of it. With
escapes it would be one. -/
theorem not_isLiteral_saying :
    ∃ c, ((note, .clientModel), c) ∈ ofNotes.outputs.zip ofNotes.produce.classes ∧
      Occurs "private var _text:String = \"say \"hi\"\";\n" c.source ∧
      ¬Quoted.IsLiteral "\"say \"hi\"\"" saying ∧
      Quoted.IsLiteral "\"say \\\"hi\\\"\"" saying := by
  obtain ⟨c, hc⟩ := reachable_ofNotes.exists_mem_zip rfl generable_of_mem_ofNotes
    (List.mem_singleton.2 rfl) .clientModel
  obtain ⟨hoccurs, hliteral, -⟩ := reachable_ofNotes.denotes_default_iff hc describe_note
    (List.mem_singleton.2 rfl) rfl rfl rfl (by decide)
  have hsource : ClientModel.declaration ofNotes.session.config noteText ++
      ("\"" ++ saying ++ "\"") ++ ";\n" = "private var _text:String = \"say \"hi\"\";\n" := by
    decide
  rw [hsource] at hoccurs
  refine ⟨c, hc, hoccurs, fun h => ?_,
    ['s', 'a', 'y', ' ', '\\', '"', 'h', 'i', '\\', '"'], rfl, ?_⟩
  · exact hliteral.1 h '"' (by decide) (by decide)
  · have hend : Quoted.Denotes ['\\', '"'] [34] := .escape escapes_quote .nil (by decide)
    have hhi : Quoted.Denotes ['h', 'i', '\\', '"'] [104, 105, 34] :=
      .ordinary (by decide) (.ordinary (by decide) hend)
    have hquote : Quoted.Denotes ['\\', '"', 'h', 'i', '\\', '"'] [34, 104, 105, 34] :=
      .escape escapes_quote hhi (by decide)
    exact .ordinary (by decide) (.ordinary (by decide)
      (.ordinary (by decide) (.ordinary (by decide) hquote)))

end Generator

end XmlBinding
