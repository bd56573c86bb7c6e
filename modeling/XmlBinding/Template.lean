/-!
# Message templates

A template holds placeholders `{0}`, `{1}`, … that stand for arguments by position.

* `Template.fill args template` : every placeholder with an argument is replaced by it, in one pass
  from left to right; all else, other braces included, stays as written.
-/

namespace XmlBinding.Template

def digitsValue (digits : List Char) : Nat :=
  digits.foldl (fun n c => 10 * n + (c.toNat - '0'.toNat)) 0

/-- The argument that a placeholder selects, and what follows it. The text is what comes after an
opening brace. -/
def placeholder? (args : List String) (tail : List Char) : Option (String × List Char) :=
  let digits := tail.takeWhile Char.isDigit
  match digits, tail.dropWhile Char.isDigit with
  | _ :: _, '\x7d' :: rest => args[digitsValue digits]?.map (·, rest)
  | _, _ => none

theorem length_lt_of_placeholder? {args : List String} {tail rest : List Char} {arg : String}
    (h : placeholder? args tail = some (arg, rest)) : rest.length < tail.length := by
  unfold placeholder? at h
  simp only at h
  split at h
  · next hd =>
    simp only [Option.map_eq_some_iff, Prod.mk.injEq] at h
    obtain ⟨_, _, _, rfl⟩ := h
    have := (List.dropWhile_suffix Char.isDigit (l := tail)).length_le
    rw [hd, List.length_cons] at this
    omega
  · cases h

/-- The characters of the filled template. -/
def fillChars (args : List String) : List Char → List Char
  | [] => []
  | c :: tail =>
    if c = '\x7b' then
      match _h : placeholder? args tail with
      | some (arg, rest) => arg.toList ++ fillChars args rest
      | none => c :: fillChars args tail
    else c :: fillChars args tail
termination_by cs => cs.length
decreasing_by
  · have := length_lt_of_placeholder? _h
    simp only [List.length_cons]
    omega
  · simp
  · simp

/-- The template with its placeholders replaced. -/
def fill (args : List String) (template : String) : String :=
  String.ofList (fillChars args template.toList)

end XmlBinding.Template
