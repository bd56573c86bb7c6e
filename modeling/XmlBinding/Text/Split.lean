/-!
# Cutting texts at a character

* `cut sep cs` : the pieces of `cs` between the occurrences of `sep`, `n + 1` pieces for `n`
  occurrences; `pieces sep s` the same on strings;
* `replaceChar a b s` : `s` with every `a` changed into `b`;
* `linesOf s` : the lines of `s`, each without its line end.
-/

namespace XmlBinding.Text

/-- The pieces between the occurrences of `sep`. -/
def cut (sep : Char) : List Char → List (List Char)
  | [] => [[]]
  | c :: rest =>
    if c = sep then [] :: cut sep rest
    else
      match cut sep rest with
      | [] => [[c]]
      | first :: others => (c :: first) :: others

theorem cut_ne_nil (sep : Char) (cs : List Char) : cut sep cs ≠ [] := by
  induction cs with
  | nil => simp [cut]
  | cons c rest ih =>
    unfold cut
    split
    · simp
    · split <;> simp

theorem not_mem_of_mem_cut {sep : Char} {cs piece : List Char} (h : piece ∈ cut sep cs) :
    sep ∉ piece := by
  induction cs generalizing piece with
  | nil => simp_all [cut]
  | cons c rest ih =>
    unfold cut at h
    split at h
    · rcases List.mem_cons.1 h with rfl | h
      · simp
      · exact ih h
    · next hc =>
      split at h
      · obtain rfl := List.mem_singleton.1 h
        simpa using Ne.symm hc
      · next first others heq =>
        rcases List.mem_cons.1 h with rfl | h
        · have := @ih first (by simp [heq])
          simpa [this] using Ne.symm hc
        · exact ih (by simp [heq, h])

/-- The pieces of a string between the occurrences of `sep`. -/
def pieces (sep : Char) (s : String) : List String := (cut sep s.toList).map String.ofList

def replaceChar (a b : Char) (s : String) : String :=
  String.ofList (s.toList.map fun c => if c = a then b else c)

/-- A line without the carriage return that belongs to its line end. -/
def dropReturn (line : List Char) : List Char :=
  if line.getLast? = some '\r' then line.dropLast else line

/-- The lines of a text. A line end is `\n` or `\r\n`; a last line without one keeps its `\r`, and
nothing after the last line end is no line. -/
def linesOf (s : String) : List String :=
  let parts := cut '\n' s.toList
  let last := parts.getLastD []
  (parts.dropLast.map dropReturn ++ (if last.isEmpty then [] else [last])).map String.ofList

end XmlBinding.Text
