import XmlBinding.Host
import XmlBinding.Proofs.Path

/-!
# What is directly in a directory

A path leads through the directories that its parts name, one behind the other. So a plain name
below a path to a directory leads to what the directory has under this name, if it leads anywhere.

* `FileTree.at?_append`, `Disk.follow_append` : names and parts, one list behind the other;
* `Disk.HasDirectory d p entries` : the path leads to a directory, and its names are plain;
* `HasDirectory.open?_push_eq_ok_iff` : what a name below the path leads to; `isFile_push_iff`,
  `read_push_eq_ok_iff` : files.
-/

namespace XmlBinding

theorem FileTree.at?_append (names more : List String) (t : FileTree) :
    at? (names ++ more) t = (at? names t).bind (at? more) := by
  induction names generalizing t with
  | nil => rfl
  | cons name names ih =>
    cases t with
    | file content => rfl
    | directory entries =>
      rw [List.cons_append, at?, at?, Option.bind_assoc]
      exact congrArg _ (funext ih)

/-! ## Parts of a path -/

namespace Path

variable {p : Path} {name : String}

/-- A plain name below a path is its last part, and no separator follows. -/
theorem partsOf_push (h : PlainName name) (p : Path) :
    Disk.partsOf (p.push ⟨name⟩) = p.parts ++ [name] := by
  have hrelative := isAbsolute_of_plain h
  -- Whatever is put in front of it, the path ends with the name.
  have hend : (p.push ⟨name⟩).text.toList.getLast? ≠ some '/' := by
    have hlast : ∀ lead : String, (lead ++ name).toList.getLast? ≠ some '/' := by
      intro lead hslash
      rw [String.toList_append, List.getLast?_append] at hslash
      cases hname : name.toList.getLast? with
      | none => exact h.nonempty (String.toList_eq_nil_iff.1 (List.getLast?_eq_none_iff.1 hname))
      | some c =>
        rw [hname] at hslash
        exact h.undivided (List.mem_of_getLast? (hname.trans hslash))
    unfold push
    rw [hrelative, if_neg Bool.false_ne_true]
    split
    · exact hlast _
    · exact hlast _
  unfold Disk.partsOf
  rw [if_neg hend, parts_push hrelative, parts_of_plain h]

end Path

namespace Disk

variable {root : FileTree} {d : Disk} {p : Path} {entries : List (String × FileTree)}
  {name : String}

theorem follow_append (root : FileTree) (here parts more : List String) :
    follow root here (parts ++ more) =
      (follow root here parts).bind fun names => follow root names.reverse more := by
  induction parts generalizing here with
  | nil =>
    show follow root here more = follow root here.reverse.reverse more
    rw [List.reverse_reverse]
  | cons part parts ih =>
    rw [List.cons_append, follow, follow]
    split
    · split
      · exact ih here
      · split
        · exact ih _
        · cases checkName part with
          | error fault => rfl
          | ok _ =>
            show (if _ then _ else _) = Except.bind (if _ then _ else _) _
            split
            · exact ih _
            · rfl
    · rfl
    · rfl

/-- A step onto the spot stays in a directory. -/
theorem follow_dot {names there : List String} (h : follow root names.reverse ["."] = .ok there) :
    there = names := by
  unfold follow at h
  split at h
  · rw [if_pos rfl] at h
    exact (Except.ok.inj h).symm.trans names.reverse_reverse
  · cases h
  · cases h

/-- Where a path leads, its parts lead. -/
theorem follow_parts {here there : List String} (h : follow root here (partsOf p) = .ok there) :
    follow root here p.parts = .ok there := by
  unfold partsOf at h
  split at h
  · rw [follow_append] at h
    cases hparts : follow root here p.parts with
    | error fault =>
      rw [hparts] at h
      cases h
    | ok names =>
      rw [hparts] at h
      rw [follow_dot h]
  · exact h

/-- Where one name leads from a directory. -/
theorem follow_name {names there : List String} (hroot : root.at? names = some (.directory entries))
    (hdot : name ≠ ".") (hup : name ≠ "..") :
    follow root names.reverse [name] = .ok there ↔
      checkName name = .ok () ∧ (entries.lookup name).isSome ∧ there = names ++ [name] := by
  have hstep : follow root names.reverse [name] = (checkName name).bind fun _ =>
      if (entries.lookup name).isSome then .ok (names ++ [name]) else .error .notFound := by
    rw [follow, List.reverse_reverse, hroot]
    dsimp only
    rw [if_neg hdot, if_neg hup, follow, List.reverse_cons, List.reverse_reverse]
    rfl
  rw [hstep]
  cases checkName name with
  | error fault => exact iff_of_false (fun h => nomatch h) fun h => nomatch h.1
  | ok _ =>
    show (if _ then _ else _) = _ ↔ _
    split
    · next hsome => simp [hsome, eq_comm]
    · next hnone => simp [hnone]

/-! ## Directories -/

theorem open?_eq_ok_iff {t : FileTree} :
    d.open? p = .ok t ↔ checkPath p = .ok () ∧
      ∃ names, d.followFrom p (partsOf p) = .ok names ∧ d.root.at? names = some t := by
  have hlocate : d.locate p = (checkPath p).bind fun _ => d.followFrom p (partsOf p) := rfl
  have hopen : d.open? p =
      (d.locate p).bind fun names => (d.root.at? names).elim (.error .notFound) .ok := by
    unfold open?
    refine congrArg (Except.bind (d.locate p)) (funext fun names => ?_)
    cases d.root.at? names <;> rfl
  rw [hopen, hlocate]
  cases checkPath p with
  | error fault => simp [Except.bind]
  | ok _ =>
    cases d.followFrom p (partsOf p) with
    | error fault => simp [Except.bind]
    | ok names => cases hat : d.root.at? names <;> simp [Except.bind, hat]

/-- A path leads to a directory, and the names in it are plain: none stands for a directory. -/
structure HasDirectory (d : Disk) (p : Path) (entries : List (String × FileTree)) : Prop where
  opens : d.open? p = .ok (.directory entries)
  plain : ∀ name ∈ entries.map Prod.fst, PlainName name ∧ name ≠ "." ∧ name ≠ ".."

/-- A name is short enough, and so is the path to it below `p`. -/
def IsShort (p : Path) (name : String) : Prop :=
  checkName name = .ok () ∧ checkPath (p.push ⟨name⟩) = .ok ()

namespace HasDirectory

variable (h : d.HasDirectory p entries)
include h

theorem isDirectory : d.isDirectory p = true := by
  unfold Disk.isDirectory
  rw [h.opens]

theorem list : d.list p = .ok (entries.map Prod.fst) := by
  unfold Disk.list
  rw [h.opens]
  rfl

/-- What a name in the directory leads to. -/
theorem open?_push_eq_ok_iff (hname : name ∈ entries.map Prod.fst) {t : FileTree} :
    d.open? (p.push ⟨name⟩) = .ok t ↔ IsShort p name ∧ entries.lookup name = some t := by
  obtain ⟨hplain, hdot, hup⟩ := h.plain name hname
  obtain ⟨-, names, hfollow, hroot⟩ := open?_eq_ok_iff.1 h.opens
  have hparts : d.followFrom p p.parts = .ok names := follow_parts hfollow
  have hbelow : d.followFrom (p.push ⟨name⟩) (partsOf (p.push ⟨name⟩)) =
      follow d.root names.reverse [name] := by
    unfold followFrom at hparts ⊢
    rw [Path.partsOf_push hplain, Path.isAbsolute_push, Path.isAbsolute_of_plain hplain,
      Bool.or_false, follow_append, hparts]
    rfl
  have hat : d.root.at? (names ++ [name]) = entries.lookup name := by
    rw [FileTree.at?_append, hroot]
    exact Option.bind_fun_some (entries.lookup name)
  -- The path is followed as far as the directory, and then one name further.
  rw [open?_eq_ok_iff, hbelow]
  constructor
  · rintro ⟨hpath, there, hfollow, hthere⟩
    obtain ⟨hcheck, -, rfl⟩ := (follow_name hroot hdot hup).1 hfollow
    exact ⟨⟨hcheck, hpath⟩, hat.symm.trans hthere⟩
  · rintro ⟨⟨hcheck, hpath⟩, hlookup⟩
    refine ⟨hpath, names ++ [name], (follow_name hroot hdot hup).2 ⟨hcheck, ?_, rfl⟩, ?_⟩
    · rw [hlookup]
      rfl
    · exact hat.trans hlookup

theorem isFile_push_iff (hname : name ∈ entries.map Prod.fst) :
    d.isFile (p.push ⟨name⟩) = true ↔
      IsShort p name ∧ ∃ content, entries.lookup name = some (.file content) := by
  unfold Disk.isFile
  constructor
  · intro hfile
    split at hfile
    · next content hopen =>
      obtain ⟨hshort, hlookup⟩ := (h.open?_push_eq_ok_iff hname).1 hopen
      exact ⟨hshort, content, hlookup⟩
    · cases hfile
  · rintro ⟨hshort, content, hlookup⟩
    rw [(h.open?_push_eq_ok_iff hname).2 ⟨hshort, hlookup⟩]

theorem read_push_eq_ok_iff (hname : name ∈ entries.map Prod.fst) {content : String} :
    d.read (p.push ⟨name⟩) = .ok content ↔
      IsShort p name ∧ entries.lookup name = some (.file content) := by
  rw [← h.open?_push_eq_ok_iff hname]
  unfold Disk.read
  cases d.open? (p.push ⟨name⟩) with
  | error fault => exact iff_of_false (fun h => nomatch h) fun h => nomatch h
  | ok t =>
    cases t with
    | file text =>
      show Except.ok text = _ ↔ _
      simp
    | directory below => exact iff_of_false (fun h => nomatch h) fun h => nomatch h

end HasDirectory

end Disk

end XmlBinding
