import Mathlib.Data.List.Sort
import Mathlib.Data.String.Basic
import XmlBinding.Proofs.Disk
import XmlBinding.Proofs.Name
import XmlBinding.Proofs.SortedMap
import XmlBinding.Source

/-!
# What a package holds

A scan passes over whatever is of no use to it, so what it finds is said without the steps it takes:
one descriptor for each file that fulfills what its name promises.

* `Path.cutExtension_append`, `Path.eq_append_of_cutExtension` : names with an extension;
* `ClassPath.parts_directory` : the directory of a package lies below the root, segment by segment;
* `ClassPath.Fulfills toml package name text e` : a text describes the class that its file promises;
* `ClassPath.Offers host package dir name e` : a directory has such a file; `offers_host_iff` on a
  disk;
* `ClassPath.run_scan`, `run_descriptorNames`, `candidate_eq_some_iff` : the steps of a scan;
* `ClassPath.Finds gives found` : one descriptor for each name, in order; `Finds.unique`,
  `exists_finds`;
* `ClassPath.scan_finds_fulfilled` : what a scan answers, and what it does not depend on.
-/

namespace XmlBinding

/-! ## Names with an extension -/

namespace Path

variable {file stem ext : String}

theorem cutExtension_append (hstem : stem ≠ "") (hext : '.' ∉ ext.toList) :
    cutExtension (stem ++ "." ++ ext) = (stem, some ext) := by
  have hreversed : (stem ++ "." ++ ext).toList.reverse =
      ext.toList.reverse ++ '.' :: stem.toList.reverse := by
    simp
  have hbefore : ∀ c ∈ ext.toList.reverse, decide (c ≠ '.') = true := ne_dot_of_mem_reverse hext
  unfold cutExtension
  dsimp only
  rw [hreversed, List.dropWhile_append_of_pos hbefore, List.takeWhile_append_of_pos hbefore]
  have hdrop : (('.' :: stem.toList.reverse).dropWhile (· ≠ '.')).drop 1 = stem.toList.reverse :=
    rfl
  have htake : ('.' :: stem.toList.reverse).takeWhile (· ≠ '.') = [] := rfl
  have hkeep : stem.toList.isEmpty = false := by
    rw [List.isEmpty_eq_false_iff]
    exact fun hnil => hstem (String.toList_eq_nil_iff.1 hnil)
  rw [hdrop, htake, List.append_nil, List.reverse_reverse, List.reverse_reverse, hkeep,
    String.ofList_toList, String.ofList_toList]
  rfl

theorem eq_append_of_cutExtension (h : (cutExtension file).2 = some ext) :
    ∃ stem, stem ≠ "" ∧ file = stem ++ "." ++ ext := by
  unfold cutExtension at h
  dsimp only at h
  split at h
  · cases h
  next hstem =>
  have hext := Option.some.inj h
  have hcut : file.toList.reverse.takeWhile (· ≠ '.') ++ file.toList.reverse.dropWhile (· ≠ '.') =
      file.toList.reverse := List.takeWhile_append_dropWhile
  cases hrest : file.toList.reverse.dropWhile (· ≠ '.') with
  | nil =>
    rw [hrest] at hstem
    exact absurd rfl hstem
  | cons c rest =>
    have hdot : c = '.' := by
      have hne : file.toList.reverse.dropWhile (· ≠ '.') ≠ [] := by
        rw [hrest]
        exact List.cons_ne_nil c rest
      have hhead := List.head_dropWhile_not (· ≠ '.') hne
      simp only [hrest, List.head_cons] at hhead
      exact of_not_not (of_decide_eq_false hhead)
    subst hdot
    rw [hrest] at hcut hstem
    refine ⟨String.ofList rest.reverse, fun hnil => hstem ?_, String.toList_injective ?_⟩
    · rw [List.drop_one, List.tail_cons, String.ofList_eq_empty_iff.1 hnil]
      rfl
    · have hfile := congrArg List.reverse hcut
      rw [List.reverse_reverse, List.reverse_append, List.reverse_cons] at hfile
      rw [← hext, String.toList_append, String.toList_append]
      simp only [String.toList_ofList]
      exact hfile.symm

end Path

/-! ## Files and what they promise -/

theorem qualify_right_inj {package a b : String} :
    qualify package a = qualify package b ↔ a = b := by
  unfold qualify
  split
  · exact Iff.rfl
  · exact String.append_right_inj _

namespace ClassPath

/-- A text describes the class that the name of its file promises in a package. Of several entities
with this name, it is the first. -/
def Fulfills (toml : Toml.Reader) (package name text : String) (e : EntityDescriptor) : Prop :=
  ∃ stem descriptors, stem ≠ "" ∧ name = stem ++ ".toml" ∧
    Descriptor.parse text toml = .ok descriptors ∧
    descriptors.find? (·.name = qualify package stem) = some e

/-- A name in a directory is that of a file, which can be read and describes the class that its name
promises. -/
def Offers (host : Host Id) (package : String) (dir : Path) (name : String) (e : EntityDescriptor) :
    Prop :=
  (host.isFile (dir.push ⟨name⟩)).run = true ∧
    ∃ text, (host.read (dir.push ⟨name⟩)).run = .ok text ∧
      Fulfills host.toml package name text e

variable {toml : Toml.Reader} {package name text stem : String} {e : EntityDescriptor}

theorem cutExtension_toml (h : stem ≠ "") :
    Path.cutExtension (stem ++ ".toml") = (stem, some descriptorExtension) := by
  have hjoin : stem ++ ".toml" = stem ++ "." ++ descriptorExtension := by
    rw [String.append_assoc]
    rfl
  rw [hjoin]
  exact Path.cutExtension_append h (by decide)

theorem isDescriptorName_iff :
    isDescriptorName name = true ↔ ∃ stem, stem ≠ "" ∧ name = stem ++ ".toml" := by
  unfold isDescriptorName
  rw [decide_eq_true_iff]
  constructor
  · intro h
    obtain ⟨stem, hstem, hname⟩ := Path.eq_append_of_cutExtension h
    refine ⟨stem, hstem, hname.trans ?_⟩
    rw [String.append_assoc]
    rfl
  · rintro ⟨stem, hstem, rfl⟩
    rw [cutExtension_toml hstem]

theorem promised_toml (h : stem ≠ "") :
    promised package (stem ++ ".toml") = qualify package stem := by
  unfold promised
  rw [cutExtension_toml h]

theorem fulfills_iff :
    Fulfills toml package name text e ↔ isDescriptorName name = true ∧
      ∃ descriptors, Descriptor.parse text toml = .ok descriptors ∧
        descriptors.find? (·.name = promised package name) = some e := by
  rw [isDescriptorName_iff]
  constructor
  · rintro ⟨stem, descriptors, hstem, rfl, hparse, hfind⟩
    refine ⟨⟨stem, hstem, rfl⟩, descriptors, hparse, ?_⟩
    rwa [promised_toml hstem]
  · rintro ⟨⟨stem, hstem, rfl⟩, descriptors, hparse, hfind⟩
    rw [promised_toml hstem] at hfind
    exact ⟨stem, descriptors, hstem, rfl, hparse, hfind⟩

/-- Files of different names promise different classes. -/
theorem Fulfills.name_inj {toml' : Toml.Reader} {name' text' : String} {e' : EntityDescriptor}
    (h : Fulfills toml package name text e) (h' : Fulfills toml' package name' text' e')
    (heq : e.name = e'.name) : name = name' := by
  obtain ⟨stem, descriptors, -, rfl, -, hfind⟩ := h
  obtain ⟨stem', descriptors', -, rfl, -, hfind'⟩ := h'
  have hname : e.name = qualify package stem := by simpa using List.find?_some hfind
  have hname' : e'.name = qualify package stem' := by simpa using List.find?_some hfind'
  rw [hname, hname', qualify_right_inj] at heq
  rw [heq]

/-- The directory of a package is the root, followed by the segments of the package. -/
theorem parts_directory (c : ClassPath) (h : '/' ∉ package.toList) :
    (c.directory package).parts = c.root.parts ++ Package.segments package ∧
      (c.directory package).isAbsolute = c.root.isAbsolute := by
  have hplain : ∀ n ∈ Package.segments package, PlainName n :=
    fun n hn => (GeneratedClass.plainName_of_mem_segments h hn).1
  exact (Path.pushAll_plain hplain c.root).symm

/-! ## The steps of a scan -/

section Steps
variable {host : Host Id} {dir : Path} {names : List String}

theorem run_bind {α β : Type} (act : ExceptT Failure Id α) (next : α → ExceptT Failure Id β) :
    (act >>= next).run.run = act.run.run.bind fun a => (next a).run.run := by
  rw [ExceptT.run_bind]
  cases act.run <;> rfl

theorem run_readText (host : Host Id) (p : Path) :
    (Source.readText host p).run.run = (host.read p).run.mapError Failure.io := by
  unfold Source.readText
  cases host.read p <;> rfl

theorem run_readDescriptors (host : Host Id) (p : Path) :
    (Source.readDescriptors host p).run.run =
      ((host.read p).run.mapError Failure.io).bind fun text =>
        (Descriptor.parse text host.toml).mapError (Source.inFile p) := by
  unfold Source.readDescriptors
  rw [run_bind, run_readText]
  refine congrArg _ (funext fun text => ?_)
  cases Descriptor.parse text host.toml <;> rfl

theorem candidate_eq_some_iff :
    (candidate host package dir name).run = some e ↔
      ∃ text, (host.read (dir.push ⟨name⟩)).run = .ok text ∧
        ∃ descriptors, Descriptor.parse text host.toml = .ok descriptors ∧
          descriptors.find? (·.name = promised package name) = some e := by
  have hrun : (candidate host package dir name).run =
      (Source.readDescriptors host (dir.push ⟨name⟩)).run.run.toOption.bind fun descriptors =>
        descriptors.find? (·.name = promised package name) := by
    unfold candidate
    cases (Source.readDescriptors host (dir.push ⟨name⟩)).run <;> rfl
  rw [hrun, run_readDescriptors]
  cases (host.read (dir.push ⟨name⟩)).run with
  | error fault => simp [Except.mapError, Except.bind, Except.toOption]
  | ok text =>
    cases hparse : Descriptor.parse text host.toml <;>
      simp [hparse, Except.mapError, Except.bind, Except.toOption]

theorem offers_iff :
    Offers host package dir name e ↔
      (isDescriptorName name && (host.isFile (dir.push ⟨name⟩)).run) = true ∧
        (candidate host package dir name).run = some e := by
  unfold Offers
  rw [Bool.and_eq_true, candidate_eq_some_iff]
  constructor
  · rintro ⟨hfile, text, hread, hfulfills⟩
    obtain ⟨hname, hfind⟩ := fulfills_iff.1 hfulfills
    exact ⟨⟨hname, hfile⟩, text, hread, hfind⟩
  · rintro ⟨⟨hname, hfile⟩, text, hread, hfind⟩
    exact ⟨hfile, text, hread, fulfills_iff.2 ⟨hname, hfind⟩⟩

theorem run_filterM (test : String → Id Bool) (names : List String) :
    (names.filterM test).run = names.filter fun name => (test name).run := by
  have haux (kept : List String) : (names.filterAuxM test kept).run =
      (names.filter fun name => (test name).run).reverse ++ kept := by
    induction names generalizing kept with
    | nil => rfl
    | cons name names ih =>
      show (names.filterAuxM test (cond (test name).run (name :: kept) kept)).run = _
      rw [ih, List.filter_cons]
      cases (test name).run with
      | true => simp
      | false => simp
  show (names.filterAuxM test []).run.reverse = _
  rw [haux, List.append_nil, List.reverse_reverse]

theorem run_descriptorNames (host : Host Id) (dir : Path) (names : List String) :
    (descriptorNames host dir names).run =
      (names.filter fun name =>
          isDescriptorName name && (host.isFile (dir.push ⟨name⟩)).run).foldl
        (fun sorted name => insertSorted name sorted) [] := by
  have htest : (fun name => (if isDescriptorName name then host.isFile (dir.push ⟨name⟩)
      else pure false : Id Bool).run) =
      fun name => isDescriptorName name && (host.isFile (dir.push ⟨name⟩)).run := by
    funext name
    cases isDescriptorName name <;> rfl
  rw [← htest, ← run_filterM]
  rfl

theorem run_mapM (act : String → Id (Option EntityDescriptor)) (files : List String) :
    (files.mapM fun name => (liftM (act name) : ExceptT Failure Id _)).run.run =
      .ok (files.map fun name => (act name).run) := by
  induction files with
  | nil => rfl
  | cons name files ih =>
    rw [List.mapM_cons, run_bind]
    show ((files.mapM fun name => (liftM (act name) : ExceptT Failure Id _)) >>= fun found =>
      pure ((act name).run :: found)).run.run = _
    rw [run_bind, ih]
    rfl

theorem run_scan (host : Host Id) (c : ClassPath) (package : String) :
    (scan host c package).run.run =
      if (host.isDirectory (c.directory package)).run then
        ((host.list (c.directory package)).run.mapError Failure.io).map fun names =>
          (descriptorNames host (c.directory package) names).run.filterMap fun name =>
            (candidate host package (c.directory package) name).run
      else .error (.packageNotFound (Text.replaceChar '.' '/' package)) := by
  unfold scan
  dsimp only
  generalize c.directory package = dir
  cases host.isDirectory dir with
  | false => rfl
  | true =>
    cases host.list dir with
    | error fault => rfl
    | ok names =>
      show ((((descriptorNames host dir names).run.mapM fun name =>
        (liftM (candidate host package dir name) : ExceptT Failure Id _)) >>= fun found =>
          pure (found.filterMap id)).run).run = _
      rw [run_bind, run_mapM]
      exact congrArg Except.ok List.filterMap_map

theorem run_scan_eq_packageNotFound_iff {c : ClassPath} {p : String} :
    (scan host c package).run.run = .error (.packageNotFound p) ↔
      (host.isDirectory (c.directory package)).run = false ∧
        p = Text.replaceChar '.' '/' package := by
  rw [run_scan]
  cases (host.isDirectory (c.directory package)).run with
  | false => simp [eq_comm]
  | true =>
    cases (host.list (c.directory package)).run <;> simp [Except.map, Except.mapError]

end Steps

/-! ## What is found -/

/-- A list has one descriptor for each file name that gives one, in ascending order of file names.
The descriptors have different names. -/
structure Finds (gives : String → EntityDescriptor → Prop)
    (found : List (String × EntityDescriptor)) : Prop where
  ascending : found.Pairwise fun a b => a.1 < b.1
  mem_iff : ∀ name e, (name, e) ∈ found ↔ gives name e
  distinct : (found.map (·.2.name)).Nodup

theorem Finds.congr {gives gives' : String → EntityDescriptor → Prop}
    {found : List (String × EntityDescriptor)} (h : Finds gives found)
    (heq : ∀ name e, gives name e ↔ gives' name e) : Finds gives' found :=
  ⟨h.ascending, fun name e => (h.mem_iff name e).trans (heq name e), h.distinct⟩

/-- What is found depends on what is given alone. -/
theorem Finds.unique {gives : String → EntityDescriptor → Prop}
    {found found' : List (String × EntityDescriptor)} (h : Finds gives found)
    (h' : Finds gives found') : found = found' := by
  have hantisymm : Std.Antisymm fun a b : String × EntityDescriptor => a.1 < b.1 :=
    ⟨fun a b hab hba => absurd (hab.trans hba) (lt_irrefl a.1)⟩
  have hirrefl : Std.Irrefl fun a b : String × EntityDescriptor => a.1 < b.1 :=
    ⟨fun a => lt_irrefl a.1⟩
  refine h.ascending.eq_of_mem_iff h'.ascending fun ⟨name, e⟩ => ?_
  rw [h.mem_iff, h'.mem_iff]

section Found
variable {host : Host Id} {dir : Path} {names : List String} {c : ClassPath}

theorem mem_descriptorNames_iff :
    name ∈ (descriptorNames host dir names).run ↔
      name ∈ names ∧ (isDescriptorName name && (host.isFile (dir.push ⟨name⟩)).run) = true := by
  rw [run_descriptorNames, SortedMap.mem_foldl_insertSorted, List.mem_filter]
  simp

theorem pairwise_descriptorNames (host : Host Id) (dir : Path) (names : List String) :
    (descriptorNames host dir names).run.Pairwise (· < ·) := by
  rw [run_descriptorNames]
  exact (SortedMap.pairwise_foldl_insertSorted _ .nil).imp compare_lt_iff_lt.1

/-- A scan finds what the names of the directory offer. -/
theorem exists_finds (hdirectory : (host.isDirectory (c.directory package)).run = true)
    (hlist : (host.list (c.directory package)).run = .ok names) :
    ∃ found, (scan host c package).run.run = .ok (found.map Prod.snd) ∧
      Finds (fun name e => name ∈ names ∧ Offers host package (c.directory package) name e)
        found := by
  -- Names stand beside what they give: the order is theirs, and they tell the classes apart.
  let give (name : String) : Option (String × EntityDescriptor) :=
    ((candidate host package (c.directory package) name).run).map (name, ·)
  have hgive {name : String} {x : String × EntityDescriptor} (h : give name = some x) :
      x.1 = name := by
    obtain ⟨e, -, rfl⟩ := Option.map_eq_some_iff.1 h
    rfl
  let found := (descriptorNames host (c.directory package) names).run.filterMap give
  have hascending : found.Pairwise fun a b => a.1 < b.1 := by
    refine (pairwise_descriptorNames host _ names).filterMap give fun a b hlt x hx y hy => ?_
    rwa [hgive hx, hgive hy]
  have hmem (name : String) (e : EntityDescriptor) : (name, e) ∈ found ↔
      name ∈ names ∧ Offers host package (c.directory package) name e := by
    rw [List.mem_filterMap, offers_iff, ← and_assoc, ← mem_descriptorNames_iff]
    constructor
    · rintro ⟨file, hfile, hx⟩
      obtain rfl : name = file := hgive hx
      obtain ⟨d, hd, hpair⟩ := Option.map_eq_some_iff.1 hx
      obtain rfl : d = e := congrArg Prod.snd hpair
      exact ⟨hfile, hd⟩
    · rintro ⟨hfile, he⟩
      exact ⟨name, hfile, Option.map_eq_some_iff.2 ⟨e, he, rfl⟩⟩
  refine ⟨found, ?_, hascending, hmem, ?_⟩
  · rw [run_scan, hdirectory, hlist, if_pos rfl]
    refine congrArg Except.ok ?_
    rw [List.map_filterMap]
    refine List.filterMap_congr fun name hname => ?_
    rw [Option.map_map]
    exact (congrFun Option.map_id _).symm
  · refine List.pairwise_map.2 (hascending.imp_of_mem fun {a b} ha hb hlt heq => ?_)
    obtain ⟨-, -, text, -, hfulfills⟩ := (hmem a.1 a.2).1 ha
    obtain ⟨-, -, text', -, hfulfills'⟩ := (hmem b.1 b.2).1 hb
    rw [hfulfills.name_inj hfulfills' heq] at hlt
    exact lt_irrefl b.1 hlt

/-- What a directory of a disk offers: the files in it that fulfill what they promise, unless their
names or paths are too long. -/
theorem offers_host_iff {d : Disk} {entries : List (String × FileTree)}
    (h : d.HasDirectory dir entries) :
    name ∈ entries.map Prod.fst ∧ Offers (d.host toml) package dir name e ↔
      Disk.IsShort dir name ∧
        ∃ text, entries.lookup name = some (.file text) ∧
          Fulfills toml package name text e := by
  constructor
  · rintro ⟨hname, hfile, text, hread, hfulfills⟩
    obtain ⟨hshort, hlookup⟩ := (h.read_push_eq_ok_iff hname).1 hread
    exact ⟨hshort, text, hlookup, hfulfills⟩
  · rintro ⟨hshort, text, hlookup, hfulfills⟩
    have hname : name ∈ entries.map Prod.fst := by
      obtain ⟨before, after, rfl, -⟩ := List.lookup_eq_some_iff.1 hlookup
      simp
    exact ⟨hname, (h.isFile_push_iff hname).2 ⟨hshort, text, hlookup⟩, text,
      (h.read_push_eq_ok_iff hname).2 ⟨hshort, hlookup⟩, hfulfills⟩

end Found

/-- A scan fails for want of the package exactly where its directory is none. Where the directory
can be listed, the scan answers with one descriptor for each file directly in it that can be read
and describes the class that its name promises, in ascending order of file names. Their names are
different. Nothing else has a say: neither the order in which the directory is listed, nor other
files, nor what is further below. -/
theorem scan_finds_fulfilled (c : ClassPath) (package : String) :
    (∀ (host : Host Id) (p : String),
      (scan host c package).run.run = .error (.packageNotFound p) ↔
        (host.isDirectory (c.directory package)).run = false ∧
          p = Text.replaceChar '.' '/' package) ∧
    (∀ (host : Host Id) (names : List String),
      (host.isDirectory (c.directory package)).run = true →
      (host.list (c.directory package)).run = .ok names →
        ∃ found, (scan host c package).run.run = .ok (found.map Prod.snd) ∧
          Finds (fun name e => name ∈ names ∧ Offers host package (c.directory package) name e)
            found) ∧
    (∀ (host host' : Host Id) (names names' : List String),
      (host.isDirectory (c.directory package)).run = true →
      (host.list (c.directory package)).run = .ok names →
      (host'.isDirectory (c.directory package)).run = true →
      (host'.list (c.directory package)).run = .ok names' →
      (∀ name e, name ∈ names ∧ Offers host package (c.directory package) name e ↔
        name ∈ names' ∧ Offers host' package (c.directory package) name e) →
        (scan host c package).run.run = (scan host' c package).run.run) ∧
    (∀ (toml : Toml.Reader) (d : Disk) (entries : List (String × FileTree)),
      d.HasDirectory (c.directory package) entries →
        ∃ found, (scan (d.host toml) c package).run.run = .ok (found.map Prod.snd) ∧
          Finds (fun name e => Disk.IsShort (c.directory package) name ∧
            ∃ text, entries.lookup name = some (.file text) ∧ Fulfills toml package name text e)
            found) ∧
    (∀ (toml : Toml.Reader) (d d' : Disk) (entries entries' : List (String × FileTree)),
      d.HasDirectory (c.directory package) entries →
      d'.HasDirectory (c.directory package) entries' →
      (∀ name text e, Fulfills toml package name text e →
        (entries.lookup name = some (.file text) ↔ entries'.lookup name = some (.file text))) →
        (scan (d.host toml) c package).run.run = (scan (d'.host toml) c package).run.run) := by
  have hdisk {toml : Toml.Reader} {d : Disk} {entries : List (String × FileTree)}
      (h : d.HasDirectory (c.directory package) entries) :
      ∃ found, (scan (d.host toml) c package).run.run = .ok (found.map Prod.snd) ∧
        Finds (fun name e => Disk.IsShort (c.directory package) name ∧
          ∃ text, entries.lookup name = some (.file text) ∧ Fulfills toml package name text e)
          found := by
    have hdirectory : ((d.host toml).isDirectory (c.directory package)).run = true :=
      h.isDirectory
    have hlist : ((d.host toml).list (c.directory package)).run = .ok (entries.map Prod.fst) :=
      h.list
    obtain ⟨found, hscan, hfinds⟩ := exists_finds hdirectory hlist
    exact ⟨found, hscan, hfinds.congr fun name e => offers_host_iff h⟩
  refine ⟨fun host p => run_scan_eq_packageNotFound_iff, fun host names => exists_finds, ?_,
    fun toml d entries => hdisk, ?_⟩
  · intro host host' names names' hdirectory hlist hdirectory' hlist' hsame
    obtain ⟨found, hscan, hfinds⟩ := exists_finds hdirectory hlist
    obtain ⟨found', hscan', hfinds'⟩ := exists_finds hdirectory' hlist'
    rw [hscan, hscan', (hfinds.congr hsame).unique hfinds']
  · intro toml d d' entries entries' hd hd' hsame
    obtain ⟨found, hscan, hfinds⟩ := hdisk hd
    obtain ⟨found', hscan', hfinds'⟩ := hdisk hd'
    have heq (name : String) (e : EntityDescriptor) :
        (Disk.IsShort (c.directory package) name ∧
          ∃ text, entries.lookup name = some (.file text) ∧ Fulfills toml package name text e) ↔
        (Disk.IsShort (c.directory package) name ∧
          ∃ text, entries'.lookup name = some (.file text) ∧
            Fulfills toml package name text e) :=
      and_congr_right fun _ => exists_congr fun text =>
        and_congr_left fun hfulfills => hsame name text e hfulfills
    rw [hscan, hscan', (hfinds.congr heq).unique hfinds']

/-! ## A crowded package -/

def crate : EntityDescriptor := ⟨"shop.Crate", none, false, none, none, []⟩

def crateText : String := "name = \"shop.Crate\""

/-- The file of the class alone. -/
def tidy : List (String × FileTree) := [("Crate.toml", .file crateText)]

/-- The file among others: notes, a descriptor that is cut off, one of another name, and one further
below. -/
def crowded : List (String × FileTree) := [
  ("notes.txt", .file crateText), ("Box.toml", .file "name ="), ("Crate.toml", .file crateText),
  ("Pallet.toml", .file crateText), ("depot", .directory [("Crate.toml", .file crateText)])]

def packed (entries : List (String × FileTree)) : Disk :=
  ⟨.directory [("shop", .directory entries)], []⟩

/-- The root of a disk as a class path. -/
def atRoot : ClassPath := ⟨⟨""⟩⟩

theorem hasDirectory_tidy : (packed tidy).HasDirectory (atRoot.directory "shop") tidy := by
  refine ⟨rfl, fun name hname => ?_⟩
  obtain rfl : name = "Crate.toml" := by simpa [tidy] using hname
  exact ⟨⟨by decide, by decide⟩, by decide, by decide⟩

theorem hasDirectory_crowded :
    (packed crowded).HasDirectory (atRoot.directory "shop") crowded := by
  refine ⟨rfl, fun name hname => ?_⟩
  simp only [crowded, List.map_cons, List.map_nil, List.mem_cons, List.not_mem_nil, or_false]
    at hname
  rcases hname with rfl | rfl | rfl | rfl | rfl <;>
    exact ⟨⟨by decide, by decide⟩, by decide, by decide⟩

/-- The other files do not fulfill what they promise. -/
theorem lookup_crowded_iff (h : Fulfills Toml.parse "shop" name text e) :
    crowded.lookup name = some (.file text) ↔ tidy.lookup name = some (.file text) := by
  -- Two names promise nothing, one file is cut off, and one describes another class.
  obtain ⟨hname, descriptors, hparse, hfind⟩ := fulfills_iff.1 h
  by_cases hnotes : name = "notes.txt"
  · rw [hnotes] at hname
    exact absurd hname (by decide)
  by_cases hdepot : name = "depot"
  · rw [hdepot] at hname
    exact absurd hname (by decide)
  by_cases hbox : name = "Box.toml"
  · subst hbox
    refine iff_of_false (fun hlookup => ?_) (fun hlookup => nomatch hlookup)
    obtain rfl : "name =" = text := FileTree.file.inj (Option.some.inj hlookup)
    have hcut : (Descriptor.parse "name =").toOption = none := by decide +kernel
    rw [hparse] at hcut
    cases hcut
  by_cases hpallet : name = "Pallet.toml"
  · subst hpallet
    refine iff_of_false (fun hlookup => ?_) (fun hlookup => nomatch hlookup)
    obtain rfl : crateText = text := FileTree.file.inj (Option.some.inj hlookup)
    have hcrate : Descriptor.parse crateText = .ok [crate] := by decide +kernel
    obtain rfl := Except.ok.inj (hcrate.symm.trans hparse)
    have hnone : [crate].find? (·.name = promised "shop" "Pallet.toml") = none := by decide
    exact absurd (hnone.symm.trans hfind) (by simp)
  · simp [crowded, tidy, List.lookup_cons, beq_eq_false_iff_ne.2 hnotes,
      beq_eq_false_iff_ne.2 hdepot, beq_eq_false_iff_ne.2 hbox, beq_eq_false_iff_ne.2 hpallet]

/-- The one descriptor is found among the others. -/
theorem scan_crowded :
    (packed crowded).HasDirectory (atRoot.directory "shop") crowded ∧
      (packed tidy).HasDirectory (atRoot.directory "shop") tidy ∧
      (scan (packed crowded).host atRoot "shop").run.run =
        (scan (packed tidy).host atRoot "shop").run.run ∧
      (scan (packed tidy).host atRoot "shop").run.run = .ok [crate] := by
  obtain ⟨-, -, -, -, hsame⟩ := scan_finds_fulfilled atRoot "shop"
  refine ⟨hasDirectory_crowded, hasDirectory_tidy, ?_, by decide +kernel⟩
  exact hsame _ _ _ _ _ hasDirectory_crowded hasDirectory_tidy fun _ _ _ => lookup_crowded_iff

end ClassPath

end XmlBinding
