import DiagramForge.Proofs.Disk
import DiagramForge.Proofs.Distinct
import DiagramForge.Proofs.Template.Store
import DiagramForge.Proofs.Text.Position
import Mathlib.Data.String.Basic

/-!
# Listed and loaded templates

A library of files is asked in two ways. Its names are collected from all entries below its
directories, whatever they are; a template is loaded from the first directory that has a file of its
name. On a disk that is a tree of directories (`Disk.IsTree`) an entry below a directory is what the
path of its name denotes, so the two agree about files: `names_listed`. They do not agree about
directories: `directory_listed`.

The one other thing that can go wrong is a path that is too long to be asked for. Names are short,
so this is about whole paths only (`Disk.pathLimit_le_of_find`).
-/

namespace DiagramForge

open Outcome Text

/-! ## Disks that are trees -/

/-- A name that an entry of a directory can have. -/
structure IsEntryName (name : String) : Prop where
  /-- It is not empty. -/
  ne_empty : name ≠ ""
  /-- It does not denote the directory itself. -/
  ne_dot : name ≠ "."
  /-- It does not denote the directory above. -/
  ne_dots : name ≠ ".."
  /-- It is one component of a path. -/
  slash : '/' ∉ name.toList
  /-- It has no null character. -/
  null : '\x00' ∉ name.toList
  /-- It can be recorded. -/
  short : name.utf8ByteSize ≤ Disk.nameLimit

instance (name : String) : Decidable (IsEntryName name) :=
  decidable_of_iff (name ≠ "" ∧ name ≠ "." ∧ name ≠ ".." ∧ '/' ∉ name.toList ∧
      '\x00' ∉ name.toList ∧ name.utf8ByteSize ≤ Disk.nameLimit)
    ⟨fun ⟨h₁, h₂, h₃, h₄, h₅, h₆⟩ ↦ ⟨h₁, h₂, h₃, h₄, h₅, h₆⟩,
      fun ⟨h₁, h₂, h₃, h₄, h₅, h₆⟩ ↦ ⟨h₁, h₂, h₃, h₄, h₅, h₆⟩⟩

namespace Disk

/-- There is a directory at a place. -/
def HasDirectoryAt (d : Disk) (place : DiskPlace) : Prop :=
  ∃ time, d.lookup place = some (.directory time)

instance (d : Disk) (place : DiskPlace) : Decidable (d.HasDirectoryAt place) :=
  match h : d.lookup place with
  | some (.directory time) => isTrue ⟨time, h⟩
  | some (.file ..) => isFalse fun ⟨time, htime⟩ ↦ by cases h.symm.trans htime
  | none => isFalse fun ⟨time, htime⟩ ↦ by cases h.symm.trans htime

/-- Each entry of a disk has names that entries can have, and lies in directories. -/
structure IsTree (d : Disk) : Prop where
  /-- The components of a place are names of entries. -/
  name : ∀ e ∈ d.entries, ∀ part ∈ e.1, IsEntryName part
  /-- There are directories on the way to it. -/
  directory : ∀ e ∈ d.entries, ∀ n < e.1.length, d.HasDirectoryAt (e.1.take n)

instance (d : Disk) : Decidable d.IsTree :=
  decidable_of_iff ((∀ e ∈ d.entries, ∀ part ∈ e.1, IsEntryName part) ∧
      ∀ e ∈ d.entries, ∀ n < e.1.length, d.HasDirectoryAt (e.1.take n))
    ⟨fun ⟨h₁, h₂⟩ ↦ ⟨h₁, h₂⟩, fun ⟨h₁, h₂⟩ ↦ ⟨h₁, h₂⟩⟩

variable {d : Disk} {place : DiskPlace} {parts : List String}

/-- What is found at another place than the root is an entry. -/
theorem exists_entry_of_lookup (hplace : place ≠ []) {e : DiskEntry}
    (h : d.lookup place = some e) : (place, e) ∈ d.entries := by
  rw [lookup, if_neg hplace] at h
  obtain ⟨found, hfound, rfl⟩ := Option.map_eq_some_iff.mp h
  have hplace' := List.find?_some hfound
  rw [← eq_of_beq hplace']
  exact List.mem_of_find?_eq_some hfound

theorem exists_lookup_of_entry {e : DiskEntry} (h : (place, e) ∈ d.entries) :
    ∃ e', d.lookup place = some e' := by
  by_cases hplace : place = []
  · exact ⟨_, by rw [lookup, if_pos hplace]⟩
  · rw [lookup, if_neg hplace]
    cases hfind : d.entries.find? fun e' ↦ e'.1 == place with
    | none => exact absurd (beq_self_eq_true place) (List.find?_eq_none.mp hfind _ h)
    | some found => exact ⟨_, rfl⟩

/-- The places below a place are those that something is at. -/
theorem mem_placesBelow_iff : parts ∈ d.placesBelow place ↔
    parts ≠ [] ∧ ∃ e, d.lookup (place ++ parts) = some e := by
  rw [placesBelow, List.mem_filterMap]
  constructor
  · rintro ⟨⟨other, e⟩, he, hparts⟩
    split at hparts
    next hbelow =>
      rw [Bool.and_eq_true, List.isPrefixOf_iff_prefix, decide_eq_true_eq] at hbelow
      obtain ⟨⟨more, rfl⟩, hlt⟩ := hbelow
      rw [List.drop_left] at hparts
      obtain rfl := Option.some.inj hparts
      refine ⟨?_, exists_lookup_of_entry he⟩
      rintro rfl
      rw [List.append_nil] at hlt
      exact lt_irrefl _ hlt
    next => cases hparts
  · rintro ⟨hne, e, he⟩
    have hplace : place ++ parts ≠ [] := List.append_ne_nil_of_right_ne_nil _ hne
    have hlt : place.length < (place ++ parts).length := by
      rw [List.length_append]
      exact Nat.lt_add_of_pos_right (List.length_pos_of_ne_nil hne)
    refine ⟨_, exists_entry_of_lookup hplace he, ?_⟩
    dsimp only
    rw [if_pos, List.drop_left]
    rw [Bool.and_eq_true, List.isPrefixOf_iff_prefix, decide_eq_true_eq]
    exact ⟨List.prefix_append _ _, hlt⟩

theorem IsTree.name_of_lookup (h : d.IsTree) (hne : parts ≠ []) {e : DiskEntry}
    (he : d.lookup (place ++ parts) = some e) : ∀ part ∈ parts, IsEntryName part := by
  intro part hpart
  have hentry := exists_entry_of_lookup (List.append_ne_nil_of_right_ne_nil _ hne) he
  exact h.name _ hentry part (List.mem_append_right _ hpart)

/-! ## Following names -/

/-- Names are followed through directories. -/
theorem follow_of_directories (hparts : ∀ part ∈ parts, IsEntryName part)
    (hdirectories : ∀ n < parts.length, d.HasDirectoryAt (place ++ parts.take n)) :
    d.follow place parts = .ok (place ++ parts) := by
  induction parts generalizing place with
  | nil => rw [follow, List.append_nil]
  | cons part parts ih =>
    obtain ⟨hpart, hparts⟩ := List.forall_mem_cons.mp hparts
    obtain ⟨time, hplace⟩ := hdirectories 0 (Nat.succ_pos _)
    rw [List.take_zero, List.append_nil] at hplace
    have hbehind : ∀ n < parts.length, d.HasDirectoryAt (place ++ [part] ++ parts.take n) := by
      intro n hn
      have hdirectory := hdirectories (n + 1) (Nat.succ_lt_succ hn)
      rwa [List.take_succ_cons, ← List.singleton_append, ← List.append_assoc] at hdirectory
    rw [follow, hplace]
    dsimp only
    rw [if_neg (Nat.not_lt.mpr hpart.short), if_neg (by simpa using hpart.ne_dots),
      ih hparts hbehind, List.append_assoc, List.singleton_append]

/-- Names are not too long to be followed. -/
theorem follow_ne_nameTooLong (hparts : ∀ part ∈ parts, IsEntryName part) (place : DiskPlace) :
    d.follow place parts ≠ .error .nameTooLong := by
  induction parts generalizing place with
  | nil =>
    rw [follow]
    simp
  | cons part parts ih =>
    obtain ⟨hpart, hparts⟩ := List.forall_mem_cons.mp hparts
    rw [follow]
    split
    · simp
    · simp
    · rw [if_neg (Nat.not_lt.mpr hpart.short)]
      exact ih hparts _

end Disk

/-! ## Paths of names -/

namespace Path

/-- The path of what lies below a directory, given by the names on the way. -/
def descend (p : Path) (parts : List String) : Path :=
  ⟨p.root, p.parts ++ parts⟩

theorem upTo_descend (p : Path) (parts : List String) :
    (p.descend parts).upTo p.parts.length = p := by
  rw [upTo, descend, List.take_left]

/-- The path that is written with names. -/
theorem ofString_joinStrings {parts : List String} (hne : parts ≠ [])
    (hparts : ∀ part ∈ parts, IsEntryName part) :
    ofString (joinStrings "/" parts) = ⟨"", parts⟩ := by
  have hfields : fieldStrings (· == '/') (joinStrings "/" parts) = parts :=
    fieldStrings_joinStrings (by decide) hne fun part hpart ↦ (hparts part hpart).slash
  have hcomponents : components (joinStrings "/" parts) = parts := by
    rw [components, hfields, List.filter_eq_self]
    intro part hpart
    rw [Bool.and_eq_true, bne_iff_ne, bne_iff_ne]
    exact ⟨(hparts part hpart).ne_empty, (hparts part hpart).ne_dot⟩
  have hroot : rootOf (joinStrings "/" parts) = "" := by
    obtain ⟨part, more, rfl⟩ := List.exists_cons_of_ne_nil hne
    obtain ⟨hpart, -⟩ := List.forall_mem_cons.mp hparts
    have hchars : part.toList ≠ [] := fun hnil ↦ hpart.ne_empty (String.toList_eq_nil_iff.mp hnil)
    obtain ⟨c, cs, hcs⟩ := List.exists_cons_of_ne_nil hchars
    have hc : c ≠ '/' := by
      rintro rfl
      exact hpart.slash (hcs ▸ List.mem_cons_self)
    have hhead : ∃ rest, (joinStrings "/" (part :: more)).toList = c :: rest := by
      rw [joinStrings, String.toList_intercalate, List.map_cons, hcs]
      rcases more with _ | ⟨part', more⟩
      · exact ⟨cs, by rw [List.map_nil, List.intercalate_singleton]⟩
      · exact ⟨_, by rw [List.map_cons, List.intercalate_cons_cons, List.append_assoc,
          List.cons_append]⟩
    obtain ⟨rest, hrest⟩ := hhead
    rw [rootOf, hrest, List.takeWhile_cons, if_neg (by simpa using hc)]
  rw [ofString, hcomponents, hroot]

theorem join_ofString_joinStrings (p : Path) {parts : List String} (hne : parts ≠ [])
    (hparts : ∀ part ∈ parts, IsEntryName part) :
    p.join (ofString (joinStrings "/" parts)) = p.descend parts := by
  rw [ofString_joinStrings hne hparts]
  rfl

end Path

/-! ## What is found below a directory -/

namespace Disk

variable {d : Disk} {place : DiskPlace} {parts : List String} {p : Path}

theorem find_eq_ok {e : DiskEntry} :
    d.find p = .ok (place, e) ↔ d.locate p = .ok place ∧ d.lookup place = some e := by
  rw [find, bind_eq_ok]
  constructor
  · rintro ⟨place', hplace, h⟩
    split at h
    next => cases h
    next hlookup =>
      cases h
      exact ⟨hplace, hlookup⟩
  · rintro ⟨hplace, hlookup⟩
    refine ⟨place, hplace, ?_⟩
    rw [hlookup]

/-- A path is too long if it cannot be followed for that. -/
theorem find_eq_nameTooLong :
    d.find p = .error .nameTooLong ↔ d.locate p = .error .nameTooLong := by
  rw [find, bind_eq_error]
  constructor
  · rintro (h | ⟨place, -, h⟩)
    · exact h
    · split at h <;> cases h
  · exact .inl

/-- What a path denotes below a directory is below what the directory denotes. -/
theorem exists_directory_of_find (hne : parts ≠ []) (hparts : ∀ part ∈ parts, IsEntryName part)
    {e : DiskEntry} (h : d.find (p.descend parts) = .ok (place, e)) :
    ∃ dir time, d.find p = .ok (dir, .directory time) ∧ d.lookup (dir ++ parts) = some e := by
  obtain ⟨hlocate, hlookup⟩ := find_eq_ok.mp h
  obtain ⟨dir, hdir, hrest⟩ := exists_locate_upTo hlocate p.parts.length
  rw [Path.upTo_descend] at hdir
  rw [Path.descend, List.drop_left] at hrest
  obtain ⟨time, htime⟩ := exists_directory_of_follow hne hrest
  obtain rfl := follow_inside (fun hmem ↦ (hparts _ hmem).ne_dots rfl) hrest
  exact ⟨dir, time, find_eq_ok.mpr ⟨hdir, htime⟩, hlookup⟩

/-- An entry below a directory is what its path denotes, unless the path is too long. -/
theorem find_descend (htree : d.IsTree) {time : Int}
    (hp : d.find p = .ok (place, .directory time)) (hne : parts ≠ []) {e : DiskEntry}
    (he : d.lookup (place ++ parts) = some e) : d.find (p.descend parts) =
      if pathLimit ≤ (p.descend parts).toString.utf8ByteSize then .error .nameTooLong
      else .ok (place ++ parts, e) := by
  have hparts := htree.name_of_lookup hne he
  obtain ⟨hlocate, hplace⟩ := find_eq_ok.mp hp
  obtain ⟨hnull, -, hfollow⟩ := locate_eq_ok.mp hlocate
  have hnull' :
      ((p.descend parts).parts.any fun part ↦ part.toList.contains '\x00') = false := by
    rw [Path.descend, List.any_append, hnull, Bool.false_or, List.any_eq_false]
    intro part hpart
    rw [List.contains_iff_mem]
    exact (hparts part hpart).null
  by_cases hlong : pathLimit ≤ (p.descend parts).toString.utf8ByteSize
  · rw [if_pos hlong, find_eq_nameTooLong, locate,
      if_neg (by rw [hnull']; exact Bool.false_ne_true), if_pos hlong]
  · have hentry := exists_entry_of_lookup (List.append_ne_nil_of_right_ne_nil _ hne) he
    have hdirectories : ∀ n < parts.length, d.HasDirectoryAt (place ++ parts.take n) := by
      intro n hn
      have hlt : place.length + n < (place ++ parts).length := by
        rw [List.length_append]
        omega
      have hdirectory := htree.directory _ hentry _ hlt
      rwa [List.take_length_add_append] at hdirectory
    rw [if_neg hlong]
    refine find_eq_ok.mpr ⟨locate_eq_ok.mpr ⟨hnull', Nat.lt_of_not_le hlong, ?_⟩, he⟩
    rw [Path.descend, follow_append]
    exact bind_eq_ok.mpr ⟨place, hfollow, follow_of_directories hparts hdirectories⟩

/-- Below a directory that can be asked for, only the whole path can be too long. -/
theorem pathLimit_le_of_find (hp : d.find p ≠ .error .nameTooLong)
    (hparts : ∀ part ∈ parts, IsEntryName part)
    (h : d.find (p.descend parts) = .error .nameTooLong) :
    pathLimit ≤ (p.descend parts).toString.utf8ByteSize := by
  by_contra hshort
  have hlocate := find_eq_nameTooLong.mp h
  rw [locate, if_neg hshort] at hlocate
  split at hlocate
  next => cases hlocate
  next hnull =>
    rw [Path.descend, List.any_append, Bool.not_eq_true, Bool.or_eq_false_iff] at hnull
    rw [Path.descend, follow_append, bind_eq_error] at hlocate
    rcases hlocate with hdir | ⟨dir, -, hrest⟩
    · refine hp (find_eq_nameTooLong.mpr ?_)
      have hle := (p.descend parts).utf8ByteSize_upTo_le p.parts.length
      rw [Path.upTo_descend] at hle
      have hlt : ¬ pathLimit ≤ p.toString.utf8ByteSize := by
        rw [pathLimit] at hshort ⊢
        omega
      rw [locate, if_neg (by rw [hnull.1]; exact Bool.false_ne_true), if_neg hlt]
      exact hdir
    · exact follow_ne_nameTooLong hparts dir hrest

/-- Which paths denote files. -/
theorem isFile_eq (d : Disk) (p : Path) : d.isFile p =
    match d.find p with
    | .ok (_, .file ..) => .ok true
    | .error .nameTooLong => .error (DiskFault.nameTooLong.crash p)
    | _ => .ok false := by
  rw [isFile, probe]
  rcases d.find p with fault | ⟨place, e⟩
  · cases fault <;> rfl
  · cases e <;> rfl

/-- Which paths denote directories. -/
theorem isDirectory_eq (d : Disk) (p : Path) : d.isDirectory p =
    match d.find p with
    | .ok (_, .directory _) => .ok true
    | .error .nameTooLong => .error (DiskFault.nameTooLong.crash p)
    | _ => .ok false := by
  rw [isDirectory, probe]
  rcases d.find p with fault | ⟨place, e⟩
  · cases fault <;> rfl
  · cases e <;> rfl

end Disk

namespace Template

/-! ## What a search directory has -/

namespace SearchDirectory

/-- The disk that a search directory is on. -/
def diskOf (dir : SearchDirectory) (disk : Disk) : Disk :=
  (dir.locate disk).1

/-- The path of a search directory. -/
def path (dir : SearchDirectory) (disk : Disk) : Path :=
  (dir.locate disk).2

/-- An entry lies below a search directory, at the end of some names. -/
def Contains (dir : SearchDirectory) (disk : Disk) (parts : List String) (e : DiskEntry) : Prop :=
  ∃ place time, (dir.diskOf disk).find (dir.path disk) = .ok (place, .directory time) ∧
    parts ≠ [] ∧ (dir.diskOf disk).lookup (place ++ parts) = some e

/-- A file lies below a search directory. -/
def HasFile (dir : SearchDirectory) (disk : Disk) (parts : List String) : Prop :=
  ∃ bytes modified, dir.Contains disk parts (.file bytes modified)

variable {dir : SearchDirectory} {disk : Disk} {parts : List String} {name : String}

/-- The name of the template at the end of some names. -/
def templateName? (parts : List String) : Option String :=
  let cs := (joinStrings "/" parts).toList
  let suffix := templateSuffix.toList
  if suffix.isSuffixOf cs then some (String.ofList (cs.take (cs.length - suffix.length))) else none

theorem templateName?_eq_some :
    templateName? parts = some name ↔ joinStrings "/" parts = name ++ templateSuffix := by
  rw [templateName?]
  constructor
  · intro h
    split at h
    next hsuffix =>
      obtain ⟨before, hbefore⟩ := List.isSuffixOf_iff_suffix.mp hsuffix
      rw [← hbefore, List.length_append, Nat.add_sub_cancel, List.take_left] at h
      rw [← Option.some.inj h, ← String.toList_inj, ← hbefore, String.toList_append,
        String.toList_ofList]
    next => cases h
  · intro h
    rw [h, String.toList_append, if_pos (List.isSuffixOf_iff_suffix.mpr (List.suffix_append _ _)),
      List.length_append, Nat.add_sub_cancel, List.take_left, String.ofList_toList]

/-- The names in a directory, by what its path denotes. -/
theorem names_eq (dir : SearchDirectory) (disk : Disk) : dir.names disk =
    match (dir.diskOf disk).find (dir.path disk) with
    | .ok (place, .directory _) =>
      .ok (((dir.diskOf disk).placesBelow place).filterMap templateName?)
    | .error .nameTooLong => .error (.crash (DiskFault.nameTooLong.crash (dir.path disk)))
    | _ => .ok [] := by
  rw [names, diskOf, path]
  generalize dir.locate disk = located
  obtain ⟨disk', directory⟩ := located
  dsimp only
  rw [Disk.isDirectory_eq]
  rcases hfind : disk'.find directory with fault | ⟨place, e⟩
  · cases fault <;> rfl
  · cases e <;> rfl

/-- The names in a directory are those of the entries below it, of whatever kind they are. -/
theorem mem_names_iff {ns : List String} (h : dir.names disk = .ok ns) (name : String) :
    name ∈ ns ↔
      ∃ parts e, dir.Contains disk parts e ∧ joinStrings "/" parts = name ++ templateSuffix := by
  rw [names_eq] at h
  split at h
  next place time hfind =>
    obtain rfl := Except.ok.inj h
    rw [List.mem_filterMap]
    constructor
    · rintro ⟨parts, hparts, hname⟩
      obtain ⟨hne, e, he⟩ := Disk.mem_placesBelow_iff.mp hparts
      exact ⟨parts, e, ⟨place, time, hfind, hne, he⟩, templateName?_eq_some.mp hname⟩
    · rintro ⟨parts, e, ⟨place', time', hfind', hne, he⟩, hname⟩
      cases hfind.symm.trans hfind'
      exact ⟨parts, Disk.mem_placesBelow_iff.mpr ⟨hne, e, he⟩, templateName?_eq_some.mpr hname⟩
  next => cases h
  next hother _ =>
    obtain rfl := Except.ok.inj h
    constructor
    · intro hname
      cases hname
    · rintro ⟨parts, e, ⟨place, time, hfind, -⟩, -⟩
      exact absurd hfind (hother place time)

/-- The path that a name is looked for at in a directory. -/
def candidate (dir : SearchDirectory) (disk : Disk) (name : String) : Path :=
  (dir.path disk).join (Path.ofString (name ++ templateSuffix))

/-- What looking for a name comes to in one directory. -/
theorem file?_eq (dir : SearchDirectory) (disk : Disk) (name : String) : dir.file? disk name =
    match (dir.diskOf disk).find (dir.candidate disk name) with
    | .ok (place, .file bytes modified) => .ok (some ⟨dir.keyAt place, bytes, modified⟩)
    | .error .nameTooLong =>
      .error (.crash (DiskFault.nameTooLong.crash (dir.candidate disk name)))
    | _ => .ok none := by
  rw [file?, candidate, diskOf, path]
  generalize dir.locate disk = located
  obtain ⟨disk', directory⟩ := located
  dsimp only
  rw [Disk.isFile_eq]
  rcases hfind : disk'.find (directory.join (Path.ofString (name ++ templateSuffix))) with
    fault | ⟨place, e⟩
  · cases fault <;> rfl
  · cases e <;> rfl

/-- What looking for a name comes to: the file below the directory, if there is one, unless there is
no telling. -/
theorem file?_cases (htree : (dir.diskOf disk).IsTree)
    (hdir : (dir.diskOf disk).find (dir.path disk) ≠ .error .nameTooLong) (hne : parts ≠ [])
    (hparts : ∀ part ∈ parts, IsEntryName part)
    (hname : joinStrings "/" parts = name ++ templateSuffix) :
    (∃ key bytes modified, dir.Contains disk parts (.file bytes modified) ∧
      dir.file? disk name = .ok (some ⟨key, bytes, modified⟩)) ∨
    (¬ dir.HasFile disk parts ∧ dir.file? disk name = .ok none) ∨
    (Disk.pathLimit ≤ (dir.candidate disk name).toString.utf8ByteSize ∧
      dir.file? disk name =
        .error (.crash (DiskFault.nameTooLong.crash (dir.candidate disk name)))) := by
  have hcandidate : dir.candidate disk name = (dir.path disk).descend parts := by
    rw [candidate, ← hname, Path.join_ofString_joinStrings _ hne hparts]
  -- what a file below the directory says about its path
  have hfile : ∀ bytes modified, dir.Contains disk parts (.file bytes modified) →
      (dir.diskOf disk).find (dir.candidate disk name) =
          .error .nameTooLong ∨
        ∃ place, (dir.diskOf disk).find (dir.candidate disk name) =
          .ok (place, .file bytes modified) := by
    rintro bytes modified ⟨place, time, hfind, -, he⟩
    rw [hcandidate, Disk.find_descend htree hfind hne he]
    by_cases hlong : Disk.pathLimit ≤ ((dir.path disk).descend parts).toString.utf8ByteSize
    · exact .inl (if_pos hlong)
    · exact .inr ⟨_, if_neg hlong⟩
  rw [file?_eq]
  rcases hfind : (dir.diskOf disk).find (dir.candidate disk name) with fault | ⟨place, e⟩
  · by_cases hlong : fault = .nameTooLong
    · subst hlong
      refine .inr (.inr ⟨?_, rfl⟩)
      rw [hcandidate] at hfind ⊢
      exact Disk.pathLimit_le_of_find hdir hparts hfind
    · refine .inr (.inl ⟨?_, ?_⟩)
      · rintro ⟨bytes, modified, hcontains⟩
        rcases hfile bytes modified hcontains with herror | ⟨place, hok⟩
        · rw [hfind] at herror
          exact hlong (Except.error.inj herror)
        · rw [hfind] at hok
          cases hok
      · cases fault <;> first | rfl | exact absurd rfl hlong
  · rcases e with time | ⟨bytes, modified⟩
    · refine .inr (.inl ⟨?_, rfl⟩)
      rintro ⟨bytes, modified, hcontains⟩
      rcases hfile bytes modified hcontains with herror | ⟨place, hok⟩
      · rw [hfind] at herror
        cases herror
      · rw [hfind] at hok
        cases hok
    · refine .inl ⟨_, bytes, modified, ?_, rfl⟩
      rw [hcandidate] at hfind
      obtain ⟨dir', time, hdir', hlookup⟩ := Disk.exists_directory_of_find hne hparts hfind
      exact ⟨dir', time, hdir', hne, hlookup⟩

end SearchDirectory

theorem isTree_builtinDisk : builtinDisk.IsTree := by
  decide +kernel

theorem SearchDirectory.isTree_diskOf {disk : Disk} (h : disk.IsTree) (dir : SearchDirectory) :
    (dir.diskOf disk).IsTree := by
  rw [SearchDirectory.diskOf]
  rcases dir with directory | _
  · exact h
  · dsimp only [SearchDirectory.locate]
    exact isTree_builtinDisk

/-! ## What a library has -/

section Library

variable {disk : Disk} {dirs : List SearchDirectory} {parts : List String} {name : String}

/-- What looking for a name in directories comes to: the file in the first one that has one, unless
there is no telling. -/
theorem findTemplate?_cases (hdisk : disk.IsTree)
    (hdirs : ∀ dir ∈ dirs, (dir.diskOf disk).find (dir.path disk) ≠ .error .nameTooLong)
    (hne : parts ≠ []) (hparts : ∀ part ∈ parts, IsEntryName part)
    (hname : joinStrings "/" parts = name ++ templateSuffix) :
    (∃ before dir after key bytes modified, dirs = before ++ dir :: after ∧
      (∀ dir' ∈ before, ¬ dir'.HasFile disk parts) ∧
      dir.Contains disk parts (.file bytes modified) ∧
      findTemplate? disk dirs name = .ok (some ⟨key, bytes, modified⟩)) ∨
    ((∀ dir ∈ dirs, ¬ dir.HasFile disk parts) ∧ findTemplate? disk dirs name = .ok none) ∨
    ∃ dir ∈ dirs, Disk.pathLimit ≤ (dir.candidate disk name).toString.utf8ByteSize ∧
      findTemplate? disk dirs name =
        .error (.crash (DiskFault.nameTooLong.crash (dir.candidate disk name))) := by
  induction dirs with
  | nil => exact .inr (.inl ⟨nofun, rfl⟩)
  | cons dir dirs ih =>
    obtain ⟨hdir, hdirs⟩ := List.forall_mem_cons.mp hdirs
    rcases dir.file?_cases (dir.isTree_diskOf hdisk) hdir hne hparts hname with
      ⟨key, bytes, modified, hcontains, hfile⟩ | ⟨hnone, hfile⟩ | ⟨hlong, hfile⟩
    · refine .inl ⟨[], dir, dirs, key, bytes, modified, rfl, nofun, hcontains, ?_⟩
      rw [findTemplate?, hfile]
      rfl
    · have hrest : findTemplate? disk (dir :: dirs) name = findTemplate? disk dirs name := by
        rw [findTemplate?, hfile]
        rfl
      rw [hrest]
      rcases ih hdirs with ⟨before, dir', after, key, bytes, modified, rfl, hbefore, hfound⟩ |
        ⟨hnone', hfound⟩ | ⟨dir', hdir', hfound⟩
      · exact .inl ⟨dir :: before, dir', after, key, bytes, modified, rfl,
          List.forall_mem_cons.mpr ⟨hnone, hbefore⟩, hfound⟩
      · exact .inr (.inl ⟨List.forall_mem_cons.mpr ⟨hnone, hnone'⟩, hfound⟩)
      · exact .inr (.inr ⟨dir', List.mem_cons_of_mem _ hdir', hfound⟩)
    · refine .inr (.inr ⟨dir, List.mem_cons_self, hlong, ?_⟩)
      rw [findTemplate?, hfile]
      rfl

/-- Names are put in ascending order, each of them once. -/
theorem pairwise_lt_eraseDups_mergeSort (names : List String) :
    (names.mergeSort (· ≤ ·)).eraseDups.Pairwise (· < ·) := by
  have hsorted : (names.mergeSort (· ≤ ·)).Pairwise fun a b ↦ decide (a ≤ b) = true := by
    refine List.pairwise_mergeSort (fun a b c hab hbc ↦ ?_) (fun a b ↦ ?_) names
    · rw [decide_eq_true_eq] at hab hbc ⊢
      exact le_trans hab hbc
    · rw [Bool.or_eq_true, decide_eq_true_eq, decide_eq_true_eq]
      exact le_total _ _
  simp only [decide_eq_true_eq] at hsorted
  have hle := hsorted.sublist (eraseDups_sublist _)
  exact (hle.and (nodup_eraseDups _)).imp fun h ↦ lt_of_le_of_ne h.1 h.2

namespace TemplateLibrary

/-- What the names of a library of files are, unless there is no telling. -/
theorem names_files_cases (disk : Disk) (dirs : List SearchDirectory) (category : Option String) :
    (∃ ns, (files dirs).names disk category = .ok ns ∧ ns.Pairwise (· < ·) ∧
      (∀ dir ∈ dirs, (dir.diskOf disk).find (dir.path disk) ≠ .error .nameTooLong) ∧
      ∀ n, n ∈ ns ↔ inCategory category n = true ∧ ∃ dir ∈ dirs, ∃ parts e,
        dir.Contains disk parts e ∧ joinStrings "/" parts = n ++ templateSuffix) ∨
    ∃ dir ∈ dirs, (dir.diskOf disk).find (dir.path disk) = .error .nameTooLong ∧
      (files dirs).names disk category =
        .error (.crash (DiskFault.nameTooLong.crash (dir.path disk))) := by
  rcases hlists : dirs.mapM fun dir ↦ dir.names disk with failure | lists
  · right
    obtain ⟨dir, hdir, hfailure⟩ := exists_of_mapM_eq_error hlists
    rw [SearchDirectory.names_eq] at hfailure
    split at hfailure
    next => cases hfailure
    next hfind =>
      refine ⟨dir, hdir, hfind, ?_⟩
      obtain rfl := Except.error.inj hfailure
      rw [names, hlists]
      rfl
    next => cases hfailure
  · left
    have hall : ∀ dir ∈ dirs, ∃ ns, dir.names disk = .ok ns :=
      exists_mapM_eq_ok.mp ⟨lists, hlists⟩
    refine ⟨((lists.flatten.filter (inCategory category)).mergeSort (· ≤ ·)).eraseDups, ?_,
      pairwise_lt_eraseDups_mergeSort _, ?_, ?_⟩
    · rw [names, hlists]
      rfl
    · intro dir hdir hlong
      obtain ⟨ns, hns⟩ := hall dir hdir
      rw [SearchDirectory.names_eq, hlong] at hns
      cases hns
    · intro n
      rw [List.mem_eraseDups, List.mem_mergeSort, List.mem_filter, List.mem_flatten, and_comm]
      refine and_congr_right fun _ ↦ ?_
      constructor
      · rintro ⟨ns, hns, hn⟩
        obtain ⟨dir, hdir, hnames⟩ := exists_of_mem_mapM hlists hns
        exact ⟨dir, hdir, (SearchDirectory.mem_names_iff hnames n).mp hn⟩
      · rintro ⟨dir, hdir, hn⟩
        obtain ⟨ns, hns, hnames⟩ := exists_mem_of_mapM hlists hdir
        exact ⟨ns, hns, (SearchDirectory.mem_names_iff hnames n).mpr hn⟩

/-- A name in a category begins with it. -/
theorem inCategory_iff {category : Option String} {n : String} :
    inCategory category n = true ↔
      ∀ c, category = some c → (c ++ "/").toList <+: n.toList := by
  rw [inCategory]
  rcases category with _ | c
  · exact iff_of_true rfl nofun
  · rw [Option.all_some, List.isPrefixOf_iff_prefix]
    constructor
    · intro h c' hc
      obtain rfl := Option.some.inj hc
      exact h
    · intro h
      exact h c rfl

theorem has_of_findTemplate? {found : Option TemplateFile}
    (h : findTemplate? disk dirs name = .ok found) :
    (files dirs).has disk name = .ok found.isSome := by
  rw [has, h]
  rfl

theorem load_of_some {file : TemplateFile} (h : findTemplate? disk dirs name = .ok (some file)) :
    (files dirs).load disk name = decodeSource file.bytes := by
  rw [load, h]
  rfl

theorem load_of_none (h : findTemplate? disk dirs name = .ok none) :
    (files dirs).load disk name = .error (.diagnostic (templateNotFound name)) := by
  rw [load, h]
  rfl

/-- **What the listed templates are, and which of them can be loaded.** The names are in ascending
order, without repetitions. They are those of the entries below the directories that end in the
suffix, and a category has the names that begin with it and a slash.

A listed name that some directory has a file of exists, and what is loaded is the text of the file
in the first of these directories. If no directory has a file of the name, and it is listed for a
directory that is called so, then it does not exist and cannot be loaded. There is no telling only
where a path is too long to be asked for. -/
theorem names_listed (hdisk : disk.IsTree) (dirs : List SearchDirectory)
    (category : Option String) :
    (∃ ns, (files dirs).names disk category = .ok ns ∧ ns.Pairwise (· < ·) ∧
      (∀ n, n ∈ ns ↔ (∀ c, category = some c → (c ++ "/").toList <+: n.toList) ∧
        ∃ dir ∈ dirs, ∃ parts e, dir.Contains disk parts e ∧
          joinStrings "/" parts = n ++ ".j2") ∧
      ∀ n ∈ ns, ∃ parts, joinStrings "/" parts = n ++ ".j2" ∧
        ((∃ before dir after bytes modified, dirs = before ++ dir :: after ∧
            (∀ dir' ∈ before, ¬ dir'.HasFile disk parts) ∧
            dir.Contains disk parts (.file bytes modified) ∧
            (files dirs).has disk n = .ok true ∧
            (files dirs).load disk n = decodeSource bytes) ∨
          ((∀ dir ∈ dirs, ¬ dir.HasFile disk parts) ∧ (files dirs).has disk n = .ok false ∧
            (files dirs).load disk n = .error (.diagnostic (templateNotFound n))) ∨
          ∃ dir ∈ dirs, Disk.pathLimit ≤ (dir.candidate disk n).toString.utf8ByteSize ∧
            (files dirs).has disk n =
              .error (.crash (DiskFault.nameTooLong.crash (dir.candidate disk n))) ∧
            (files dirs).load disk n =
              .error (.crash (DiskFault.nameTooLong.crash (dir.candidate disk n))))) ∨
    ∃ dir ∈ dirs, (dir.diskOf disk).find (dir.path disk) = .error .nameTooLong ∧
      (files dirs).names disk category =
        .error (.crash (DiskFault.nameTooLong.crash (dir.path disk))) := by
  rcases names_files_cases disk dirs category with ⟨ns, hns, hsorted, hdirs, hmem⟩ | hlong
  · refine .inl ⟨ns, hns, hsorted, ?_, ?_⟩
    · intro n
      rw [hmem, inCategory_iff]
      rfl
    · intro n hn
      obtain ⟨-, dir, hdir, parts, e, ⟨place, time, -, hne, he⟩, hname⟩ := (hmem n).mp hn
      have hparts := (dir.isTree_diskOf hdisk).name_of_lookup hne he
      refine ⟨parts, hname, ?_⟩
      rcases findTemplate?_cases hdisk hdirs hne hparts hname with
        ⟨before, dir', after, key, bytes, modified, hsplit, hbefore, hcontains, hfound⟩ |
          ⟨hnone, hfound⟩ | ⟨dir', hdir', hlong, hfound⟩
      · exact .inl ⟨before, dir', after, bytes, modified, hsplit, hbefore, hcontains,
          has_of_findTemplate? hfound, load_of_some hfound⟩
      · exact .inr (.inl ⟨hnone, has_of_findTemplate? hfound, load_of_none hfound⟩)
      · refine .inr (.inr ⟨dir', hdir', hlong, ?_, ?_⟩)
        · rw [has, hfound]
          rfl
        · rw [load, hfound]
          rfl
  · exact .inr hlong

/-- Two directories: the first one has a directory where the second one has a file. -/
def overlaid : Disk :=
  let own := (Disk.empty []).install (Path.ofString "own/menu.j2/item.j2")
    (.file (encodeUtf8 ['o']) 0)
  own.install (Path.ofString "shared/menu.j2") (.file (encodeUtf8 ['s']) 0)

/-- The directories of `overlaid`. -/
def overlaidDirectories : List SearchDirectory :=
  [.project (Path.ofString "own"), .project (Path.ofString "shared")]

/-- The file in the second directory is loaded, as the first one has no file of the name. -/
theorem names_listed_overlaid :
    overlaid.IsTree ∧ ∃ ns, (files overlaidDirectories).names overlaid none = .ok ns ∧
      ns.Pairwise (· < ·) ∧ "menu" ∈ ns ∧ "menu.j2/item" ∈ ns ∧
      (files overlaidDirectories).has overlaid "menu" = .ok true ∧
      (files overlaidDirectories).load overlaid "menu" = .ok "s" := by
  have htree : overlaid.IsTree := by decide +kernel
  have hown : overlaid.find (Path.ofString "own") = .ok (["own"], .directory directoryTime) :=
    toOption_eq_some.mp (by decide +kernel)
  have hitem : overlaid.lookup ["own", "menu.j2", "item.j2"] =
      some (.file (encodeUtf8 ['o']) 0) := by
    decide +kernel
  have hmenu : overlaid.lookup ["own", "menu.j2"] = some (.directory directoryTime) := by
    decide +kernel
  have hload : (files overlaidDirectories).load overlaid "menu" = .ok "s" :=
    toOption_eq_some.mp (by decide +kernel)
  have hhas : (files overlaidDirectories).has overlaid "menu" = .ok true :=
    toOption_eq_some.mp (by decide +kernel)
  rcases names_listed htree overlaidDirectories none with
    ⟨ns, hns, hsorted, hmem, -⟩ | ⟨dir, hdir, hfault, -⟩
  · refine ⟨htree, ns, hns, hsorted, (hmem _).mpr ⟨nofun, ?_⟩, (hmem _).mpr ⟨nofun, ?_⟩, hhas,
      hload⟩
    · exact ⟨_, List.mem_cons_self, ["menu.j2"], _,
        ⟨_, _, hown, List.cons_ne_nil _ _, hmenu⟩, by decide +kernel⟩
    · exact ⟨_, List.mem_cons_self, ["menu.j2", "item.j2"], _,
        ⟨_, _, hown, List.cons_ne_nil _ _, hitem⟩, by decide +kernel⟩
  · have hfound : ∀ dir ∈ overlaidDirectories,
        ((dir.diskOf overlaid).find (dir.path overlaid)).toOption.isSome = true := by
      decide +kernel
    have hsome := hfound dir hdir
    rw [hfault] at hsome
    cases hsome

/-- A directory that is called like a template. -/
def misleading : Disk :=
  (Disk.empty []).install (Path.ofString "t/a.j2/b.txt") (.file (encodeUtf8 ['x']) 0)

/-- A directory that is called like a template is listed, but it does not exist as one and cannot be
loaded. -/
theorem directory_listed :
    misleading.IsTree ∧
    (files [.project (Path.ofString "t")]).names misleading none = .ok ["a"] ∧
    (files [.project (Path.ofString "t")]).has misleading "a" = .ok false ∧
    (files [.project (Path.ofString "t")]).load misleading "a" =
      .error (.diagnostic (templateNotFound "a")) := by
  have hnames : SearchDirectory.names misleading (.project (Path.ofString "t")) = .ok ["a"] :=
    toOption_eq_some.mp (by decide +kernel)
  have hhas : (files [.project (Path.ofString "t")]).has misleading "a" = .ok false :=
    toOption_eq_some.mp (by decide +kernel)
  refine ⟨by decide +kernel, ?_, hhas, ?_⟩
  · have hlists : [SearchDirectory.project (Path.ofString "t")].mapM
        (fun dir ↦ dir.names misleading) = .ok [["a"]] :=
      mapM_eq_ok.mpr (.cons hnames .nil)
    rw [names, hlists]
    simp [inCategory, List.eraseDups_cons]
  · obtain ⟨found, hfound, hsome⟩ := bind_eq_ok.mp hhas
    rcases found with _ | file
    · exact load_of_none hfound
    · cases hsome

end TemplateLibrary

end Library

end Template

end DiagramForge
