import DiagramForge.Output.Write
import DiagramForge.Proofs.Disk
import Mathlib.Data.List.Nodup
import Mathlib.Data.List.Perm.Subperm

/-!
# Replacing a file

A file whose directory exists is written under a temporary name, which is then moved to the target.
`OutputFile.writeInto_spec` says what this comes to: one entry changes, the target's, or nothing does.
Whether it succeeds is up to `OutputFile.placing`, which asks the disk where paths lead and which
places are directories, and nothing else.
-/

namespace DiagramForge

open Outcome

/-! ## Names of temporary files -/

theorem toList_temporaryName (name : String) (n : Nat) :
    (temporaryName name n).toList = '.' :: name.toList ++ '.' ::
      (List.replicate (temporaryDigits - (Nat.toDigits 10 n).length) '0' ++ Nat.toDigits 10 n) ++
        ['.', 't', 'm', 'p'] := by
  simp [temporaryName]

/-- The name of a temporary file does not go up. -/
theorem temporaryName_ne_parent (name : String) (n : Nat) : temporaryName name n ≠ ".." := by
  intro heq
  have hmem : 't' ∈ (temporaryName name n).toList := by
    rw [toList_temporaryName]
    simp
  rw [heq] at hmem
  simp at hmem

/-- The name of a temporary file is longer than that of its target. -/
theorem temporaryName_ne (name : String) (n : Nat) : temporaryName name n ≠ name := by
  intro heq
  have hlength := congrArg List.length (toList_temporaryName name n)
  rw [heq] at hlength
  simp only [List.length_append, List.length_cons] at hlength
  omega

/-- Temporary files are told apart by their numbers. -/
theorem temporaryName_injective (name : String) : (temporaryName name).Injective := by
  intro m n heq
  have hlist := congrArg String.toList heq
  rw [toList_temporaryName, toList_temporaryName] at hlist
  have hnumber := List.append_cancel_left (List.append_cancel_right hlist)
  have hdigits := congrArg (Nat.ofDigitChars 10 · 0) (List.cons.inj hnumber).2
  simpa only [Nat.ofDigitChars_append, Nat.ofDigitChars_replicate_zero, Nat.mul_zero,
    Nat.ofDigitChars_ten_toDigits] using hdigits

namespace Disk

variable {d : Disk} {place dir : DiskPlace} {target : Path}

/-- Whatever is at a place other than the root is an entry. -/
theorem mem_places_of_lookup (hplace : place ≠ []) (h : d.lookup place ≠ none) :
    place ∈ d.entries.map Prod.fst := by
  rw [lookup, if_neg hplace, Ne, Option.map_eq_none_iff, List.find?_eq_none] at h
  push Not at h
  obtain ⟨e, he, heq⟩ := h
  rw [← eq_of_beq heq]
  exact List.mem_map_of_mem he

/-- There are more names for a temporary file than entries, so one of them is free. -/
theorem temporaryPlace_spec (d : Disk) (dir : DiskPlace) (name : String) :
    d.lookup (d.temporaryPlace dir name) = none ∧
      ∃ n, d.temporaryPlace dir name = dir ++ [temporaryName name n] := by
  let candidates := (List.range (d.entries.length + 1)).map fun n ↦ dir ++ [temporaryName name n]
  have hfree : ∃ place, candidates.find? (fun place ↦ (d.lookup place).isNone) = some place := by
    rw [← Option.isSome_iff_exists, List.find?_isSome]
    by_contra hnone
    push Not at hnone
    have hnodup : candidates.Nodup := by
      refine List.Nodup.map (fun m n heq ↦ ?_) List.nodup_range
      exact temporaryName_injective name (List.singleton_injective (List.append_cancel_left heq))
    have hsubset : candidates ⊆ d.entries.map Prod.fst := by
      intro place hplace
      refine mem_places_of_lookup ?_ fun heq ↦ hnone place hplace (by rw [heq]; rfl)
      obtain ⟨n, -, rfl⟩ := List.mem_map.mp hplace
      exact List.append_ne_nil_of_right_ne_nil _ (List.cons_ne_nil _ _)
    have hlength := (List.subperm_of_subset hnodup hsubset).length_le
    rw [List.length_map, List.length_map, List.length_range] at hlength
    omega
  obtain ⟨place, hplace⟩ := hfree
  have heq : d.temporaryPlace dir name = place := congrArg (·.getD dir) hplace
  obtain ⟨n, -, hn⟩ := List.mem_map.mp (List.mem_of_find?_eq_some hplace)
  have hnone := List.find?_some (p := fun place ↦ (d.lookup place).isNone) hplace
  rw [heq]
  exact ⟨Option.isNone_iff_eq_none.mp hnone, n, hn.symm⟩

/-! ## Moving a file -/

/-- The place that a file can be moved to under a path. -/
def destination (d : Disk) (target : Path) : Except DiskFault DiskPlace :=
  if target.parts.isEmpty || target.parts.getLast? == some ".." then .error .busy
  else do
    let place ← d.locate target
    match d.lookup place with
    | some (.directory _) => .error .isDirectory
    | _ => .ok place

theorem destination_eq_ok (h : d.destination target = .ok place) :
    d.locate target = .ok place ∧ (∀ time, d.lookup place ≠ some (.directory time)) ∧
      place ≠ [] := by
  rw [destination] at h
  split at h
  · cases h
  · obtain ⟨place', hlocate, hlookup⟩ := bind_eq_ok.mp h
    split at hlookup
    · cases hlookup
    next hfile =>
      cases hlookup
      refine ⟨hlocate, hfile, ?_⟩
      rintro rfl
      exact hfile directoryTime rfl

/-- A file goes into the directory of its path, under the name of the path. -/
theorem destination_eq_append (h : d.destination target = .ok place)
    (hdir : d.locate target.parent = .ok dir) : place = dir ++ [target.name] := by
  rw [destination] at h
  split at h
  · cases h
  next hparts =>
    rw [Bool.or_eq_true, not_or, List.isEmpty_iff, beq_iff_eq] at hparts
    have hname : target.name ≠ ".." := by
      rw [Path.name, List.getLast?_eq_getLast_of_ne_nil hparts.1, Option.getD_some]
      rw [List.getLast?_eq_getLast_of_ne_nil hparts.1] at hparts
      exact fun heq ↦ hparts.2 (congrArg some heq)
    obtain ⟨place', hlocate, hlookup⟩ := bind_eq_ok.mp h
    rw [← Path.child_parent_name hparts.1] at hlocate
    obtain ⟨dir', -, hdir', -, rfl⟩ := exists_locate_of_child hname hlocate
    cases hdir.symm.trans hdir'
    split at hlookup
    · cases hlookup
    · cases hlookup
      rfl

/-- Once the directory of a path is known, where the path leads depends on the path alone. -/
theorem locate_congr {d' : Disk} (hparts : target.parts ≠ [])
    (hdir : d.locate target.parent = .ok dir) (hdir' : d'.locate target.parent = .ok dir)
    {time time' : Int} (htime : d.lookup dir = some (.directory time))
    (htime' : d'.lookup dir = some (.directory time')) : d'.locate target = d.locate target := by
  rw [← Path.child_parent_name hparts]
  obtain ⟨-, -, hfollow⟩ := locate_eq_ok.mp hdir
  obtain ⟨-, -, hfollow'⟩ := locate_eq_ok.mp hdir'
  have hstart : ∀ d : Disk, (if (target.parent.child target.name).isAbsolute then [] else d.current) =
      d.start target.parent := fun _ ↦ rfl
  rw [locate, locate, hstart, hstart, Path.child, follow_append, follow_append, hfollow, hfollow']
  dsimp only [bind, Except.bind]
  rw [follow, follow.eq_2 d, htime, htime']
  rfl

/-- A temporary file is moved wherever a file can be. -/
theorem moveFile_temporary (hdir : d.locate target.parent = .ok dir) {time : Int}
    (htime : d.lookup dir = some (.directory time)) {temporary : DiskPlace}
    (hfree : d.lookup temporary = none) (bytes : List UInt8) (modified : Int) :
    (d.put temporary (.file bytes modified)).moveFile temporary target =
      (d.destination target).map fun place ↦
        ((d.put temporary (.file bytes modified)).erase temporary).put place
          (.file bytes modified) := by
  have hput := lookup_put (d := d) (ne_nil_of_lookup hfree) (.file bytes modified)
  have hextends : d.Extends (d.put temporary (.file bytes modified)) := by
    refine ⟨current_put .., fun place time hplace ↦ ⟨time, ?_⟩⟩
    rw [hput, if_neg]
    · exact hplace
    · rintro rfl
      cases hfree.symm.trans hplace
  rw [moveFile, destination]
  split
  · rfl
  next hparts =>
    rw [Bool.or_eq_true, not_or, List.isEmpty_iff] at hparts
    obtain ⟨time', htime'⟩ := hextends.directory dir time htime
    rw [locate_congr hparts.1 hdir (hextends.locate hdir) htime htime']
    cases d.locate target with
    | error fault => rfl
    | ok place =>
      dsimp only [bind, Except.bind]
      rw [hput, hput, if_pos rfl]
      by_cases hplace : temporary = place
      · rw [if_pos hplace, ← hplace, hfree]
        rfl
      · rw [if_neg hplace]
        rcases d.lookup place with _ | (time | ⟨bytes, time⟩) <;> rfl

end Disk

/-! ## Writing a file -/

namespace OutputFile

variable {f : OutputFile} {d : Disk} {target : Path}

/-- The failure for a content that the encoding does not admit. -/
def encodeFailure (f : OutputFile) : Text.EncodeFault → Failure
  | .nullCharacter => .crash (Crash.badValue Text.EncodeFault.nullCharacter.message)
  | fault => .diagnostic (f.notWritten fault.message)

/-- The place of a file whose directory exists and the bytes that are put there, or why it cannot
be written. -/
def placing (f : OutputFile) (d : Disk) (target : Path) :
    Except Failure (DiskPlace × List UInt8) := do
  let _ ← (d.locate (target.parent.child (temporaryName target.name 0))).mapError fun fault ↦
    f.diskFailure fault (Text.quoted target.toString)
  let bytes ← (Text.encodeAs .file f.encoding f.content).mapError f.encodeFailure
  let place ← (d.destination target).mapError fun fault ↦
    f.diskFailure fault ("'TMP' -> " ++ Text.quoted target.toString)
  return (place, bytes)

/-- What a disk is like after a file whose directory exists has been written or not: all entries
but that of the target are what they were. -/
def Placed (d d' : Disk) (target : Path) (outcome : Except Failure Path) :
    Except Failure (DiskPlace × List UInt8) → Prop
  | .error failure => outcome = .error failure ∧ d'.current = d.current ∧
      ∀ other, d'.lookup other = d.lookup other
  | .ok (place, bytes) => outcome = .ok target ∧ d'.current = d.current ∧
      ∃ time, ∀ other, d'.lookup other =
        if place = other then some (.file bytes time) else d.lookup other

/-- A file is replaced, and nothing else changes; or nothing changes at all. -/
theorem writeInto_spec (f : OutputFile) (d : Disk) (target : Path) :
    Placed d (f.writeInto d target).1 target (f.writeInto d target).2 (f.placing d target) := by
  rw [writeInto, placing]
  cases hlocate : d.locate (target.parent.child (temporaryName target.name 0)) with
  | error fault => exact ⟨rfl, rfl, fun _ ↦ rfl⟩
  | ok place =>
    obtain ⟨dir, time, hdir, htime, rfl⟩ :=
      Disk.exists_locate_of_child (temporaryName_ne_parent target.name 0) hlocate
    obtain ⟨hfree, -⟩ := d.temporaryPlace_spec dir target.name
    dsimp only
    rw [List.dropLast_concat]
    cases hencode : Text.encodeAs .file f.encoding f.content with
    | error fault =>
      have hgone := Disk.lookup_erase_put hfree (.file [] (d.latest + 1))
      cases fault <;> exact ⟨rfl, Disk.current_put .., hgone⟩
    | ok bytes =>
      have hgone := Disk.lookup_erase_put hfree (.file bytes (d.latest + 1))
      dsimp only [bind, Except.bind, Except.mapError]
      rw [Disk.put_put, settle, Disk.moveFile_temporary hdir htime hfree]
      cases hdestination : d.destination target with
      | error fault => exact ⟨rfl, Disk.current_put .., hgone⟩
      | ok place =>
        refine ⟨rfl, ?_, d.latest + 1, fun other ↦ ?_⟩
        · dsimp only [Except.map]
          rw [Disk.current_put, Disk.current_erase, Disk.current_put]
        · dsimp only [Except.map]
          rw [Disk.lookup_put (Disk.destination_eq_ok hdestination).2.2, hgone]

theorem placing_eq_ok {place : DiskPlace} {bytes : List UInt8}
    (h : f.placing d target = .ok (place, bytes)) : d.destination target = .ok place := by
  obtain ⟨_, -, h⟩ := bind_eq_ok.mp h
  obtain ⟨_, -, h⟩ := bind_eq_ok.mp h
  obtain ⟨place', hdestination, h⟩ := bind_eq_ok.mp h
  cases h
  exact mapError_eq_ok.mp hdestination

end OutputFile

end DiagramForge
