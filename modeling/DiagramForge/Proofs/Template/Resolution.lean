import DiagramForge.Proofs.Disk
import DiagramForge.Proofs.Template.Store

/-!
# Which file a name stands for

A template file may be replaced while its library is in use. This changes the text of the names that
stand for the file and the time it was last replaced, and nothing else: a name stands for the file
that it stood for before (`findTemplate?_put`), so it keeps its key (`TemplateLibrary.key_put`).

Following a path asks of each place on the way only whether there is a directory. This is why a file
that takes the place of another one leads nowhere else.
-/

namespace DiagramForge

open Outcome

/-! ## Disks -/

namespace Disk

variable {d : Disk} {place : DiskPlace} {bytes old : List UInt8} {time before : Int}

/-- What is at a place, except that a file has been replaced. -/
theorem lookup_put_file (h : d.lookup place = some (.file old before)) (other : DiskPlace) :
    (d.put place (.file bytes time)).lookup other =
      if place = other then some (.file bytes time) else d.lookup other := by
  refine lookup_put ?_ _ other
  rintro rfl
  cases h

theorem follow_put (h : d.lookup place = some (.file old before)) (start : DiskPlace)
    (parts : List String) :
    (d.put place (.file bytes time)).follow start parts = d.follow start parts := by
  induction parts generalizing start with
  | nil => rfl
  | cons part parts ih =>
    rw [follow, follow, lookup_put_file h]
    by_cases hstart : place = start
    · rw [if_pos hstart, ← hstart, h]
    · rw [if_neg hstart]
      simp only [ih]

theorem locate_put (h : d.lookup place = some (.file old before)) (p : Path) :
    (d.put place (.file bytes time)).locate p = d.locate p := by
  have hcurrent : (d.put place (.file bytes time)).current = d.current := by
    rw [put]
    split <;> rfl
  rw [locate, locate, follow_put h, hcurrent]

/-- A path denotes what it denoted, except that a file has been replaced. -/
theorem find_put (h : d.lookup place = some (.file old before)) (p : Path) :
    (d.put place (.file bytes time)).find p = (d.find p).map fun found ↦
      if place = found.1 then (place, .file bytes time) else found := by
  rw [find, find, locate_put h]
  cases d.locate p with
  | error fault => rfl
  | ok other =>
    dsimp only [bind, Except.bind]
    rw [lookup_put_file h]
    by_cases hother : place = other
    · rw [if_pos hother, ← hother, h]
      simp only [Except.map, if_true]
    · rw [if_neg hother]
      cases d.lookup other with
      | none => rfl
      | some e =>
        simp only [Except.map, if_neg hother]

theorem isFile_put (h : d.lookup place = some (.file old before)) (p : Path) :
    (d.put place (.file bytes time)).isFile p = d.isFile p := by
  rw [isFile, probe, find_put h, isFile, probe]
  cases hfind : d.find p with
  | error fault => rfl
  | ok found =>
    obtain ⟨other, e⟩ := found
    by_cases hother : place = other
    · have hlookup := Template.lookup_eq_of_find hfind
      rw [← hother, h] at hlookup
      cases hlookup
      rw [Except.map, if_pos hother]
      rfl
    · rw [Except.map, if_neg hother]

end Disk

/-! ## Template files -/

namespace Template

variable {disk : Disk} {place : DiskPlace} {bytes old : List UInt8} {time before : Int}
  {name : String}

/-- A template file after the file at a place has been replaced. -/
def TemplateFile.replaced (place : DiskPlace) (bytes : List UInt8) (time : Int)
    (file : TemplateFile) : TemplateFile :=
  if file.key = .file place then { file with bytes, modified := time } else file

theorem TemplateFile.key_replaced (file : TemplateFile) :
    (file.replaced place bytes time).key = file.key := by
  rw [TemplateFile.replaced]
  split <;> rfl

/-- A directory has the file that it had, except that it has been replaced. -/
theorem SearchDirectory.file?_put (h : disk.lookup place = some (.file old before))
    (dir : SearchDirectory) (name : String) :
    dir.file? (disk.put place (.file bytes time)) name =
      (dir.file? disk name).map (Option.map (TemplateFile.replaced place bytes time)) := by
  cases dir with
  | builtin =>
    -- The directory is on a disk of its own.
    have hsame : SearchDirectory.builtin.file? (disk.put place (.file bytes time)) name =
        SearchDirectory.builtin.file? disk name := rfl
    rw [hsame]
    cases hfile : SearchDirectory.builtin.file? disk name with
    | error failure => rfl
    | ok file =>
      cases file with
      | none => rfl
      | some file =>
        obtain ⟨place', hkey, -⟩ := exists_place_of_file? hfile
        rw [Except.map, Option.map_some, TemplateFile.replaced, if_neg]
        rw [hkey]
        exact nofun
  | project directory =>
    rw [SearchDirectory.file?, SearchDirectory.file?]
    dsimp only [locate]
    rw [Disk.isFile_put h, Disk.find_put h]
    generalize directory.join (Path.ofString (name ++ templateSuffix)) = path
    cases disk.isFile path with
    | error c => rfl
    | ok isFile =>
      cases isFile with
      | false => rfl
      | true =>
        cases hfind : disk.find path with
        | error fault => rfl
        | ok found =>
          obtain ⟨other, e⟩ := found
          by_cases hother : place = other
          · have hlookup := lookup_eq_of_find hfind
            rw [← hother, h] at hlookup
            cases hlookup
            have hfile : (TemplateFile.mk (.file place) old before).replaced place bytes time =
                ⟨.file place, bytes, time⟩ := if_pos rfl
            rw [Except.map, if_pos hother, ← hother]
            exact congrArg (fun file ↦ Except.ok (some file)) hfile.symm
          · rw [Except.map, if_neg hother]
            cases e with
            | directory modified => rfl
            | file otherBytes modified =>
              have hfile : (TemplateFile.mk (.file other) otherBytes modified).replaced place bytes
                  time = ⟨.file other, otherBytes, modified⟩ :=
                if_neg fun hkey ↦ hother (TemplateKey.file.inj hkey).symm
              exact congrArg (fun file ↦ Except.ok (some file)) hfile.symm

/-- **A name stands for the file that it stood for**, except that the file has been replaced. -/
theorem findTemplate?_put (h : disk.lookup place = some (.file old before))
    (dirs : List SearchDirectory) (name : String) :
    findTemplate? (disk.put place (.file bytes time)) dirs name =
      (findTemplate? disk dirs name).map (Option.map (TemplateFile.replaced place bytes time)) := by
  induction dirs with
  | nil => rfl
  | cons dir dirs ih =>
    rw [findTemplate?, findTemplate?, dir.file?_put h]
    cases dir.file? disk name with
    | error failure => rfl
    | ok file =>
      cases file with
      | none => exact ih
      | some file => rfl

namespace TemplateLibrary

variable {dirs : List SearchDirectory}

/-- A name keeps its key. -/
theorem key_put (h : disk.lookup place = some (.file old before)) (dirs : List SearchDirectory)
    (name : String) : (files dirs).key (disk.put place (.file bytes time)) name =
      (files dirs).key disk name := by
  rw [key, key, findTemplate?_put h]
  cases findTemplate? disk dirs name with
  | error failure => rfl
  | ok file =>
    cases file with
    | none => rfl
    | some file => exact congrArg Except.ok file.key_replaced

/-- The key of a file is that of a file that is there, and its name stands for it. -/
theorem exists_file_of_key (hkey : (files dirs).key disk name = .ok (.file place)) :
    ∃ bytes time, disk.lookup place = some (.file bytes time) ∧
      findTemplate? disk dirs name = .ok (some ⟨.file place, bytes, time⟩) := by
  obtain ⟨found, hfound, hkey⟩ := bind_eq_ok.mp hkey
  cases found with
  | none => cases hkey
  | some file =>
    obtain ⟨dir, -, hfile⟩ := exists_directory_of_findTemplate? hfound
    obtain ⟨place', hplace', hlookup⟩ := SearchDirectory.exists_place_of_file? hfile
    obtain ⟨key, bytes, modified⟩ := file
    cases Except.ok.inj hkey
    cases dir with
    | builtin => cases hplace'
    | project directory =>
      cases hplace'
      exact ⟨bytes, modified, hlookup, hfound⟩

theorem findTemplate?_of_key (hkey : (files dirs).key disk name = .ok (.file place))
    (h : disk.lookup place = some (.file bytes time)) :
    findTemplate? disk dirs name = .ok (some ⟨.file place, bytes, time⟩) := by
  obtain ⟨bytes', time', hfile, hfound⟩ := exists_file_of_key hkey
  cases h.symm.trans hfile
  exact hfound

theorem load_of_key (hkey : (files dirs).key disk name = .ok (.file place))
    (h : disk.lookup place = some (.file bytes time)) :
    (files dirs).load disk name = decodeSource bytes := by
  rw [load, findTemplate?_of_key hkey h]
  rfl

theorem modified?_of_key (hkey : (files dirs).key disk name = .ok (.file place))
    (h : disk.lookup place = some (.file bytes time)) :
    (files dirs).modified? disk name = .ok (some time) := by
  rw [modified?, findTemplate?_of_key hkey h]
  rfl

end TemplateLibrary

end Template

end DiagramForge
