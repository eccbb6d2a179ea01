import DiagramForge.Proofs.Output.Replacement
import DiagramForge.Proofs.Run.Conflict

/-!
# What writing a file changes

Wherever anything comes to be or changes while a file is written, whatever was there and whether or
not it succeeds: it is below the output directory, or it is a directory that the path of the output
directory leads through and that was missing (`OutputFile.write_confined`). The same holds of the
temporary file that the content is written to first.

There is one exception. The target lies strictly below the output directory exactly if the path of
the file has a component, and the path `.` has none. Such a file takes the place of the output
directory itself, and its temporary file lies next to that: `OutputFile.root_replaced`.
-/

namespace DiagramForge

open Outcome

/-! ## Targets -/

namespace OutputPath

/-- No component of an output path goes up. -/
theorem parent_notMem_components (p : OutputPath) : ".." ∉ p.components := by
  have hinside := p.inside
  rw [leadsInside, Bool.and_eq_true, Bool.not_eq_true', List.contains_eq_mem,
    decide_eq_false_iff_not] at hinside
  exact fun hmem ↦ hinside.2 (List.mem_of_mem_filter hmem)

/-- A file goes strictly below the output directory if its path has a component. -/
theorem below_target_iff (root : Path) (p : OutputPath) :
    root.below (p.target root) = true ↔ p.components ≠ [] := by
  have hprefix : root.parts.isPrefixOf (root.parts ++ p.components) = true :=
    List.isPrefixOf_iff_prefix.mpr (List.prefix_append _ _)
  rw [target_eq, Path.below, hprefix, Bool.and_true, Bool.and_eq_true, beq_iff_eq,
    decide_eq_true_iff, List.length_append, and_iff_right rfl, Nat.lt_add_right_iff_pos,
    List.length_pos_iff]

end OutputPath

namespace Disk

variable {d d' : Disk} {root : Path} {place : DiskPlace} {parts : List String}

/-- A place lies strictly below the directory that a path denotes. -/
def Encloses (d : Disk) (root : Path) (place : DiskPlace) : Prop :=
  ∃ top more, d.locate root = .ok top ∧ more ≠ [] ∧ place = top ++ more

theorem Encloses.mono (hextends : d.Extends d') (h : d.Encloses root place) :
    d'.Encloses root place := by
  obtain ⟨top, more, htop, hmore, rfl⟩ := h
  exact ⟨top, more, hextends.locate htop, hmore, rfl⟩

theorem LeadsThrough.mono {p : Path} (hextends : d.Extends d') (h : d.LeadsThrough p place) :
    d'.LeadsThrough p place := by
  obtain ⟨n, hn⟩ := h
  exact ⟨n, hextends.locate hn⟩

/-- A path that continues another one without going up denotes a place at or below what that one
denotes. -/
theorem exists_locate_of_continued (hinside : ".." ∉ parts)
    (h : d.locate ⟨root.root, root.parts ++ parts⟩ = .ok place) :
    ∃ top, d.locate root = .ok top ∧ place = top ++ parts := by
  obtain ⟨top, htop, hrest⟩ := exists_locate_upTo h root.parts.length
  rw [Path.upTo, List.take_left] at htop
  rw [List.drop_left] at hrest
  exact ⟨top, htop, follow_inside hinside hrest⟩

/-- Such a path leads through what the other one leads through, and through places below. -/
theorem LeadsThrough.split (hinside : ".." ∉ parts)
    (h : d.LeadsThrough ⟨root.root, root.parts ++ parts⟩ place) :
    d.LeadsThrough root place ∨ parts ≠ [] ∧ d.Encloses root place := by
  obtain ⟨n, hn⟩ := h
  rw [Path.upTo, List.take_append] at hn
  by_cases hmore : parts.take (n - root.parts.length) = []
  · rw [hmore, List.append_nil] at hn
    exact .inl ⟨n, hn⟩
  · have hlong : root.parts.length ≤ n := by
      by_contra hlt
      rw [Nat.sub_eq_zero_of_le (Nat.le_of_not_le hlt), List.take_zero] at hmore
      exact hmore rfl
    rw [List.take_of_length_le hlong] at hn
    obtain ⟨top, htop, hplace⟩ :=
      exists_locate_of_continued (fun hmem ↦ hinside (List.mem_of_mem_take hmem)) hn
    refine .inr ⟨?_, top, _, htop, hmore, hplace⟩
    rintro rfl
    exact hmore List.take_nil

end Disk

/-! ## Writing -/

namespace OutputFile

variable {f : OutputFile} {d : Disk} {root : Path} {place : DiskPlace}

/-- The place that the content of a file is written to before it is moved to its target. There is
none if the directory of the target cannot be made or cannot hold the temporary file. -/
def temporary? (f : OutputFile) (d : Disk) (root : Path) : Option DiskPlace :=
  let target := f.path.target root
  match d.makeDirectories target.parent with
  | (_, some _) => none
  | (d, none) =>
    (d.locate (target.parent.child (temporaryName target.name 0))).toOption.map fun place ↦
      d.temporaryPlace place.dropLast target.name

/-- The disk after the directory of a file has been made, if that is possible. -/
def prepared (f : OutputFile) (d : Disk) (root : Path) : Disk :=
  (d.makeDirectories (f.path.target root).parent).1

theorem grown_prepared (f : OutputFile) (d : Disk) (root : Path) :
    Disk.Grown (f.path.target root) d (f.prepared d root) := by
  have hgrown := d.grown_makeDirectories (f.path.target root).parent
  rw [prepared]
  rw [Path.parent_eq_upTo] at hgrown ⊢
  exact hgrown.upTo

/-- Writing replaces the target once its directory has been made, or nothing changes then. -/
theorem write_cases (f : OutputFile) (d : Disk) (root : Path) :
    ((f.write d root).1.current = (f.prepared d root).current ∧
      ∀ other, (f.write d root).1.lookup other = (f.prepared d root).lookup other) ∨
    ∃ place bytes time, (f.prepared d root).destination (f.path.target root) = .ok place ∧
      (f.write d root).1.current = (f.prepared d root).current ∧
      ∀ other, (f.write d root).1.lookup other =
        if place = other then some (.file bytes time) else (f.prepared d root).lookup other := by
  rw [write, prepared]
  rcases d.makeDirectories (f.path.target root).parent with ⟨d₁, _ | ⟨fault, path⟩⟩
  · have hspec := f.writeInto_spec d₁ (f.path.target root)
    dsimp only
    cases hplacing : f.placing d₁ (f.path.target root) with
    | error failure =>
      rw [hplacing] at hspec
      exact .inl hspec.2
    | ok placed =>
      obtain ⟨place, bytes⟩ := placed
      rw [hplacing] at hspec
      obtain ⟨-, hcurrent, time, hlookup⟩ := hspec
      exact .inr ⟨place, bytes, time, placing_eq_ok hplacing, hcurrent, hlookup⟩
  · exact .inl ⟨rfl, fun _ ↦ rfl⟩

/-- No directory is lost while a file is written. -/
theorem extends_write (f : OutputFile) (d : Disk) (root : Path) :
    (f.prepared d root).Extends (f.write d root).1 := by
  rcases f.write_cases d root with
    ⟨hcurrent, hlookup⟩ | ⟨place, bytes, time, hdestination, hcurrent, hlookup⟩
  · exact ⟨hcurrent, fun other modified h ↦ ⟨modified, by rw [hlookup]; exact h⟩⟩
  · refine ⟨hcurrent, fun other modified h ↦ ⟨modified, ?_⟩⟩
    rw [hlookup, if_neg]
    · exact h
    · rintro rfl
      exact (Disk.destination_eq_ok hdestination).2.1 modified h

/-- The temporary file lies next to the target, where nothing was and nothing is left. -/
theorem temporary_spec (h : f.temporary? d root = some place) :
    (f.prepared d root).lookup place = none ∧ (f.write d root).1.lookup place = none ∧
      ∃ dir n, (f.prepared d root).locate (f.path.target root).parent = .ok dir ∧
        place = dir ++ [temporaryName (f.path.target root).name n] := by
  have hcases := f.write_cases d root
  rw [temporary?] at h
  rw [prepared] at hcases ⊢
  rcases hmake : d.makeDirectories (f.path.target root).parent with ⟨d₁, _ | ⟨fault, path⟩⟩
  · rw [hmake] at h hcases
    dsimp only at h hcases ⊢
    rw [Option.map_eq_some_iff] at h
    obtain ⟨beside, hbeside, hplace⟩ := h
    have hlocate := toOption_eq_some.mp hbeside
    obtain ⟨dir, time, hdir, htime, rfl⟩ :=
      Disk.exists_locate_of_child (temporaryName_ne_parent _ 0) hlocate
    rw [List.dropLast_concat] at hplace
    obtain ⟨hfree, n, hn⟩ := d₁.temporaryPlace_spec dir (f.path.target root).name
    rw [hplace] at hfree hn
    refine ⟨hfree, ?_, dir, n, hdir, hn⟩
    rcases hcases with ⟨-, hlookup⟩ | ⟨other, bytes, modified, hdestination, -, hlookup⟩
    · rw [hlookup, hfree]
    · rw [hlookup, if_neg, hfree]
      rw [Disk.destination_eq_append hdestination hdir, hn]
      intro heq
      exact temporaryName_ne _ n (List.singleton_injective (List.append_cancel_left heq)).symm
  · rw [hmake] at h
    cases h

/-- What the path to a target leads through is on the way to the output directory, or below it. -/
theorem leadsThrough_target (h : d.LeadsThrough (f.path.target root) place) :
    d.LeadsThrough root place ∨ f.path.components ≠ [] ∧ d.Encloses root place := by
  rw [OutputPath.target_eq] at h
  exact h.split f.path.parent_notMem_components

theorem encloses_temporary (hcomponents : f.path.components ≠ [])
    (h : f.temporary? d root = some place) : (f.write d root).1.Encloses root place := by
  obtain ⟨-, -, dir, n, hdir, rfl⟩ := temporary_spec h
  have hparent : (f.path.target root).parent =
      ⟨root.root, root.parts ++ f.path.components.dropLast⟩ := by
    rw [OutputPath.target_eq, Path.parent, List.dropLast_append_of_ne_nil hcomponents]
  rw [hparent] at hdir
  obtain ⟨top, htop, rfl⟩ := Disk.exists_locate_of_continued
    (fun hmem ↦ f.path.parent_notMem_components (List.dropLast_subset _ hmem)) hdir
  refine ⟨top, _, (f.extends_write d root).locate htop, ?_, List.append_assoc ..⟩
  exact List.append_ne_nil_of_right_ne_nil _ (List.cons_ne_nil _ _)

/-- **Writing a file stays in the output directory.** The target of a path with components lies
strictly below the output directory. Whatever a disk holds and whether or not the file can be
written, only three kinds of places are not what they were: places below the output directory, if
the path has components; directories that were missing on the way to the output directory; and, if
the path has no components, the place of the output directory, which the file has taken. A
temporary file is put where nothing was and is gone afterwards; it lies below the output directory if
the path has components. -/
theorem write_confined (f : OutputFile) (d : Disk) (root : Path) :
    let target := f.path.target root
    let d' := (f.write d root).1
    (target = ⟨root.root, root.parts ++ f.path.components⟩ ∧ ".." ∉ f.path.components ∧
      (root.below target = true ↔ f.path.components ≠ [])) ∧
    (∀ place, f.temporary? d root = some place →
      d.lookup place = none ∧ d'.lookup place = none ∧
        (f.path.components ≠ [] → d'.Encloses root place)) ∧
    ∀ place, d'.lookup place ≠ d.lookup place →
      f.path.components ≠ [] ∧ d'.Encloses root place ∨
      d'.LeadsThrough root place ∧ d.lookup place = none ∧
        d'.lookup place = some .newDirectory ∨
      f.path.components = [] ∧ d'.locate root = .ok place ∧
        ∃ bytes time, d'.lookup place = some (.file bytes time) := by
  have hgrown := f.grown_prepared d root
  have hextends := f.extends_write d root
  refine ⟨⟨f.path.target_eq root, f.path.parent_notMem_components, f.path.below_target_iff root⟩,
    fun place htemporary ↦ ?_, fun place hchanged ↦ ?_⟩
  · obtain ⟨hfree, hgone, -⟩ := temporary_spec htemporary
    refine ⟨?_, hgone, fun hcomponents ↦ encloses_temporary hcomponents htemporary⟩
    exact Option.eq_none_iff_forall_ne_some.mpr fun e he ↦ by
      cases hfree.symm.trans (hgrown.kept place e he)
  -- Places at which a directory has been made, unless the target is there.
  · have hmade : (f.write d root).1.lookup place = (f.prepared d root).lookup place →
        f.path.components ≠ [] ∧ (f.write d root).1.Encloses root place ∨
        (f.write d root).1.LeadsThrough root place ∧ d.lookup place = none ∧
          (f.write d root).1.lookup place = some .newDirectory := by
      intro hsame
      rw [hsame] at hchanged ⊢
      have hnone : d.lookup place = none :=
        Option.eq_none_iff_forall_ne_some.mpr fun e he ↦
          hchanged ((hgrown.kept place e he).trans he.symm)
      rcases hgrown.made place hnone with hnone' | ⟨hnew, hthrough⟩
      · exact absurd (hnone'.trans hnone.symm) hchanged
      · rcases leadsThrough_target (hthrough.mono hextends) with hroot | hbelow
        · exact .inr ⟨hroot, hnone, hnew⟩
        · exact .inl hbelow
    rcases f.write_cases d root with ⟨-, hlookup⟩ | ⟨other, bytes, time, hdestination, -, hlookup⟩
    · exact (hmade (hlookup place)).imp_right .inl
    · by_cases hplace : other = place
      · rw [hplace] at hdestination hlookup
        have hlocate := hextends.locate (Disk.destination_eq_ok hdestination).1
        rw [OutputPath.target_eq] at hlocate
        obtain ⟨top, htop, rfl⟩ :=
          Disk.exists_locate_of_continued f.path.parent_notMem_components hlocate
        by_cases hcomponents : f.path.components = []
        · refine .inr (.inr ⟨hcomponents, ?_, bytes, time, ?_⟩)
          · rw [hcomponents, List.append_nil]
            exact htop
          · rw [hlookup, if_pos rfl]
        · exact .inl ⟨hcomponents, top, _, htop, hcomponents, rfl⟩
      · refine (hmade ?_).imp_right .inl
        rw [hlookup, if_neg hplace]

/-- The path `.` leads inside, but the file with this path takes the place of the output directory,
and its temporary file is put beside it. -/
theorem root_replaced :
    let f : OutputFile := { path := ⟨".", by decide⟩, content := "x" }
    let d : Disk := ⟨[], []⟩
    let root : Path := ⟨"", ["out"]⟩
    f.path.target root = root ∧ f.temporary? d root = some [".out.00000000.tmp"] ∧
      (f.write d root).2.toOption = some root ∧
      (f.write d root).1.locate root = .ok ["out"] ∧
      (f.write d root).1.entries = [(["out"], .file "x".toUTF8.toList 1)] := by
  decide +kernel

end OutputFile

end DiagramForge
