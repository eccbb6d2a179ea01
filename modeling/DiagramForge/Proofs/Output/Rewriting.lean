import DiagramForge.Proofs.Output.Confinement
import DiagramForge.Proofs.Output.Shape

/-!
# Writing files again

Files that are written a second time are written as they were the first time: what could be written
can be written again, with the same bytes (`OutputFile.write_again`), and what could not be written
cannot be written again (`OutputFile.write_again_error`). Neither needs the disk to be what it was.
It is enough that the second try finds a disk with all that the first one has left behind, since the
files after it have been written too.
-/

namespace DiagramForge

open Outcome

namespace Disk

variable {d d' e g : Disk} {place : DiskPlace} {p : Path}

/-! ## Files -/

/-- A file has been put at a place, and nothing else has changed. -/
structure Filled (d d' : Disk) (place : DiskPlace) (bytes : List UInt8) : Prop where
  /-- The current directory is the same. -/
  current : d'.current = d.current
  /-- The file is at the place, and all else is what it was. -/
  lookup : ∃ time, ∀ other, d'.lookup other =
    if place = other then some (.file bytes time) else d.lookup other

theorem Filled.bytesAt {bytes : List UInt8} (h : d.Filled d' place bytes) (other : DiskPlace) :
    d'.bytesAt other = if place = other then some bytes else d.bytesAt other := by
  obtain ⟨time, hlookup⟩ := h.lookup
  rw [Disk.bytesAt, hlookup]
  split
  · rfl
  · rfl

theorem Filled.kindAt {bytes : List UInt8} (h : d.Filled d' place bytes) (other : DiskPlace) :
    d'.kindAt other = if place = other then some true else d.kindAt other := by
  obtain ⟨time, hlookup⟩ := h.lookup
  rw [Disk.kindAt, hlookup]
  split
  · rfl
  · rfl

/-- A file can be moved to wherever there is no directory. -/
theorem destination_eq (d : Disk) (p : Path) : d.destination p =
    if p.parts.isEmpty || p.parts.getLast? == some ".." then .error .busy
    else d.locate p >>= fun place ↦
      if d.kindAt place = some false then .error .isDirectory else .ok place := by
  rw [Disk.destination]
  refine congrArg (ite _ _) (bind_congr fun place ↦ ?_)
  rw [Disk.kindAt]
  rcases d.lookup place with _ | (time | ⟨bytes, time⟩) <;> rfl

theorem SameShape.destination (h : d.SameShape d') (p : Path) :
    d'.destination p = d.destination p := by
  rw [destination_eq, destination_eq, h.locate]
  simp only [h.kind]

/-- Growing makes directories, so there are no new files. -/
theorem Grown.bytesAt (h : Grown p d g) (place : DiskPlace) :
    g.bytesAt place = d.bytesAt place := by
  cases hd : d.lookup place with
  | some entry => rw [Disk.bytesAt, Disk.bytesAt, hd, h.kept place entry hd]
  | none =>
    rcases h.made place hd with hg | ⟨hg, -⟩
    · rw [Disk.bytesAt, Disk.bytesAt, hd, hg]
    · rw [Disk.bytesAt, Disk.bytesAt, hd, hg]
      rfl

end Disk

namespace OutputFile

variable {f : OutputFile} {d d' e g : Disk} {root path target : Path} {place : DiskPlace}
  {bytes : List UInt8}

theorem write_of_made (h : d.makeDirectories (f.path.target root).parent = (g, none)) :
    f.write d root = f.writeInto g (f.path.target root) := by
  rw [write, h]

theorem write_of_unmade {x : DiskFault × Path}
    (h : d.makeDirectories (f.path.target root).parent = (g, some x)) :
    f.write d root = (g, .error (f.diskFailure x.1 (Text.quoted x.2.toString))) := by
  rw [write, h]

/-- Where a file goes depends on the shape of the disk alone. -/
theorem placing_sameShape (f : OutputFile) (h : d.SameShape e) (target : Path) :
    f.placing e target = f.placing d target := by
  rw [placing, placing, h.locate, h.destination]

/-- A file goes where it has gone as long as there is a file. -/
theorem placing_retains (h : f.placing d target = .ok (place, bytes)) (hextends : d.Extends e)
    (hfile : e.kindAt place = some true) : f.placing e target = .ok (place, bytes) := by
  obtain ⟨temporary, htemporary, h⟩ := bind_eq_ok.mp h
  obtain ⟨bytes', hbytes, h⟩ := bind_eq_ok.mp h
  obtain ⟨place', hdestination, h⟩ := bind_eq_ok.mp h
  cases h
  have hlocate := hextends.locate (mapError_eq_ok.mp htemporary)
  have htarget : e.destination target = .ok place := by
    have hbefore := mapError_eq_ok.mp hdestination
    have hplace := hextends.locate (Disk.destination_eq_ok hbefore).1
    rw [Disk.destination_eq] at hbefore ⊢
    split at hbefore
    next => cases hbefore
    next hbusy =>
      rw [if_neg hbusy, hplace]
      exact if_neg (by rw [hfile]; simp)
  refine bind_eq_ok.mpr ⟨temporary, mapError_eq_ok.mpr hlocate, ?_⟩
  refine bind_eq_ok.mpr ⟨bytes, hbytes, ?_⟩
  exact bind_eq_ok.mpr ⟨place, mapError_eq_ok.mpr htarget, rfl⟩

/-- A file that is written is put where it goes once its directory has been made. -/
theorem write_eq_ok (h : f.write d root = (d', .ok path)) : ∃ g place bytes,
    d.makeDirectories (f.path.target root).parent = (g, none) ∧
      f.placing g (f.path.target root) = .ok (place, bytes) ∧ path = f.path.target root ∧
      g.Filled d' place bytes := by
  rcases hmake : d.makeDirectories (f.path.target root).parent with ⟨g, _ | x⟩
  · have hspec := f.writeInto_spec g (f.path.target root)
    rw [← write_of_made hmake, h] at hspec
    cases hplacing : f.placing g (f.path.target root) with
    | error failure =>
      rw [hplacing] at hspec
      cases hspec.1
    | ok placed =>
      rw [hplacing] at hspec
      obtain ⟨hpath, hcurrent, hlookup⟩ := hspec
      exact ⟨g, placed.1, placed.2, rfl, hplacing, Except.ok.inj hpath, hcurrent, hlookup⟩
  · cases h.symm.trans (write_of_unmade hmake)

/-- Whatever is on a disk is there as the same kind of thing after a file has been written, or has
not. -/
theorem retains_write (f : OutputFile) (d : Disk) (root : Path) :
    d.Retains (f.write d root).1 := by
  refine (f.grown_prepared d root).retains.trans ?_
  rcases f.write_cases d root with
    ⟨hcurrent, hlookup⟩ | ⟨place, bytes, time, hdestination, hcurrent, hlookup⟩
  · refine ⟨hcurrent, fun other kind hother ↦ ?_⟩
    rw [Disk.kindAt, hlookup]
    exact hother
  · have hfilled : (f.prepared d root).Filled (f.write d root).1 place bytes :=
      ⟨hcurrent, time, hlookup⟩
    refine ⟨hcurrent, fun other kind hother ↦ ?_⟩
    rw [hfilled.kindAt]
    split
    next heq =>
      cases kind with
      | true => rfl
      | false =>
        obtain ⟨modified, hdirectory⟩ := Disk.kindAt_eq_false_iff.mp hother
        rw [← heq] at hdirectory
        exact absurd hdirectory ((Disk.destination_eq_ok hdestination).2.1 modified)
    next => exact hother

/-- **Writing a file again.** A file that has been written can be written again, whatever other
files have been written meanwhile. This changes its own bytes at most, and they are what they were
when it was first written. -/
theorem write_again (h : f.write d root = (d', .ok path)) (hretains : d'.Retains e) :
    ∃ e' place bytes, f.write e root = (e', .ok path) ∧ e.SameShape e' ∧
      (∀ other, d'.bytesAt other = if place = other then some bytes else d.bytesAt other) ∧
      ∀ other, e'.bytesAt other = if place = other then some bytes else e.bytesAt other := by
  obtain ⟨g, place, bytes, hmake, hplacing, rfl, hfilled⟩ := write_eq_ok h
  have hgrown : Disk.Grown (f.path.target root).parent d g := by
    have hgrown := d.grown_makeDirectories (f.path.target root).parent
    rwa [hmake] at hgrown
  have hextends : g.Extends e := by
    have hwrite := f.extends_write d root
    rw [prepared, hmake, h] at hwrite
    exact hwrite.trans hretains.toExtends
  have hfile : e.kindAt place = some true := by
    refine hretains.kind place true ?_
    rw [hfilled.kindAt, if_pos rfl]
  have hmade : e.makeDirectories (f.path.target root).parent = (e, none) :=
    Disk.makeDirectories_of_hasDirectory
      (hextends.hasDirectory (Disk.hasDirectory_of_makeDirectoriesFrom hmake))
  have hspec := f.writeInto_spec e (f.path.target root)
  rw [← write_of_made hmade, placing_retains hplacing hextends hfile] at hspec
  obtain ⟨hpath, hcurrent, hlookup⟩ := hspec
  have hrefilled : e.Filled (f.write e root).1 place bytes := ⟨hcurrent, hlookup⟩
  refine ⟨_, place, bytes, Prod.ext rfl hpath, ⟨hcurrent, fun other ↦ ?_⟩, fun other ↦ ?_,
    hrefilled.bytesAt⟩
  · rw [hrefilled.kindAt]
    split
    next heq => rw [← heq, hfile]
    next => rfl
  · rw [hfilled.bytesAt, hgrown.bytesAt]

/-- Two failures to write a file; if its directories have been half made, they may differ in their
reasons. -/
def SameFailure (f : OutputFile) (d : Disk) (root : Path) (failure failure' : Failure) : Prop :=
  failure' = failure ∨ d.HalfMade (f.path.target root).parent ∧
    ∃ reason reason', failure = .diagnostic (f.notWritten reason) ∧
      failure' = .diagnostic (f.notWritten reason')

theorem diskFailure_eq (f : OutputFile) {fault : DiskFault} (h : fault ≠ .nullCharacter)
    (paths : String) :
    f.diskFailure fault paths = .diagnostic (f.notWritten (fault.message paths)) := by
  cases fault with
  | nullCharacter => exact absurd rfl h
  | _ => rfl

/-- **Failing to write a file again.** A file that could not be written cannot be written again, and
neither try changes any file. -/
theorem write_again_error {failure : Failure} (h : f.write d root = (d', .error failure))
    (hshape : d'.SameShape e) : ∃ e' failure', f.write e root = (e', .error failure') ∧
      f.SameFailure d root failure failure' ∧ e.SameShape e' ∧
      (∀ other, d'.bytesAt other = d.bytesAt other) ∧
      ∀ other, e'.bytesAt other = e.bytesAt other := by
  have hgrown := d.grown_makeDirectories (f.path.target root).parent
  rcases hmake : d.makeDirectories (f.path.target root).parent with ⟨g, _ | x⟩
  · -- the directory is there both times, and the file is refused for the same reason
    rw [hmake] at hgrown
    have hspec := f.writeInto_spec g (f.path.target root)
    rw [← write_of_made hmake, h] at hspec
    cases hplacing : f.placing g (f.path.target root) with
    | ok placed =>
      rw [hplacing] at hspec
      cases hspec.1
    | error failure' =>
      rw [hplacing] at hspec
      obtain ⟨hfailure, hcurrent, hlookup⟩ := hspec
      cases hfailure
      have hgshape := (Disk.sameShape_of_lookup hcurrent hlookup).trans hshape
      have hmade : e.makeDirectories (f.path.target root).parent = (e, none) := by
        apply Disk.makeDirectories_of_hasDirectory
        rw [hgshape.hasDirectory]
        exact Disk.hasDirectory_of_makeDirectoriesFrom hmake
      have hspec' := f.writeInto_spec e (f.path.target root)
      rw [← write_of_made hmade, f.placing_sameShape hgshape, hplacing] at hspec'
      obtain ⟨hfailure', hcurrent', hlookup'⟩ := hspec'
      refine ⟨_, failure, Prod.ext rfl hfailure', .inl rfl,
        Disk.sameShape_of_lookup hcurrent' hlookup', fun other ↦ ?_, fun other ↦ ?_⟩
      · rw [← hgrown.bytesAt, Disk.bytesAt, hlookup]
        rfl
      · rw [Disk.bytesAt, hlookup']
        rfl
  · rw [write_of_unmade hmake] at h
    cases h
    rw [hmake] at hgrown
    rcases Disk.makeDirectories_again hmake hshape with
      hagain | ⟨hhalf, hfirst, fault, hsecond, hagain⟩
    · exact ⟨e, _, write_of_unmade hagain, .inl rfl, .refl e, hgrown.bytesAt, fun _ ↦ rfl⟩
    · exact ⟨e, _, write_of_unmade hagain,
        .inr ⟨hhalf, _, _, f.diskFailure_eq hfirst _, f.diskFailure_eq hsecond _⟩, .refl e,
        hgrown.bytesAt, fun _ ↦ rfl⟩

/-! ## Several files -/

theorem writeAll_cons {f : OutputFile} {d₁ : Disk} (h : f.write d root = (d₁, .ok path))
    (fs : List OutputFile) : writeAll d root (f :: fs) =
      ((writeAll d₁ root fs).1, (path :: ·) <$> (writeAll d₁ root fs).2) := by
  rw [writeAll, h]
  dsimp only
  rcases writeAll d₁ root fs with ⟨d', failure | paths⟩
  · rfl
  · rfl

theorem writeAll_cons_error {f : OutputFile} {failure : Failure}
    (h : f.write d root = (d', .error failure)) (fs : List OutputFile) :
    writeAll d root (f :: fs) = (d', .error failure) := by
  rw [writeAll, h]

theorem writeAll_cons_eq_ok {f : OutputFile} {fs : List OutputFile} {paths : List Path}
    (h : writeAll d root (f :: fs) = (d', .ok paths)) : ∃ d₁ path rest,
      f.write d root = (d₁, .ok path) ∧ writeAll d₁ root fs = (d', .ok rest) ∧
      paths = path :: rest := by
  rcases hwrite : f.write d root with ⟨d₁, failure | path⟩
  · cases h.symm.trans (writeAll_cons_error hwrite fs)
  · rw [writeAll_cons hwrite] at h
    rcases hrest : writeAll d₁ root fs with ⟨d₂, failure | rest⟩
    · rw [hrest] at h
      cases h
    · rw [hrest] at h
      cases h
      exact ⟨d₁, path, rest, rfl, hrest, rfl⟩

theorem retains_writeAll (d : Disk) (root : Path) (fs : List OutputFile) :
    d.Retains (writeAll d root fs).1 := by
  induction fs generalizing d with
  | nil => exact (Disk.SameShape.refl d).retains
  | cons f fs ih =>
    have hfirst := f.retains_write d root
    rcases hwrite : f.write d root with ⟨d₁, failure | path⟩
    · rw [hwrite] at hfirst
      rw [writeAll_cons_error hwrite]
      exact hfirst
    · rw [hwrite] at hfirst
      rw [writeAll_cons hwrite]
      exact hfirst.trans (ih d₁)

/-- The files `before` can be written from a disk, and then `f` cannot be. -/
structure RefusedAfter (root : Path) (before : List OutputFile) (f : OutputFile) (d : Disk)
    (paths : List Path) (failure : Failure) (d₁ d' : Disk) : Prop where
  /-- The files before are written. -/
  written : writeAll d root before = (d₁, .ok paths)
  /-- The file is not written. -/
  refused : f.write d₁ root = (d', .error failure)

/-- What comes of writing files from a disk, and again from another one: all of them are written
both times, or the same file cannot be written either time. -/
inductive Rewritten (root : Path) (fs : List OutputFile) (d e : Disk) : Prop where
  /-- All of them are written. -/
  | written {d' e' : Disk} {paths : List Path} (h : writeAll d root fs = (d', .ok paths))
    (hagain : writeAll e root fs = (e', .ok paths))
  /-- A file is refused. -/
  | refused {before after : List OutputFile} {f : OutputFile} {d₁ d' e₁ e' : Disk}
    {paths : List Path} {failure failure' : Failure} (hfs : fs = before ++ f :: after)
    (h : RefusedAfter root before f d paths failure d₁ d')
    (hagain : RefusedAfter root before f e paths failure' e₁ e')
    (hsame : f.SameFailure d₁ root failure failure')

/-- A file whose directory cannot be made is refused. -/
theorem refusedAfter_of_unmade {f : OutputFile} {x : DiskFault × Path}
    (h : d.makeDirectories (f.path.target root).parent = (d', some x)) (hx : x.1 ≠ .nullCharacter) :
    RefusedAfter root [] f d []
      (.diagnostic (f.notWritten (x.1.message (Text.quoted x.2.toString)))) d d' :=
  ⟨rfl, by rw [write_of_unmade h, f.diskFailure_eq hx]⟩

theorem RefusedAfter.cons {before : List OutputFile} {f g : OutputFile} {paths : List Path}
    {failure : Failure} {d₁ d₂ : Disk} (hwrite : f.write d root = (d₁, .ok path))
    (h : RefusedAfter root before g d₁ paths failure d₂ d') :
    RefusedAfter root (f :: before) g d (path :: paths) failure d₂ d' := by
  refine ⟨?_, h.refused⟩
  rw [writeAll_cons hwrite, h.written]
  rfl

theorem RefusedAfter.writeAll_eq {before : List OutputFile} {f : OutputFile} {paths : List Path}
    {failure : Failure} {d₁ : Disk} (h : RefusedAfter root before f d paths failure d₁ d')
    (after : List OutputFile) : writeAll d root (before ++ f :: after) = (d', .error failure) := by
  induction before generalizing d paths with
  | nil =>
    cases h.written
    exact writeAll_cons_error h.refused after
  | cons g before ih =>
    obtain ⟨d₂, path, rest, hwrite, hrest, -⟩ := writeAll_cons_eq_ok h.written
    rw [List.cons_append, writeAll_cons hwrite, ih ⟨hrest, h.refused⟩]
    rfl

theorem Rewritten.cons {f : OutputFile} {fs : List OutputFile} {d₁ e₁ : Disk}
    (hwrite : f.write d root = (d₁, .ok path)) (hagain : f.write e root = (e₁, .ok path))
    (h : Rewritten root fs d₁ e₁) : Rewritten root (f :: fs) d e := by
  cases h with
  | @written d' e' paths hall hall' =>
    have hfirst : writeAll d root (f :: fs) = (d', .ok (path :: paths)) := by
      rw [writeAll_cons hwrite, hall]
      rfl
    have hsecond : writeAll e root (f :: fs) = (e', .ok (path :: paths)) := by
      rw [writeAll_cons hagain, hall']
      rfl
    exact .written hfirst hsecond
  | @refused before after g _ _ _ _ _ _ _ hfs hrefused hrefused' hsame =>
    have hcons : f :: fs = (f :: before) ++ g :: after := by rw [hfs, List.cons_append]
    exact .refused hcons (hrefused.cons hwrite) (hrefused'.cons hagain) hsame

/-- What comes of writing files twice from the same disk. -/
theorem Rewritten.refl (root : Path) (fs : List OutputFile) (d : Disk) : Rewritten root fs d d := by
  induction fs generalizing d with
  | nil => exact .written rfl rfl
  | cons f fs ih =>
    rcases hwrite : f.write d root with ⟨d₁, failure | path⟩
    · have hnil : f :: fs = [] ++ f :: fs := rfl
      exact .refused hnil ⟨rfl, hwrite⟩ ⟨rfl, hwrite⟩ (.inl rfl)
    · exact (ih d₁).cons hwrite hwrite

/-- **Writing files again.** What could be written can be written again, and what could not be
written cannot be written again. At each place nothing happens either time, or the same bytes are
there in the end. The induction is on the files: after the first one has been written again, the
disk has the shape it had. -/
theorem writeAll_again (fs : List OutputFile) (hshape : (writeAll d root fs).1.SameShape e) :
    Rewritten root fs d e ∧ e.SameShape (writeAll e root fs).1 ∧
      ∀ place, (writeAll e root fs).1.bytesAt place = (writeAll d root fs).1.bytesAt place ∨
        (writeAll e root fs).1.bytesAt place = e.bytesAt place ∧
          (writeAll d root fs).1.bytesAt place = d.bytesAt place := by
  induction fs generalizing d e with
  | nil => exact ⟨.written rfl rfl, .refl e, fun _ ↦ .inr ⟨rfl, rfl⟩⟩
  | cons f fs ih =>
    rcases hwrite : f.write d root with ⟨d₁, failure | path⟩
    · -- the first file is refused, and so it is again
      rw [writeAll_cons_error hwrite] at hshape ⊢
      obtain ⟨e', failure', hagain, hsame, heshape, hd, he⟩ := write_again_error hwrite hshape
      rw [writeAll_cons_error hagain]
      have hnil : f :: fs = [] ++ f :: fs := rfl
      exact ⟨.refused hnil ⟨rfl, hwrite⟩ ⟨rfl, hagain⟩ hsame, heshape,
        fun place ↦ .inr ⟨he place, hd place⟩⟩
    · rw [writeAll_cons hwrite] at hshape ⊢
      have hretains := (retains_writeAll d₁ root fs).trans hshape.retains
      obtain ⟨e₁, place, bytes, hagain, heshape, hd, he⟩ := write_again hwrite hretains
      rw [writeAll_cons hagain]
      obtain ⟨hrest, hrestshape, hbytes⟩ := ih (hshape.trans heshape)
      refine ⟨hrest.cons hwrite hagain, heshape.trans hrestshape, fun other ↦ ?_⟩
      rcases hbytes other with hbytes | ⟨hkept', hkept⟩
      · exact .inl hbytes
      · rw [hkept', hkept, he, hd]
        split
        · exact .inl rfl
        · exact .inr ⟨rfl, rfl⟩

/-- Writing files again leaves every file as it is. -/
theorem bytesAt_writeAll_again (fs : List OutputFile) (place : DiskPlace) :
    (writeAll (writeAll d root fs).1 root fs).1.bytesAt place =
      (writeAll d root fs).1.bytesAt place := by
  obtain ⟨-, -, hbytes⟩ := writeAll_again fs (Disk.SameShape.refl (writeAll d root fs).1)
  rcases hbytes place with hbytes | ⟨hbytes, -⟩
  · exact hbytes
  · exact hbytes

end OutputFile

end DiagramForge
