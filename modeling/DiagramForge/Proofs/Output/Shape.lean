import DiagramForge.Proofs.Disk

/-!
# Disks of the same shape

Where a path leads, whether a directory can be made and whether a file can be put somewhere is a
matter of the shape of a disk: which places hold a file, which hold a directory, and which is the
current one. Bytes and times do not matter.

## Trying again

Making directories may fail after some of them have been made. A second try then starts from another
disk, and it fails as well: `Disk.makeDirectories_again`. The reason is that a failure leaves the disk
`Stuck` at the path. Whatever was missing on the way has been made, so whoever tries again is refused
at once, and not for want of a directory. Only the wording may change, for the second try may run
into what the first one ran into from another side.
-/

namespace DiagramForge

open Outcome

/-- The bytes of an entry, if it is a file. -/
def DiskEntry.bytes? : DiskEntry → Option (List UInt8)
  | .file bytes _ => some bytes
  | .directory _ => none

/-- Whether the null character occurs in a path. -/
def Path.hasNull (p : Path) : Bool :=
  p.parts.any fun part ↦ part.toList.contains '\x00'

namespace Disk

variable {d d' e g : Disk} {place : DiskPlace} {p : Path} {fault : DiskFault}

/-! ## Shapes -/

/-- Whether a place holds a file, if it holds anything. -/
def kindAt (d : Disk) (place : DiskPlace) : Option Bool :=
  (d.lookup place).map (·.bytes?.isSome)

/-- The bytes of the file at a place, if there is one. -/
def bytesAt (d : Disk) (place : DiskPlace) : Option (List UInt8) :=
  (d.lookup place).bind DiskEntry.bytes?

theorem kindAt_eq_none_iff : d.kindAt place = none ↔ d.lookup place = none :=
  Option.map_eq_none_iff

theorem kindAt_eq_false_iff :
    d.kindAt place = some false ↔ ∃ time, d.lookup place = some (.directory time) := by
  rw [kindAt]
  rcases d.lookup place with _ | (time | ⟨bytes, time⟩) <;> simp [DiskEntry.bytes?]

theorem kindAt_eq_true_iff :
    d.kindAt place = some true ↔ ∃ bytes time, d.lookup place = some (.file bytes time) := by
  rw [kindAt]
  rcases d.lookup place with _ | (time | ⟨bytes, time⟩) <;> simp [DiskEntry.bytes?]

/-- What is on a disk is on another disk as the same kind of thing; both have the same current
directory. -/
structure Retains (d d' : Disk) : Prop where
  /-- The current directory is the same. -/
  current : d'.current = d.current
  /-- Files are files, and directories are directories. -/
  kind : ∀ place kind, d.kindAt place = some kind → d'.kindAt place = some kind

/-- Two disks have files and directories at the same places, and the same current directory. -/
structure SameShape (d d' : Disk) : Prop where
  /-- The current directory is the same. -/
  current : d'.current = d.current
  /-- Files are files, directories are directories, and nothing is nothing. -/
  kind : ∀ place, d'.kindAt place = d.kindAt place

namespace Retains

theorem trans (h : d.Retains d') (h' : d'.Retains e) : d.Retains e :=
  ⟨h'.current.trans h.current, fun place kind hd ↦ h'.kind place kind (h.kind place kind hd)⟩

theorem toExtends (h : d.Retains d') : d.Extends d' := by
  refine ⟨h.current, fun place time hplace ↦ ?_⟩
  exact kindAt_eq_false_iff.mp (h.kind place false (kindAt_eq_false_iff.mpr ⟨time, hplace⟩))

end Retains

theorem Grown.retains (h : Grown p d d') : d.Retains d' := by
  refine ⟨h.current, fun place kind hd ↦ ?_⟩
  obtain ⟨entry, hentry, rfl⟩ := Option.map_eq_some_iff.mp hd
  rw [kindAt, h.kept place entry hentry]
  rfl

theorem sameShape_of_lookup (hcurrent : d'.current = d.current)
    (hlookup : ∀ place, d'.lookup place = d.lookup place) : d.SameShape d' :=
  ⟨hcurrent, fun place ↦ congrArg (Option.map _) (hlookup place)⟩

namespace SameShape

theorem refl (d : Disk) : d.SameShape d :=
  ⟨rfl, fun _ ↦ rfl⟩

theorem symm (h : d.SameShape d') : d'.SameShape d :=
  ⟨h.current.symm, fun place ↦ (h.kind place).symm⟩

theorem trans (h : d.SameShape d') (h' : d'.SameShape e) : d.SameShape e :=
  ⟨h'.current.trans h.current, fun place ↦ (h'.kind place).trans (h.kind place)⟩

theorem retains (h : d.SameShape d') : d.Retains d' :=
  ⟨h.current, fun place _ hd ↦ (h.kind place).trans hd⟩

end SameShape

/-! ## Where paths lead -/

theorem follow_cons (place : DiskPlace) (part : String) (parts : List String) :
    d.follow place (part :: parts) = match d.kindAt place with
      | none => .error .notFound
      | some true => .error .notDirectory
      | some false =>
        if nameLimit < part.utf8ByteSize then .error .nameTooLong
        else d.follow (if part == ".." then place.dropLast else place ++ [part]) parts := by
  rw [follow, kindAt]
  rcases d.lookup place with _ | (time | ⟨bytes, time⟩) <;> rfl

namespace SameShape

theorem follow (h : d.SameShape d') (place : DiskPlace) (parts : List String) :
    d'.follow place parts = d.follow place parts := by
  induction parts generalizing place with
  | nil => rfl
  | cons part parts ih => rw [follow_cons, follow_cons, h.kind, ih]

/-- Where a path leads, and why it leads nowhere, depends on the shape of the disk alone. -/
theorem locate (h : d.SameShape d') (p : Path) : d'.locate p = d.locate p := by
  rw [Disk.locate, Disk.locate, h.current, h.follow]

end SameShape

theorem hasDirectory_iff : d.hasDirectory p = true ↔
    ∃ place, d.locate p = .ok place ∧ d.kindAt place = some false := by
  rw [hasDirectory, isDirectory, probe, find]
  cases d.locate p with
  | error fault => cases fault <;> simp [bind, Except.bind, pure, Except.pure, Except.toOption]
  | ok place =>
    rcases hlookup : d.lookup place with _ | (time | ⟨bytes, time⟩) <;>
      simp [bind, Except.bind, pure, Except.pure, Except.toOption, DiskEntry.bytes?, kindAt,
        hlookup]

theorem Extends.hasDirectory (h : d.Extends d') (hp : d.hasDirectory p = true) :
    d'.hasDirectory p = true := by
  obtain ⟨place, hplace, hkind⟩ := hasDirectory_iff.mp hp
  obtain ⟨time, htime⟩ := kindAt_eq_false_iff.mp hkind
  exact hasDirectory_iff.mpr
    ⟨place, h.locate hplace, kindAt_eq_false_iff.mpr (h.directory place time htime)⟩

theorem SameShape.hasDirectory (h : d.SameShape d') (p : Path) :
    d'.hasDirectory p = d.hasDirectory p := by
  rw [Bool.eq_iff_iff, hasDirectory_iff, hasDirectory_iff, h.locate]
  exact exists_congr fun place ↦ and_congr_right fun _ ↦ by rw [h.kind]

/-! ## Paths that cannot be made -/

/-- A path cannot be made a directory, and that is not for want of a directory above it. -/
structure Stuck (d : Disk) (p : Path) (fault : DiskFault) : Prop where
  /-- No directory can be made there. -/
  unmade : d.makeDirectory p = .error fault
  /-- It is not for want of a directory above. -/
  ne_notFound : fault ≠ .notFound
  /-- There is no directory. -/
  noDirectory : d.hasDirectory p = false

theorem makeDirectory_eq_error : d.makeDirectory p = .error fault ↔
    d.locate p = .error fault ∨
      ∃ place, d.locate p = .ok place ∧ d.kindAt place ≠ none ∧ fault = .alreadyExists := by
  rw [makeDirectory, bind_eq_error]
  refine or_congr_right (exists_congr fun place ↦ and_congr_right fun _ ↦ ?_)
  rw [Ne, kindAt_eq_none_iff]
  cases d.lookup place with
  | none => simp
  | some entry => simp [eq_comm]

theorem SameShape.stuck (h : d.SameShape d') (hd : d.Stuck p fault) : d'.Stuck p fault := by
  refine ⟨?_, hd.ne_notFound, (h.hasDirectory p).trans hd.noDirectory⟩
  have hunmade := makeDirectory_eq_error.mp hd.unmade
  rw [makeDirectory_eq_error, h.locate]
  refine hunmade.imp_right ?_
  rintro ⟨place, hplace, hkind, hfault⟩
  exact ⟨place, hplace, by rwa [h.kind], hfault⟩

/-- Whoever is stuck at a path leaves the disk alone. -/
theorem Stuck.makeDirectoriesFrom (h : d.Stuck p fault) (parts : Nat) :
    d.makeDirectoriesFrom p parts = (d, some (fault, p)) := by
  have hgiveUp : (if d.hasDirectory p = true then (d, none) else (d, some (fault, p))) =
      (d, some (fault, p)) := if_neg (by rw [h.noDirectory]; exact Bool.false_ne_true)
  cases parts with
  | zero =>
    rw [Disk.makeDirectoriesFrom, h.unmade]
    exact hgiveUp
  | succ parts =>
    rw [Disk.makeDirectoriesFrom, h.unmade]
    have hfault := h.ne_notFound
    cases fault with
    | notFound => exact absurd rfl hfault
    | _ => exact hgiveUp

/-- A directory that is there needs not be made. -/
theorem makeDirectories_of_hasDirectory (h : d.hasDirectory p = true) :
    d.makeDirectories p = (d, none) := by
  obtain ⟨place, hplace, hkind⟩ := hasDirectory_iff.mp h
  have hexists : d.makeDirectory p = .error .alreadyExists := by
    rw [makeDirectory_eq_error]
    exact .inr ⟨place, hplace, by rw [hkind]; simp, rfl⟩
  rw [makeDirectories]
  cases p.parts.length with
  | zero => rw [makeDirectoriesFrom, hexists]; exact if_pos h
  | succ parts => rw [makeDirectoriesFrom, hexists]; exact if_pos h

theorem hasDirectory_of_makeDirectory (h : d.makeDirectory p = .ok d') :
    d'.hasDirectory p = true := by
  obtain ⟨place, hplace, hnone, rfl⟩ := makeDirectory_eq_ok.mp h
  rw [hasDirectory_iff]
  refine ⟨place, (grown_makeDirectory h).toExtends.locate hplace, ?_⟩
  rw [kindAt, lookup_put (ne_nil_of_lookup hnone), if_pos rfl]
  rfl

/-- Where directories have been made, there is a directory. -/
theorem hasDirectory_of_makeDirectoriesFrom {parts : Nat}
    (h : d.makeDirectoriesFrom p parts = (g, none)) : g.hasDirectory p = true := by
  have hlooked {d : Disk} {fault : DiskFault}
      (h : (if d.hasDirectory p = true then (d, none) else (d, some (fault, p))) = (g, none)) :
      g.hasDirectory p = true := by
    split at h
    next hdirectory =>
      cases h
      exact hdirectory
    next => cases h
  cases parts with
  | zero =>
    rw [makeDirectoriesFrom] at h
    split at h
    next hmake =>
      cases h
      exact hasDirectory_of_makeDirectory hmake
    next => exact hlooked h
  | succ parts =>
    rw [makeDirectoriesFrom] at h
    split at h
    next hmake =>
      cases h
      exact hasDirectory_of_makeDirectory hmake
    next =>
      split at h
      next => cases h
      next =>
        split at h
        next hmake =>
          cases h
          exact hasDirectory_of_makeDirectory hmake
        next => exact hlooked h
    next => exact hlooked h

theorem locate_of_hasNull (h : p.hasNull = true) : d.locate p = .error .nullCharacter :=
  if_pos h

theorem locate_of_long (hnull : p.hasNull = false) (h : pathLimit ≤ p.toString.utf8ByteSize) :
    d.locate p = .error .nameTooLong := by
  rw [locate, if_neg, if_pos h]
  rw [← Path.hasNull, hnull]
  exact Bool.false_ne_true

theorem locate_of_short (hnull : p.hasNull = false) (h : p.toString.utf8ByteSize < pathLimit) :
    d.locate p = d.follow (d.start p) p.parts := by
  rw [locate, if_neg, if_neg (Nat.not_le.mpr h)]
  · rfl
  · rw [← Path.hasNull, hnull]
    exact Bool.false_ne_true

/-- A path that is not refused as such leads on from where its directory is. -/
theorem locate_eq_bind (hparts : p.parts ≠ []) (hnull : p.hasNull = false)
    (h : p.toString.utf8ByteSize < pathLimit) :
    d.locate p = d.locate p.parent >>= fun place ↦ d.follow place [p.name] := by
  have hnull' : p.parent.hasNull = false := by
    rw [Path.hasNull, List.any_eq_false] at hnull ⊢
    exact fun part hpart ↦ hnull part (List.dropLast_subset _ hpart)
  have hshort : p.parent.toString.utf8ByteSize < pathLimit := by
    have hle := p.utf8ByteSize_upTo_le (p.parts.length - 1)
    rw [p.parent_eq_upTo]
    rw [pathLimit] at h ⊢
    omega
  have hsplit : p.parts = p.parent.parts ++ [p.name] :=
    (congrArg Path.parts (Path.child_parent_name hparts)).symm
  rw [locate_of_short hnull h, locate_of_short hnull' hshort, hsplit, follow_append]
  rfl

/-- A path that leads nowhere for want of a directory lacks the one it is in. -/
theorem locate_parent_of_notFound (h : d.locate p = .error .notFound) :
    p.parts ≠ [] ∧ (d.locate p.parent = .error .notFound ∨
      ∃ place, d.locate p.parent = .ok place ∧ d.kindAt place = none) := by
  have hnull : p.hasNull = false := by
    rw [Bool.eq_false_iff]
    intro hnull
    rw [locate_of_hasNull hnull] at h
    cases h
  have hshort : p.toString.utf8ByteSize < pathLimit := by
    rw [← Nat.not_le]
    intro hlong
    rw [locate_of_long hnull hlong] at h
    cases h
  have hparts : p.parts ≠ [] := by
    intro hparts
    rw [locate_of_short hnull hshort, hparts] at h
    cases h
  refine ⟨hparts, ?_⟩
  rw [locate_eq_bind hparts hnull hshort, bind_eq_error] at h
  refine h.imp_right ?_
  rintro ⟨place, hplace, hfollow⟩
  refine ⟨place, hplace, ?_⟩
  rw [follow_cons] at hfollow
  split at hfollow
  next hkind => exact hkind
  next => cases hfollow
  next =>
    split at hfollow
    · cases hfollow
    · cases hfollow

/-- A path is stuck at if it is refused, and not for want of a directory. -/
theorem stuck_of_locate (h : d.locate p = .error fault) (hfault : fault ≠ .notFound) :
    d.Stuck p fault := by
  refine ⟨makeDirectory_eq_error.mpr (.inl h), hfault, ?_⟩
  rw [Bool.eq_false_iff]
  intro hdirectory
  obtain ⟨place, hplace, -⟩ := hasDirectory_iff.mp hdirectory
  cases h.symm.trans hplace

/-- Whoever is stuck above a path is stuck at it. -/
theorem Stuck.of_parent (h : d.Stuck p.parent fault) : ∃ fault, d.Stuck p fault := by
  cases hlocate : d.locate p with
  | error fault' =>
    refine ⟨fault', stuck_of_locate hlocate ?_⟩
    rintro rfl
    rcases (locate_parent_of_notFound hlocate).2 with hparent | ⟨place, hplace, hkind⟩
    · have hunmade := h.unmade.symm.trans (makeDirectory_eq_error.mpr (.inl hparent))
      exact h.ne_notFound (Except.error.inj hunmade)
    · rw [kindAt_eq_none_iff] at hkind
      cases h.unmade.symm.trans (makeDirectory_eq_ok.mpr ⟨place, hplace, hkind, rfl⟩)
  | ok place =>
    by_cases hparts : p.parts = []
    · have hparent : p.parent = p := by
        rw [Path.parent, hparts, List.dropLast_nil, ← hparts]
      rw [hparent] at h
      exact ⟨fault, h⟩
    · obtain ⟨dir, hdir, hrest⟩ := exists_locate_upTo hlocate (p.parts.length - 1)
      rw [← Path.parent_eq_upTo] at hdir
      have hdrop : p.parts.drop (p.parts.length - 1) ≠ [] := by
        have hlength := List.length_pos_iff.mpr hparts
        rw [Ne, List.drop_eq_nil_iff]
        omega
      have hdirectory := exists_directory_of_follow hdrop hrest
      have hparent : d.hasDirectory p.parent = true :=
        hasDirectory_iff.mpr ⟨dir, hdir, kindAt_eq_false_iff.mpr hdirectory⟩
      exact absurd (h.noDirectory.symm.trans hparent) Bool.false_ne_true

/-- Below a directory that is there, directories are not refused for want of one. -/
theorem makeDirectory_ne_notFound (hparent : p.parts ≠ [] → d.hasDirectory p.parent = true) :
    d.makeDirectory p ≠ .error .notFound := by
  intro h
  rcases makeDirectory_eq_error.mp h with hlocate | ⟨-, -, -, hfault⟩
  · obtain ⟨hparts, hwant⟩ := locate_parent_of_notFound hlocate
    obtain ⟨place, hplace, hkind⟩ := hasDirectory_iff.mp (hparent hparts)
    rw [hplace] at hwant
    rcases hwant with hwant | ⟨place', hplace', hkind'⟩
    · cases hwant
    · cases hplace'
      cases hkind.symm.trans hkind'
  · cases hfault

/-- Only a path with the null character is refused for it. -/
theorem Stuck.ne_nullCharacter (h : d.Stuck p fault) (hnull : p.hasNull = false) :
    fault ≠ .nullCharacter := by
  rintro rfl
  rcases makeDirectory_eq_error.mp h.unmade with hlocate | ⟨-, -, -, hfault⟩
  · rcases Nat.lt_or_ge p.toString.utf8ByteSize pathLimit with hshort | hlong
    · rw [locate_of_short hnull hshort] at hlocate
      exact follow_ne_nullCharacter _ _ hlocate
    · rw [locate_of_long hnull hlong] at hlocate
      cases hlocate
  · cases hfault

theorem stuck_of_looked {x : DiskFault × Path} (hmake : d.makeDirectory p = .error fault)
    (hfault : fault ≠ .notFound)
    (h : (if d.hasDirectory p = true then (d, none) else (d, some (fault, p))) = (g, some x)) :
    g.Stuck p x.1 := by
  split at h
  next => cases h
  next hdirectory =>
    cases h
    exact ⟨hmake, hfault, Bool.eq_false_iff.mpr hdirectory⟩

/-- After directories could not be made, the disk is stuck at the path. -/
structure Failed (g : Disk) (p : Path) (fault : DiskFault) : Prop where
  /-- Whoever tries again is stuck. -/
  stuck : ∃ fault, g.Stuck p fault
  /-- Only a path with the null character is refused for it. -/
  ne_nullCharacter : p.hasNull = false → fault ≠ .nullCharacter

theorem Stuck.failed (h : d.Stuck p fault) : d.Failed p fault :=
  ⟨⟨fault, h⟩, h.ne_nullCharacter⟩

/-- **Making directories fails for good.** After a failure, whoever tries again is stuck at once. The
induction is on the number of directories that may have to be made above. -/
theorem failed_of_makeDirectoriesFrom {parts : Nat} (hparts : p.parts.length = parts)
    {x : DiskFault × Path} (h : d.makeDirectoriesFrom p parts = (g, some x)) :
    g.Failed p x.1 := by
  induction parts generalizing p x with
  | zero =>
    have hnone : p.parts = [] := List.length_eq_zero_iff.mp hparts
    rw [makeDirectoriesFrom] at h
    split at h
    next => cases h
    next fault hmake =>
      refine (stuck_of_looked hmake ?_ h).failed
      rintro rfl
      exact makeDirectory_ne_notFound (fun hparts ↦ absurd hnone hparts) hmake
  | succ parts ih =>
    rw [makeDirectoriesFrom] at h
    split at h
    next => cases h
    next =>
      split at h
      next habove =>
        cases h
        have hlength : p.parent.parts.length = parts := by
          rw [Path.parent, List.length_dropLast, hparts, Nat.add_sub_cancel]
        obtain ⟨⟨fault, hstuck⟩, hfault⟩ := ih hlength habove
        refine ⟨hstuck.of_parent, fun hnull ↦ hfault ?_⟩
        rw [Path.hasNull, List.any_eq_false] at hnull ⊢
        exact fun part hpart ↦ hnull part (List.dropLast_subset _ hpart)
      next d' habove =>
        split at h
        next => cases h
        next fault hmake =>
          refine (stuck_of_looked hmake ?_ h).failed
          rintro rfl
          exact makeDirectory_ne_notFound
            (fun _ ↦ hasDirectory_of_makeDirectoriesFrom habove) hmake
    next fault hfault hmake =>
      refine (stuck_of_looked hmake ?_ h).failed
      rintro rfl
      exact hfault rfl

/-- Making directories for a path fails after some of them have been made. -/
def HalfMade (d : Disk) (p : Path) : Prop :=
  (d.makeDirectories p).2 ≠ none ∧
    ∃ place, d.lookup place = none ∧ (d.makeDirectories p).1.lookup place ≠ none

/-- A disk on which nothing has been made has the shape it had. -/
theorem Grown.sameShape (h : Grown p d g)
    (hnone : ¬∃ place, d.lookup place = none ∧ g.lookup place ≠ none) : d.SameShape g := by
  refine ⟨h.current, fun place ↦ ?_⟩
  cases hd : d.lookup place with
  | none =>
    have hg : g.lookup place = none := by
      by_contra hg
      exact hnone ⟨place, hd, hg⟩
    rw [kindAt, kindAt, hd, hg]
  | some entry => rw [kindAt, kindAt, hd, h.kept place entry hd]

/-- **Trying again to make directories.** On a disk of the shape that a failure has left, making the
directories fails again and changes nothing. It fails with the same fault at the same path if
nothing has been made before; and if something has, neither fault is the null character. -/
theorem makeDirectories_again {x : DiskFault × Path} (h : d.makeDirectories p = (g, some x))
    (hshape : g.SameShape e) : e.makeDirectories p = (e, some x) ∨
      d.HalfMade p ∧ x.1 ≠ .nullCharacter ∧
        ∃ fault, fault ≠ .nullCharacter ∧ e.makeDirectories p = (e, some (fault, p)) := by
  obtain ⟨⟨fault, hstuck⟩, hx⟩ := failed_of_makeDirectoriesFrom rfl h
  have hagain := (hshape.stuck hstuck).makeDirectoriesFrom p.parts.length
  by_cases hmade : ∃ place, d.lookup place = none ∧ g.lookup place ≠ none
  · by_cases hnull : p.hasNull = true
    · have hrefused := stuck_of_locate (locate_of_hasNull (d := d) hnull) (by decide)
      have hfirst := hrefused.makeDirectoriesFrom p.parts.length
      cases h.symm.trans hfirst
      obtain ⟨place, hnone, hsome⟩ := hmade
      exact absurd hnone hsome
    · rw [Bool.not_eq_true] at hnull
      have hhalf : d.HalfMade p := by
        rw [HalfMade, h]
        exact ⟨Option.some_ne_none x, hmade⟩
      exact .inr ⟨hhalf, hx hnull, fault, hstuck.ne_nullCharacter hnull, hagain⟩
  · have hgrown : Grown p d g := by
      have hgrown := d.grown_makeDirectories p
      rwa [h] at hgrown
    have hfirst := ((hgrown.sameShape hmade).symm.stuck hstuck).makeDirectoriesFrom p.parts.length
    cases h.symm.trans hfirst
    exact .inl hagain

end Disk

end DiagramForge
