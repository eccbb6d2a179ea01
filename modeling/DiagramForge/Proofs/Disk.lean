import DiagramForge.Disk
import DiagramForge.Proofs.Outcome
import Mathlib.Tactic.Common

/-!
# Disks that grow

What `put` and `erase` do to the entries, and what making directories does to a disk: it leaves
every entry as it is, and whatever is new is a directory that the path leads through
(`grown_makeDirectories`).

## What paths denote

Following a path asks of each place on the way whether there is a directory. So a path that denotes
a place goes on denoting it as long as no directory is lost (`Extends.locate`): what has been found
out about a path before something is added to the disk can be used afterwards.
-/

namespace DiagramForge

open Outcome

/-- The path up to some of its components. -/
def Path.upTo (p : Path) (n : Nat) : Path :=
  ⟨p.root, p.parts.take n⟩

namespace Path

variable {p : Path}

theorem upTo_length (p : Path) : p.upTo p.parts.length = p := by
  rw [upTo, List.take_length]

theorem parent_eq_upTo (p : Path) : p.parent = p.upTo (p.parts.length - 1) := by
  rw [parent, upTo, List.dropLast_eq_take]

theorem upTo_upTo (p : Path) (m n : Nat) : (p.upTo m).upTo n = p.upTo (min n m) := by
  rw [upTo, upTo, List.take_take, upTo]

theorem child_parent_name (h : p.parts ≠ []) : p.parent.child p.name = p := by
  rw [child, parent, name, List.getLast?_eq_getLast_of_ne_nil h, Option.getD_some,
    List.dropLast_append_getLast h]

theorem utf8ByteSize_intercalate_take_le (sep : String) (parts : List String) (n : Nat) :
    (sep.intercalate (parts.take n)).utf8ByteSize ≤ (sep.intercalate parts).utf8ByteSize := by
  by_cases htake : parts.take n = []
  · rw [htake, String.intercalate_nil, String.utf8ByteSize_empty]
    exact Nat.zero_le _
  by_cases hdrop : parts.drop n = []
  · exact Nat.le_of_eq (by rw [List.take_of_length_le (List.drop_eq_nil_iff.mp hdrop)])
  · conv_rhs => rw [← List.take_append_drop n parts,
      String.intercalate_append_of_ne_nil htake hdrop]
    rw [String.utf8ByteSize_append, String.utf8ByteSize_append]
    omega

/-- The text of a path is hardly shorter than that of a part of it: the path without components is
written as a dot. -/
theorem utf8ByteSize_upTo_le (p : Path) (n : Nat) :
    (p.upTo n).toString.utf8ByteSize ≤ max 1 p.toString.utf8ByteSize := by
  have hle := utf8ByteSize_intercalate_take_le "/" p.parts n
  rw [toString, toString, upTo]
  by_cases hdot : (p.root == "" && (p.parts.take n).isEmpty) = true
  · rw [if_pos hdot]
    exact Nat.le_max_left _ _
  · have hdot' : ¬ (p.root == "" && p.parts.isEmpty) = true := by
      intro h
      rw [Bool.and_eq_true, List.isEmpty_iff] at h
      rw [h.2, List.take_nil, h.1] at hdot
      exact hdot rfl
    rw [if_neg hdot, if_neg hdot', String.utf8ByteSize_append, String.utf8ByteSize_append]
    exact Nat.le_trans (Nat.add_le_add_left hle _) (Nat.le_max_right _ _)

end Path

namespace Disk

variable {d d' d'' : Disk} {place other : DiskPlace} {p : Path}

/-! ## Entries -/

/-- Entries of which those at a place have been replaced. -/
theorem find?_replaced (es : List (DiskPlace × DiskEntry)) (place other : DiskPlace)
    (e : DiskEntry) :
    ((es.map fun e' ↦ if e'.1 == place then (place, e) else e').find? fun e' ↦ e'.1 == other) =
      (es.find? fun e' ↦ e'.1 == other).map fun e' ↦ if e'.1 == place then (place, e) else e' := by
  have hsame : ((fun e' : DiskPlace × DiskEntry ↦ e'.1 == other) ∘ fun e' ↦
      if e'.1 == place then (place, e) else e') = fun e' ↦ e'.1 == other := by
    funext e'
    rw [Function.comp_apply]
    split
    case isTrue heq => rw [← eq_of_beq heq]
    case isFalse => rfl
  rw [List.find?_map, hsame]

/-- An entry that is put at a place is there, and all others are what they were. -/
theorem lookup_put (hplace : place ≠ []) (e : DiskEntry) (other : DiskPlace) :
    (d.put place e).lookup other = if place = other then some e else d.lookup other := by
  by_cases hroot : other = []
  · rw [lookup, if_pos hroot, if_neg (fun heq ↦ hplace (heq.trans hroot)), lookup, if_pos hroot]
  rw [lookup, if_neg hroot, lookup, if_neg hroot, put]
  by_cases hany : d.entries.any fun e' ↦ e'.1 == place
  · rw [if_pos hany, find?_replaced]
    by_cases hother : place = other
    · obtain ⟨e', he', hplace'⟩ := List.any_eq_true.mp hany
      rw [if_pos hother, ← hother]
      cases hfind : d.entries.find? fun e' ↦ e'.1 == place with
      | none => exact absurd hplace' (List.find?_eq_none.mp hfind e' he')
      | some found => rw [Option.map_some, if_pos (List.find?_some hfind)]; rfl
    · rw [if_neg hother]
      cases hfind : d.entries.find? fun e' ↦ e'.1 == other with
      | none => rfl
      | some found =>
        have hfound := List.find?_some hfind
        rw [beq_iff_eq] at hfound
        rw [Option.map_some, if_neg (fun heq ↦ hother ((eq_of_beq heq).symm.trans hfound))]
  · rw [if_neg hany, List.find?_append]
    have hnone : d.entries.find? (fun e' ↦ e'.1 == place) = none := by
      rw [List.find?_eq_none]
      exact fun e' he' hplace' ↦ hany (List.any_eq_true.mpr ⟨e', he', hplace'⟩)
    by_cases hother : place = other
    · rw [if_pos hother, ← hother, hnone, Option.none_or, List.find?_singleton,
        if_pos (beq_self_eq_true _)]
      rfl
    · rw [if_neg hother, List.find?_singleton, if_neg (fun heq ↦ hother (eq_of_beq heq)),
        Option.or_none]

/-- Of two entries that are put at a place, the second one stays. -/
theorem put_put (d : Disk) (place : DiskPlace) (e e' : DiskEntry) :
    (d.put place e).put place e' = d.put place e' := by
  by_cases hany : (d.entries.any fun e ↦ e.1 == place) = true
  · have hagain : ((d.entries.map fun e' ↦ if e'.1 == place then (place, e) else e').any
        fun e ↦ e.1 == place) = true := by
      obtain ⟨found, hfound, hplace⟩ := List.any_eq_true.mp hany
      refine List.any_eq_true.mpr ⟨_, List.mem_map_of_mem hfound, ?_⟩
      rw [if_pos hplace]
      exact beq_self_eq_true place
    rw [put, put, if_pos hany, if_pos hagain, put, if_pos hany, List.map_map]
    congr 2
    funext found
    rw [Function.comp_apply]
    by_cases hfound : found.1 = place <;> simp [hfound]
  · have hothers : d.entries.map (fun found ↦ if found.1 == place then (place, e') else found) =
        d.entries := by
      refine (List.map_congr_left fun found hfound ↦ if_neg fun hplace ↦ hany ?_).trans
        (List.map_id _)
      exact List.any_eq_true.mpr ⟨found, hfound, hplace⟩
    rw [put, put, if_neg hany, if_pos (by simp), put, if_neg hany, List.map_append, hothers]
    simp

/-- An entry that is removed is gone, and all others are what they were. -/
theorem lookup_erase (hplace : place ≠ []) (other : DiskPlace) :
    (d.erase place).lookup other = if place = other then none else d.lookup other := by
  by_cases hroot : other = []
  · rw [lookup, if_pos hroot, if_neg (fun heq ↦ hplace (heq.trans hroot)), lookup, if_pos hroot]
  rw [lookup, if_neg hroot, lookup, if_neg hroot, erase, List.find?_filter]
  by_cases hother : place = other
  · rw [if_pos hother, Option.map_eq_none_iff, List.find?_eq_none]
    intro e _
    simp [hother]
  · rw [if_neg hother]
    congr 2
    funext e
    by_cases he : e.1 = other
    · simp [he, Ne.symm hother]
    · simp [he]

@[simp] theorem current_put (d : Disk) (place : DiskPlace) (e : DiskEntry) :
    (d.put place e).current = d.current := by
  rw [put]
  split <;> rfl

@[simp] theorem current_erase (d : Disk) (place : DiskPlace) :
    (d.erase place).current = d.current :=
  rfl

/-- Nothing is at a place only if it is not the root. -/
theorem ne_nil_of_lookup (h : d.lookup place = none) : place ≠ [] := by
  rintro rfl
  cases h

/-- What is put where nothing is leaves nothing behind once it is removed. -/
theorem lookup_erase_put (hfree : d.lookup place = none) (e : DiskEntry) (other : DiskPlace) :
    ((d.put place e).erase place).lookup other = d.lookup other := by
  have hplace := ne_nil_of_lookup hfree
  rw [lookup_erase hplace, lookup_put hplace]
  split
  next heq => rw [← heq, hfree]
  next => rfl

/-! ## What paths denote -/

/-- The place from which a path is followed. -/
def start (d : Disk) (p : Path) : DiskPlace :=
  if p.isAbsolute then [] else d.current

theorem follow_append (place : DiskPlace) (parts more : List String) :
    d.follow place (parts ++ more) = d.follow place parts >>= fun place ↦ d.follow place more := by
  induction parts generalizing place with
  | nil => rfl
  | cons part parts ih =>
    rw [List.cons_append, follow, follow]
    split
    · rfl
    · rfl
    · split
      · rfl
      · exact ih _

theorem follow_ne_nullCharacter (place : DiskPlace) (parts : List String) :
    d.follow place parts ≠ .error .nullCharacter := by
  induction parts generalizing place with
  | nil => simp [follow]
  | cons part parts ih =>
    rw [follow]
    split
    · simp
    · simp
    · split
      · simp
      · exact ih _

/-- Components that do not go up are added to the place. -/
theorem follow_inside {parts : List String} (hinside : ".." ∉ parts)
    (h : d.follow place parts = .ok other) : other = place ++ parts := by
  induction parts generalizing place with
  | nil =>
    cases h
    exact (List.append_nil _).symm
  | cons part parts ih =>
    rw [List.mem_cons, not_or] at hinside
    rw [follow] at h
    split at h
    · cases h
    · cases h
    · split at h
      · cases h
      · rw [if_neg (by rw [beq_iff_eq]; exact Ne.symm hinside.1)] at h
        rw [ih hinside.2 h, List.append_assoc, List.singleton_append]

/-- A place is followed further only if it is a directory. -/
theorem exists_directory_of_follow {parts : List String} (hparts : parts ≠ [])
    (h : d.follow place parts = .ok other) :
    ∃ time, d.lookup place = some (.directory time) := by
  cases parts with
  | nil => exact absurd rfl hparts
  | cons part parts =>
    rw [follow] at h
    split at h
    · cases h
    · cases h
    next time hlookup => exact ⟨time, hlookup⟩

theorem locate_eq_ok : d.locate p = .ok place ↔
    (p.parts.any fun part ↦ part.toList.contains '\x00') = false ∧
      p.toString.utf8ByteSize < pathLimit ∧ d.follow (d.start p) p.parts = .ok place := by
  rw [locate, start]
  split
  next hnul =>
    constructor
    · intro h
      cases h
    · intro h
      rw [h.1] at hnul
      cases hnul
  next hnul =>
    rw [Bool.not_eq_true] at hnul
    split
    next hlong =>
      constructor
      · intro h
        cases h
      · intro h
        exact absurd h.2.1 (Nat.not_lt.mpr hlong)
    next hlong => exact ⟨fun h ↦ ⟨hnul, Nat.not_le.mp hlong, h⟩, fun h ↦ h.2.2⟩

/-- A path that denotes a place does so by way of what it denotes up to any component. -/
theorem exists_locate_upTo (h : d.locate p = .ok place) (n : Nat) :
    ∃ before, d.locate (p.upTo n) = .ok before ∧ d.follow before (p.parts.drop n) = .ok place := by
  obtain ⟨hnul, hshort, hfollow⟩ := locate_eq_ok.mp h
  rw [← List.take_append_drop n p.parts, follow_append, bind_eq_ok] at hfollow
  obtain ⟨before, hbefore, hrest⟩ := hfollow
  refine ⟨before, locate_eq_ok.mpr ⟨?_, ?_, hbefore⟩, hrest⟩
  · rw [List.any_eq_false] at hnul ⊢
    exact fun part hpart ↦ hnul part (List.mem_of_mem_take hpart)
  · have hle := p.utf8ByteSize_upTo_le n
    rw [pathLimit] at hshort ⊢
    omega

/-- An entry of a directory is denoted by way of the directory. -/
theorem exists_locate_of_child {name : String} (hname : name ≠ "..")
    (h : d.locate (p.child name) = .ok place) : ∃ dir time, d.locate p = .ok dir ∧
      d.lookup dir = some (.directory time) ∧ place = dir ++ [name] := by
  obtain ⟨dir, hdir, hrest⟩ := exists_locate_upTo h p.parts.length
  rw [Path.child, Path.upTo, List.take_left] at hdir
  rw [Path.child, List.drop_left] at hrest
  obtain ⟨time, htime⟩ := exists_directory_of_follow (List.cons_ne_nil _ _) hrest
  exact ⟨dir, time, hdir, htime,
    follow_inside (fun hmem ↦ hname (List.mem_singleton.mp hmem).symm) hrest⟩

/-- What is a directory on a disk is one on another disk, which has the same current directory. -/
structure Extends (d d' : Disk) : Prop where
  /-- The current directory is the same. -/
  current : d'.current = d.current
  /-- Directories are directories. -/
  directory : ∀ place time, d.lookup place = some (.directory time) →
    ∃ time', d'.lookup place = some (.directory time')

namespace Extends

theorem refl (d : Disk) : d.Extends d :=
  ⟨rfl, fun _ time h ↦ ⟨time, h⟩⟩

theorem trans (h : d.Extends d') (h' : d'.Extends d'') : d.Extends d'' := by
  refine ⟨h'.current.trans h.current, fun place time hplace ↦ ?_⟩
  obtain ⟨time', hplace'⟩ := h.directory place time hplace
  exact h'.directory place time' hplace'

theorem follow (h : d.Extends d') {parts : List String} (hf : d.follow place parts = .ok other) :
    d'.follow place parts = .ok other := by
  induction parts generalizing place with
  | nil => exact hf
  | cons part parts ih =>
    obtain ⟨time, htime⟩ := exists_directory_of_follow (List.cons_ne_nil _ _) hf
    obtain ⟨time', htime'⟩ := h.directory place time htime
    rw [Disk.follow, htime] at hf
    rw [Disk.follow, htime']
    dsimp only at hf ⊢
    split at hf
    · cases hf
    next hname => rw [if_neg hname, ih hf]

/-- A path that denotes a place goes on denoting it. -/
theorem locate (h : d.Extends d') (hp : d.locate p = .ok place) : d'.locate p = .ok place := by
  obtain ⟨hnul, hshort, hfollow⟩ := locate_eq_ok.mp hp
  refine locate_eq_ok.mpr ⟨hnul, hshort, ?_⟩
  rw [start, h.current]
  exact h.follow hfollow

end Extends

/-! ## Making directories -/

/-- A path leads through a place: it denotes it up to one of its components. -/
def LeadsThrough (d : Disk) (p : Path) (place : DiskPlace) : Prop :=
  ∃ n, d.locate (p.upTo n) = .ok place

theorem LeadsThrough.upTo {n : Nat} (h : d.LeadsThrough (p.upTo n) place) :
    d.LeadsThrough p place := by
  obtain ⟨m, hm⟩ := h
  rw [Path.upTo_upTo] at hm
  exact ⟨_, hm⟩

/-- How a disk has grown on the way to a path. -/
structure Grown (p : Path) (d d' : Disk) : Prop where
  /-- The current directory is the same. -/
  current : d'.current = d.current
  /-- Whatever was there is there as it was. -/
  kept : ∀ place e, d.lookup place = some e → d'.lookup place = some e
  /-- Whatever is new is a directory that the path leads through. -/
  made : ∀ place, d.lookup place = none → d'.lookup place = none ∨
    d'.lookup place = some .newDirectory ∧ d'.LeadsThrough p place

namespace Grown

theorem refl (p : Path) (d : Disk) : Grown p d d :=
  ⟨rfl, fun _ _ h ↦ h, fun _ h ↦ .inl h⟩

theorem toExtends (h : Grown p d d') : d.Extends d' :=
  ⟨h.current, fun place time hplace ↦ ⟨time, h.kept place _ hplace⟩⟩

theorem trans (h : Grown p d d') (h' : Grown p d' d'') : Grown p d d'' := by
  refine ⟨h'.current.trans h.current, fun place e he ↦ h'.kept place e (h.kept place e he),
    fun place hnone ↦ ?_⟩
  rcases h.made place hnone with hnone' | ⟨hmade, n, hn⟩
  · exact h'.made place hnone'
  · exact .inr ⟨h'.kept place _ hmade, n, h'.toExtends.locate hn⟩

theorem upTo {n : Nat} (h : Grown (p.upTo n) d d') : Grown p d d' :=
  ⟨h.current, h.kept, fun place hnone ↦
    (h.made place hnone).imp_right fun hmade ↦ ⟨hmade.1, hmade.2.upTo⟩⟩

end Grown

theorem makeDirectory_eq_ok : d.makeDirectory p = .ok d' ↔
    ∃ place, d.locate p = .ok place ∧ d.lookup place = none ∧
      d' = d.put place .newDirectory := by
  rw [makeDirectory, bind_eq_ok]
  refine exists_congr fun place ↦ and_congr_right fun _ ↦ ?_
  cases d.lookup place with
  | none => exact ⟨fun h ↦ ⟨rfl, (Except.ok.inj h).symm⟩, fun h ↦ congrArg _ h.2.symm⟩
  | some e => simp

theorem grown_makeDirectory (h : d.makeDirectory p = .ok d') : Grown p d d' := by
  obtain ⟨place, hplace, hnone, rfl⟩ := makeDirectory_eq_ok.mp h
  have hput := lookup_put (d := d) (ne_nil_of_lookup hnone) .newDirectory
  have hkept : ∀ other e, d.lookup other = some e →
      (d.put place .newDirectory).lookup other = some e := by
    intro other e he
    rw [hput, if_neg]
    · exact he
    · rintro rfl
      cases hnone.symm.trans he
  have hextends : d.Extends (d.put place .newDirectory) :=
    ⟨current_put .., fun other time he ↦ ⟨time, hkept other _ he⟩⟩
  refine ⟨current_put .., hkept, fun other hother ↦ ?_⟩
  rw [hput]
  split
  next heq =>
    refine .inr ⟨rfl, p.parts.length, ?_⟩
    rw [p.upTo_length, ← heq]
    exact hextends.locate hplace
  next => exact .inl hother

/-- A directory that cannot be made is looked for; either way the disk stays as it is. -/
theorem grown_unmade (p : Path) (d : Disk) (fault : DiskFault) :
    Grown p d (if d.hasDirectory p then (d, none) else (d, some (fault, p))).1 := by
  split <;> exact Grown.refl p d

/-- The induction is on the number of directories that may have to be made above. -/
theorem grown_makeDirectoriesFrom (d : Disk) (p : Path) (parts : Nat) :
    Grown p d (d.makeDirectoriesFrom p parts).1 := by
  induction parts generalizing p with
  | zero =>
    rw [makeDirectoriesFrom]
    split
    next hmake => exact grown_makeDirectory hmake
    next => exact grown_unmade p d _
  | succ parts ih =>
    rw [makeDirectoriesFrom]
    split
    next hmake => exact grown_makeDirectory hmake
    next =>
      have habove : Grown p d (d.makeDirectoriesFrom p.parent parts).1 := by
        have hparent := ih p.parent
        rw [p.parent_eq_upTo] at hparent ⊢
        exact hparent.upTo
      split
      next hfailed =>
        rw [hfailed] at habove
        exact habove
      next hmade =>
        rw [hmade] at habove
        split
        next hmake => exact habove.trans (grown_makeDirectory hmake)
        next => exact habove.trans (grown_unmade p _ _)
    next => exact grown_unmade p d _

/-- Whether or not making directories succeeds, the disk has only grown on the way to the path. -/
theorem grown_makeDirectories (d : Disk) (p : Path) : Grown p d (d.makeDirectories p).1 :=
  grown_makeDirectoriesFrom d p p.parts.length

end Disk

end DiagramForge
