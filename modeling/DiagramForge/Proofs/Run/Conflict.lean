import DiagramForge.Proofs.Run.Journal

/-!
# Files of one path

The files of a run are compared by their paths as they were given: a run writes its files only if
these texts all differ, and fails with a diagnostic for every repetition otherwise. Where a file is
written, though, depends only on the components of its path. `Generator.run_separated` says what
this comes to: two files of a run share their target exactly if their paths have the same
components, which cannot happen among paths in normal form.

Two spellings of one path do get past the comparison, and then the second file replaces the first:
`Generator.replaced_by_other_spelling`.
-/

namespace DiagramForge

open RunStep

variable {σ : Type}

/-! ## Targets -/

namespace OutputPath

/-- The path is spelled in normal form. -/
def IsNormal (p : OutputPath) : Prop :=
  Path.normalize p.text = p.text

/-- The components of a path. -/
def components (p : OutputPath) : List String :=
  Path.components p.text

/-- A path that leads inside is seen from the output directory. -/
theorem rootOf_eq (p : OutputPath) : Path.rootOf p.text = "" := by
  have hinside := p.inside
  rw [leadsInside, Bool.and_eq_true, Bool.and_eq_true, bne_iff_ne] at hinside
  have hhead : p.text.toList.head? ≠ some '/' := bne_iff_ne.mp hinside.1.2
  have hnone : p.text.toList.takeWhile (· == '/') = [] := by
    cases hcs : p.text.toList with
    | nil => rfl
    | cons c cs =>
      rw [hcs, List.head?_cons] at hhead
      exact List.takeWhile_cons_of_neg fun hc ↦ hhead (congrArg some (beq_iff_eq.mp hc))
  rw [Path.rootOf, hnone]

theorem target_eq (root : Path) (p : OutputPath) :
    p.target root = ⟨root.root, root.parts ++ p.components⟩ := by
  rw [target, Path.join, Path.ofString, p.rootOf_eq]
  rfl

/-- Where a file goes depends on the components of its path, and on nothing else. -/
theorem target_eq_iff {root : Path} {p q : OutputPath} :
    p.target root = q.target root ↔ p.components = q.components := by
  rw [target_eq, target_eq, Path.mk.injEq, List.append_right_inj]
  exact and_iff_right rfl

/-- Paths in normal form are told apart by their components. -/
theorem IsNormal.text_eq {p q : OutputPath} (hp : p.IsNormal) (hq : q.IsNormal)
    (h : p.components = q.components) : p.text = q.text := by
  rw [← hp, ← hq, Path.normalize, Path.normalize, Path.ofString, Path.ofString, p.rootOf_eq,
    q.rootOf_eq]
  exact congrArg (fun parts ↦ (Path.mk "" parts).toString) h

end OutputPath

/-! ## Conflicts -/

namespace Generator

/-- The first of some files with the path of a file. -/
def firstWith (fs : List OutputFile) (f : OutputFile) : Option OutputFile :=
  fs.find? fun g ↦ g.path.text == f.path.text

theorem path_text_of_firstWith {fs : List OutputFile} {f g : OutputFile}
    (h : firstWith fs f = some g) : g.path.text = f.path.text :=
  beq_iff_eq.mp (List.find?_some (p := fun g : OutputFile ↦ g.path.text == f.path.text) h)

/-- A file whose path has been met before is no first one. -/
theorem firstWith_append_cons {seen : List OutputFile} {f g : OutputFile}
    (hg : firstWith seen f = some g) (before : List OutputFile) (f' : OutputFile) :
    firstWith (seen ++ f :: before) f' = firstWith (seen ++ before) f' := by
  rw [firstWith, firstWith, List.find?_append, List.find?_append]
  cases hseen : seen.find? fun g ↦ g.path.text == f'.path.text with
  | some g' => rfl
  | none =>
    have hne := List.find?_eq_none.mp hseen g (List.mem_of_find?_eq_some hg)
    rw [path_text_of_firstWith hg] at hne
    exact congrArg (Option.or none) (List.find?_cons_of_neg (p := fun g ↦ _) hne)

/-- Every file whose path has been met before is in conflict with the first one that has it. -/
theorem mem_conflictsAfter {seen fs : List OutputFile} {d : Diagnostic} :
    d ∈ conflictsAfter seen fs ↔ ∃ before f after g, fs = before ++ f :: after ∧
      firstWith (seen ++ before) f = some g ∧ d = conflict g f := by
  induction fs generalizing seen with
  | nil =>
    refine ⟨nofun, fun ⟨before, f, after, g, hfs, _⟩ ↦ ?_⟩
    exact absurd hfs.symm (List.append_ne_nil_of_right_ne_nil _ (List.cons_ne_nil _ _))
  | cons f fs ih =>
    have hlater : ∀ {seen' : List OutputFile},
        (∀ before f', firstWith (seen' ++ before) f' = firstWith (seen ++ f :: before) f') →
        (d ∈ conflictsAfter seen' fs ↔ ∃ before f' after g, fs = before ++ f' :: after ∧
          firstWith (seen ++ f :: before) f' = some g ∧ d = conflict g f') := fun hseen ↦ by
      rw [ih]
      simp only [hseen]
    have hsplit : (∃ before f' after g, f :: fs = before ++ f' :: after ∧
        firstWith (seen ++ before) f' = some g ∧ d = conflict g f') ↔
        (∃ g, firstWith seen f = some g ∧ d = conflict g f) ∨
        ∃ before f' after g, fs = before ++ f' :: after ∧
          firstWith (seen ++ f :: before) f' = some g ∧ d = conflict g f' := by
      constructor
      · rintro ⟨before, f', after, g, hfs, hg, hd⟩
        cases before with
        | nil =>
          cases (List.cons.inj hfs).1
          rw [List.append_nil] at hg
          exact .inl ⟨g, hg, hd⟩
        | cons b before =>
          obtain ⟨rfl, hmore⟩ := List.cons.inj hfs
          exact .inr ⟨before, f', after, g, hmore, hg, hd⟩
      · rintro (⟨g, hg, hd⟩ | ⟨before, f', after, g, rfl, hg, hd⟩)
        · exact ⟨[], f, fs, g, rfl, by rw [List.append_nil]; exact hg, hd⟩
        · exact ⟨f :: before, f', after, g, rfl, hg, hd⟩
    rw [hsplit, conflictsAfter]
    split
    -- The path has been met: the file is not added to those seen, but it would be the first one
    -- with its path for none of those to come.
    next g hg =>
      rw [List.mem_cons, hlater fun before f' ↦ (firstWith_append_cons hg before f').symm]
      refine or_congr_left ⟨fun hd ↦ ⟨g, hg, hd⟩, fun ⟨g', hg', hd⟩ ↦ ?_⟩
      cases hg.symm.trans hg'
      exact hd
    next hnone =>
      rw [hlater fun before f' ↦ by rw [List.append_assoc, List.singleton_append]]
      refine (or_iff_right fun ⟨g, hg, _⟩ ↦ ?_).symm
      cases hnone.symm.trans hg

theorem mem_conflicts {fs : List OutputFile} {d : Diagnostic} :
    d ∈ conflicts fs ↔ ∃ before f after g, fs = before ++ f :: after ∧
      firstWith before f = some g ∧ d = conflict g f :=
  mem_conflictsAfter

theorem firstWith_append_singleton_eq_none {seen : List OutputFile} {f f' : OutputFile} :
    firstWith (seen ++ [f]) f' = none ↔
      firstWith seen f' = none ∧ f.path.text ≠ f'.path.text := by
  rw [firstWith, List.find?_append, Option.or_eq_none_iff, List.find?_singleton]
  refine and_congr_right fun _ ↦ ?_
  split
  next heq => exact ⟨nofun, fun hne ↦ absurd (beq_iff_eq.mp heq) hne⟩
  next hne => exact ⟨fun _ heq ↦ hne (beq_iff_eq.mpr heq), fun _ ↦ rfl⟩

theorem conflictsAfter_eq_nil_iff {seen fs : List OutputFile} :
    conflictsAfter seen fs = [] ↔
      (∀ f ∈ fs, firstWith seen f = none) ∧ (fs.map (·.path.text)).Nodup := by
  induction fs generalizing seen with
  | nil => exact ⟨fun _ ↦ ⟨nofun, List.nodup_nil⟩, fun _ ↦ rfl⟩
  | cons f fs ih =>
    rw [conflictsAfter, List.forall_mem_cons, List.map_cons, List.nodup_cons]
    split
    next g hg =>
      refine ⟨nofun, fun ⟨⟨hnone, _⟩, _⟩ ↦ ?_⟩
      cases hnone.symm.trans hg
    next hnone =>
      rw [ih]
      simp only [firstWith_append_singleton_eq_none, List.mem_map, not_exists, not_and]
      constructor
      · rintro ⟨hfs, hnodup⟩
        exact ⟨⟨hnone, fun f' hf' ↦ (hfs f' hf').1⟩, fun f' hf' heq ↦ (hfs f' hf').2 heq.symm,
          hnodup⟩
      · rintro ⟨⟨-, hfs⟩, hne, hnodup⟩
        exact ⟨fun f' hf' ↦ ⟨hfs f' hf', fun heq ↦ hne f' hf' heq.symm⟩, hnodup⟩

/-- Files do not conflict if their paths are all different. -/
theorem conflicts_eq_nil_iff {fs : List OutputFile} :
    conflicts fs = [] ↔ (fs.map (·.path.text)).Nodup :=
  conflictsAfter_eq_nil_iff.trans (and_iff_right fun _ _ ↦ rfl)

/-- Every repetition of a path is reported. -/
theorem exists_conflict {before : List OutputFile} {f g : OutputFile} (hg : g ∈ before)
    (hpath : g.path.text = f.path.text) (after : List OutputFile) :
    ∃ first ∈ before, first.path.text = f.path.text ∧
      conflict first f ∈ conflicts (before ++ f :: after) := by
  cases hfirst : firstWith before f with
  | none => exact absurd (beq_iff_eq.mpr hpath) (List.find?_eq_none.mp hfirst g hg)
  | some first =>
    exact ⟨first, List.mem_of_find?_eq_some hfirst, path_text_of_firstWith hfirst,
      mem_conflicts.mpr ⟨before, f, after, first, rfl, hfirst, rfl⟩⟩

/-- The errors of a run that fails because of its files are the conflicts as they are. -/
theorem map_withPhase_conflicts (fs : List OutputFile) (phase : String) :
    (conflicts fs).map (·.withPhase phase) = conflicts fs := by
  refine (List.map_congr_left fun d hd ↦ ?_).trans (List.map_id _)
  obtain ⟨_, _, _, _, _, _, rfl⟩ := mem_conflicts.mp hd
  rfl

end Generator

/-! ## Runs -/

/-- What keeps the files of a run apart that started on the disk `d`. -/
structure RunState.Separated (d : Disk) (s : RunState σ) : Prop where
  /-- The files that are written have different paths. Two of them share their target exactly if
  these have the same components, so no two do if all paths are in normal form. -/
  writing : .entered .writing ∈ s.journal → ∃ files, s.settled = some files ∧
    (files.map (·.path.text)).Nodup ∧ ∀ root,
      ((files.map (·.path.target root)).Nodup ↔ (files.map (·.path.components)).Nodup) ∧
      ((∀ f ∈ files, f.path.IsNormal) → (files.map (·.path.target root)).Nodup)
  /-- If a path occurs twice among the files of the run, it fails before anything is written. -/
  clash : s.status.filesCollected = true → .entered .writing ∉ s.journal →
    s.failedPhase = some .rendering ∧ s.status.written = [] ∧ s.world.disk = d ∧
    ¬ ((allFiles s.status s.contributions).map (·.path.text)).Nodup
  /-- All repetitions are errors of this run. -/
  errors : s.status.filesCollected = true → .entered .writing ∉ s.journal →
    ∀ before f after, allFiles s.status s.contributions = before ++ f :: after →
      ∀ g ∈ before, g.path.text = f.path.text →
        ∃ first ∈ before, first.path.text = f.path.text ∧ Generator.conflict first f ∈ s.errors

/-- Where files go, provided that their paths are all different. -/
theorem nodup_targets {files : List OutputFile} (hpaths : (files.map (·.path.text)).Nodup)
    (root : Path) :
    ((files.map (·.path.target root)).Nodup ↔ (files.map (·.path.components)).Nodup) ∧
      ((∀ f ∈ files, f.path.IsNormal) → (files.map (·.path.target root)).Nodup) := by
  have hiff : (files.map (·.path.target root)).Nodup ↔ (files.map (·.path.components)).Nodup := by
    rw [List.Nodup, List.Nodup, List.pairwise_map, List.pairwise_map]
    simp only [ne_eq, OutputPath.target_eq_iff]
  refine ⟨hiff, fun hnormal ↦ hiff.mpr ?_⟩
  rw [List.Nodup, List.pairwise_map] at hpaths ⊢
  refine hpaths.imp_of_mem fun hf hg hne heq ↦ hne ?_
  exact (hnormal _ hf).text_eq (hnormal _ hg) heq

/-- A run that has failed before its files were to be written has written nothing. -/
theorem RunState.Ended.outline_eq {output : OutputTarget} {d : Disk} {s : RunState σ}
    (h : s.Ended output d) {p : Phase} (hfailed : s.failedPhase = some p) (hp : p ≠ .writing) :
    s.outline = (RunOutline.going p d none).failed := by
  have hfailed : s.outline.failedPhase = some p := hfailed
  have hv := h.1
  generalize s.outline = v at hfailed hv ⊢
  cases hv with
  | early p' _ =>
    cases hfailed
    rfl
  | late files written hwritten d' hdisk => exact absurd (Option.some.inj hfailed).symm hp
  | whole files d' hdisk => cases hfailed

/-- **Files are kept apart by their paths.** Whatever strategies and plugins emit, a run that writes
files writes them under different paths, and it fails before it writes anything if a path occurs
twice. -/
theorem Generator.run_separated (gen : Generator σ) (source : GrammarSource) (config : Config)
    (output : OutputTarget) (world : World σ) :
    (gen.run source config output world).2.Separated world.disk := by
  obtain ⟨n, hover, -, hclashed⟩ := gen.run_over source config output world
  have hended := gen.run_ended source config output world
  generalize (gen.run source config output world).2 = s at hover hclashed hended ⊢
  generalize (gen.run source config output world).1 = escaped at hclashed hended
  have hwriting := hover.entered_mem_iff (p := .writing) (by decide)
  -- Files that have been collected but are not to be written can only conflict. Such a run fails,
  -- so what is known of the disk at the end of a failed run applies.
  have hclash : s.status.filesCollected = true → .entered .writing ∉ s.journal →
      s.Ended output world.disk ∧ s.Clashed := fun hcollected hn ↦ by
    obtain ⟨hescaped, hs⟩ := hclashed (hn ∘ hwriting.mpr) hcollected
    exact ⟨hended hescaped, hs⟩
  refine ⟨fun hmem ↦ ?_, fun hcollected hn ↦ ?_, fun hcollected hn before f after hsplit g hg heq ↦
    ?_⟩
  · obtain ⟨files, hfiles, hconflicts⟩ := hover.settled (hwriting.mp hmem)
    have hpaths := conflicts_eq_nil_iff.mp hconflicts
    exact ⟨files, hfiles, hpaths, nodup_targets hpaths⟩
  · obtain ⟨hend, u, hphase, hconflicts, rfl⟩ := hclash hcollected hn
    have houtline := hend.outline_eq (congrArg some hphase) (by decide)
    exact ⟨congrArg some hphase, congrArg RunOutline.written houtline,
      congrArg RunOutline.disk houtline,
      fun hnodup ↦ hconflicts (conflicts_eq_nil_iff.mpr hnodup)⟩
  · obtain ⟨-, u, -, -, rfl⟩ := hclash hcollected hn
    have hsplit : allFiles u.status u.contributions = before ++ f :: after := hsplit
    obtain ⟨first, hfirst, hpath, hmem⟩ := exists_conflict hg heq after
    refine ⟨first, hfirst, hpath, List.mem_append_right _ ?_⟩
    rw [map_withPhase_conflicts, hsplit]
    exact hmem

/-! ### Two spellings of one path -/

/-- A generator without strategies, whose two plugins add a file each when there is a grammar. -/
def Generator.addingBoth (f g : OutputFile) : Generator Unit :=
  { Generator.adding f with
    plugins := { plugins := (Generator.adding f).plugins.plugins ++
      (Generator.adding g).plugins.plugins } }

/-- The files `a.txt` and `./a.txt` are different to a run, which ends without errors. They go to
one place, where the second has replaced the first. -/
theorem Generator.replaced_by_other_spelling :
    ∃ r world', (Generator.addingBoth { path := ⟨"a.txt", by decide⟩, content := "first" }
        { path := ⟨"./a.txt", by decide⟩, content := "second" }).generate (.given {}) {}
          { directory := some ⟨"/", ["out"]⟩ } { disk := ⟨[], []⟩, memory := () } = (.ok r, world') ∧
      r.success = true ∧ r.files.map (·.path.text) = ["a.txt", "./a.txt"] ∧
      r.written = [⟨"/", ["out", "a.txt"]⟩, ⟨"/", ["out", "a.txt"]⟩] ∧
      world'.disk.filesBelow [] = [(["out", "a.txt"], "second".toUTF8.toList)] := by
  -- the run is evaluated once, and only for what is said of it
  generalize hgen : Generator.addingBoth { path := ⟨"a.txt", by decide⟩, content := "first" }
    { path := ⟨"./a.txt", by decide⟩, content := "second" } = gen
  generalize houtput : ({ directory := some ⟨"/", ["out"]⟩ } : OutputTarget) = output
  have hends :
      (gen.generate (.given {}) {} output { disk := ⟨[], []⟩, memory := () }).1.toOption.map
          (fun r ↦ (r.success, r.files.map (·.path.text), r.written)) =
        some (true, ["a.txt", "./a.txt"],
          [⟨"/", ["out", "a.txt"]⟩, ⟨"/", ["out", "a.txt"]⟩]) ∧
      (gen.generate (.given {}) {} output { disk := ⟨[], []⟩, memory := () }).2.disk.filesBelow [] =
        [(["out", "a.txt"], "second".toUTF8.toList)] := by
    rw [← hgen, ← houtput]
    decide +kernel
  cases hrun : gen.generate (.given {}) {} output { disk := ⟨[], []⟩, memory := () } with
  | mk outcome world' =>
    rw [hrun] at hends
    obtain ⟨hreport, hdisk⟩ := hends
    cases outcome with
    | error f => cases hreport
    | ok r =>
      obtain ⟨hsuccess, hrest⟩ := Prod.mk.inj (Option.some.inj hreport)
      obtain ⟨hfiles, hwritten⟩ := Prod.mk.inj hrest
      exact ⟨r, world', rfl, hsuccess, hfiles, hwritten, hdisk⟩

end DiagramForge
