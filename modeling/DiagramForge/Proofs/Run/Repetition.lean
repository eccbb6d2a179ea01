import DiagramForge.Proofs.Output.Rewriting
import DiagramForge.Proofs.Run.Plain
import DiagramForge.Proofs.Strategy.Foreseen

/-!
# Runs that are repeated

The second of two runs of one generator finds the store warm that the first one may have found cold,
has a clock that has moved on, and finds the disk as the first run has left it. It comes to the same
files and warnings, and leaves the disk as it is: `Generator.generate_again`.

## What is not repeated

Nearly always the errors are repeated as well. The one exception is a file whose directory cannot be
made after directories above it have been made, `Disk.HalfMade`. Then the second run, which finds
these, fails at another point and tells another reason: `Generator.generate_again_halfMade`.
-/

namespace DiagramForge

open RunStep Template Outcome

variable {σ : Type} {time now now' : String} {d d' d₁ e e' : Disk} {root : Path} {paths : List Path}
  {files before after : List OutputFile} {f : OutputFile} {failure : Failure}

/-! ## Writing in a run -/

/-- A state after it has been tried to write some files, of which those at the paths are written. -/
def RunState.wrote (s : RunState σ) (disk : Disk) (paths : List Path) (fs : List OutputFile) :
    RunState σ :=
  { s with
    journal := s.journal ++ fs.map fun f ↦ .wrote f.path
    world := { s.world with disk }
    status := { s.status with written := s.status.written ++ paths } }

namespace RunState

theorem wrote_nil (s : RunState σ) : s.wrote s.world.disk [] [] = s := by
  simp only [wrote, List.map_nil, List.append_nil]

theorem wrote_wrote (s : RunState σ) (ps ps' : List Path) (fs fs' : List OutputFile) :
    (s.wrote d ps fs).wrote d' ps' fs' = s.wrote d' (ps ++ ps') (fs ++ fs') := by
  simp only [wrote, List.map_append, List.append_assoc]

/-- Two states are as much alike after the same files have been written. -/
theorem Twin.wrote {s t : RunState σ} (h : s.Twin time d e t) (d' e' : Disk) (paths : List Path)
    (fs : List OutputFile) : (s.wrote d' paths fs).Twin time d' e' (t.wrote e' paths fs) := by
  obtain ⟨world, rfl, hpartials, hstores, -, -⟩ := h
  exact ⟨{ world with disk := e' }, rfl, hpartials, hstores, rfl, rfl⟩

end RunState

namespace Generator

/-- Stops the run because a file is refused. -/
def refuse : Failure → RunStep σ Unit
  | .diagnostic x => fail [x]
  | f => throw (.escaped f)

theorem alike_refuse (failure : Failure) :
    Alike time d e (refuse failure : RunStep σ Unit) (refuse failure) := by
  cases failure with
  | diagnostic x => exact alike_fail _
  | crash c => exact .throw _

/-- The first file is written and then the others, or the run stops. -/
theorem run_write_cons (root : Path) (f : OutputFile) (fs : List OutputFile) (s : RunState σ) :
    (write root (f :: fs) : RunStep σ Unit).run s = match f.write s.world.disk root with
      | (disk, .ok path) => (write root fs).run (s.wrote disk [path] [f])
      | (disk, .error failure) => (refuse failure).run (s.wrote disk [] [f]) := by
  have hnone (disk : Disk) : { s with
      journal := s.journal ++ [RunEvent.wrote f.path], world := { s.world with disk } } =
      s.wrote disk [] [f] := by
    rw [RunState.wrote, List.append_nil]
    rfl
  have hrecord : (record (.wrote f.path) : RunStep σ Unit).run s =
      (.ok (), { s with journal := s.journal ++ [.wrote f.path] }) := rfl
  have hget (t : RunState σ) : (get : RunStep σ (RunState σ)).run t = (.ok t, t) := rfl
  rw [write, run_bind, hrecord]
  dsimp only
  rw [run_bind, hget]
  dsimp only
  rcases f.write s.world.disk root with ⟨disk, (x | c) | path⟩
  · exact congrArg (refuse (.diagnostic x)).run (hnone disk)
  · exact congrArg (refuse (.crash c)).run (hnone disk)
  · rfl

theorem run_write_written {s : RunState σ}
    (h : OutputFile.writeAll s.world.disk root files = (d', .ok paths)) :
    (write root files : RunStep σ Unit).run s = (.ok (), s.wrote d' paths files) := by
  induction files generalizing s paths with
  | nil =>
    cases h
    rw [s.wrote_nil]
    rfl
  | cons f fs ih =>
    obtain ⟨d₁, path, rest, hwrite, hrest, rfl⟩ := OutputFile.writeAll_cons_eq_ok h
    rw [run_write_cons, hwrite]
    exact (@ih rest (s.wrote d₁ [path] [f]) hrest).trans (by rw [RunState.wrote_wrote]; rfl)

theorem run_write_refused {s : RunState σ}
    (h : OutputFile.RefusedAfter root before f s.world.disk paths failure d₁ d')
    (after : List OutputFile) : (write root (before ++ f :: after) : RunStep σ Unit).run s =
      (refuse failure).run (s.wrote d' paths (before ++ [f])) := by
  induction before generalizing s paths with
  | nil =>
    cases h.written
    rw [List.nil_append, run_write_cons, h.refused]
    rfl
  | cons g before ih =>
    obtain ⟨d₂, path, rest, hwrite, hrest, rfl⟩ := OutputFile.writeAll_cons_eq_ok h.written
    rw [List.cons_append, run_write_cons, hwrite]
    refine (@ih rest (s.wrote d₂ [path] [g]) ⟨hrest, h.refused⟩).trans ?_
    rw [RunState.wrote_wrote]
    rfl

theorem writeAll_eq (output : OutputTarget) (files : List OutputFile) :
    (writeAll output files : RunStep σ Unit) = match output.root? with
      | some root => write root files
      | none => pure () := by
  obtain ⟨directory, dryRun⟩ := output
  cases directory <;> cases dryRun <;> rfl

/-! ## Two runs -/

/-- How a run that has started on the disk `d` ends, and how it ends when it is repeated: in the
same way, or both times a file is refused whose directories have been half made. The disks are those
that are left. -/
inductive Again (output : OutputTarget) (time : String) (d d' e' : Disk) :
    Except RunStop Unit × RunState σ → Except RunStop Unit × RunState σ → Prop where
  /-- The runs end in the same way. -/
  | alike {r : Except RunStop Unit} {s t : RunState σ} (h : s.Twin time d' e' t) :
    Again output time d d' e' (r, s) (r, t)
  /-- The same file is refused both times. -/
  | refused {root : Path} {before after : List OutputFile} {f : OutputFile} {paths : List Path}
    {d₁ : Disk} {s t : RunState σ} (reason reason' : String) (hroot : output.root? = some root)
    (hsettled : s.settled = some (before ++ f :: after))
    (hbefore : OutputFile.writeAll d root before = (d₁, .ok paths))
    (hhalf : d₁.HalfMade (f.path.target root).parent) (h : s.Twin time d' e' t) :
    Again output time d d' e' (.error .failed, s.failing [f.notWritten reason])
      (.error .failed, t.failing [f.notWritten reason'])

variable {output : OutputTarget}

theorem Again.of_alike {m m' : RunStep σ Unit} (hm : Alike time d' e' m m') {s t : RunState σ}
    (hst : s.Twin time d' e' t) : Again output time d d' e' (m.run s) (m'.run t) := by
  obtain ⟨hresult, hstate⟩ := hm s t hst
  rw [sameOutcome_eq_iff] at hresult
  rcases hm : m.run s with ⟨r, s'⟩
  rcases hm' : m'.run t with ⟨r', t'⟩
  rw [hm, hm'] at hresult hstate
  cases hresult
  exact .alike hstate

/-- What the two runs leave behind. -/
theorem Again.worlds {p q : Except RunStop Unit × RunState σ} (h : Again output time d d' e' p q) :
    p.2.world.disk = d' ∧ q.2.world.disk = e' ∧
      BothSound builtinReads p.2.world.store q.2.world.store := by
  cases h with
  | alike h => exact h.worlds
  | refused _ _ _ _ _ _ h => exact h.worlds

/-- Two runs that write the same files, the second one perhaps again. -/
theorem finish_again {s t : RunState σ} (hst : s.Twin time d e t) (hroot : output.root? = some root)
    (hsettled : s.settled = some files) (h : OutputFile.Rewritten root files d e) :
    Again output time d (OutputFile.writeAll d root files).1 (OutputFile.writeAll e root files).1
      (((builtin now : Generator σ).finish output files).run s)
      (((builtin now' : Generator σ).finish output files).run t) := by
  have htail (d' e' : Disk) : Alike time d' e'
      (do (builtin now : Generator σ).callHook .afterGenerate; enter .done)
      (do (builtin now' : Generator σ).callHook .afterGenerate; enter .done) :=
    (alike_callHook _).bind_eq fun _ ↦ alike_enter _
  obtain ⟨hdisk, hdisk', -⟩ := hst.worlds
  rw [finish, finish, writeAll_eq, hroot]
  dsimp only
  rw [run_bind, run_bind]
  cases h with
  | @written d' e' paths h hagain =>
    rw [h, hagain]
    rw [← hdisk] at h
    rw [← hdisk'] at hagain
    rw [run_write_written h, run_write_written hagain]
    exact .of_alike (htail d' e') (hst.wrote d' e' paths files)
  | @refused before after f d₁ d' e₁ e' paths failure failure' hfs hrefused hagain hsame =>
    subst hfs
    have hwrote := hst.wrote d' e' paths (before ++ [f])
    rw [hrefused.writeAll_eq, hagain.writeAll_eq]
    have hbefore := hrefused.written
    rw [← hdisk] at hrefused
    rw [← hdisk'] at hagain
    rw [run_write_refused hrefused, run_write_refused hagain, ← run_bind, ← run_bind]
    rcases hsame with rfl | ⟨hhalf, reason, reason', rfl, rfl⟩
    · exact .of_alike ((alike_refuse failure').bind_eq fun _ ↦ htail d' e') hwrote
    · change Again output time d d' e'
        (.error .failed, (s.wrote d' paths (before ++ [f])).failing [f.notWritten reason])
        (.error .failed, (t.wrote e' paths (before ++ [f])).failing [f.notWritten reason'])
      exact .refused reason reason' hroot hsettled hbefore hhalf hwrote

/-- The disk that a run leaves if it comes to these files, or stops before it has any. -/
def leaves (output : OutputTarget) (d : Disk) : Except RunStop (List OutputFile) → Disk
  | .ok files => match output.root? with
    | some root => (OutputFile.writeAll d root files).1
    | none => d
  | .error _ => d

/-- Two runs from two disks. If they come to files, then it is known what comes of writing these to
one disk and to the other. -/
theorem execute_again (g : Grammar) (config : Config) {world world' : World σ}
    (hstores : BothSound builtinReads world.store world'.store)
    (hfiles : ∀ root files, output.root? = some root → prepared now g config world = .ok files →
      OutputFile.Rewritten root files world.disk world'.disk) :
    Again output now' world.disk (leaves output world.disk (prepared now g config world))
      (leaves output world'.disk (prepared now g config world))
      (((builtin now : Generator σ).execute (.given g) output).run (start config world))
      (((builtin now' : Generator σ).execute (.given g) output).run (start config world')) := by
  have hstart := start_twin now' config hstores
  obtain ⟨hresult, hstate⟩ := @prepare_inStep σ now' _ _ now g _ _ hstart
  have hsettled := (builtin now).leadsTo_prepare_settled (.given g) (start config world)
  rw [sameOutcome_eq_iff] at hresult
  rw [prepared] at hfiles ⊢
  rw [execute_eq_prepare, execute_eq_prepare, run_bind, run_bind]
  rw [LeadsTo] at hsettled
  generalize ((builtin now : Generator σ).prepare (.given g)).run (start config world) = p at *
  generalize ((builtin now' : Generator σ).prepare (.given g)).run (start config world') = q at *
  obtain ⟨r, s⟩ := p
  obtain ⟨r', t⟩ := q
  cases hresult
  cases r with
  | error stop => exact .alike hstate
  | ok files =>
    cases hroot : output.root? with
    | none =>
      have hfinish : Alike now' world.disk world'.disk
          ((builtin now : Generator σ).finish output files)
          ((builtin now' : Generator σ).finish output files) := by
        rw [finish, finish, writeAll_eq, hroot]
        exact InStep.bind_eq (.pure rfl) fun _ ↦ (alike_callHook _).bind_eq fun _ ↦ alike_enter _
      rw [leaves, leaves, hroot]
      exact .of_alike hfinish hstate
    | some root =>
      rw [leaves, leaves, hroot]
      exact finish_again hstate hroot hsettled (hfiles root files hroot rfl)

/-! ## Reports -/

/-- The errors of a run and those of its repetition: the same ones, or both times a file of the run
is refused in the end, for reasons of its own. Then making its directory has failed halfway the
first time, after the files before it had been written. -/
inductive SameErrors (output : OutputTarget) (disk : Disk) (files : List OutputFile) :
    List Diagnostic → List Diagnostic → Prop where
  /-- The errors are the same. -/
  | same (errors : List Diagnostic) : SameErrors output disk files errors errors
  /-- A file is refused whose directories have been half made. -/
  | refused {root : Path} {before after : List OutputFile} {f : OutputFile} {paths : List Path}
    {d : Disk} (earlier : List Diagnostic) (reason reason' : String)
    (hroot : output.root? = some root) (hfiles : files = before ++ f :: after)
    (hbefore : OutputFile.writeAll disk root before = (d, .ok paths))
    (hhalf : d.HalfMade (f.path.target root).parent) :
    SameErrors output disk files (earlier ++ [f.notWritten reason])
      (earlier ++ [f.notWritten reason'])

/-- What a report says again when a run that has started on a disk is repeated. -/
structure RepeatedReport (output : OutputTarget) (disk : Disk) (r r' : RunReport) : Prop where
  /-- The files: their paths, their contents and their order. -/
  files : r'.files = r.files
  /-- The errors. -/
  errors : SameErrors output disk r.files r.errors r'.errors
  /-- The warnings. -/
  warnings : r'.warnings = r.warnings
  /-- How the run has ended. -/
  ending : (r'.success, r'.phase, r'.failedPhase) = (r.success, r.phase, r.failedPhase)
  /-- The paths that have been written to. -/
  written : r'.written = r.written
  /-- What each strategy has rendered. -/
  results : r'.results = r.results

/-- The report of a run, or what has escaped from it, and the world that it leaves. -/
def reported (p : Except RunStop Unit × RunState σ) : Except Failure RunReport × World σ :=
  match p with
  | (.error (.escaped f), s) => (.error f, s.world)
  | (_, s) => (.ok s.report, s.world)

theorem generate_eq (gen : Generator σ) (source : GrammarSource) (config : Config)
    (output : OutputTarget) (world : World σ) : gen.generate source config output world =
      reported ((gen.execute source output).run (start config world)) := by
  have hstart : { status := { settings := config.settings }, world } = start config world := rfl
  rw [generate, run, hstart]
  rcases (gen.execute source output).run (start config world) with ⟨(_ | f) | _, s⟩
  · rfl
  · rfl
  · rfl

theorem reported_world (p : Except RunStop Unit × RunState σ) : (reported p).2 = p.2.world := by
  rcases p with ⟨(_ | f) | _, s⟩
  · rfl
  · rfl
  · rfl

/-- Runs that end alike are reported alike. -/
theorem Again.reported {p q : Except RunStop Unit × RunState σ}
    (h : Again output time d d' e' p q) :
    SameOutcome (RepeatedReport output d) (reported p).1 (reported q).1 := by
  cases h with
  | @alike r s t h =>
    obtain ⟨world, rfl, -⟩ := h
    have hreport : RepeatedReport output d s.report (s.dated time world).report :=
      ⟨rfl, .same _, rfl, rfl, rfl, rfl⟩
    rcases r with (_ | f) | _
    · exact .ok hreport
    · exact .error f
    · exact .ok hreport
  | @refused root before after f paths d₁ s t reason reason' hroot hsettled hbefore hhalf h =>
    obtain ⟨world, rfl, -⟩ := h
    have hfiles : (s.failing [f.notWritten reason]).report.files = before ++ f :: after := by
      change s.settled.getD _ = _
      rw [hsettled]
      rfl
    exact .ok ⟨rfl, .refused s.errors reason reason' hroot hfiles hbefore hhalf, rfl, rfl, rfl, rfl⟩

/-- What a run leaves is there for its repetition, which leaves it as it is. -/
theorem leaves_again (output : OutputTarget) (d : Disk) (r : Except RunStop (List OutputFile)) :
    (leaves output d r).SameShape (leaves output (leaves output d r) r) ∧
      ∀ place, (leaves output (leaves output d r) r).bytesAt place =
        (leaves output d r).bytesAt place := by
  have hsame : d.SameShape d ∧ ∀ place, d.bytesAt place = d.bytesAt place :=
    ⟨.refl d, fun _ ↦ rfl⟩
  cases r with
  | error stop => exact hsame
  | ok files =>
    simp only [leaves]
    cases output.root? with
    | none => exact hsame
    | some root =>
      have hshape := Disk.SameShape.refl (OutputFile.writeAll d root files).1
      exact ⟨(OutputFile.writeAll_again files hshape).2.1,
        fun place ↦ OutputFile.bytesAt_writeAll_again files place⟩

/-- What a run leaves behind is known from the files that it comes to. -/
theorem world_generate (now : String) (g : Grammar) (config : Config) (output : OutputTarget)
    {world : World σ} (hstore : world.store.Sound builtinReads) :
    ((builtin now).generate (.given g) config output world).2.disk =
        leaves output world.disk (prepared now g config world) ∧
      ((builtin now).generate (.given g) config output world).2.store.Sound builtinReads := by
  -- beside itself, a run shows what it leaves
  have hself := @execute_again σ now now output g config world world ⟨hstore, hstore⟩
    fun root files _ _ ↦ .refl root files world.disk
  obtain ⟨hdisk, -, hstores⟩ := hself.worlds
  rw [generate_eq, reported_world]
  exact ⟨hdisk, hstores.1⟩

/-- **A run can be repeated.** Of two runs one after another, whatever times their clocks tell and
whichever templates the first one finds in the store, the second one comes to the same files and
warnings, ends in the same way and leaves the disk with the same files and directories at the same
places. Its errors are the same too, unless a file has been refused whose directories have been half
made: then the same file is refused, perhaps for another reason. -/
theorem generate_again (now now' : String) (g : Grammar) (config : Config) (output : OutputTarget)
    (world : World σ) (hstore : world.store.Sound builtinReads) :
    let first := (builtin now).generate (.given g) config output world
    let second := (builtin now').generate (.given g) config output first.2
    SameOutcome (RepeatedReport output world.disk) first.1 second.1 ∧
      first.2.disk.SameShape second.2.disk ∧
      ∀ place, second.2.disk.bytesAt place = first.2.disk.bytesAt place := by
  intro first second
  obtain ⟨hdisk, hstore'⟩ : first.2.disk = leaves output world.disk (prepared now g config world) ∧
      first.2.store.Sound builtinReads := world_generate now g config output hstore
  have hagain := @execute_again σ now now' output g config world first.2 ⟨hstore, hstore'⟩
    fun root files hroot hfiles ↦ by
      rw [hdisk, hfiles, leaves, hroot]
      exact (OutputFile.writeAll_again files (.refl _)).1
  obtain ⟨-, hdisk', -⟩ := hagain.worlds
  have hreported := hagain.reported
  rw [← generate_eq, ← generate_eq] at hreported
  rw [← reported_world, ← generate_eq] at hdisk'
  obtain ⟨hshape, hbytes⟩ := leaves_again output world.disk (prepared now g config world)
  rw [← hdisk, ← hdisk'] at hshape hbytes
  exact ⟨hreported, hshape, hbytes⟩

/-- A run into a directory with the store empty, and a second one with what that has left in it. -/
theorem generate_again_empty :
    let output : OutputTarget := { directory := some ⟨"/", ["out"]⟩ }
    let world : World Unit := { disk := ⟨[], []⟩, memory := () }
    let first := (builtin "1").generate (.given {}) {} output world
    let second := (builtin "2").generate (.given {}) {} output first.2
    world.store.Sound builtinReads ∧
      SameOutcome (RepeatedReport output world.disk) first.1 second.1 ∧
      first.2.disk.SameShape second.2.disk ∧
      ∀ place, second.2.disk.bytesAt place = first.2.disk.bytesAt place :=
  ⟨TemplateStore.sound_empty, generate_again "1" "2" {} {} { directory := some ⟨"/", ["out"]⟩ }
    { disk := ⟨[], []⟩, memory := () } TemplateStore.sound_empty⟩

/-! ### A directory that is half made -/

/-- A run reports the file that it cannot write. -/
theorem generate_refused {g : Grammar} {config : Config} {world : World σ} {reason : String}
    (hstore : world.store.Sound builtinReads)
    (hfiles : prepared now g config world = .ok (before ++ f :: after))
    (hroot : output.root? = some root)
    (h : OutputFile.RefusedAfter root before f world.disk paths (.diagnostic (f.notWritten reason))
      d₁ d') : ∃ r, ((builtin now).generate (.given g) config output world).1 = .ok r ∧
      r.errors.getLast? = some (f.notWritten reason) := by
  have hstart := start_twin now config (⟨hstore, hstore⟩ :
    BothSound builtinReads world.store world.store)
  obtain ⟨-, hstate⟩ := @prepare_inStep σ now _ _ now g _ _ hstart
  rw [prepared] at hfiles
  rw [generate_eq, execute_eq_prepare, run_bind]
  generalize ((builtin now : Generator σ).prepare (.given g)).run (start config world) = p at *
  obtain ⟨r, s⟩ := p
  cases hfiles
  obtain ⟨hdisk, -, -⟩ := hstate.worlds
  rw [← hdisk] at h
  have hrefused : ((builtin now : Generator σ).finish output (before ++ f :: after)).run s =
      (.error .failed, (s.wrote d' paths (before ++ [f])).failing [f.notWritten reason]) := by
    rw [finish, writeAll_eq, hroot]
    dsimp only
    rw [run_bind, run_write_refused h]
    rfl
  dsimp only
  rw [hrefused]
  exact ⟨_, rfl, List.getLast?_concat⟩

/-- Only the shared files are rendered. -/
def sharedOnly : Config := { generation := { targets := ["common"] } }

/-- A world whose disk holds a single file, which has the name `f`. -/
def blocked : World Unit := { disk := ⟨[], [(["f"], .file [] 0)]⟩, memory := () }

/-- Another way to say where that file is, once there is a directory `n`. -/
def detour : Path := ⟨"", ["n", "..", "f"]⟩

/-- The diagram of a grammar that declares nothing. -/
def blank : Diagram := (Diagram.build { now := "1" } {} sharedOnly.settings).toOption.getD default

/-- One of the shared files is rendered. -/
theorem exists_textFor_utils (vars : List (String × Value))
    (hvars : vars = sharedVariables blank ++ [("strategy", .text "common")]) :
    ∃ css b content, Written Builtin.Common.utils css ∧
      compileChars (['\n'].intercalate css) = .ok b ∧
      b.textFor blocked.disk blank vars = .ok content := by
  obtain ⟨css, hlines, hfound⟩ : ∃ css, Written Builtin.Common.utils css ∧
      ((compileChars (['\n'].intercalate css)).toOption.any fun b ↦
        (b.textFor blocked.disk blank
          (sharedVariables blank ++ [("strategy", .text "common")])).toOption.isSome) = true := by
    simp only [Builtin.Common.utils]
    apply Exists.intro
    apply And.intro
    · repeat' constructor
    · decide +kernel
  obtain ⟨b, hb, hfound⟩ := (Option.any_eq_true _ _).mp hfound
  obtain ⟨content, hcontent⟩ := Option.isSome_iff_exists.mp hfound
  rw [hvars]
  exact ⟨css, b, content, hlines, toOption_eq_some.mp hb, toOption_eq_some.mp hcontent⟩

/-- The jobs for the shared files are known, and one of them comes to a file. -/
theorem exists_jobs_blank : ∃ jobs,
    commonStrategy.jobs builtinLibrary blocked.disk blank = .ok jobs ∧
      (∀ job ∈ jobs, leadsInside (commonStrategy.directory ++ job.output) = true) ∧
      ∃ job ∈ jobs, (commonStrategy.file? builtinLibrary blocked.disk blank job).isSome := by
  have hmem : (commonStrategy.qualified "utils", Builtin.Common.utils) ∈ builtinTemplates := by
    simp only [builtinTemplates, List.mem_append, List.mem_map]
    exact .inl (.inr ⟨("utils", Builtin.Common.utils), by simp [Builtin.Common.templates], rfl⟩)
  have hhas : ∀ t ∈ commonStrategy.fixed, ∃ b,
      builtinLibrary.has blocked.disk (commonStrategy.qualified t.template) = .ok b := by
    have hlisted : ∀ t ∈ commonStrategy.fixed, t.template = "constants" ∨
        commonStrategy.qualified t.template ∈ builtinTemplates.map (·.1) := by
      decide
    intro t ht
    rcases hlisted t ht with habsent | hlisted
    · rw [habsent]
      exact ⟨false, toOption_eq_some.mp (by decide +kernel)⟩
    · exact ⟨true, has_of_mem_builtinTemplates _ hlisted⟩
  have hinside : ∀ output ∈ commonStrategy.fixed.map (·.output),
      leadsInside (commonStrategy.directory ++ output) = true := by
    decide
  obtain ⟨fixed, hfixed⟩ := TemplateStrategy.exists_fixedJobs (d := blank)
    (sharedVariables blank ++ [("strategy", .text "common")]) hhas
  have hutils : ({ template := "utils", output := "utils.ts" }, 3) ∈
      commonStrategy.fixed.zipIdx := by
    simp [commonStrategy]
  have hjob := TemplateStrategy.mem_fixedJobs hfixed hutils
    (has_of_mem_builtinTemplates _ (List.mem_map_of_mem hmem))
  obtain ⟨css, b, content, hlines, hb, hcontent⟩ := exists_textFor_utils _ rfl
  have houtputs := TemplateStrategy.outputs_fixedJobs hfixed
  have hinside := fun job (hjob : job ∈ fixed) ↦
    hinside job.output (houtputs.subset (List.mem_map_of_mem hjob))
  have hfile := commonStrategy.file?_builtin (hinside _ hjob) hlines hmem hb hcontent
  refine ⟨fixed ++ [], ?_, ?_, _, List.mem_append_left [] hjob, Option.isSome_of_eq_some hfile⟩
  · exact bind_eq_ok.mpr ⟨_, rfl, bind_eq_ok.mpr ⟨fixed, hfixed, rfl⟩⟩
  · rwa [List.append_nil]

/-- The directory that the shared files go into. -/
def sharedDirectory : Path := ⟨"", ["n", "..", "f", "common"]⟩

/-- The run comes to some files, the first of which goes into that directory as all of them do. -/
theorem exists_prepared_blank : ∃ f rest, prepared "1" {} sharedOnly blocked = .ok (f :: rest) ∧
    (f.path.target detour).parent = sharedDirectory := by
  obtain ⟨jobs, hjobs, hinside, job, hjob, hfile⟩ := exists_jobs_blank
  have hfast : blank.isOn "fail_fast" = false := rfl
  have hworkers : blank.workers = .ok 1 := rfl
  obtain ⟨r, hr, hfiles, haborted⟩ := commonStrategy.comesTo_render_builtin hfast
    (TemplateStrategy.missing_builtin List.mem_cons_self _) hjobs hworkers hinside
  have hpaths : (pathTexts r.files).Subperm (commonStrategy.paths blank) :=
    TemplateStrategy.yields_render {} r (hr {} TemplateStore.sound_empty).1
  obtain ⟨hnodup, hdirectory⟩ : (commonStrategy.paths blank).Nodup ∧
      ∀ text ∈ commonStrategy.paths blank,
        (detour.join (Path.ofString text)).parent = sharedDirectory := by
    decide
  have hdistinct : (pathTexts r.files).Nodup := by
    obtain ⟨listed, hperm, hsublist⟩ := hpaths
    exact hperm.nodup_iff.mp (hsublist.nodup hnodup)
  have hprepared : prepared "1" {} sharedOnly blocked = .ok r.files := by
    have hall : [r].flatMap (·.files) = r.files := List.append_nil _
    rw [← hall] at hdistinct ⊢
    have hresults : ComeTo blocked.disk blank [commonStrategy] [r] := .cons ⟨haborted, hr⟩ .nil
    exact prepared_eq_ok rfl rfl rfl rfl hresults hdistinct TemplateStore.sound_empty
  obtain ⟨f, hf⟩ := Option.isSome_iff_exists.mp hfile
  have hmem : f ∈ r.files := hfiles ▸ List.mem_filterMap.mpr ⟨job, hjob, hf⟩
  obtain ⟨first, rest, hsplit⟩ := List.exists_cons_of_ne_nil (List.ne_nil_of_mem hmem)
  rw [hsplit] at hprepared hpaths
  exact ⟨first, rest, hprepared, hdirectory _ (hpaths.subset List.mem_cons_self)⟩

/-- The disk that the run leaves: there is a directory `n` beside the file. -/
def halfMade : Disk := (blocked.disk.makeDirectories sharedDirectory).1

/-- At first the way to the directory is blocked by the file, where a directory would be needed. -/
theorem makeDirectories_blocked : blocked.disk.makeDirectories sharedDirectory =
    (halfMade, some (.alreadyExists, detour)) :=
  Prod.ext rfl rfl

/-- Then the directory would have to be made in the file. -/
theorem makeDirectories_halfMade : halfMade.makeDirectories sharedDirectory =
    ((halfMade.makeDirectories sharedDirectory).1, some (.notDirectory, sharedDirectory)) :=
  Prod.ext rfl rfl

/-- **The errors of two runs can differ.** The first run makes one of the directories on the way to
its files, and fails at the next one. The second run gets further along the way, and fails for
another reason. -/
theorem generate_again_halfMade :
    let output : OutputTarget := { directory := some detour }
    let first := (builtin "1").generate (.given {}) sharedOnly output blocked
    let second := (builtin "1").generate (.given {}) sharedOnly output first.2
    ∃ r r', first.1 = .ok r ∧ second.1 = .ok r' ∧ r'.errors ≠ r.errors := by
  dsimp only
  obtain ⟨f, rest, hfiles, hparent⟩ := exists_prepared_blank
  have hmake := makeDirectories_blocked
  have hmake' := makeDirectories_halfMade
  rw [← hparent] at hmake hmake'
  have hfirst := OutputFile.refusedAfter_of_unmade hmake (by simp)
  have hsecond := OutputFile.refusedAfter_of_unmade hmake' (by simp)
  have hroot : OutputTarget.root? { directory := some detour } = some detour := rfl
  have hempty : blocked.store.Sound builtinReads := TemplateStore.sound_empty
  obtain ⟨r, hr, hlast⟩ := generate_refused hempty hfiles hroot hfirst
  obtain ⟨hdisk, hstore⟩ := world_generate "1" {} sharedOnly { directory := some detour } hempty
  generalize (builtin "1").generate (.given {}) sharedOnly _ blocked = first at *
  -- the second run comes to the same files, and finds the disk as the first one has left it
  have hstores : BothSound builtinReads blocked.store first.2.store := ⟨hempty, hstore⟩
  have hfiles' := prepared_eq "1" "1" {} sharedOnly hstores
  rw [hfiles] at hfiles' hdisk
  have hleft : first.2.disk = halfMade :=
    hdisk.trans (congrArg Prod.fst (hfirst.writeAll_eq rest))
  rw [← hleft] at hsecond
  obtain ⟨r', hr', hlast'⟩ := generate_refused hstore hfiles' hroot hsecond
  refine ⟨r, r', hr, hr', fun herrors ↦ ?_⟩
  rw [herrors, hlast, Option.some_inj] at hlast'
  have hmessage := congrArg Diagnostic.message hlast'
  rw [OutputFile.notWritten, OutputFile.notWritten, String.append_right_inj, hparent] at hmessage
  exact absurd hmessage (by decide +kernel)

end Generator

end DiagramForge
