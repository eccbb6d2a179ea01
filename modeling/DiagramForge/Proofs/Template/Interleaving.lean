import DiagramForge.Proofs.History
import DiagramForge.Proofs.Template.Resolution
import Mathlib.Logic.Function.Iterate

/-!
# Calls that take turns

Several calls of `getTemplate` are under way at a time, each of them after some of its steps, and
between any two steps the file of a template may be replaced. After the last such change, a call
that begins is answered with the template of the text that the file has then, provided that the
change did not come when a call had read the text of the file and not yet its time:
`answer_after_change`. A call that was there keeps the template of the former text under the time of
the new one, and no later call has any reason to doubt it: `answer_outdated`.

## The invariant

What is kept for a file has a time that is not after that of the file. Once the last change has
come, what has the time of the file itself is the template of its text (`Kept`), and every call
under way will keep it so (`Progress.Agrees`). A change that finds no call between the two readings
brings this about, as it leaves everything that is kept with an earlier time.
-/

namespace DiagramForge

namespace Template

open Outcome

/-! ## The steps of a call -/

/-- How far a call of `getTemplate` has come. -/
inductive Progress where
  /-- Nothing is done. -/
  | start
  /-- The key of the name is resolved. -/
  | keyed (key : TemplateKey)
  /-- Nothing is found under the key. -/
  | missed (key : TemplateKey)
  /-- The text of the name is read. -/
  | loaded (key : TemplateKey) (source : String)
  /-- The text is compiled. -/
  | compiled (key : TemplateKey) (b : Block)
  /-- The time of the text is read. -/
  | timed (key : TemplateKey) (b : Block) (modified : Option Int)
  /-- The call has its answer. -/
  | done (answer : Except Failure Block)

namespace Progress

/-- How far a call has come with a result of a step: a failure is its answer. -/
def next {α : Type} (proceed : α → Progress) : Except Failure α → Progress
  | .ok a => proceed a
  | .error failure => done (.error failure)

/-- The next step of a call for a name, with what it makes of the store. -/
def step (library : TemplateLibrary) (disk : Disk) (name : String) (s : TemplateStore) :
    Progress → Progress × TemplateStore
  | start => (next keyed (library.key disk name), s)
  | keyed key =>
    match s.lookUp disk key with
    | (some b, s) => (done (.ok b), s)
    | (none, s) => (missed key, s)
  | missed key => (next (loaded key) (library.load disk name), s)
  | loaded key source =>
    (next (compiled key) ((compileNamed name source).mapError RenderFault.early), s)
  | compiled key b => (next (timed key b) (library.modified? disk name), s)
  | timed key b modified => (done (.ok b), s.keep disk key b modified)
  | done answer => (done answer, s)

/-- How many steps a call takes at most until it has its answer. -/
def remaining : Progress → Nat
  | start => 6
  | keyed _ => 5
  | missed _ => 4
  | loaded .. => 3
  | compiled .. => 2
  | timed .. => 1
  | done _ => 0

/-- Whether a call has read the text of a file and not yet its time. -/
def holdsText (place : DiskPlace) : Progress → Bool
  | loaded key _ | compiled key _ => key = .file place
  | _ => false

variable {library : TemplateLibrary} {disk : Disk} {name : String} {p : Progress}
  {s : TemplateStore}

theorem remaining_next_le {α : Type} {proceed : α → Progress} {n : Nat}
    (h : ∀ a, (proceed a).remaining ≤ n) (r : Except Failure α) : (next proceed r).remaining ≤ n := by
  cases r with
  | error failure => exact Nat.zero_le n
  | ok a => exact h a

theorem remaining_step (library : TemplateLibrary) (disk : Disk) (name : String) (s : TemplateStore)
    (p : Progress) : (step library disk name s p).1.remaining ≤ p.remaining - 1 := by
  cases p <;> rw [step]
  case start => exact remaining_next_le (fun _ ↦ Nat.le_refl 5) _
  case keyed key =>
    rcases s.lookUp disk key with ⟨_ | b, s'⟩
    · exact Nat.le_refl 4
    · exact Nat.zero_le 4
  case missed => exact remaining_next_le (fun _ ↦ Nat.le_refl 3) _
  case loaded => exact remaining_next_le (fun _ ↦ Nat.le_refl 2) _
  case compiled => exact remaining_next_le (fun _ ↦ Nat.le_refl 1) _
  case timed => exact Nat.le_refl 0
  case done => exact Nat.le_refl 0

theorem eq_done_of_remaining (h : p.remaining = 0) : ∃ answer, p = done answer := by
  cases p with
  | done answer => exact ⟨answer, rfl⟩
  | _ => cases h

/-- A call all of whose steps are taken at once is `getTemplate`. -/
theorem iterate_step (library : TemplateLibrary) (disk : Disk) (name : String) (s : TemplateStore) :
    (fun r ↦ step library disk name r.2 r.1)^[6] (start, s) =
      (done ((getTemplate library disk name).run s).1,
        ((getTemplate library disk name).run s).2) := by
  have hdone (n : Nat) (answer : Except Failure Block) (s : TemplateStore) :
      (fun r ↦ step library disk name r.2 r.1)^[n] (done answer, s) = (done answer, s) :=
    Function.iterate_fixed rfl n
  rw [getTemplate, run_bind, run_ofExcept, Function.iterate_succ_apply, step]
  cases library.key disk name with
  | error failure => exact hdone ..
  | ok key =>
    dsimp only [next]
    rw [run_bind, run_modifyGet, Function.iterate_succ_apply, step]
    rcases s.lookUp disk key with ⟨_ | b, s⟩
    · dsimp only
      rw [run_bind, run_ofExcept, Function.iterate_succ_apply, step]
      cases library.load disk name with
      | error failure => exact hdone ..
      | ok source =>
        dsimp only [next]
        rw [run_bind, run_ofExcept, Function.iterate_succ_apply, step]
        cases (compileNamed name source).mapError RenderFault.early with
        | error failure => exact hdone ..
        | ok b =>
          dsimp only [next]
          rw [run_bind, run_ofExcept, Function.iterate_succ_apply, step]
          cases library.modified? disk name with
          | error failure => exact hdone ..
          | ok modified => rfl
    · exact hdone ..

end Progress

/-! ## What is kept for a file -/

/-- A block is the template of the text in the bytes of a file. -/
def Made (bytes : List UInt8) (b : Block) : Prop :=
  ∃ text, TemplateLibrary.decodeSource bytes = .ok text ∧ compile text = .ok b

/-- What is kept for a file has a time that is not after that of the file. If what is kept is
`settled`, whatever has the time of the file is the template of its text. -/
def Kept (place : DiskPlace) (bytes : List UInt8) (time : Int) (settled : Prop)
    (s : TemplateStore) : Prop :=
  ∀ e ∈ s.cache.entries, e.1 = .file place →
    e.2.sourceTime ≤ time ∧ (settled → time ≤ e.2.sourceTime → Made bytes e.2.value)

section Step

variable {dirs : List SearchDirectory} {disk : Disk} {place : DiskPlace} {bytes : List UInt8}
  {time : Int} {settled : Prop} {name : String} {s : TemplateStore} {key : TemplateKey} {b : Block}
  {p : Progress}

theorem Kept.lookUp (h : Kept place bytes time settled s) (disk : Disk) (key : TemplateKey) :
    Kept place bytes time settled (s.lookUp disk key).2 :=
  fun e he ↦ h e (Cache.mem_entries_get he)

theorem Kept.keep (h : Kept place bytes time settled s) {modified : Option Int}
    (hnew : key = .file place →
      ∃ t, modified = some t ∧ t ≤ time ∧ (settled → time ≤ t → Made bytes b)) (disk : Disk) :
    Kept place bytes time settled (s.keep disk key b modified) := by
  intro e he hkey
  rcases Cache.mem_entries_set he with rfl | he
  · obtain ⟨t, rfl, hle, hmade⟩ := hnew hkey
    exact ⟨hle, hmade⟩
  · exact h e he hkey

/-- What is found for a file is the template of its text. -/
theorem Kept.made_of_lookUp (h : Kept place bytes time True s)
    (hfile : disk.lookup place = some (.file bytes time))
    (hfound : (s.lookUp disk (.file place)).1 = some b) : Made bytes b := by
  obtain ⟨e, hfind, hfresh, rfl⟩ := (TemplateStore.lookUp_eq_some_iff (by exact nofun)).mp hfound
  refine (h _ (Cache.mem_of_find? hfind) rfl).2 trivial ?_
  rw [Cache.isStale, Bool.or_eq_false_iff, TemplateStore.modifiedAt?, hfile] at hfresh
  simpa using hfresh.2

/-- The template of the text of a file is the template of its name. -/
theorem Made.compileTemplate_eq (h : Made bytes b)
    (hkey : (TemplateLibrary.files dirs).key disk name = .ok (.file place))
    (hfile : disk.lookup place = some (.file bytes time)) :
    compileTemplate (.files dirs) disk name = .ok b := by
  obtain ⟨text, hdecode, hcompile⟩ := h
  rw [compileTemplate_eq_ok, TemplateLibrary.load_of_key hkey hfile]
  exact ⟨text, hdecode, hcompile⟩

/-! ## Calls that are under way -/

/-- What a call under way has read of a file will be kept as it should. -/
def Progress.Agrees (dirs : List SearchDirectory) (disk : Disk) (place : DiskPlace)
    (bytes : List UInt8) (time : Int) (settled : Prop) (name : String) : Progress → Prop
  | start | done _ => True
  | keyed key | missed key => (TemplateLibrary.files dirs).key disk name = .ok key
  | loaded key source => (TemplateLibrary.files dirs).key disk name = .ok key ∧
      (key = .file place → settled → TemplateLibrary.decodeSource bytes = .ok source)
  | compiled key b => (TemplateLibrary.files dirs).key disk name = .ok key ∧
      (key = .file place → settled → Made bytes b)
  | timed key b modified => key = .file place →
      ∃ t, modified = some t ∧ t ≤ time ∧ (settled → time ≤ t → Made bytes b)

/-- Any step of a call leaves what is kept as it should be, and so will the steps to come. -/
theorem Progress.Agrees.step (hfile : disk.lookup place = some (.file bytes time))
    (hs : Kept place bytes time settled s) (hp : p.Agrees dirs disk place bytes time settled name) :
    Kept place bytes time settled (p.step (.files dirs) disk name s).2 ∧
      (p.step (.files dirs) disk name s).1.Agrees dirs disk place bytes time settled name := by
  cases p <;> rw [Progress.step]
  case start =>
    refine ⟨hs, ?_⟩
    cases hkey : (TemplateLibrary.files dirs).key disk name with
    | error failure => exact trivial
    | ok key => exact hkey
  case keyed key =>
    have hlookUp := hs.lookUp disk key
    rcases hfound : s.lookUp disk key with ⟨_ | b, s'⟩
    · rw [hfound] at hlookUp
      exact ⟨hlookUp, hp⟩
    · rw [hfound] at hlookUp
      exact ⟨hlookUp, trivial⟩
  case missed key =>
    refine ⟨hs, ?_⟩
    cases hload : (TemplateLibrary.files dirs).load disk name with
    | error failure => exact trivial
    | ok source =>
      refine ⟨hp, fun hkey _ ↦ ?_⟩
      rwa [TemplateLibrary.load_of_key (hkey ▸ hp) hfile] at hload
  case loaded key source =>
    refine ⟨hs, ?_⟩
    cases hcompile : (compileNamed name source).mapError RenderFault.early with
    | error failure => exact trivial
    | ok b => exact ⟨hp.1, fun hkey hsettled ↦
        ⟨source, hp.2 hkey hsettled, compileNamed_eq_ok.mp (mapError_eq_ok.mp hcompile)⟩⟩
  case compiled key b =>
    refine ⟨hs, ?_⟩
    cases hmodified : (TemplateLibrary.files dirs).modified? disk name with
    | error failure => exact trivial
    | ok modified =>
      intro hkey
      rw [TemplateLibrary.modified?_of_key (hkey ▸ hp.1) hfile] at hmodified
      cases hmodified
      exact ⟨time, rfl, Int.le_refl time, fun hsettled _ ↦ hp.2 hkey hsettled⟩
  case timed key b modified => exact ⟨hs.keep hp disk, trivial⟩
  case done answer => exact ⟨hs, trivial⟩

/-- A call for the name of a file is on the way to the template of its text. -/
def Progress.Right (dirs : List SearchDirectory) (disk : Disk) (place : DiskPlace) (name : String) :
    Progress → Prop
  | start => True
  | keyed key | missed key => key = .file place
  | loaded _ source => (TemplateLibrary.files dirs).load disk name = .ok source
  | compiled _ b | timed _ b _ => compileTemplate (.files dirs) disk name = .ok b
  | done answer => answer = compileTemplate (.files dirs) disk name

/-- If what is kept is settled, a call stays on its way. -/
theorem Progress.Right.step (hfile : disk.lookup place = some (.file bytes time))
    (hkey : (TemplateLibrary.files dirs).key disk name = .ok (.file place))
    (hs : Kept place bytes time True s) (hp : p.Right dirs disk place name) :
    (p.step (.files dirs) disk name s).1.Right dirs disk place name := by
  cases p <;> rw [Progress.step]
  case start => rw [hkey]; rfl
  case keyed key =>
    cases hp
    have hmade : ∀ b, (s.lookUp disk (.file place)).1 = some b → Made bytes b :=
      fun b ↦ hs.made_of_lookUp hfile
    rcases hfound : s.lookUp disk (.file place) with ⟨_ | b, s'⟩
    · rfl
    · exact ((hmade b (by rw [hfound])).compileTemplate_eq hkey hfile).symm
  case missed key =>
    cases hload : (TemplateLibrary.files dirs).load disk name with
    | error failure => exact (compileTemplate_eq_error.mpr (.inl hload)).symm
    | ok source => exact hload
  case loaded key source =>
    have hcompile : compileTemplate (.files dirs) disk name =
        (compileNamed name source).mapError RenderFault.early := by
      rw [compileTemplate, show TemplateLibrary.load _ _ _ = _ from hp]
      rfl
    cases hresult : (compileNamed name source).mapError RenderFault.early with
    | error failure => exact (hcompile.trans hresult).symm
    | ok b => exact hcompile.trans hresult
  case compiled key b =>
    rw [TemplateLibrary.modified?_of_key hkey hfile]
    exact hp
  case timed key b modified => exact hp.symm
  case done answer => exact hp

end Step

/-! ## Calls that take turns -/

/-- Something that happens to a library of files that is in use. -/
inductive TrafficEvent where
  /-- The file gets new bytes, and a time that is later than its last one by more than `delay`. -/
  | change (bytes : List UInt8) (delay : Nat)
  /-- A call for a name begins. -/
  | start (name : String)
  /-- The call with a number takes its next step. -/
  | step (n : Nat)
deriving DecidableEq

/-- Whether the file is replaced. -/
def TrafficEvent.isChange : TrafficEvent → Bool
  | change .. => true
  | _ => false

/-- A disk, a store of compiled templates, and the calls that have begun, each with its name. -/
structure Traffic where
  /-- The disk. -/
  disk : Disk
  /-- The store. -/
  store : TemplateStore
  /-- The calls, in the order they began. -/
  calls : List (String × Progress)

namespace Traffic

/-- A disk and a store that keeps nothing, before any call has begun. -/
def opened (disk : Disk) (capacity : Option Nat) (lifetime : Option Int) (clock : Nat → Int) :
    Traffic where
  disk
  store := { cache := { capacity := capacity.map Int.ofNat, lifetime }, clock }
  calls := []

/-- What an event makes of the traffic; `place` is that of the file that is replaced. -/
def happen (dirs : List SearchDirectory) (place : DiskPlace) (t : Traffic) :
    TrafficEvent → Traffic
  | .change bytes delay =>
    match t.disk.lookup place with
    | some (.file _ time) => { t with disk := t.disk.put place (.file bytes (time + 1 + delay)) }
    | _ => t
  | .start name => { t with calls := t.calls ++ [(name, .start)] }
  | .step n =>
    match t.calls[n]? with
    | some (name, p) =>
      let (p, store) := p.step (.files dirs) t.disk name t.store
      { t with store, calls := t.calls.set n (name, p) }
    | none => t

/-- The traffic after a sequence of events. -/
def after (dirs : List SearchDirectory) (place : DiskPlace) (t : Traffic)
    (events : List TrafficEvent) : Traffic :=
  events.foldl (happen dirs place) t

/-- The last time that the file was replaced, some call had read its text and not yet its time. -/
def ChangedUnderway (dirs : List SearchDirectory) (place : DiskPlace) (t : Traffic) :
    List TrafficEvent → Prop :=
  Since (fun before event ↦ event.isChange = true ∧
      ∃ c ∈ (t.after dirs place before).calls, c.2.holdsText place = true)
    (fun event ↦ event.isChange = false)

variable {dirs : List SearchDirectory} {place : DiskPlace} {bytes : List UInt8} {time : Int}
  {settled settled' : Prop} {t : Traffic} {events : List TrafficEvent} {event : TrafficEvent}
  {n : Nat} {name : String} {p : Progress}

theorem after_append (t : Traffic) (first second : List TrafficEvent) :
    t.after dirs place (first ++ second) = (t.after dirs place first).after dirs place second :=
  List.foldl_append

theorem after_cons (t : Traffic) (event : TrafficEvent) (events : List TrafficEvent) :
    t.after dirs place (event :: events) = (t.happen dirs place event).after dirs place events :=
  rfl

/-! ## The invariant -/

/-- The file is there, what is kept for it is as it should be, and so will the calls under way keep
it. -/
structure Orderly (dirs : List SearchDirectory) (place : DiskPlace) (bytes : List UInt8)
    (time : Int) (settled : Prop) (t : Traffic) : Prop where
  /-- The file with its bytes and its time. -/
  file : t.disk.lookup place = some (.file bytes time)
  /-- What is kept for the file. -/
  kept : Kept place bytes time settled t.store
  /-- The calls under way. -/
  calls : ∀ c ∈ t.calls, c.2.Agrees dirs t.disk place bytes time settled c.1

/-- What is known if everything is settled is known if it is not. -/
theorem Orderly.mono (h : Orderly dirs place bytes time settled t) (himp : settled' → settled) :
    Orderly dirs place bytes time settled' t where
  file := h.file
  kept e he hkey := ⟨(h.kept e he hkey).1, fun hs ↦ (h.kept e he hkey).2 (himp hs)⟩
  calls c hc := by
    have hagrees := h.calls c hc
    obtain ⟨name, p⟩ := c
    cases p with
    | start | done answer => exact trivial
    | keyed key | missed key => exact hagrees
    | loaded key source | compiled key b =>
      exact ⟨hagrees.1, fun hkey hs ↦ hagrees.2 hkey (himp hs)⟩
    | timed key b modified =>
      intro hkey
      obtain ⟨time', hmodified, hle, hmade⟩ := hagrees hkey
      exact ⟨time', hmodified, hle, fun hs ↦ hmade (himp hs)⟩

/-- Everything that is no change keeps the traffic orderly. -/
theorem Orderly.happen (h : Orderly dirs place bytes time settled t)
    (hevent : event.isChange = false) :
    Orderly dirs place bytes time settled (t.happen dirs place event) := by
  cases event with
  | change bytes delay => cases hevent
  | start name =>
    refine ⟨h.file, h.kept, fun c hc ↦ ?_⟩
    rcases List.mem_append.mp hc with hc | hc
    · exact h.calls c hc
    · cases List.mem_singleton.mp hc
      exact trivial
  | step n =>
    rw [Traffic.happen]
    split
    case h_2 => exact h
    case h_1 name p hn =>
      have hstep := (h.calls _ (List.mem_of_getElem? hn)).step h.file h.kept
      refine ⟨h.file, hstep.1, fun c hc ↦ ?_⟩
      rcases List.mem_or_eq_of_mem_set hc with hc | rfl
      · exact h.calls c hc
      · exact hstep.2

/-- A change settles everything, unless a call had read the text of the file and not yet its
time. -/
theorem Orderly.change (h : Orderly dirs place bytes time settled t) (bytes' : List UInt8)
    (delay : Nat) :
    Orderly dirs place bytes' (time + 1 + delay) (∀ c ∈ t.calls, c.2.holdsText place = false)
      (t.happen dirs place (.change bytes' delay)) := by
  have hlater : time < time + 1 + delay := by omega
  rw [Traffic.happen, h.file]
  dsimp only
  refine ⟨?_, fun e he hkey ↦ ?_, fun c hc ↦ ?_⟩
  · rw [Disk.lookup_put_file h.file, if_pos rfl]
  · have hle := (h.kept e he hkey).1
    exact ⟨by omega, fun _ hge ↦ by omega⟩
  · have hagrees := h.calls c hc
    obtain ⟨name, p⟩ := c
    have hkeyed : (TemplateLibrary.files dirs).key
        (t.disk.put place (.file bytes' (time + 1 + delay))) name =
          (TemplateLibrary.files dirs).key t.disk name := TemplateLibrary.key_put h.file dirs name
    cases p with
    | start | done answer => exact trivial
    | keyed key | missed key => exact hkeyed.trans hagrees
    | loaded key source | compiled key b =>
      refine ⟨hkeyed.trans hagrees.1, fun hkey hnone ↦ ?_⟩
      exact absurd hkey (of_decide_eq_false (hnone _ hc))
    | timed key b modified =>
      intro hkey
      obtain ⟨time', hmodified, hle, -⟩ := hagrees hkey
      exact ⟨time', hmodified, by omega, fun _ hge ↦ by omega⟩

/-- Whatever happens, a name keeps its key. -/
theorem Orderly.key_happen (h : Orderly dirs place bytes time settled t) (event : TrafficEvent)
    (name : String) : (TemplateLibrary.files dirs).key (t.happen dirs place event).disk name =
      (TemplateLibrary.files dirs).key t.disk name := by
  cases event with
  | change bytes' delay =>
    rw [Traffic.happen, h.file]
    exact TemplateLibrary.key_put h.file dirs name
  | start name => rfl
  | step n =>
    rw [Traffic.happen]
    split <;> rfl

/-- After any events, the traffic is orderly; it is settled unless a call was between its two
readings when the file was last replaced. -/
theorem orderly_after (hopened : Orderly dirs place bytes time True t) (events : List TrafficEvent) :
    (∃ bytes time, Orderly dirs place bytes time (¬ t.ChangedUnderway dirs place events)
      (t.after dirs place events)) ∧
    ∀ name, (TemplateLibrary.files dirs).key (t.after dirs place events).disk name =
      (TemplateLibrary.files dirs).key t.disk name := by
  induction events using List.reverseRecOn with
  | nil => exact ⟨⟨bytes, time, hopened.mono fun _ ↦ trivial⟩, fun _ ↦ rfl⟩
  | append_singleton events event ih =>
    obtain ⟨⟨bytes, time, h⟩, hkeys⟩ := ih
    rw [after_append]
    refine ⟨?_, fun name ↦ (h.key_happen event name).trans (hkeys name)⟩
    cases hevent : event.isChange with
    | false =>
      refine ⟨bytes, time, (h.happen hevent).mono fun hsettled hunderway ↦ hsettled ?_⟩
      exact since_snoc.mpr (.inr ⟨hunderway, hevent⟩)
    | true =>
      cases event with
      | start name => cases hevent
      | step n => cases hevent
      | change bytes' delay =>
        refine ⟨bytes', _, (h.change bytes' delay).mono fun hsettled c hc ↦ ?_⟩
        rw [Bool.eq_false_iff]
        exact fun hholds ↦ hsettled (since_snoc.mpr (.inl ⟨rfl, c, hc, hholds⟩))

/-! ## One call -/

theorem disk_happen (hevent : event.isChange = false) (t : Traffic) :
    (t.happen dirs place event).disk = t.disk := by
  cases event with
  | change bytes delay => cases hevent
  | start name => rfl
  | step n =>
    rw [happen]
    split <;> rfl

/-- A call goes on when it takes a step, and only then. -/
theorem getElem?_calls_happen (h : t.calls[n]? = some (name, p)) (event : TrafficEvent) :
    (t.happen dirs place event).calls[n]? = some (name,
      if event = .step n then (p.step (.files dirs) t.disk name t.store).1 else p) := by
  cases event with
  | change bytes delay =>
    rw [happen]
    split <;> exact h
  | start other =>
    rw [happen, List.getElem?_append_left (List.getElem?_eq_some_iff.mp h).1]
    exact h
  | step m =>
    by_cases hm : m = n
    · cases hm
      rw [happen, h, if_pos rfl]
      exact List.getElem?_set_self (List.getElem?_eq_some_iff.mp h).1
    · rw [if_neg fun heq ↦ hm (TrafficEvent.step.inj heq), happen]
      split
      · rw [List.getElem?_set_ne hm]
        exact h
      · exact h

/-- While the file is not replaced, a call that is on its way stays so, and comes to its answer in as
many steps as are left. -/
theorem right_after (h : Orderly dirs place bytes time True t)
    (hkey : (TemplateLibrary.files dirs).key t.disk name = .ok (.file place))
    (hcall : t.calls[n]? = some (name, p)) (hp : p.Right dirs t.disk place name)
    (hquiet : ∀ e ∈ events, e.isChange = false) :
    (t.after dirs place events).disk = t.disk ∧
      ∃ p', (t.after dirs place events).calls[n]? = some (name, p') ∧
        p'.Right dirs t.disk place name ∧
        p'.remaining ≤ p.remaining - events.count (.step n) := by
  induction events generalizing t p with
  | nil => exact ⟨rfl, p, hcall, hp, Nat.le_refl _⟩
  | cons event events ih =>
    rw [List.forall_mem_cons] at hquiet
    have hdisk : (t.happen dirs place event).disk = t.disk := disk_happen hquiet.1 t
    have hnext := ih (h.happen hquiet.1) (by rw [hdisk]; exact hkey)
      (getElem?_calls_happen hcall event) ?_ hquiet.2
    · rw [hdisk] at hnext
      refine hnext.imp_right fun ⟨p', hcall', hp', hle⟩ ↦ ⟨p', hcall', hp', ?_⟩
      rw [List.count_cons]
      by_cases hevent : event = .step n
      · have hstep := p.remaining_step (.files dirs) t.disk name t.store
        rw [if_pos hevent] at hle
        rw [if_pos (beq_iff_eq.mpr hevent)]
        omega
      · rw [if_neg hevent] at hle
        rw [if_neg (fun heq ↦ hevent (eq_of_beq heq))]
        exact hle
    · rw [hdisk]
      split
      · exact hp.step h.file hkey h.kept
      · exact hp

/-- If everything is settled, a call that begins is answered with the template of the file's text,
while the file is not replaced. -/
theorem Orderly.answer (h : Orderly dirs place bytes time True t)
    (hkey : (TemplateLibrary.files dirs).key t.disk name = .ok (.file place))
    (hquiet : ∀ e ∈ events, e.isChange = false) {t' : Traffic}
    (ht' : t' = t.after dirs place (.start name :: events)) :
    (∀ r, t'.calls[t.calls.length]? = some (name, .done r) →
      r = compileTemplate (.files dirs) t'.disk name) ∧
    (6 ≤ events.count (.step t.calls.length) →
      t'.calls[t.calls.length]? =
        some (name, .done (compileTemplate (.files dirs) t'.disk name))) := by
  have hstart : Orderly dirs place bytes time True (t.happen dirs place (.start name)) :=
    h.happen rfl
  have hcall : (t.happen dirs place (.start name)).calls[t.calls.length]? = some (name, .start) :=
    List.getElem?_concat_length
  obtain ⟨hdisk, p, hp, hright, hle⟩ := right_after hstart hkey hcall trivial hquiet
  rw [after_cons] at ht'
  rw [← ht'] at hdisk hp
  have hdisk' : t'.disk = t.disk := hdisk
  rw [hdisk', hp]
  refine ⟨fun r hr ↦ ?_, fun hsteps ↦ ?_⟩
  · cases hr
    exact hright
  · obtain ⟨r, rfl⟩ : ∃ r, p = .done r := Progress.eq_done_of_remaining (by
      rw [Progress.remaining] at hle
      omega)
    rw [show r = _ from hright]
    rfl

/-- **A call that begins after the last change is answered with the template of the file's text.**
The last change must not have come when a call had read the text and not yet the time. The answer is
there when the call has taken its six steps. -/
theorem answer_after_change {disk : Disk}
    (hkey : (TemplateLibrary.files dirs).key disk name = .ok (.file place))
    (capacity : Option Nat) (lifetime : Option Int) (clock : Nat → Int)
    (before since : List TrafficEvent)
    (hbefore : ¬ (opened disk capacity lifetime clock).ChangedUnderway dirs place before)
    (hsince : ∀ e ∈ since, e.isChange = false) :
    let t := (opened disk capacity lifetime clock).after dirs place before
    let t' := (opened disk capacity lifetime clock).after dirs place (before ++ .start name :: since)
    let answer := compileTemplate (.files dirs) t'.disk name
    (∀ r, t'.calls[t.calls.length]? = some (name, .done r) → r = answer) ∧
      (6 ≤ since.count (.step t.calls.length) →
        t'.calls[t.calls.length]? = some (name, .done answer)) := by
  obtain ⟨bytes, time, hfile, -⟩ := TemplateLibrary.exists_file_of_key hkey
  have hopened : Orderly dirs place bytes time True (opened disk capacity lifetime clock) :=
    ⟨hfile, fun _ he ↦ absurd he List.not_mem_nil, fun _ hc ↦ absurd hc List.not_mem_nil⟩
  obtain ⟨⟨bytes', time', horderly⟩, hkeys⟩ := orderly_after hopened before
  exact (horderly.mono fun _ ↦ hbefore).answer ((hkeys name).trans hkey) hsince
    (after_append _ before _)

/-! ### A file that is replaced once -/

/-- The text of a block that is nothing but text. -/
def literal? : Block → Option String
  | .cons (.text text) .nil => some text
  | _ => none

/-- The text that a call is answered with, if it is nothing but text. -/
def literalAnswer? : String × Progress → Option String
  | (_, .done (.ok b)) => literal? b
  | _ => none

/-- The place of a template file. -/
def versionPlace : DiskPlace := ["templates", "t.j2"]

/-- The directory that it lies in. -/
def versionDirectories : List SearchDirectory := [.project ⟨"", ["templates"]⟩]

/-- The file with its first text. -/
def versionDisk : Disk :=
  (Disk.empty []).install ⟨"", versionPlace⟩ (.file "v1".toUTF8.toList 0)

/-- The traffic after a sequence of events. -/
def versionTraffic (events : List TrafficEvent) : Traffic :=
  (opened versionDisk none none fun n ↦ n).after versionDirectories versionPlace events

/-- The file gets its second text. -/
def versionChange : TrafficEvent := .change "v2".toUTF8.toList 0

/-- A call from its beginning to its answer. -/
def versionCall : List TrafficEvent := .start "t" :: List.replicate 6 (.step 0)

/-- A call that begins after the first text was kept and the file was replaced is answered with the
second text. -/
theorem answer_after_change_version :
    ((versionTraffic ((versionCall ++ [versionChange]) ++
      .start "t" :: List.replicate 6 (.step 1))).calls[1]?.bind literalAnswer?) = some "v2" := by
  have hidle : ((versionTraffic versionCall).calls.all fun c ↦ !c.2.holdsText versionPlace) = true :=
    by decide +kernel
  have hsettled : ¬ (opened versionDisk none none fun n ↦ n).ChangedUnderway versionDirectories
      versionPlace (versionCall ++ [versionChange]) := by
    intro h
    rcases since_snoc.mp h with ⟨-, c, hc, hholds⟩ | ⟨-, hchange⟩
    · simpa [hholds] using List.all_eq_true.mp hidle c hc
    · cases hchange
  have hkey : (TemplateLibrary.files versionDirectories).key versionDisk "t" =
      .ok (.file versionPlace) := by decide +kernel
  obtain ⟨-, hanswer⟩ := answer_after_change hkey none none (fun n ↦ n)
    (versionCall ++ [versionChange]) (List.replicate 6 (.step 1)) hsettled (by decide)
  have hnumber : ((opened versionDisk none none fun n ↦ n).after versionDirectories versionPlace
      (versionCall ++ [versionChange])).calls.length = 1 := by decide +kernel
  rw [hnumber] at hanswer
  rw [versionTraffic, hanswer (by decide)]
  decide +kernel

/-- A call that has read the first text when the file is replaced keeps this text under the time of
the second one. A call that begins later is answered with the first text, although the file has the
second. -/
theorem answer_outdated :
    let t := versionTraffic ([.start "t", .step 0, .step 0, .step 0, versionChange, .step 0,
      .step 0, .step 0, .start "t", .step 1, .step 1])
    t.calls[1]?.bind literalAnswer? = some "v1" ∧
      (compileTemplate (.files versionDirectories) t.disk "t").toOption.bind literal? =
        some "v2" := by
  decide +kernel

end Traffic

end Template

end DiagramForge
