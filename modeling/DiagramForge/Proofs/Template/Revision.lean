import DiagramForge.Proofs.Entries
import DiagramForge.Proofs.History
import DiagramForge.Proofs.Template.Store

/-!
# Templates of a library in memory

Texts of a library in memory are set and removed while its templates are asked for and kept. A name
that has a text is answered with the template of this text, whatever was kept before. A name that
has none is answered so, or with the template of the last text that it had: `answer_after`. The
latter happens if that template is still kept when its text is removed, since the store is asked
before the library: `answer_removed`.

## The invariant

A text that is given to a name gets a number that the name never had before, and a template is kept
under the number of its text. So what is kept under the present number of a name was compiled from
the text that the name was given last (`Session.Coherent`). Removing a text leaves its number as it
is, so this may no longer be the text that the name has.
-/

namespace DiagramForge

namespace Template

open Outcome

/-! ## Numbers of texts -/

namespace MemoryLibrary

theorem get?_sources_set (l : MemoryLibrary) (name source other : String) :
    Entries.get? (l.set name source).sources other =
      if name == other then some source else Entries.get? l.sources other :=
  Entries.get?_set _ _ _ _

theorem get?_sources_remove (l : MemoryLibrary) (name other : String) :
    Entries.get? (l.remove name).sources other =
      if name == other then none else Entries.get? l.sources other :=
  Entries.get?_erase _ _ _

/-- A name that is given a text gets a greater number than before. -/
theorem get?_revisions_set (l : MemoryLibrary) (name source other : String) :
    Entries.get? (l.set name source).revisions other =
      if name == other then some (((Entries.get? l.revisions name).map (· + 1)).getD 0)
      else Entries.get? l.revisions other := by
  rw [set]
  cases Entries.get? l.revisions name <;> exact Entries.get?_set _ _ _ _

end MemoryLibrary

/-! ## Sessions -/

/-- A call that changes a library in memory or asks for one of its templates. -/
inductive LibraryCall where
  /-- A name is given a text. -/
  | set (name source : String)
  /-- The text of a name is removed. -/
  | remove (name : String)
  /-- The template with a name is asked for. -/
  | ask (name : String)

/-- A library in memory and the store in which its templates are kept. -/
structure Session where
  /-- The library. -/
  library : MemoryLibrary
  /-- The store. -/
  store : TemplateStore

namespace Session

/-- A library of given texts and a store that keeps nothing yet. -/
def opened (id : Nat) (sources : List (String × String)) (capacity : Option Nat)
    (lifetime : Option Int) (clock : Nat → Int) : Session where
  library := { MemoryLibrary.ofList sources with id }
  store := { cache := { capacity := capacity.map Int.ofNat, lifetime }, clock }

/-- The key of a name. -/
def key (s : Session) (name : String) : TemplateKey :=
  .memory s.library.id name (s.library.revision name)

/-- The text of a name. -/
def text? (s : Session) (name : String) : Option String :=
  Entries.get? s.library.sources name

/-- The store is asked for a name, and answers. -/
def ask (s : Session) (disk : Disk) (name : String) : Except Failure Block × TemplateStore :=
  (getTemplate (.memory s.library) disk name).run s.store

/-- What a call makes of a session. -/
def call (disk : Disk) (s : Session) : LibraryCall → Session
  | .set name source => { s with library := s.library.set name source }
  | .remove name => { s with library := s.library.remove name }
  | .ask name => { s with store := (s.ask disk name).2 }

/-- A session after a sequence of calls. -/
def after (disk : Disk) (s : Session) (calls : List LibraryCall) : Session :=
  calls.foldl (call disk) s

/-- A name was asked for when it had a text, and has not been given a text since. -/
def AskedFor (disk : Disk) (start : Session) (name text : String) (calls : List LibraryCall) :
    Prop :=
  Since (fun before call ↦ call = .ask name ∧ (start.after disk before).text? name = some text)
    (fun call ↦ ∀ source, call ≠ .set name source) calls

variable {disk : Disk} {start s : Session} {calls : List LibraryCall} {name text : String}

theorem after_snoc (calls : List LibraryCall) (c : LibraryCall) :
    start.after disk (calls ++ [c]) = (start.after disk calls).call disk c := by
  rw [after, List.foldl_append]
  rfl

/-- A name that was asked for has the text that it had then, or none. -/
theorem AskedFor.eq_of_text (h : AskedFor disk start name text calls) {text' : String}
    (htext : (start.after disk calls).text? name = some text') : text' = text := by
  induction calls using List.reverseRecOn with
  | nil => exact absurd h not_since_nil
  | append_singleton calls c ih =>
    rw [after_snoc] at htext
    rcases since_snoc.mp h with ⟨rfl, hsource⟩ | ⟨hasked, hkept⟩
    · exact Option.some.inj (htext.symm.trans hsource)
    · cases c with
      | set other source =>
        rw [call, text?, MemoryLibrary.get?_sources_set] at htext
        split at htext
        case isTrue heq => exact absurd (by rw [eq_of_beq heq]) (hkept source)
        case isFalse => exact ih hasked htext
      | remove other =>
        rw [call, text?, MemoryLibrary.get?_sources_remove] at htext
        split at htext
        · cases htext
        · exact ih hasked htext
      | ask other => exact ih hasked htext

/-! ## Asking for a name -/

theorem library_key (s : Session) (disk : Disk) (name : String) :
    (TemplateLibrary.memory s.library).key disk name = .ok (s.key name) :=
  rfl

theorem key_ne_unresolved (s : Session) (name other : String) : s.key name ≠ .unresolved other := by
  rw [key]
  intro heq
  cases heq

/-- The template of a name is the one that is found, or it is compiled. -/
theorem ask_fst (s : Session) (disk : Disk) (name : String) :
    (s.ask disk name).1 = match (s.store.lookUp disk (s.key name)).1 with
      | some b => .ok b
      | none => compileTemplate (.memory s.library) disk name := by
  rw [ask, getTemplate_eq (s.library_key disk name)]
  rcases s.store.lookUp disk (s.key name) with ⟨_ | b, store⟩
  · dsimp only
    cases compileTemplate (.memory s.library) disk name <;> rfl
  · rfl

/-- A template that was not found is kept. -/
theorem ask_snd_of_missed {b : Block}
    (hmissed : (s.store.lookUp disk (s.key name)).1 = none)
    (hb : compileTemplate (.memory s.library) disk name = .ok b) :
    (s.ask disk name).2 =
      (s.store.lookUp disk (s.key name)).2.keep disk (s.key name) b none := by
  rw [ask, getTemplate_eq (s.library_key disk name), hb]
  rcases hfound : s.store.lookUp disk (s.key name) with ⟨_ | b', store⟩
  · rfl
  · rw [hfound] at hmissed
    cases hmissed

/-- The store is asked, and nothing else happens to it if nothing has to be kept. -/
theorem ask_snd (s : Session) (disk : Disk) (name : String) :
    (s.ask disk name).2 = (s.store.lookUp disk (s.key name)).2 ∨
      ∃ b, (s.store.lookUp disk (s.key name)).1 = none ∧
        compileTemplate (.memory s.library) disk name = .ok b ∧ (s.ask disk name).2 =
          (s.store.lookUp disk (s.key name)).2.keep disk (s.key name) b none := by
  cases hcompile : compileTemplate (.memory s.library) disk name with
  | error failure =>
    left
    rw [ask, getTemplate_eq (s.library_key disk name), hcompile]
    rcases s.store.lookUp disk (s.key name) with ⟨_ | b, store⟩ <;> rfl
  | ok b =>
    cases hfound : (s.store.lookUp disk (s.key name)).1 with
    | none => exact .inr ⟨b, rfl, rfl, ask_snd_of_missed hfound hcompile⟩
    | some b' =>
      left
      rw [ask, getTemplate_eq (s.library_key disk name)]
      rcases hlookUp : s.store.lookUp disk (s.key name) with ⟨_ | b, store⟩
      · rw [hlookUp] at hfound
        cases hfound
      · rfl

theorem compileTemplate_eq (s : Session) (disk : Disk) (name : String) :
    compileTemplate (.memory s.library) disk name = match s.text? name with
      | some text => (compileNamed name text).mapError RenderFault.early
      | none => .error (.diagnostic (templateNotFound name)) := by
  rw [compileTemplate, TemplateLibrary.load, text?]
  cases Entries.get? s.library.sources name <;> rfl

/-- What is kept after a name was asked for was kept before, or is the template of its text. -/
theorem mem_entries_ask {e : TemplateKey × CacheEntry Block}
    (he : e ∈ (s.ask disk name).2.cache.entries) : e ∈ s.store.cache.entries ∨
      ∃ text, s.text? name = some text ∧ e.1 = s.key name ∧ compile text = .ok e.2.value := by
  have hlookUp : ∀ e ∈ (s.store.lookUp disk (s.key name)).2.cache.entries,
      e ∈ s.store.cache.entries := fun _ ↦ Cache.mem_entries_get
  rcases ask_snd s disk name with hsame | ⟨b, -, hcompile, hkept⟩
  · rw [hsame] at he
    exact .inl (hlookUp e he)
  · rw [hkept] at he
    rcases Cache.mem_entries_set he with rfl | he
    · obtain ⟨text, hload, hb⟩ := compileTemplate_eq_ok.mp hcompile
      refine .inr ⟨text, ?_, rfl, hb⟩
      rw [TemplateLibrary.load] at hload
      split at hload
      · cases hload
        assumption
      · cases hload
    · exact .inl (hlookUp e he)

/-! ## What is kept -/

/-- Something that is kept is the template of a text that its name had under its number; if the
name still has the number, it was asked for when it had the text, and has not been given a text
since. -/
def Traced (disk : Disk) (start : Session) (calls : List LibraryCall)
    (e : TemplateKey × CacheEntry Block) : Prop :=
  ∃ name revision text present,
    e.1 = .memory (start.after disk calls).library.id name revision ∧ compile text = .ok e.2.value ∧
      Entries.get? (start.after disk calls).library.revisions name = some present ∧
      revision ≤ present ∧ (revision = present → AskedFor disk start name text calls)

/-- Being asked for outlasts any call that does not give the name a text. -/
theorem AskedFor.snoc (h : AskedFor disk start name text calls) {c : LibraryCall}
    (hc : ∀ source, c ≠ .set name source) : AskedFor disk start name text (calls ++ [c]) :=
  since_snoc.mpr (.inr ⟨h, hc⟩)

theorem Traced.snoc {e : TemplateKey × CacheEntry Block} (h : Traced disk start calls e)
    (c : LibraryCall) : Traced disk start (calls ++ [c]) e := by
  obtain ⟨name, revision, text, present, hkey, hcompile, hpresent, hle, hasked⟩ := h
  rw [Traced, after_snoc]
  cases c with
  | set other source =>
    by_cases hother : other = name
    · -- The name gets a new number, and what is kept has an older one.
      refine ⟨name, revision, text, present + 1, hkey, hcompile, ?_, by omega, by omega⟩
      rw [call, MemoryLibrary.get?_revisions_set, hother, if_pos (beq_self_eq_true _), hpresent]
      rfl
    · refine ⟨name, revision, text, present, hkey, hcompile, ?_, hle, fun heq ↦ ?_⟩
      · rw [call, MemoryLibrary.get?_revisions_set, if_neg (by rwa [beq_iff_eq])]
        exact hpresent
      · exact (hasked heq).snoc fun source heq ↦ hother (by cases heq; rfl)
  | remove other => exact ⟨name, revision, text, present, hkey, hcompile, hpresent, hle,
      fun heq ↦ (hasked heq).snoc nofun⟩
  | ask other => exact ⟨name, revision, text, present, hkey, hcompile, hpresent, hle,
      fun heq ↦ (hasked heq).snoc nofun⟩

/-- A name with a text has a number. -/
theorem exists_revision
    (hstart : ∀ name text, start.text? name = some text →
      ∃ n, Entries.get? start.library.revisions name = some n)
    (h : (start.after disk calls).text? name = some text) :
    ∃ n, Entries.get? (start.after disk calls).library.revisions name = some n := by
  induction calls using List.reverseRecOn generalizing text with
  | nil => exact hstart name text h
  | append_singleton calls c ih =>
    rw [after_snoc] at h ⊢
    cases c with
    | set other source =>
      rw [call, text?, MemoryLibrary.get?_sources_set] at h
      rw [call, MemoryLibrary.get?_revisions_set]
      split
      case isTrue => exact ⟨_, rfl⟩
      case isFalse hother => exact ih (by rwa [if_neg hother] at h)
    | remove other =>
      rw [call, text?, MemoryLibrary.get?_sources_remove] at h
      split at h
      · cases h
      · exact ih h
    | ask other => exact ih h

/-- Whatever is kept is the template of a text that its name had. -/
theorem traced_after (hempty : start.store.cache.entries = [])
    (hstart : ∀ name text, start.text? name = some text →
      ∃ n, Entries.get? start.library.revisions name = some n)
    (calls : List LibraryCall) :
    ∀ e ∈ (start.after disk calls).store.cache.entries, Traced disk start calls e := by
  induction calls using List.reverseRecOn with
  | nil =>
    rw [show (start.after disk []).store.cache.entries = [] from hempty]
    exact nofun
  | append_singleton calls c ih =>
    intro e he
    rw [after_snoc] at he
    cases c with
    | set other source => exact (ih e he).snoc _
    | remove other => exact (ih e he).snoc _
    | ask name =>
      rcases mem_entries_ask he with he | ⟨text, htext, hkey, hcompile⟩
      · exact (ih e he).snoc _
      · obtain ⟨n, hn⟩ := exists_revision hstart htext
        refine ⟨name, n, text, n, ?_, hcompile, ?_, Nat.le_refl n,
          fun _ ↦ since_snoc.mpr (.inl ⟨rfl, htext⟩)⟩
        · rw [after_snoc, hkey, key, MemoryLibrary.revision, hn]
          rfl
        · rw [after_snoc]
          exact hn

/-! ## Answers -/

/-- What is found under the key of a name is the template of the text that the name had when it was
last asked for. -/
theorem exists_asked_of_lookUp
    (htraced : ∀ e ∈ (start.after disk calls).store.cache.entries, Traced disk start calls e)
    {b : Block} (h : ((start.after disk calls).store.lookUp disk
      ((start.after disk calls).key name)).1 = some b) :
    ∃ text, AskedFor disk start name text calls ∧ compile text = .ok b := by
  obtain ⟨e, hfind, -, rfl⟩ := (TemplateStore.lookUp_eq_some_iff (key_ne_unresolved _ name)).mp h
  obtain ⟨name', revision, text, present, hkey, hcompile, hpresent, -, hasked⟩ :=
    htraced _ (Cache.mem_of_find? hfind)
  cases hkey
  refine ⟨text, hasked ?_, hcompile⟩
  rw [MemoryLibrary.revision, hpresent, Option.getD_some]

/-- A name with a text is answered with the template of this text. -/
theorem ask_of_text
    (htraced : ∀ e ∈ (start.after disk calls).store.cache.entries, Traced disk start calls e)
    (h : (start.after disk calls).text? name = some text) :
    ((start.after disk calls).ask disk name).1 =
      (compileNamed name text).mapError RenderFault.early := by
  rw [ask_fst]
  split
  case h_1 b hfound =>
    obtain ⟨text', hasked, hcompile⟩ := exists_asked_of_lookUp htraced hfound
    rw [hasked.eq_of_text h, compileNamed_eq_ok.mpr hcompile]
    rfl
  case h_2 => rw [compileTemplate_eq, h]

/-- A name without a text is answered so, or with the template of the last text that it had. -/
theorem ask_of_no_text
    (htraced : ∀ e ∈ (start.after disk calls).store.cache.entries, Traced disk start calls e)
    (h : (start.after disk calls).text? name = none) :
    ((start.after disk calls).ask disk name).1 = .error (.diagnostic (templateNotFound name)) ∨
      ∃ text b, AskedFor disk start name text calls ∧ compile text = .ok b ∧
        ((start.after disk calls).ask disk name).1 = .ok b := by
  rw [ask_fst]
  split
  case h_1 b hfound =>
    obtain ⟨text, hasked, hcompile⟩ := exists_asked_of_lookUp htraced hfound
    exact .inr ⟨text, b, hasked, hcompile, rfl⟩
  case h_2 => rw [compileTemplate_eq, h]; exact .inl rfl

/-! ## Stores without limits -/

/-- Whatever is kept in a store without limits is found. -/
theorem find?_lookUp_of_unlimited (h : s.store.cache.lifetime = none) (name : String)
    (key : TemplateKey) :
    (s.store.lookUp disk (s.key name)).2.cache.find? key = s.store.cache.find? key := by
  have hfresh : ∀ e now, s.store.cache.isStale e now none = false := by
    intro e now
    rw [Cache.isStale, h]
    rfl
  have hfind := Cache.find?_get s.store.cache (s.key name) key (s.store.clock s.store.readings) none
    (s.store.clock (s.store.readings + 1))
  refine hfind.trans ?_
  split
  case isFalse => rfl
  case isTrue hkey =>
    rw [hkey]
    cases s.store.cache.find? key with
    | none => rfl
    | some e => rw [Option.filter_some, hfresh]; rfl

theorem limits_ask (s : Session) (disk : Disk) (name : String) :
    (s.ask disk name).2.cache.capacity = s.store.cache.capacity ∧
      (s.ask disk name).2.cache.lifetime = s.store.cache.lifetime := by
  have hlimits : (s.store.lookUp disk (s.key name)).2.cache.capacity = s.store.cache.capacity ∧
      (s.store.lookUp disk (s.key name)).2.cache.lifetime = s.store.cache.lifetime :=
    ⟨s.store.capacity_lookUp .., Cache.lifetime_get ..⟩
  rcases ask_snd s disk name with hsame | ⟨b, -, -, hkept⟩
  · rw [hsame]
    exact hlimits
  · rw [hkept]
    exact hlimits

/-- A session keeps its limits. -/
theorem limits_after (start : Session) (disk : Disk) (calls : List LibraryCall) :
    (start.after disk calls).store.cache.capacity = start.store.cache.capacity ∧
      (start.after disk calls).store.cache.lifetime = start.store.cache.lifetime := by
  induction calls using List.reverseRecOn with
  | nil => exact ⟨rfl, rfl⟩
  | append_singleton calls c ih =>
    rw [after_snoc]
    cases c with
    | set other source => exact ih
    | remove other => exact ih
    | ask name =>
      obtain ⟨hcapacity, hlifetime⟩ := limits_ask (start.after disk calls) disk name
      exact ⟨hcapacity.trans ih.1, hlifetime.trans ih.2⟩

/-- A store without limits keeps what it has. -/
theorem find?_ask_of_find? (hcapacity : s.store.cache.capacity = none)
    (hlifetime : s.store.cache.lifetime = none) (name : String) {key : TemplateKey}
    {e : CacheEntry Block} (h : s.store.cache.find? key = some e) :
    (s.ask disk name).2.cache.find? key = some e := by
  have hlookUp : (s.store.lookUp disk (s.key name)).2.cache.find? key = some e :=
    (find?_lookUp_of_unlimited hlifetime name key).trans h
  rcases ask_snd s disk name with hsame | ⟨b, hmissed, -, hkept⟩
  · rw [hsame]
    exact hlookUp
  · have hunlimited := (s.store.capacity_lookUp disk (s.key name)).trans hcapacity
    rw [hkept, TemplateStore.find?_keep_of_unlimited hunlimited, if_neg]
    · exact hlookUp
    · -- It is not the name that was looked up, since this one was not found.
      rintro rfl
      refine absurd ((TemplateStore.lookUp_eq_some_iff (key_ne_unresolved s _)).mpr ⟨e, h, ?_, rfl⟩)
        (Option.eq_none_iff_forall_not_mem.mp hmissed e.value)
      rw [Cache.isStale, hlifetime]
      rfl

/-- A store without limits keeps the template that a name is answered with. -/
theorem exists_find?_ask (hcapacity : s.store.cache.capacity = none)
    (hlifetime : s.store.cache.lifetime = none) {b : Block} (h : (s.ask disk name).1 = .ok b) :
    ∃ e, (s.ask disk name).2.cache.find? (s.key name) = some e ∧ e.value = b := by
  rw [ask_fst] at h
  split at h
  case h_1 b' hfound =>
    cases h
    obtain ⟨e, hfind, -, hvalue⟩ :=
      (TemplateStore.lookUp_eq_some_iff (key_ne_unresolved s name)).mp hfound
    exact ⟨e, find?_ask_of_find? hcapacity hlifetime name hfind, hvalue⟩
  case h_2 hmissed =>
    rw [ask_snd_of_missed hmissed h]
    have hunlimited := (s.store.capacity_lookUp disk (s.key name)).trans hcapacity
    exact ⟨_, (TemplateStore.find?_keep_of_unlimited hunlimited ..).trans (if_pos rfl), rfl⟩

/-- A store without limits keeps the template of the last text that a name had, if it was asked
for. -/
theorem exists_find?_of_askedFor (hempty : start.store.cache.entries = [])
    (hstart : ∀ name text, start.text? name = some text →
      ∃ n, Entries.get? start.library.revisions name = some n)
    (hcapacity : start.store.cache.capacity = none) (hlifetime : start.store.cache.lifetime = none)
    (h : AskedFor disk start name text calls) {b : Block} (hb : compile text = .ok b) :
    ∃ e, (start.after disk calls).store.cache.find? ((start.after disk calls).key name) = some e ∧
      e.value = b := by
  induction calls using List.reverseRecOn with
  | nil => exact absurd h not_since_nil
  | append_singleton calls c ih =>
    obtain ⟨hcapacity', hlifetime'⟩ := limits_after start disk calls
    rw [hcapacity] at hcapacity'
    rw [hlifetime] at hlifetime'
    rw [after_snoc]
    rcases since_snoc.mp h with ⟨rfl, htext⟩ | ⟨hasked, hc⟩
    · refine exists_find?_ask hcapacity' hlifetime' ?_
      rw [ask_of_text (traced_after hempty hstart calls) htext, compileNamed_eq_ok.mpr hb]
      rfl
    · obtain ⟨e, hfind, hvalue⟩ := ih hasked
      cases c with
      | set other source =>
        refine ⟨e, ?_, hvalue⟩
        have hother : ¬ (other == name) = true := fun heq ↦ hc source (by rw [eq_of_beq heq])
        rw [call, key, MemoryLibrary.revision, MemoryLibrary.get?_revisions_set, if_neg hother]
        exact hfind
      | remove other => exact ⟨e, hfind, hvalue⟩
      | ask other => exact ⟨e, find?_ask_of_find? hcapacity' hlifetime' other hfind, hvalue⟩

/-! ## Sessions from their beginning -/

/-- The texts that a library begins with have numbers. -/
theorem exists_revision_opened {id : Nat} {sources : List (String × String)}
    {capacity : Option Nat} {lifetime : Option Int} {clock : Nat → Int}
    (h : (opened id sources capacity lifetime clock).text? name = some text) :
    ∃ n, Entries.get? (opened id sources capacity lifetime clock).library.revisions name =
      some n := by
  have hmap := Entries.get?_map (fun _ ↦ 0) (Entries.ofList sources) name
  rw [show Entries.get? (Entries.ofList sources) name = some text from h] at hmap
  exact ⟨0, hmap⟩

/-- **A name with a text is answered with the template of this text**, whatever a library had
before and whatever is kept. A name without a text is answered so, or with the template of the last
text that it had; in a store without limits, the latter if it was asked for then. -/
theorem answer_after (id : Nat) (sources : List (String × String)) (capacity : Option Nat)
    (lifetime : Option Int) (clock : Nat → Int) (disk : Disk) (calls : List LibraryCall)
    (name : String) :
    let start := opened id sources capacity lifetime clock
    let s := start.after disk calls
    (∀ text, s.text? name = some text →
      (s.ask disk name).1 = (compileNamed name text).mapError RenderFault.early) ∧
    (s.text? name = none →
      (s.ask disk name).1 = .error (.diagnostic (templateNotFound name)) ∨
      ∃ text b, AskedFor disk start name text calls ∧ compile text = .ok b ∧
        (s.ask disk name).1 = .ok b) ∧
    (capacity = none → lifetime = none → ∀ text b, AskedFor disk start name text calls →
      compile text = .ok b → (s.ask disk name).1 = .ok b) := by
  have htraced := @traced_after disk (opened id sources capacity lifetime clock)
    rfl (fun _ _ ↦ exists_revision_opened) calls
  refine ⟨fun text ↦ ask_of_text htraced, ask_of_no_text htraced, ?_⟩
  rintro rfl rfl text b hasked hb
  obtain ⟨e, hfind, rfl⟩ :=
    exists_find?_of_askedFor rfl (fun _ _ ↦ exists_revision_opened) rfl rfl hasked hb
  rw [ask_fst, (TemplateStore.lookUp_eq_some_iff (key_ne_unresolved _ _)).mpr ⟨e, hfind, ?_, rfl⟩]
  rw [Cache.isStale, (limits_after _ disk calls).2]
  rfl

/-- A name was asked for, and then its text was removed. -/
def removedSession : Session :=
  (opened 0 [("a", "x")] none none fun n ↦ n).after (Disk.empty []) [.ask "a", .remove "a"]

/-- The name is still answered with the template of its former text. -/
theorem answer_removed : removedSession.text? "a" = none ∧
    ∃ b, compile "x" = .ok b ∧ (removedSession.ask (Disk.empty []) "a").1 = .ok b :=
  ⟨rfl, _, rfl, rfl⟩

end Session

end Template

end DiagramForge
