import DiagramForge.Proofs.Outcome
import DiagramForge.Proofs.Template.Cache
import DiagramForge.Proofs.Template.Oblivious
import DiagramForge.Template.Engine

/-!
# Compiled templates that are kept

Whether a template is compiled or found among those that are kept makes no difference: from any
store that is sound, a template that its library has renders to what it renders to from an empty
store, and the store is sound again. A name that no template has may be `Mistaken` for the key of
something that is kept; this is the only way in which a sound store shows.

## The invariant

`Cache.Holds P` says that every value of a cache is one that `P` allows under its key. Lookups and
evictions only remove entries, so each of the two operations on a cache has one lemma. A store is
`TemplateStore.Sound` if each block in it is what the text of its key compiles to. The text of a
key is a relation, so that one invariant serves all libraries that agree on the texts of their keys
(`TemplateLibrary.KeyedBy`).

Two runs from sound stores take different ways where one finds a block that the other compiles.
This is settled once, in `getTemplate_sound` and `comesTo_getFragment`; beyond them, all that is
used is that rendering is `Oblivious` of the store.
-/

namespace DiagramForge.Template

open Outcome

/-! ## Caches -/

namespace Cache

variable {κ ν : Type} [DecidableEq κ] {P : κ → ν → Prop} {c : Cache κ ν}

/-- Every value in a cache is one that `P` allows under its key. -/
def Holds (P : κ → ν → Prop) (c : Cache κ ν) : Prop :=
  ∀ e ∈ c.entries, P e.1 e.2.value

theorem Holds.find? (h : c.Holds P) {key : κ} {e : CacheEntry ν} (he : c.find? key = some e) :
    P key e.value :=
  h _ (mem_of_find? he)

/-- A lookup finds what is allowed under the key, and a cache still holds what it held. -/
theorem Holds.get (h : c.Holds P) (key : κ) (checked : Int) (modified : Option Int)
    (touched : Int) : (∀ v, (c.get key checked modified touched).1 = some v → P key v) ∧
      (c.get key checked modified touched).2.Holds P := by
  refine ⟨fun v hv ↦ ?_, fun e he ↦ h e (mem_entries_get he)⟩
  obtain ⟨e, hfind, -, rfl⟩ := get_eq_some_iff.mp hv
  exact h.find? hfind

/-- A value that is allowed may be stored. -/
theorem Holds.set (h : c.Holds P) {key : κ} {v : ν} (hv : P key v) (now : Int)
    (source : Option Int) : (c.set key v now source).Holds P := by
  intro e he
  rcases mem_entries_set he with rfl | he
  · exact hv
  · exact h e he

end Cache

/-! ## The texts of keys -/

/-- The text that a key stands for on a disk, in a library. -/
def TemplateLibrary.Reads (library : TemplateLibrary) (disk : Disk) : TemplateKey → String → Prop
  | .file place, text =>
    ∃ bytes time, disk.lookup place = some (.file bytes time) ∧ decodeSource bytes = .ok text
  | .builtin place, text =>
    ∃ bytes time, builtinDisk.lookup place = some (.file bytes time) ∧
      decodeSource bytes = .ok text
  | .memory _ name _, text =>
    match library with
    | .memory m => Entries.get? m.sources name = some text
    | .files _ => False
  | .fragment _ source, text => text = source
  | .unresolved _, _ => False

/-- A library has under each name the text that `reads` gives its key. -/
structure TemplateLibrary.KeyedBy (library : TemplateLibrary) (disk : Disk)
    (reads : TemplateKey → String → Prop) : Prop where
  /-- What is loaded is the text of the key. -/
  load_eq_ok : ∀ {name text}, library.load disk name = .ok text ↔
    ∃ key, library.key disk name = .ok key ∧ reads key text
  /-- The key of a fragment gives its text. -/
  fragment : ∀ {name source text}, reads (.fragment name source) text ↔ text = source

theorem lookup_eq_of_find {disk : Disk} {path : Path} {place : DiskPlace} {e : DiskEntry}
    (h : disk.find path = .ok (place, e)) : disk.lookup place = some e := by
  obtain ⟨place', -, h⟩ := bind_eq_ok.mp h
  split at h
  case h_1 => cases h
  case h_2 hlookup =>
    cases h
    exact hlookup

/-- A name is not looked up as it is spelled: there is a template with it, or the library is in
memory. -/
def TemplateLibrary.Resolves (library : TemplateLibrary) (disk : Disk) (name : String) : Prop :=
  ∀ n, library.key disk name ≠ .ok (.unresolved n)

/-- The text of a place is the one in the bytes of the file there. -/
theorem exists_text_iff {disk : Disk} {place : DiskPlace} {bytes : List UInt8} {modified : Int}
    (h : disk.lookup place = some (.file bytes modified)) {text : String} :
    (∃ bytes time, disk.lookup place = some (.file bytes time) ∧
      TemplateLibrary.decodeSource bytes = .ok text) ↔
    TemplateLibrary.decodeSource bytes = .ok text := by
  refine ⟨?_, fun hdecode ↦ ⟨bytes, modified, h, hdecode⟩⟩
  rintro ⟨_, _, h', hdecode⟩
  cases h.symm.trans h'
  exact hdecode

/-- Where the path of a name denotes a file, a search directory has it. -/
theorem SearchDirectory.file?_of_isFile {disk : Disk} {dir : SearchDirectory} {name : String}
    (h : ((dir.locate disk).1.isFile ((dir.locate disk).2.join
      (Path.ofString (name ++ templateSuffix)))).mapError Failure.crash = .ok true) :
    dir.file? disk name = match (dir.locate disk).1.find ((dir.locate disk).2.join
        (Path.ofString (name ++ templateSuffix))) with
      | .ok (place, .file bytes modified) => .ok (some ⟨dir.keyAt place, bytes, modified⟩)
      | _ => .ok none := by
  rw [SearchDirectory.file?]
  generalize dir.locate disk = located at h ⊢
  obtain ⟨disk', directory⟩ := located
  dsimp only at h ⊢
  rw [h]
  rfl

/-- The file that a search directory has for a name is one of the disk it is on. -/
theorem SearchDirectory.exists_place_of_file? {disk : Disk} {dir : SearchDirectory} {name : String}
    {file : TemplateFile} (h : dir.file? disk name = .ok (some file)) :
    ∃ place, file.key = dir.keyAt place ∧
      (dir.locate disk).1.lookup place = some (.file file.bytes file.modified) := by
  obtain ⟨isFile, hisFile, hfile⟩ := bind_eq_ok.mp h
  cases isFile with
  | false => cases hfile
  | true =>
    rw [SearchDirectory.file?_of_isFile hisFile] at h
    split at h
    case h_2 => cases h
    case h_1 place bytes modified hfind =>
      cases h
      exact ⟨place, rfl, lookup_eq_of_find hfind⟩

/-- A template file is found in one of the directories. -/
theorem exists_directory_of_findTemplate? {disk : Disk} {name : String} {file : TemplateFile}
    {dirs : List SearchDirectory} (h : findTemplate? disk dirs name = .ok (some file)) :
    ∃ dir ∈ dirs, dir.file? disk name = .ok (some file) := by
  induction dirs with
  | nil => cases h
  | cons dir dirs ih =>
    rw [findTemplate?] at h
    obtain ⟨found, hfound, h⟩ := bind_eq_ok.mp h
    cases found with
    | none =>
      obtain ⟨dir', hdir', h⟩ := ih h
      exact ⟨dir', List.mem_cons_of_mem _ hdir', h⟩
    | some file' =>
      cases h
      exact ⟨dir, List.mem_cons_self, hfound⟩

theorem reads_of_findTemplate? {library : TemplateLibrary} {disk : Disk} {name : String}
    {file : TemplateFile} {dirs : List SearchDirectory}
    (h : findTemplate? disk dirs name = .ok (some file)) (text : String) :
    library.Reads disk file.key text ↔ TemplateLibrary.decodeSource file.bytes = .ok text := by
  obtain ⟨dir, -, hfile⟩ := exists_directory_of_findTemplate? h
  obtain ⟨place, hkey, hlookup⟩ := SearchDirectory.exists_place_of_file? hfile
  rw [hkey]
  cases dir with
  | project directory => exact exists_text_iff hlookup
  | builtin =>
    dsimp only [SearchDirectory.locate] at hlookup
    exact exists_text_iff hlookup

/-- The key of a template file is not a name. -/
theorem key_ne_unresolved_of_findTemplate? {disk : Disk} {name : String} {file : TemplateFile}
    {dirs : List SearchDirectory} (h : findTemplate? disk dirs name = .ok (some file))
    (n : String) : file.key ≠ .unresolved n := by
  obtain ⟨dir, -, hfile⟩ := exists_directory_of_findTemplate? h
  obtain ⟨place, hkey, -⟩ := SearchDirectory.exists_place_of_file? hfile
  rw [hkey]
  cases dir <;> exact nofun

/-- Looking for a template fails only where there is no telling what a path denotes. -/
theorem crash_of_findTemplate? {disk : Disk} {dirs : List SearchDirectory} {name : String}
    {failure : Failure} (h : findTemplate? disk dirs name = .error failure) :
    ∃ c, failure = .crash c := by
  induction dirs with
  | nil => cases h
  | cons dir dirs ih =>
    rw [findTemplate?] at h
    rcases bind_eq_error.mp h with h | ⟨found, -, h⟩
    · rcases bind_eq_error.mp h with h' | ⟨isFile, hisFile, hfile⟩
      · obtain ⟨c, -, rfl⟩ := mapError_eq_error.mp h'
        exact ⟨c, rfl⟩
      · cases isFile with
        | false => cases hfile
        | true =>
          rw [SearchDirectory.file?_of_isFile hisFile] at h
          split at h <;> cases h
    · cases found with
      | none => exact ih h
      | some file => cases h

namespace TemplateLibrary

variable {library : TemplateLibrary} {disk : Disk} {name text : String}

/-- A library has the texts that it reads. -/
theorem keyedBy_reads (library : TemplateLibrary) (disk : Disk) :
    library.KeyedBy disk (library.Reads disk) where
  load_eq_ok {name text} := by
    cases library with
    | memory m =>
      have hload : (memory m).load disk name = .ok text ↔
          Entries.get? m.sources name = some text := by
        rw [load]
        cases Entries.get? m.sources name with
        | none => exact ⟨nofun, nofun⟩
        | some source => exact ⟨fun h ↦ by cases h; rfl, fun h ↦ by cases h; rfl⟩
      rw [hload]
      exact ⟨fun h ↦ ⟨_, rfl, h⟩, fun ⟨_, hkey, h⟩ ↦ by cases hkey; exact h⟩
    | files dirs =>
      rw [load, key, bind_eq_ok]
      constructor
      · rintro ⟨found, hfound, h⟩
        cases found with
        | none => cases h
        | some file =>
          exact ⟨file.key, bind_eq_ok.mpr ⟨_, hfound, rfl⟩, (reads_of_findTemplate? hfound _).mpr h⟩
      · rintro ⟨key, hkey, h⟩
        obtain ⟨found, hfound, hkey⟩ := bind_eq_ok.mp hkey
        cases found with
        | none =>
          cases hkey
          exact h.elim
        | some file =>
          cases hkey
          exact ⟨_, hfound, (reads_of_findTemplate? hfound _).mp h⟩
  fragment := Iff.rfl

/-- A template that its library has is not looked up by its name. -/
theorem resolves_of_has (h : library.has disk name = .ok true) : library.Resolves disk name := by
  intro n hkey
  cases library with
  | memory m => cases hkey
  | files dirs =>
    obtain ⟨found, hfound, hsome⟩ := bind_eq_ok.mp h
    obtain ⟨found', hfound', hkey⟩ := bind_eq_ok.mp hkey
    cases hfound.symm.trans hfound'
    cases found with
    | none => cases hsome
    | some file => exact key_ne_unresolved_of_findTemplate? hfound n (Except.ok.inj hkey)

/-- A template that is looked up by its name is not there. -/
theorem load_eq_error_of_unresolved {n : String}
    (h : library.key disk name = .ok (.unresolved n)) :
    n = name ∧ library.load disk name = .error (.diagnostic (templateNotFound name)) := by
  cases library with
  | memory m => cases h
  | files dirs =>
    obtain ⟨found, hfound, hkey⟩ := bind_eq_ok.mp h
    cases found with
    | none =>
      cases hkey
      exact ⟨rfl, bind_eq_error.mpr (.inr ⟨none, hfound, rfl⟩)⟩
    | some file =>
      exact absurd (Except.ok.inj hkey) (key_ne_unresolved_of_findTemplate? hfound n)

/-- Where there is no telling the key of a name, its text cannot be loaded for the same reason. -/
theorem load_eq_error_of_key {failure : Failure} (h : library.key disk name = .error failure) :
    library.load disk name = .error failure := by
  cases library with
  | memory m => cases h
  | files dirs =>
    rcases bind_eq_error.mp h with h | ⟨found, -, h⟩
    · exact bind_eq_error.mpr (.inl h)
    · cases found <;> cases h

/-- The only diagnostic about loading a template is that there is none of the name. -/
theorem eq_of_load_eq_error {e : Diagnostic}
    (h : library.load disk name = .error (.diagnostic e)) : e = templateNotFound name := by
  cases library with
  | memory m =>
    rw [load] at h
    split at h <;> cases h
    rfl
  | files dirs =>
    rcases bind_eq_error.mp h with h | ⟨found, -, h⟩
    · obtain ⟨c, hc⟩ := crash_of_findTemplate? h
      cases hc
    · cases found with
      | none =>
        cases h
        rfl
      | some file =>
        replace h : decodeSource file.bytes = .error (.diagnostic e) := h
        rw [decodeSource] at h
        split at h <;> cases h

/-- The time of a template that can be loaded is there, or known not to be recorded. -/
theorem exists_modified_of_load (h : library.load disk name = .ok text) :
    ∃ modified, library.modified? disk name = .ok modified := by
  cases library with
  | memory m => exact ⟨none, rfl⟩
  | files dirs =>
    obtain ⟨found, hfound, -⟩ := bind_eq_ok.mp h
    exact ⟨found.map (·.modified), bind_eq_ok.mpr ⟨found, hfound, rfl⟩⟩

end TemplateLibrary

/-! ## Sound stores -/

theorem compileNamed_eq_ok {name text : String} {b : Block} :
    compileNamed name text = .ok b ↔ compile text = .ok b := by
  rw [compileNamed]
  split
  case h_1 h => rw [h]; exact ⟨fun h ↦ by cases h; rfl, fun h ↦ by cases h; rfl⟩
  case h_2 h => rw [h]; exact ⟨nofun, nofun⟩
  case h_3 h => rw [h]; exact ⟨nofun, nofun⟩

/-- A text is refused for its syntax, which names the template, or for a constant. -/
theorem compileNamed_eq_error {name source : String} {fault : RenderFault} :
    compileNamed name source = .error fault ↔
      (∃ line, compile source = .error (.syntaxError line) ∧ fault = .diagnostic
        { kind := .templateRender
          message := "Syntax error at line " ++ toString line
          place := { phase := some "rendering", template := some name, line := some line } }) ∨
      compile source = .error (.constant fault) := by
  rw [compileNamed]
  split
  case h_1 h =>
    rw [h]
    exact ⟨nofun, fun h ↦ h.elim (fun ⟨_, h, _⟩ ↦ nomatch h) nofun⟩
  case h_2 line h =>
    rw [h]
    refine ⟨fun h ↦ .inl ⟨line, rfl, by cases h; rfl⟩, ?_⟩
    rintro (⟨_, hline, rfl⟩ | h)
    · cases hline
      rfl
    · cases h
  case h_3 fault' h =>
    rw [h]
    refine ⟨fun h ↦ .inr (by cases h; rfl), ?_⟩
    rintro (⟨_, h, _⟩ | h)
    · cases h
    · cases h
      rfl

theorem toOption_compileNamed (name source : String) :
    (compileNamed name source).toOption = (compile source).toOption := by
  rw [compileNamed]
  split
  case h_1 h | h_2 h | h_3 h => rw [h]; rfl

namespace TemplateStore

variable {reads : TemplateKey → String → Prop} {s : TemplateStore} {disk : Disk}
  {key : TemplateKey}

/-- Every block in a store is what the text of its key compiles to. -/
def Sound (reads : TemplateKey → String → Prop) (s : TemplateStore) : Prop :=
  s.cache.Holds fun key b ↦ ∃ text, reads key text ∧ compile text = .ok b

theorem sound_empty : Sound reads {} :=
  fun _ he ↦ nomatch he

theorem denoted_eq (h : ∀ name, key ≠ .unresolved name) : s.denoted key = key := by
  cases key with
  | unresolved name => exact absurd rfl (h name)
  | _ => rfl

/-- What a key denotes is spelled like it. -/
theorem spelling_denoted (s : TemplateStore) (key : TemplateKey) :
    (s.denoted key).spelling = key.spelling := by
  cases key with
  | unresolved name =>
    rw [denoted]
    cases hfound : (s.cache.entries.map (·.1)).find? fun key ↦ key.spelling == name with
    | none => rfl
    | some key =>
      have hspelling := List.find?_some hfound
      exact eq_of_beq hspelling
  | _ => rfl

/-- A block is found under a key if it is kept there and not outdated. -/
theorem lookUp_eq_some_iff (h : ∀ name, key ≠ .unresolved name) {b : Block} :
    (s.lookUp disk key).1 = some b ↔ ∃ e, s.cache.find? key = some e ∧
      s.cache.isStale e (s.clock s.readings) (modifiedAt? disk key) = false ∧ e.value = b := by
  rw [lookUp, denoted_eq h]
  exact Cache.get_eq_some_iff

theorem capacity_lookUp (s : TemplateStore) (disk : Disk) (key : TemplateKey) :
    (s.lookUp disk key).2.cache.capacity = s.cache.capacity :=
  Cache.capacity_get ..

/-- Without a limit, a block that is kept takes the place of nothing but the one under its key. -/
theorem find?_keep_of_unlimited (h : s.cache.capacity = none) (disk : Disk) (key other : TemplateKey)
    (b : Block) (source : Option Int) : (s.keep disk key b source).cache.find? other =
      if key = other then
        some (Cache.entryOf b (s.clock s.readings) (source.orElse fun _ ↦ modifiedAt? disk key))
      else s.cache.find? other :=
  Cache.find?_set_of_unlimited h ..

theorem Sound.lookUp (h : s.Sound reads) (disk : Disk) (key : TemplateKey) :
    (∀ b, (s.lookUp disk key).1 = some b →
      ∃ text, reads (s.denoted key) text ∧ compile text = .ok b) ∧
      (s.lookUp disk key).2.Sound reads :=
  Cache.Holds.get h (s.denoted key) _ _ _

theorem Sound.keep (h : s.Sound reads) {text : String} {b : Block} (hread : reads key text)
    (hcompile : compile text = .ok b) (disk : Disk) (source : Option Int) :
    (s.keep disk key b source).Sound reads :=
  Cache.Holds.set h ⟨text, hread, hcompile⟩ _ _

end TemplateStore

/-- The compiled template with a name, made anew. -/
def compileTemplate (library : TemplateLibrary) (disk : Disk) (name : String) :
    Except Failure Block := do
  let source ← library.load disk name
  (compileNamed name source).mapError RenderFault.early

variable {library : TemplateLibrary} {disk : Disk} {reads : TemplateKey → String → Prop}
  {s : TemplateStore}

/-- A template is not compiled: there is no text, or the text is at fault. -/
theorem compileTemplate_eq_error {name : String} {failure : Failure} :
    compileTemplate library disk name = .error failure ↔
      library.load disk name = .error failure ∨ ∃ source fault,
        library.load disk name = .ok source ∧ compileNamed name source = .error fault ∧
          fault.early = failure := by
  rw [compileTemplate, bind_eq_error]
  refine or_congr_right (exists_congr fun source ↦ ?_)
  rw [mapError_eq_error, ← exists_and_left]

theorem compileTemplate_eq_ok {name : String} {b : Block} :
    compileTemplate library disk name = .ok b ↔
      ∃ source, library.load disk name = .ok source ∧ compile source = .ok b := by
  rw [compileTemplate, bind_eq_ok]
  exact exists_congr fun source ↦ and_congr_right fun _ ↦
    mapError_eq_ok.trans compileNamed_eq_ok

/-- A template with a key is looked up, and made anew if it is not found. -/
theorem getTemplate_eq {name : String} {key : TemplateKey}
    (hkey : library.key disk name = .ok key) :
    (getTemplate library disk name).run s = match s.lookUp disk key with
      | (some b, s) => (.ok b, s)
      | (none, s) =>
        match compileTemplate library disk name, library.modified? disk name with
        | .ok b, .ok modified => (.ok b, s.keep disk key b modified)
        | .ok _, .error failure => (.error failure, s)
        | .error failure, _ => (.error failure, s) := by
  rw [getTemplate, run_bind, run_ofExcept, hkey]
  dsimp only
  rw [run_bind, run_modifyGet]
  rcases s.lookUp disk key with ⟨_ | b, s'⟩
  · dsimp only
    rw [run_bind, run_ofExcept]
    cases hload : library.load disk name with
    | error failure =>
      have hcompile : compileTemplate library disk name = .error failure := by
        rw [compileTemplate, hload]
        rfl
      rw [hcompile]
    | ok source =>
      have hcompile : compileTemplate library disk name =
          (compileNamed name source).mapError RenderFault.early := by
        rw [compileTemplate, hload]
        rfl
      dsimp only
      rw [hcompile, run_bind, run_ofExcept]
      cases (compileNamed name source).mapError RenderFault.early with
      | error failure => rfl
      | ok b =>
        dsimp only
        rw [run_bind, run_ofExcept]
        cases library.modified? disk name <;> rfl
  · rfl

/-- Where there is no telling the key of a name, its template is not made for the same reason. -/
theorem getTemplate_of_key_eq_error {name : String} {failure : Failure}
    (h : library.key disk name = .error failure) :
    (getTemplate library disk name).run s = (compileTemplate library disk name, s) := by
  rw [getTemplate, run_bind, run_ofExcept, h, compileTemplate,
    TemplateLibrary.load_eq_error_of_key h]
  rfl

/-- A name that no template has is spelled like a key, and taken for it. -/
structure Mistaken (library : TemplateLibrary) (disk : Disk) (reads : TemplateKey → String → Prop)
    (name : String) (b : Block) : Prop where
  /-- There is no template with the name. -/
  unresolved : library.key disk name = .ok (.unresolved name)
  /-- The block is that of a key that is spelled like the name. -/
  spelled : ∃ key text, key.spelling = name ∧ reads key text ∧ compile text = .ok b

/-- Whether a template is found in a sound store or not, it is the one that would be made anew,
unless its name is mistaken. -/
theorem getTemplate_sound (hlibrary : library.KeyedBy disk reads) (name : String)
    (hs : s.Sound reads) :
    (((getTemplate library disk name).run s).1 = compileTemplate library disk name ∨
      ∃ b, ((getTemplate library disk name).run s).1 = .ok b ∧ Mistaken library disk reads name b) ∧
    ((getTemplate library disk name).run s).2.Sound reads := by
  cases hkey : library.key disk name with
  | error failure =>
    rw [getTemplate_of_key_eq_error hkey]
    exact ⟨.inl rfl, hs⟩
  | ok key =>
    obtain ⟨hfound, hsound⟩ := hs.lookUp disk key
    have hspelling := s.spelling_denoted key
    rw [getTemplate_eq hkey]
    generalize s.lookUp disk key = found at hfound hsound ⊢
    obtain ⟨_ | b, s'⟩ := found
    · -- Not found: it is compiled, and what is kept is what the text of its key compiles to.
      cases hcompile : compileTemplate library disk name with
      | error failure => exact ⟨.inl rfl, hsound⟩
      | ok b =>
        obtain ⟨source, hload, hb⟩ := bind_eq_ok.mp hcompile
        obtain ⟨modified, hmodified⟩ := TemplateLibrary.exists_modified_of_load hload
        obtain ⟨key', hkey', hread⟩ := hlibrary.load_eq_ok.mp hload
        cases hkey.symm.trans hkey'
        rw [hmodified]
        exact ⟨.inl rfl,
          hsound.keep hread (compileNamed_eq_ok.mp (mapError_eq_ok.mp hb)) disk modified⟩
    · obtain ⟨source, hread, hb⟩ := hfound b rfl
      refine ⟨?_, hsound⟩
      by_cases hname : ∃ n, key = .unresolved n
      · -- Found under a name: the name is spelled like the key of what is found.
        obtain ⟨n, rfl⟩ := hname
        obtain ⟨rfl, -⟩ := TemplateLibrary.load_eq_error_of_unresolved hkey
        exact .inr ⟨b, rfl, hkey, ⟨_, source, hspelling, hread, hb⟩⟩
      · -- Found under its key: the text it was compiled from is the one that would be loaded.
        rw [TemplateStore.denoted_eq fun n hn ↦ hname ⟨n, hn⟩] at hread
        have hload := hlibrary.load_eq_ok.mpr ⟨key, hkey, hread⟩
        refine .inl (bind_eq_ok.mpr ⟨source, hload, ?_⟩).symm
        exact mapError_eq_ok.mpr (compileNamed_eq_ok.mpr hb)

/-- A template that its library has is the one that would be made anew. -/
theorem comesTo_getTemplate (hlibrary : library.KeyedBy disk reads) {name : String}
    (hname : library.Resolves disk name) :
    ComesTo (TemplateStore.Sound reads) (getTemplate library disk name)
      (compileTemplate library disk name) := by
  intro s hs
  obtain ⟨hresult, hsound⟩ := getTemplate_sound hlibrary name hs
  refine ⟨hresult.resolve_right ?_, hsound⟩
  rintro ⟨b, -, hmistaken⟩
  exact hname name hmistaken.unresolved

/-- Whether a fragment is found in a sound store or not, it is the one that would be made anew. -/
theorem comesTo_getFragment (hlibrary : library.KeyedBy disk reads) (name source : String) :
    ComesTo (TemplateStore.Sound reads) (getFragment disk name source)
      (compileNamed ("partial:" ++ name) source) := by
  intro s hs
  obtain ⟨hfound, hsound⟩ := hs.lookUp disk (.fragment name source)
  rw [getFragment, run_bind, run_modifyGet]
  generalize s.lookUp disk (.fragment name source) = found at hfound hsound ⊢
  obtain ⟨_ | b, s'⟩ := found
  · dsimp only
    rw [run_bind, run_ofExcept]
    cases hcompile : compileNamed ("partial:" ++ name) source with
    | error fault => exact ⟨rfl, hsound⟩
    | ok b =>
      have hread : reads (.fragment name source) source := hlibrary.fragment.mpr rfl
      exact ⟨rfl, hsound.keep hread (compileNamed_eq_ok.mp hcompile) disk (some 0)⟩
  · obtain ⟨text, hread, hb⟩ := hfound b rfl
    rw [TemplateStore.denoted_eq (by exact nofun), hlibrary.fragment] at hread
    exact ⟨(compileNamed_eq_ok.mpr (hread ▸ hb)).symm, hsound⟩

/-! ## Rendering from sound stores -/

/-- However deep fragments lie in each other, they look at what is kept only to get a fragment. -/
theorem hostOf_oblivious {R : TemplateStore → TemplateStore → Prop}
    (hfragment : ∀ name source, Oblivious R (getFragment disk name source)) (d : Diagram)
    (scope : Scope) (depth : Nat) : (hostOf disk d scope depth).Oblivious R := by
  induction depth with
  | zero => exact fun _ _ ↦ oblivious_lift _
  | succ depth ih =>
    intro args named
    refine (oblivious_evaluate _).bind fun (name, source, vars) ↦ ?_
    cases source with
    | none => exact oblivious_lift _
    | some source =>
      refine (oblivious_keep (hfragment name source)).bind fun b ↦ ?_
      exact (b.text_oblivious ih _).bind fun _ ↦ Oblivious.pure _

/-- The text of a compiled template for a diagram, from an empty store. -/
def Block.textFor (b : Block) (disk : Disk) (d : Diagram) (vars : List (String × Value)) :
    Except RenderFault String :=
  let scope := bindings d vars
  ((b.text (hostOf disk d scope fragmentDepth) scope).alone.run {}).1

theorem Block.comesTo_textFor (hlibrary : library.KeyedBy disk reads) (b : Block) (d : Diagram)
    (vars : List (String × Value)) :
    ComesTo (TemplateStore.Sound reads)
      (b.text (hostOf disk d (bindings d vars) fragmentDepth) (bindings d vars)).alone
      (b.textFor disk d vars) := by
  have hhost := hostOf_oblivious
    (fun name source ↦ (comesTo_getFragment hlibrary name source).oblivious) d
  exact (oblivious_alone (b.text_oblivious (hhost _ _) _)).comesTo TemplateStore.sound_empty

/-- **What is kept makes no difference.** From any sound store, a template that its library has
renders to the text of what it compiles to, or fails as the template does, and the store is sound
again. -/
theorem comesTo_renderTemplate (hlibrary : library.KeyedBy disk reads) (d : Diagram)
    {name : String} (hname : library.Resolves disk name) (vars : List (String × Value)) :
    ComesTo (TemplateStore.Sound reads) (renderTemplate library disk d name vars) (do
      let b ← compileTemplate library disk name
      (b.textFor disk d vars).mapError (RenderFault.failure name)) :=
  (comesTo_getTemplate hlibrary hname).bind fun b _ ↦
    (b.comesTo_textFor hlibrary d vars).adapt (RenderFault.failure name)

end DiagramForge.Template
