import DiagramForge.Proofs.Template.Store

/-!
# The built-in templates

The library of the built-in templates loads nothing but them: `exists_lines_of_load`. They are plain
text, so what is loaded is what they say, character by character, and a template is compiled from its
characters: `compile_ofList`. So what holds of all compiled built-in templates can be found out by
compiling them.
-/

namespace DiagramForge

open Text Outcome

/-! ## Plain text -/

/-- Whether a character is written as one byte and ends no line by itself. -/
def isPlain (c : Char) : Bool :=
  c.toNat < 128 && c != '\r'

variable {c : Char} {cs : List Char}

theorem utf8EncodeChar_of_plain (h : isPlain c = true) :
    String.utf8EncodeChar c = [UInt8.ofNat c.toNat] := by
  rw [isPlain, Bool.and_eq_true, decide_eq_true_eq] at h
  exact if_pos (Nat.le_of_lt_succ h.1)

theorem nextChar_of_plain (h : isPlain c = true) (bytes : List UInt8) :
    nextChar (UInt8.ofNat c.toNat) bytes = .ok (c, 1) := by
  rw [isPlain, Bool.and_eq_true, decide_eq_true_eq] at h
  have hvalue : (UInt8.ofNat c.toNat).toNat = c.toNat := by
    rw [UInt8.toNat_ofNat', Nat.mod_eq_of_lt]
    omega
  have htail : sequenceTail? (UInt8.ofNat c.toNat) = some 0 := by
    apply if_pos
    rw [UInt8.lt_iff_toNat_lt, hvalue]
    exact h.1
  rw [nextChar, htail]
  dsimp only
  rw [takeTail]
  change Except.ok (Char.ofNat (UInt8.ofNat c.toNat).toNat, 1) = _
  rw [hvalue, Char.ofNat_toNat]

theorem decodeUtf8From_plain (h : cs.all isPlain = true) (offset : Nat) (before : List Char) :
    decodeUtf8From offset before (encodeUtf8 cs) = .ok (before.reverse ++ cs) := by
  induction cs generalizing offset before with
  | nil => rw [encodeUtf8, List.flatMap_nil, decodeUtf8From, List.append_nil]
  | cons c cs ih =>
    rw [List.all_cons, Bool.and_eq_true] at h
    have hbytes : encodeUtf8 (c :: cs) = UInt8.ofNat c.toNat :: encodeUtf8 cs := by
      rw [encodeUtf8, List.flatMap_cons, utf8EncodeChar_of_plain h.1]
      rfl
    rw [hbytes, decodeUtf8From, nextChar_of_plain h.1]
    dsimp only
    rw [Nat.sub_self, List.drop_zero, ih h.2, List.reverse_cons, List.append_assoc]
    rfl

theorem unifyNewlines_of_plain (h : cs.all isPlain = true) : unifyNewlines cs = cs := by
  induction cs with
  | nil => rfl
  | cons c cs ih =>
    rw [List.all_cons, Bool.and_eq_true] at h
    have hc : c ≠ '\r' := by
      rintro rfl
      exact absurd h.1 (by decide)
    rw [unifyNewlines.eq_3 _ _ fun _ heq _ ↦ hc heq, ih h.2, if_neg (by simpa using hc)]

namespace Template

/-- Plain text is loaded as it was written. -/
theorem decodeSource_plain (h : cs.all isPlain = true) :
    TemplateLibrary.decodeSource (encodeUtf8 cs) = .ok (String.ofList cs) := by
  rw [TemplateLibrary.decodeSource, decodeUtf8, decodeUtf8From_plain h]
  dsimp only
  rw [List.reverse_nil, List.nil_append, unifyNewlines_of_plain h]

/-! ## Compiling characters -/

/-- The tokens of the characters of a template. -/
def charTokens (cs : List Char) : List Token :=
  let cs := unifyNewlines cs
  let tokens := lexText (2 * cs.length + 4) 1 true cs
  tokens ++ [⟨.finish, (tokens.getLast?.map (·.line)).getD 1⟩]

/-- Compiles the characters of a template. -/
def compileChars (cs : List Char) : Except CompileFault Block := do
  let ts := charTokens cs
  let reader : Reader Block := do
    Reader.checkToken
    block (nesting * (ts.length + 1)) []
  let b ← (reader.run ts).map (·.1)
  b.check { filters := sortedNames b.filters }

theorem compile_ofList (cs : List Char) : compile (String.ofList cs) = compileChars cs := by
  have htokens : tokens (String.ofList cs) = charTokens cs := by
    rw [tokens, String.toList_ofList]
    rfl
  rw [compile, Block.ofSource, htokens]
  rfl

/-- Lines with their characters. -/
inductive Written : List String → List (List Char) → Prop where
  /-- No lines. -/
  | nil : Written [] []
  /-- A line before others. -/
  | cons (cs : List Char) {lines : List String} {css : List (List Char)} (h : Written lines css) :
    Written (String.ofList cs :: lines) (cs :: css)

variable {lines : List String} {css : List (List Char)}

theorem joinStrings_of_written (h : Written lines css) :
    joinStrings "\n" lines = String.ofList (['\n'].intercalate css) := by
  have hcss : lines.map String.toList = css := by
    induction h with
    | nil => rfl
    | cons cs h ih => rw [List.map_cons, String.toList_ofList, ih]
  rw [joinStrings, ← hcss, ← String.ofList_toList (s := "\n".intercalate lines),
    String.toList_intercalate]
  rfl

/-! ## What is loaded -/

/-- The place of the built-in template with a name. -/
def builtinPlace (name : String) : DiskPlace :=
  (builtinRoot.join (Path.ofString (name ++ templateSuffix))).parts

/-- A file at a place is the built-in template of which this is the place. -/
def IsBuiltin (place : DiskPlace) : DiskEntry → Prop
  | .directory _ => True
  | .file bytes _ => ∃ e ∈ builtinTemplates,
      builtinPlace e.1 = place ∧ bytes = encodeUtf8 (joinStrings "\n" e.2).toList

/-- All entries of a disk have a property. -/
def HoldsOnly (p : DiskPlace → DiskEntry → Prop) (d : Disk) : Prop :=
  ∀ x ∈ d.entries, p x.1 x.2

variable {p : DiskPlace → DiskEntry → Prop} {d : Disk}

theorem HoldsOnly.put (h : HoldsOnly p d) {e : DiskEntry} {place : DiskPlace} (he : p place e) :
    HoldsOnly p (d.put place e) := by
  intro x hx
  rw [Disk.put] at hx
  split at hx
  · obtain ⟨y, hy, rfl⟩ := List.mem_map.mp hx
    split
    · exact he
    · exact h y hy
  · rcases List.mem_append.mp hx with hx | hx
    · exact h x hx
    · rw [List.mem_singleton.mp hx]
      exact he

theorem HoldsOnly.install (h : HoldsOnly p d) {e : DiskEntry} {path : Path}
    (hpath : path.isAbsolute = true) (he : p path.parts e)
    (hdirectory : ∀ place, p place .newDirectory) : HoldsOnly p (d.install path e) := by
  rw [Disk.install, hpath]
  apply HoldsOnly.put _ he
  apply List.foldlRecOn
  · exact h
  · intro made hmade dir _
    split
    · exact hmade
    · exact hmade.put (hdirectory dir)

theorem holdsOnly_builtinDisk : HoldsOnly IsBuiltin builtinDisk := by
  apply List.foldlRecOn
  · intro x hx
    cases hx
  · intro made hmade e he
    have hbytes : IsBuiltin (builtinPlace e.1)
        (.file (encodeUtf8 (joinStrings "\n" e.2).toList) 0) := ⟨e, he, rfl, rfl⟩
    refine hmade.install ?_ hbytes fun _ ↦ trivial
    rw [Path.join]
    split
    next habsolute => exact habsolute
    next => rfl

theorem HoldsOnly.lookup (h : HoldsOnly p d) (hroot : p [] .newDirectory) {place : DiskPlace}
    {e : DiskEntry} (he : d.lookup place = some e) : p place e := by
  rw [Disk.lookup] at he
  split at he
  next hplace =>
    cases he
    rw [hplace]
    exact hroot
  next =>
    obtain ⟨x, hx, rfl⟩ := Option.map_eq_some_iff.mp he
    have hplace := List.find?_some hx
    rw [← eq_of_beq hplace]
    exact h x (List.mem_of_find?_eq_some hx)

/-- The library of the built-in templates. -/
def builtinLibrary : TemplateLibrary :=
  .files [.builtin]

/-- A file that the library of the built-in templates finds is one of them, at its place. -/
theorem exists_lines_of_findTemplate? {disk : Disk} {name : String} {file : TemplateFile}
    (h : findTemplate? disk [.builtin] name = .ok (some file)) : ∃ e ∈ builtinTemplates,
      file.key = .builtin (builtinPlace e.1) ∧
      file.bytes = encodeUtf8 (joinStrings "\n" e.2).toList := by
  obtain ⟨dir, hdir, hfile⟩ := exists_directory_of_findTemplate? h
  obtain rfl := List.mem_singleton.mp hdir
  obtain ⟨place, hkey, hlookup⟩ := SearchDirectory.exists_place_of_file? hfile
  dsimp only [SearchDirectory.locate] at hlookup
  have hbuiltin : IsBuiltin place (.file file.bytes file.modified) :=
    holdsOnly_builtinDisk.lookup trivial hlookup
  obtain ⟨e, he, rfl, hbytes⟩ := hbuiltin
  exact ⟨e, he, hkey, hbytes⟩

/-- **What the library of the built-in templates loads is one of them.** -/
theorem exists_lines_of_load {disk : Disk} {name source : String}
    (h : builtinLibrary.load disk name = .ok source) : ∃ e ∈ builtinTemplates,
      TemplateLibrary.decodeSource (encodeUtf8 (joinStrings "\n" e.2).toList) = .ok source := by
  obtain ⟨found, hfound, hsource⟩ := bind_eq_ok.mp h
  cases found with
  | none => cases hsource
  | some file =>
    obtain ⟨e, he, -, hbytes⟩ := exists_lines_of_findTemplate? hfound
    exact ⟨e, he, hbytes ▸ hsource⟩

theorem nodup_builtinPlaces : (builtinTemplates.map fun e ↦ builtinPlace e.1).Nodup := by
  decide +kernel

theorem key_of_mem_builtinTemplates (disk : Disk) {e : String × List String}
    (he : e ∈ builtinTemplates) :
    builtinLibrary.key disk e.1 = .ok (.builtin (builtinPlace e.1)) := by
  have hkeys : ∀ e ∈ builtinTemplates, (builtinLibrary.key (.empty []) e.1).toOption =
      some (.builtin (builtinPlace e.1)) := by
    decide +kernel
  -- the disk is not looked at
  change builtinLibrary.key (.empty []) e.1 = _
  exact toOption_eq_some.mp (hkeys e he)

/-- The library of the built-in templates loads each of them under its name. -/
theorem load_of_mem_builtinTemplates (disk : Disk) {e : String × List String}
    (he : e ∈ builtinTemplates) : builtinLibrary.load disk e.1 =
      TemplateLibrary.decodeSource (encodeUtf8 (joinStrings "\n" e.2).toList) := by
  obtain ⟨found, hfound, hkey⟩ := bind_eq_ok.mp (key_of_mem_builtinTemplates disk he)
  cases found with
  | none => cases hkey
  | some file =>
    obtain ⟨e', he', hkey', hbytes⟩ := exists_lines_of_findTemplate? hfound
    have hplace : builtinPlace e'.1 = builtinPlace e.1 :=
      TemplateKey.builtin.inj (hkey'.symm.trans (Except.ok.inj hkey))
    obtain rfl : e' = e := List.inj_on_of_nodup_map nodup_builtinPlaces he' he hplace
    rw [← hbytes]
    change findTemplate? disk [.builtin] e'.1 >>= _ = _
    rw [hfound]
    rfl

end Template

end DiagramForge
