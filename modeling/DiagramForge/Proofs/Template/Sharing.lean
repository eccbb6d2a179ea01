import DiagramForge.Proofs.Template.Store

/-!
# One store for many diagrams

A store of compiled templates may serve any number of libraries and diagrams, with helpers and
fragments of their own. What it keeps of one request never shows in the answer to another:
`answers_shared` says that every answer is the one from a fresh store, whatever the limits of the
store are. There is one exception. A name that no template has is `Mistaken` for a key that is
spelled like it, and answered with what is kept under that key: `partial_mistaken`.

## The argument

Requests agree on the texts of their keys (`Sharing`): they see the same files, and a text of a
library in memory has its place there in its key. So there is one relation between keys and texts
for all of them, `ReadAmong`, and every store that they leave is sound for it. Whether a store has
room for anything is part of the invariant as well (`Within`): a limit below zero fails every
request that needs a template, but only if nothing is kept from the start.
-/

namespace DiagramForge

open Template Outcome

/-! ## Properties that a computation keeps -/

section Keeps

variable {σ ε α : Type} {P : σ → Prop}

/-- One state with a property. -/
def Single (P : σ → Prop) (s t : σ) : Prop :=
  s = t ∧ P s

theorem Oblivious.modifyGet {f : σ → α × σ} (hf : ∀ s, P s → P (f s).2) :
    Oblivious (Single P) (modifyGet f : ExceptT ε (StateM σ) α) := by
  rintro s _ ⟨rfl, h⟩
  exact ⟨rfl, rfl, hf s h⟩

/-- What is oblivious of a single state keeps its property. -/
theorem Oblivious.keeps {m : ExceptT ε (StateM σ) α} (hm : Oblivious (Single P) m) {s : σ}
    (hs : P s) : P (m.run s).2 := by
  obtain ⟨-, heq, h⟩ := hm s s ⟨rfl, hs⟩
  exact h

end Keeps

namespace Template

/-! ## Room in a store -/

namespace Cache

variable {κ ν : Type} [DecidableEq κ] {c : Cache κ ν} {key : κ}

/-- Nothing is found in an empty cache. -/
theorem get_of_entries_eq_nil (h : c.entries = []) (checked : Int) (modified : Option Int)
    (touched : Int) :
    c.get key checked modified touched = (none, { c with misses := c.misses + 1 }) := by
  have hfind : c.find? key = none := by rw [find?, h]; rfl
  rw [get, hfind]

/-- A cache without room stays empty. -/
theorem entries_set_of_starved (h : c.entries = []) (hcapacity : c.capacity.any (· < 0) = true)
    (v : ν) (now : Int) (source : Option Int) : (c.set key v now source).entries = [] := by
  rw [entries_set, h]
  cases hc : c.capacity with
  | none => rw [hc] at hcapacity; cases hcapacity
  | some capacity =>
    have hroom : capacity.toNat = 0 := by
      rw [hc, Option.any_some, decide_eq_true_eq] at hcapacity
      exact Int.toNat_of_nonpos (Int.le_of_lt hcapacity)
    simp [hroom, place, remove, shrink, oldest?]

end Cache

namespace TemplateStore

/-- A store with a limit. One whose limit is below zero holds nothing. -/
structure Within (capacity : Option Int) (s : TemplateStore) : Prop where
  /-- The limit. -/
  capacity_eq : s.cache.capacity = capacity
  /-- There is nothing in a store without room. -/
  entries_eq_nil : capacity.any (· < 0) = true → s.cache.entries = []

variable {capacity : Option Int} {s : TemplateStore}

theorem within_of_entries_eq_nil (h : s.cache.entries = []) : s.Within s.cache.capacity :=
  ⟨rfl, fun _ ↦ h⟩

theorem Within.lookUp (h : s.Within capacity) (disk : Disk) (key : TemplateKey) :
    (s.lookUp disk key).2.Within capacity where
  capacity_eq := (Cache.capacity_get _ _ _ _ _).trans h.capacity_eq
  entries_eq_nil hstarved := by
    rw [TemplateStore.lookUp, Cache.get_of_entries_eq_nil (h.entries_eq_nil hstarved)]
    exact h.entries_eq_nil hstarved

theorem Within.keep (h : s.Within capacity) (disk : Disk) (key : TemplateKey) (b : Block)
    (source : Option Int) : (s.keep disk key b source).Within capacity where
  capacity_eq := h.capacity_eq
  entries_eq_nil hstarved := Cache.entries_set_of_starved (h.entries_eq_nil hstarved)
    (by rw [h.capacity_eq]; exact hstarved) _ _ _

end TemplateStore

section Within

variable (capacity : Option Int) (library : TemplateLibrary) (disk : Disk)

theorem getTemplate_within (name : String) :
    Oblivious (Single (TemplateStore.Within capacity)) (getTemplate library disk name) := by
  refine (Oblivious.ofExcept _).bind fun key ↦
    (Oblivious.modifyGet fun s hs ↦ hs.lookUp disk key).bind fun found ↦ ?_
  cases found with
  | some b => exact Oblivious.pure b
  | none =>
    refine (Oblivious.ofExcept _).bind fun source ↦ (Oblivious.ofExcept _).bind fun b ↦
      (Oblivious.ofExcept _).bind fun modified ↦ ?_
    exact (Oblivious.modifyGet fun s hs ↦ hs.keep disk key b modified).bind fun _ ↦
      Oblivious.pure b

theorem getFragment_within (name source : String) :
    Oblivious (Single (TemplateStore.Within capacity)) (getFragment disk name source) := by
  refine (Oblivious.modifyGet fun s hs ↦ hs.lookUp disk _).bind fun found ↦ ?_
  cases found with
  | some b => exact Oblivious.pure b
  | none =>
    refine (Oblivious.ofExcept _).bind fun b ↦ ?_
    exact (Oblivious.modifyGet fun s hs ↦ hs.keep disk _ b (some 0)).bind fun _ ↦
      Oblivious.pure b

theorem Block.text_within (b : Block) (d : Diagram) (scope : Scope) :
    Oblivious (Single (TemplateStore.Within capacity))
      (b.text (hostOf disk d scope fragmentDepth) scope).alone :=
  oblivious_alone (b.text_oblivious (hostOf_oblivious (getFragment_within capacity disk) d _ _) _)

end Within

/-! ## Requests -/

/-- A call that renders a template. -/
structure Request where
  /-- Where the template comes from. -/
  library : TemplateLibrary
  /-- The files. -/
  disk : Disk
  /-- What is rendered, with the helpers and the fragments for it. -/
  diagram : Diagram
  /-- The name of the template. -/
  name : String
  /-- Further variables. -/
  vars : List (String × Value)

namespace Request

variable (q : Request)

/-- The answer to a request. -/
def answer : Rendering String :=
  renderWithin q.library q.disk q.diagram q.name q.vars

/-- What a request comes to with a compiled template. -/
def answerWith (b : Block) : Except Failure String :=
  (b.textFor q.disk q.diagram q.vars).mapError (RenderFault.failure q.name)

/-- What a request comes to by itself: if there is no room for its template, it fails where the
template would be kept. -/
def answerAlone (capacity : Option Int) : Except Failure String :=
  compileTemplate q.library q.disk q.name >>= fun b ↦
    if capacity.any (· < 0) then .error (.crash Cache.noEntry) else q.answerWith b

end Request

/-- The answers to requests that are made one after another from one store. -/
def answers : List Request → TemplateStore → List (Except Failure String)
  | [], _ => []
  | q :: qs, s => (q.answer.run s).1 :: answers qs (q.answer.run s).2

/-- Requests whose templates do not change from one to another. -/
structure Sharing (qs : List Request) : Prop where
  /-- What is in a file is the same for all of them. -/
  files : ∀ q ∈ qs, ∀ q' ∈ qs, ∀ {place bytes time},
    q.disk.lookup place = some (.file bytes time) →
      ∃ time', q'.disk.lookup place = some (.file bytes time')
  /-- What tells libraries in memory apart differs for different ones; and of one library, a text
  that is given in turn stays. -/
  texts : ∀ q ∈ qs, ∀ q' ∈ qs, ∀ {m m' name}, q.library = .memory m → q'.library = .memory m' →
    m.id = m'.id → m.revision name = m'.revision name →
      Entries.get? m.sources name = Entries.get? m'.sources name

/-- The text that a key stands for in one of several requests. -/
def ReadAmong (qs : List Request) : TemplateKey → String → Prop
  | .memory id name revision, text => ∃ q ∈ qs, ∃ m, q.library = .memory m ∧ m.id = id ∧
    m.revision name = revision ∧ Entries.get? m.sources name = some text
  | key, text => ∃ q ∈ qs, q.library.Reads q.disk key text

variable {qs : List Request} {q : Request}

/-- A request has the texts that are read in any of them. -/
theorem Sharing.reads_iff (h : Sharing qs) (hq : q ∈ qs) {name : String} {key : TemplateKey}
    (hkey : q.library.key q.disk name = .ok key) (text : String) :
    q.library.Reads q.disk key text ↔ ReadAmong qs key text := by
  cases hlibrary : q.library with
  | memory m =>
    rw [hlibrary] at hkey
    cases hkey
    refine ⟨fun hread ↦ ⟨q, hq, m, hlibrary, rfl, rfl, hread⟩, ?_⟩
    rintro ⟨q', hq', m', hlibrary', hid, hrevision, hread⟩
    exact (h.texts q hq q' hq' hlibrary hlibrary' hid.symm hrevision.symm).trans hread
  | files dirs =>
    rw [hlibrary] at hkey
    obtain ⟨found, hfound, hkey⟩ := bind_eq_ok.mp hkey
    cases found with
    | none =>
      cases hkey
      exact ⟨fun hread ↦ hread.elim, fun ⟨_, _, hread⟩ ↦ hread.elim⟩
    | some file =>
      cases hkey
      obtain ⟨dir, -, hfile⟩ := exists_directory_of_findTemplate? hfound
      obtain ⟨place, hplace, -⟩ := SearchDirectory.exists_place_of_file? hfile
      rw [hplace]
      cases dir with
      | builtin => exact ⟨fun hread ↦ ⟨q, hq, hread⟩, fun ⟨_, _, hread⟩ ↦ hread⟩
      | project directory =>
        refine ⟨fun hread ↦ ⟨q, hq, hread⟩, ?_⟩
        rintro ⟨q', hq', bytes, time, hlookup, hdecode⟩
        obtain ⟨time', hlookup'⟩ := h.files q' hq' q hq hlookup
        exact ⟨bytes, time', hlookup', hdecode⟩

theorem Sharing.keyedBy (h : Sharing qs) (hq : q ∈ qs) :
    q.library.KeyedBy q.disk (ReadAmong qs) where
  load_eq_ok := by
    intro name text
    rw [(q.library.keyedBy_reads q.disk).load_eq_ok]
    exact exists_congr fun key ↦ and_congr_right fun hkey ↦ h.reads_iff hq hkey text
  fragment := ⟨fun ⟨_, _, hread⟩ ↦ hread, fun hread ↦ ⟨q, hq, hread⟩⟩

/-! ## Answers from one store -/

variable {library : TemplateLibrary} {disk : Disk} {name : String} {s : TemplateStore}
  {reads : TemplateKey → String → Prop} {capacity : Option Int}

/-- From an empty store, a template is made anew. -/
theorem getTemplate_of_entries_eq_nil (h : s.cache.entries = []) :
    ((getTemplate library disk name).run s).1 = compileTemplate library disk name := by
  cases hkey : library.key disk name with
  | error failure => rw [getTemplate_of_key_eq_error hkey]
  | ok key =>
    rw [getTemplate_eq hkey, TemplateStore.lookUp, Cache.get_of_entries_eq_nil h]
    cases hcompile : compileTemplate library disk name with
    | error failure => rfl
    | ok b =>
      obtain ⟨source, hload, -⟩ := compileTemplate_eq_ok.mp hcompile
      obtain ⟨modified, hmodified⟩ := TemplateLibrary.exists_modified_of_load hload
      rw [hmodified]

/-- A store answers a request with the template that it gets. -/
theorem Request.answer_sound (hlibrary : q.library.KeyedBy q.disk reads) (hs : s.Sound reads)
    (hwithin : s.Within capacity) :
    (q.answer.run s).1 = (((getTemplate q.library q.disk q.name).run s).1 >>= fun b ↦
      if capacity.any (· < 0) then .error (.crash Cache.noEntry) else q.answerWith b) ∧
    (q.answer.run s).2.Sound reads ∧ (q.answer.run s).2.Within capacity := by
  have hget := (getTemplate_sound hlibrary q.name hs).2
  have hgetWithin := (getTemplate_within capacity q.library q.disk q.name).keeps hwithin
  have hanswer : q.answer.run s = (if capacity.any (· < 0) = true then do
      let _ ← getTemplate q.library q.disk q.name
      throw (.crash Cache.noEntry)
    else renderTemplate q.library q.disk q.diagram q.name q.vars : Rendering String).run s := by
    rw [← hwithin.capacity_eq]
    rfl
  rw [hanswer]
  by_cases hstarved : capacity.any (· < 0) = true
  · rw [if_pos hstarved, run_bind]
    generalize (getTemplate q.library q.disk q.name).run s = p at hget hgetWithin ⊢
    obtain ⟨r | b, s'⟩ := p
    · exact ⟨rfl, hget, hgetWithin⟩
    · simp only [hstarved, if_true]
      exact ⟨rfl, hget, hgetWithin⟩
  · rw [if_neg hstarved, renderTemplate, run_bind]
    generalize (getTemplate q.library q.disk q.name).run s = p at hget hgetWithin ⊢
    obtain ⟨r | b, s'⟩ := p
    · exact ⟨rfl, hget, hgetWithin⟩
    · obtain ⟨htext, hsound⟩ := (b.comesTo_textFor hlibrary q.diagram q.vars) s' hget
      have htextWithin := (b.text_within capacity q.disk q.diagram
        (bindings q.diagram q.vars)).keeps hgetWithin
      refine ⟨?_, hsound, htextWithin⟩
      simp only [hstarved]
      exact congrArg (Except.mapError (RenderFault.failure q.name)) htext

theorem TemplateStore.sound_of_entries_eq_nil (h : s.cache.entries = []) : s.Sound reads :=
  fun _ he ↦ absurd (h ▸ he) List.not_mem_nil

/-- A fresh store answers a request as if there were none. -/
theorem Request.answer_fresh (h : s.cache.entries = []) :
    (q.answer.run s).1 = q.answerAlone s.cache.capacity := by
  obtain ⟨hanswer, -⟩ := answer_sound (q.library.keyedBy_reads q.disk)
    (TemplateStore.sound_of_entries_eq_nil h) (TemplateStore.within_of_entries_eq_nil h)
  rw [hanswer, getTemplate_of_entries_eq_nil h]
  rfl

/-- A request is answered as by itself, or mistaken, and leaves the store sound. -/
theorem Sharing.answer_eq (h : Sharing qs) (hq : q ∈ qs) (hs : s.Sound (ReadAmong qs))
    (hwithin : s.Within capacity) :
    ((q.answer.run s).1 = q.answerAlone capacity ∨
      ∃ b, Mistaken q.library q.disk (ReadAmong qs) q.name b ∧
        (q.answer.run s).1 = q.answerWith b) ∧
    (q.answer.run s).2.Sound (ReadAmong qs) ∧ (q.answer.run s).2.Within capacity := by
  obtain ⟨hanswer, hsound⟩ := Request.answer_sound (h.keyedBy hq) hs hwithin
  refine ⟨?_, hsound⟩
  rw [hanswer]
  by_cases hstarved : capacity.any (· < 0) = true
  · rw [getTemplate_of_entries_eq_nil (hwithin.entries_eq_nil hstarved)]
    exact .inl rfl
  · rcases (getTemplate_sound (h.keyedBy hq) q.name hs).1 with hget | ⟨b, hget, hmistaken⟩
    · rw [hget]
      exact .inl rfl
    · rw [hget]
      exact .inr ⟨b, hmistaken, if_neg hstarved⟩

theorem Sharing.answers_eq (h : Sharing qs) {rs : List Request} (hrs : rs ⊆ qs)
    (hs : s.Sound (ReadAmong qs)) (hwithin : s.Within capacity) :
    List.Forall₂ (fun q r ↦ r = q.answerAlone capacity ∨
      ∃ b, Mistaken q.library q.disk (ReadAmong qs) q.name b ∧ r = q.answerWith b)
      rs (answers rs s) := by
  induction rs generalizing s with
  | nil => exact .nil
  | cons q rs ih =>
    obtain ⟨hq, hrs⟩ := List.cons_subset.mp hrs
    obtain ⟨hanswer, hsound, hwithin⟩ := h.answer_eq hq hs hwithin
    exact .cons hanswer (ih hrs hsound hwithin)

/-! ## Names that look like keys -/

/-- What the spellings of keys begin with. -/
def keyStarts : List String := ["/", "memory://", "partial://"]

/-- Whether a name begins like a key of something that is kept. -/
def LooksLikeKey (name : String) : Prop :=
  ∃ start ∈ keyStarts, start.toList <+: name.toList

instance (name : String) : Decidable (LooksLikeKey name) :=
  inferInstanceAs (Decidable (∃ start ∈ keyStarts, start.toList <+: name.toList))

theorem toList_prefix_append (start s : String) : start.toList <+: (start ++ s).toList := by
  rw [String.toList_append]
  exact List.prefix_append _ _

theorem ReadAmong.looksLikeKey {key : TemplateKey} {text : String} (h : ReadAmong qs key text) :
    LooksLikeKey key.spelling := by
  cases key with
  | file place | builtin place => exact ⟨"/", by decide, toList_prefix_append _ _⟩
  | memory id name revision =>
    refine ⟨"memory://", by decide, ?_⟩
    simp only [TemplateKey.spelling, String.append_assoc]
    exact toList_prefix_append _ _
  | fragment name source =>
    refine ⟨"partial://", by decide, ?_⟩
    simp only [TemplateKey.spelling, String.append_assoc]
    exact toList_prefix_append _ _
  | unresolved name =>
    obtain ⟨_, _, hread⟩ := h
    exact hread.elim

/-- Only a name that looks like a key is mistaken for one. -/
theorem Mistaken.looksLikeKey {b : Block} (h : Mistaken library disk (ReadAmong qs) name b) :
    LooksLikeKey name := by
  obtain ⟨key, text, hspelling, hread, -⟩ := h.spelled
  exact hspelling ▸ hread.looksLikeKey

/-- **Requests that share a store do not meet.** Whatever was answered before, with whatever helpers
and fragments, and whatever the limits of the store are: an answer is the one that a fresh store
with the same limit gives, unless the name of the request has no template and is spelled like the
key of something that is kept. If no name looks like a key, all answers are those of fresh
stores. -/
theorem answers_shared {store : TemplateStore} (hsharing : Sharing qs)
    (hempty : store.cache.entries = []) :
    List.Forall₂ (fun q r ↦
      (∀ fresh : TemplateStore, fresh.cache.entries = [] →
        fresh.cache.capacity = store.cache.capacity → r = (q.answer.run fresh).1) ∨
      ∃ b, Mistaken q.library q.disk (ReadAmong qs) q.name b ∧ r = q.answerWith b)
      qs (answers qs store) ∧
    ((∀ q ∈ qs, ¬LooksLikeKey q.name) →
      answers qs store = qs.map fun q ↦ (q.answer.run store).1) := by
  have hanswers := hsharing.answers_eq (List.Subset.refl qs)
    (TemplateStore.sound_of_entries_eq_nil hempty)
    (TemplateStore.within_of_entries_eq_nil hempty)
  constructor
  · refine hanswers.imp fun q r hr ↦ hr.imp_left fun hr fresh hfresh hcapacity ↦ ?_
    rw [hr, Request.answer_fresh hfresh, hcapacity]
  · intro hnames
    have hsame : List.Forall₂ (· = ·) (qs.map fun q ↦ (q.answer.run store).1)
        (answers qs store) := by
      rw [List.forall₂_map_left_iff]
      refine ((List.forall₂_and_left _ _).mpr ⟨hnames, hanswers⟩).imp fun q r ⟨hname, hr⟩ ↦ ?_
      rcases hr with hr | ⟨b, hmistaken, -⟩
      · rw [hr, Request.answer_fresh hempty]
      · exact absurd hmistaken.looksLikeKey hname
    rw [List.forall₂_eq_eq_eq] at hsame
    exact hsame.symm

/-! ### Fragments of one name -/

/-- A template that includes a fragment. -/
def including : String := "\x7b\x7b partial('p') \x7d\x7d"

/-- A request for a template in memory that includes a fragment with a text. -/
def requestFor (id : Nat) (text : String) : Request :=
  { library := .memory { MemoryLibrary.ofList [("t", including)] with id }
    disk := .empty []
    diagram := { (default : Diagram) with partials := [("p", text)] }
    name := "t"
    vars := [] }

/-- Requests with different fragments of one name. -/
def fragmentRequests : List Request :=
  [requestFor 0 "one", requestFor 1 "two", requestFor 0 "two"]

theorem sharing_fragmentRequests : Sharing fragmentRequests where
  files q hq q' hq' := by
    have hdisk : ∀ q ∈ fragmentRequests, q.disk = .empty [] := by
      simp [fragmentRequests, requestFor]
    rw [hdisk q hq, hdisk q' hq']
    exact fun {_ _ time} h ↦ ⟨time, h⟩
  texts q hq q' hq' := by
    have hsources : ∀ q ∈ fragmentRequests, ∀ m, q.library = .memory m →
        m.sources = Entries.ofList [("t", including)] := by
      simp [fragmentRequests, requestFor, MemoryLibrary.ofList]
    intro m m' name hm hm' _ _
    rw [hsources q hq m hm, hsources q' hq' m' hm']

/-- A store with room for one template. -/
def smallStore : TemplateStore := { cache := { capacity := some 1, lifetime := some 3 } }

/-- Each request is answered with its own fragment. -/
theorem answers_shared_fragments :
    answers fragmentRequests smallStore =
        fragmentRequests.map (fun q ↦ (q.answer.run smallStore).1) ∧
      answers fragmentRequests smallStore = [.ok "one", .ok "two", .ok "two"] := by
  obtain ⟨-, hsame⟩ := @answers_shared fragmentRequests smallStore sharing_fragmentRequests rfl
  have hanswers := hsame (by decide)
  exact ⟨hanswers, hanswers.trans (by decide +kernel)⟩

/-! ### A name that is spelled like a key -/

/-- A file with a template that includes a fragment. -/
def includingDisk : Disk :=
  (Disk.empty []).install ⟨"", ["templates", "t.j2"]⟩ (.file including.toUTF8.toList 0)

/-- A request for a name among these files. -/
def fileRequest (name : String) : Request :=
  { library := .files [.project ⟨"", ["templates"]⟩]
    disk := includingDisk
    diagram := { (default : Diagram) with partials := [("p", "hello")] }
    name
    vars := [] }

/-- The name under which the fragment is kept. -/
def fragmentName : String := "partial://p/2cf24dba5fb0a30e"

/-- There is no template with the name of the fragment, and a fresh store says so. After a request
for the template that includes the fragment, the fragment itself is the answer. -/
theorem partial_mistaken :
    Sharing [fileRequest "t", fileRequest fragmentName] ∧
    ((fileRequest fragmentName).answer.run {}).1 =
      .error (.diagnostic (templateNotFound fragmentName)) ∧
    answers [fileRequest "t", fileRequest fragmentName] {} = [.ok "hello", .ok "hello"] := by
  refine ⟨⟨?_, ?_⟩, by decide +kernel, by decide +kernel⟩
  · intro q hq q' hq'
    have hdisk : ∀ q ∈ [fileRequest "t", fileRequest fragmentName], q.disk = includingDisk := by
      simp [fileRequest]
    rw [hdisk q hq, hdisk q' hq']
    exact fun {_ _ time} h ↦ ⟨time, h⟩
  · intro q hq _ _ m _ _ hm
    rcases List.mem_pair.mp hq with rfl | rfl <;> cases hm

end Template

end DiagramForge
