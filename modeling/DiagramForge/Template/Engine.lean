import DiagramForge.Diagram.View
import DiagramForge.Template.Cache
import DiagramForge.Template.Compile
import DiagramForge.Template.Library
import DiagramForge.Template.Render

/-!
# Rendering templates of a library

A template is compiled when it is first asked for and kept in a cache. `getTemplate` is made of
the steps `TemplateLibrary.key`, `TemplateStore.lookUp`, `TemplateLibrary.load`, `compileNamed`,
`TemplateLibrary.modified?` and `TemplateStore.keep`; between any two of them the files of a
library may change.

Helpers and fragments belong to the diagram that is rendered and not to the compiled template, so a
template that is kept for one diagram serves any other. A fragment is kept under its text, so two
fragments of one name never stand in for each other.

The store is asked before the library. So a name that no template has, but that is spelled like the
key of something that is kept, is answered from the store.
-/

namespace DiagramForge.Template

/-! ## The store of compiled templates -/

/-- Compiled templates, and a clock. -/
structure TemplateStore where
  /-- The compiled templates. -/
  cache : Cache TemplateKey Block := {}
  /-- What the clock shows at each reading. -/
  clock : Nat → Int := fun n ↦ n
  /-- How many times the clock has been read. -/
  readings : Nat := 0

namespace TemplateStore

/-- When the source of a key was last replaced, if it is a file that exists. -/
def modifiedAt? (disk : Disk) : TemplateKey → Option Int
  | .file place =>
    match disk.lookup place with
    | some (.file _ modified) => some modified
    | _ => none
  | .builtin place =>
    match builtinDisk.lookup place with
    | some (.file _ modified) => some modified
    | _ => none
  | _ => none

/-- The key that is looked up: for a name that no template has, the first key among those that are
kept that is spelled like it. -/
def denoted (s : TemplateStore) : TemplateKey → TemplateKey
  | .unresolved name =>
    ((s.cache.entries.map (·.1)).find? fun key ↦ key.spelling == name).getD (.unresolved name)
  | key => key

/-- Looks up a compiled template. -/
def lookUp (disk : Disk) (key : TemplateKey) (s : TemplateStore) : Option Block × TemplateStore :=
  let key := s.denoted key
  let (found, cache) :=
    s.cache.get key (s.clock s.readings) (modifiedAt? disk key) (s.clock (s.readings + 1))
  (found, { s with cache, readings := s.readings + 2 })

/-- Keeps a compiled template; `source` is the time of its text, if it is known. -/
def keep (disk : Disk) (key : TemplateKey) (b : Block) (source : Option Int) (s : TemplateStore) :
    TemplateStore :=
  { s with
    cache := s.cache.set key b (s.clock s.readings) (source.orElse fun _ ↦ modifiedAt? disk key)
    readings := s.readings + 1 }

/-- Forgets all compiled templates. -/
def clear (s : TemplateStore) : TemplateStore :=
  { s with cache := s.cache.clear }

end TemplateStore

/-- What can fail and works with the store of compiled templates. A failure does not undo what
happened to the store before. -/
abbrev Rendering := ExceptT Failure (StateM TemplateStore)

/-! ## Compiled templates -/

/-- Compiles a text; `name` is what a syntax error is reported about. -/
def compileNamed (name source : String) : Except RenderFault Block :=
  match compile source with
  | .ok b => .ok b
  | .error (.syntaxError line) =>
    .error <| .diagnostic
      { kind := .templateRender
        message := "Syntax error at line " ++ toString line
        place := { phase := some "rendering", template := some name, line := some line } }
  | .error (.constant fault) => .error fault

/-- The failure that a fault is outside of rendering. -/
def RenderFault.early : RenderFault → Failure
  | .undefined reason => .crash ⟨"UndefinedError", reason⟩
  | .crash c => .crash c
  | .diagnostic d => .diagnostic d

/-- The compiled template with a name. -/
def getTemplate (library : TemplateLibrary) (disk : Disk) (name : String) : Rendering Block := do
  let key ← ExceptT.mk (pure (library.key disk name))
  match ← modifyGet (TemplateStore.lookUp disk key) with
  | some b => return b
  | none =>
    let source ← ExceptT.mk (pure (library.load disk name))
    let b ← ExceptT.mk (pure ((compileNamed name source).mapError RenderFault.early))
    let modified ← ExceptT.mk (pure (library.modified? disk name))
    modify (TemplateStore.keep disk key b modified)
    return b

/-- The compiled fragment with a name and a text. -/
def getFragment (disk : Disk) (name source : String) :
    ExceptT RenderFault (StateM TemplateStore) Block := do
  let key := TemplateKey.fragment name source
  match ← modifyGet (TemplateStore.lookUp disk key) with
  | some b => return b
  | none =>
    let b ← ExceptT.mk (pure (compileNamed ("partial:" ++ name) source))
    modify (TemplateStore.keep disk key b (some 0))
    return b

/-! ## Rendering -/

/-- How deep fragments may lie in each other. -/
def fragmentDepth : Nat := 200

/-- The fault of fragments that lie in each other too deep. -/
def tooDeep : RenderFault :=
  .crash ⟨"RecursionError", "maximum recursion depth exceeded"⟩

/-- What the function that renders a fragment can be called with: the name of the fragment, and
variables for it. -/
def fragmentSignature : Signature :=
  { label := "TemplateEngine.render.<locals>.partial", parameters := [⟨"partial_name", none⟩]
    isOpen := true }

/-- The name of the fragment that a call asks for, the text of the fragment if there is one of that
name, and the variables for it. -/
def fragmentAsked (partials : List (String × String)) (args : List Value) (named : NamedValues) :
    Evaluation (String × Option String × NamedValues) := do
  let (vs, vars) ← fragmentSignature.bind args named
  let name := vs.headD .none
  name.checkKey
  return (← name.shown takeItem, name.text?.bind (Entries.get? partials), vars)

/-- What the templates of a diagram can call, `scope` being the names bound in them. -/
def hostOf (disk : Disk) (d : Diagram) (scope : Scope) : (depth : Nat) → Host TemplateStore
  | 0 => ⟨d.helpers, fun _ _ ↦ lift (.error tooDeep)⟩
  | depth + 1 =>
    ⟨d.helpers, fun args named ↦ do
      let (name, source, vars) ← evaluate (fragmentAsked d.partials args named)
      match source with
      | none => lift (.error (.crash (Crash.missingKey ("Unknown partial '" ++ name ++ "'"))))
      | some source =>
        let b ← keep (getFragment disk name source)
        return .text (← b.text (hostOf disk d scope depth) (vars ++ scope))⟩

/-- The names bound in every template of a diagram: its fragments, further variables, the
variables of the diagram and its helpers, an earlier one hiding a later one. -/
def bindings (d : Diagram) (vars : List (String × Value)) : Scope :=
  ("partial", .fragment) :: vars ++ d.vars
    ++ d.helpers.map fun e ↦ (e.1, .helper e.1)

/-- The failure that a fault is reported as; `name` is the template that was asked for. -/
def RenderFault.failure (name : String) : RenderFault → Failure
  | .diagnostic d => .diagnostic d
  | fault =>
    let reason := match fault with
      | .undefined reason => reason
      | .crash c => c.text
      | .diagnostic d => d.text
    .diagnostic
      { kind := .templateRender
        message := "Render failed: " ++ reason
        place := { phase := some "rendering", template := some name } }

/-- Renders the template with a name. -/
def renderTemplate (library : TemplateLibrary) (disk : Disk) (d : Diagram) (name : String)
    (vars : List (String × Value)) : Rendering String := do
  let b ← getTemplate library disk name
  let scope := bindings d vars
  (b.text (hostOf disk d scope fragmentDepth) scope).alone.adapt (RenderFault.failure name)

/-- Renders the template with a name from a store whose limit may be below zero. Such a store keeps
nothing, and rendering ends where it is first given something to keep. -/
def renderWithin (library : TemplateLibrary) (disk : Disk) (d : Diagram) (name : String)
    (vars : List (String × Value)) : Rendering String := do
  let s ← get
  if s.cache.capacity.any (· < 0) then
    let _ ← getTemplate library disk name
    throw (.crash Cache.noEntry)
  else renderTemplate library disk d name vars

end DiagramForge.Template
