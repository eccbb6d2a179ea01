import DiagramForge.Proofs.Grammar.CommentedInterfaces
import DiagramForge.Proofs.Outcome

/-!
# Identifiers in declarations

Every name in a declaration is an identifier: those that the scanner reads as such, and the types of
properties, which it reads as what is left of a line and then checks.

`Declaration.Identified` says which names a declaration has. Each kind of declaration satisfies it
by the way it is read (`identified_of_mem_kinds`), and so do all declarations of a text
(`identified_of_declarations`).
-/

namespace DiagramForge

open Text

namespace Grammar

/-! ## Names -/

/-- A name is an identifier. -/
def IsName (name : String) : Prop :=
  isIdent name.toList = true

instance (name : String) : Decidable (IsName name) :=
  inferInstanceAs (Decidable (_ = _))

theorem isName_ofList {cs : List Char} (h : isIdent cs = true) : IsName (String.ofList cs) := by
  rwa [IsName, String.toList_ofList]

theorem isName_of_ident? {cs name rest : List Char} (h : ident? cs = some (name, rest)) :
    IsName (String.ofList name) :=
  isName_ofList (isIdent_of_ident? h)

/-- The name of a clause is an identifier. -/
theorem isName_of_clause? {word : String} {cs name rest : List Char}
    (h : clause? word cs = some (name, rest)) : IsName (String.ofList name) := by
  obtain ⟨_, -, hident⟩ := Option.bind_eq_some_iff.mp h
  exact isName_of_ident? hident

/-- A name that a clause may give is an identifier, if it does. -/
theorem isName_of_mem_optionalName {word : String} {cs : List Char}
    {r : Option (List Char) × List Char} (h : r ∈ optionalName (clause? word) cs) :
    ∀ name ∈ r.1.map String.ofList, IsName name := by
  rw [optionalName] at h
  split at h
  next name rest hclause =>
    rcases List.mem_cons.mp h with rfl | h
    · rintro _ ⟨⟩
      exact isName_of_clause? hclause
    · rw [List.mem_singleton.mp h]
      exact fun _ h ↦ absurd h (Option.not_mem_none _)
  next =>
    rw [List.mem_singleton.mp h]
    exact fun _ h ↦ absurd h (Option.not_mem_none _)

theorem isName_of_mem_moreNames (cs : List Char) : ∀ name ∈ (moreNames cs).1, IsName name := by
  fun_induction moreNames cs with
  | case1 cs name rest h names rest' heq ih =>
    obtain ⟨_, -, hident⟩ := Option.bind_eq_some_iff.mp h
    rw [heq] at ih
    exact List.forall_mem_cons.mpr ⟨isName_of_ident? hident, ih⟩
  | case2 => exact List.forall_mem_nil _

theorem isName_of_extends? {cs rest : List Char} {names : List String}
    (h : extends? cs = some (names, rest)) : ∀ name ∈ names, IsName name := by
  obtain ⟨mid, -, hnames⟩ := Option.bind_eq_some_iff.mp h
  obtain ⟨⟨name, more⟩, hident, heq⟩ := Option.map_eq_some_iff.mp hnames
  cases heq
  exact List.forall_mem_cons.mpr ⟨isName_of_ident? hident, isName_of_mem_moreNames more⟩

end Grammar

/-! ## What is declared -/

open Grammar

/-- The names that a property has are identifiers. -/
structure Property.Identified (p : Property) : Prop where
  /-- Its name. -/
  name : IsName p.name
  /-- The name of its type. -/
  type : IsName p.type

/-- The names that an interface has are identifiers. -/
structure Interface.Identified (i : Interface) : Prop where
  /-- Its name. -/
  name : IsName i.name
  /-- Those of its properties. -/
  properties : ∀ p ∈ i.properties, p.Identified
  /-- The names of the interfaces it extends. -/
  superTypes : ∀ name ∈ i.superTypes, IsName name

namespace Grammar

/-- The names that a rule has are identifiers. -/
structure Rule.Identified (r : Rule) : Prop where
  /-- Its name. -/
  name : IsName r.name
  /-- The name of the type it is declared to return. -/
  returns : ∀ type ∈ r.returns, IsName type

/-- The names that a declaration has are identifiers. -/
def Declaration.Identified : Declaration → Prop
  | .header name => IsName name
  | .terminal name returns => IsName name ∧ ∀ type ∈ returns, IsName type
  | .interface i => i.Identified
  | .alias t => IsName t.name
  | .rule r => r.Identified
  | .reference | .fragment => True

/-! ## Properties -/

/-- The type of a property is checked, unless it is a union of literals. -/
theorem identified_of_propertyOfType {interface name : String} {optional : Bool}
    {type : List Char} {p : Property} (hname : IsName name)
    (h : propertyOfType interface name optional type = .ok p) : p.Identified := by
  rw [propertyOfType_eq] at h
  dsimp only at h
  split at h
  · split at h
    · cases h
      have hstring : IsName "string" := by decide
      exact ⟨hname, hstring⟩
    · cases h
  · split at h
    next hident =>
      cases h
      exact ⟨hname, isName_ofList hident⟩
    next => cases h

theorem identified_of_property {interface : String} {line : List Char} {p : Property}
    (h : property interface line = .ok p) : p.Identified := by
  simp only [property] at h
  split at h
  · cases h
  next name optional type hparts =>
    obtain ⟨⟨ident, cs⟩, hident, hmore⟩ := Option.bind_eq_some_iff.mp hparts
    obtain ⟨rest, -, hrest⟩ := Option.bind_eq_some_iff.mp hmore
    split at hrest
    · cases hrest
    · cases hrest
      exact identified_of_propertyOfType (isName_of_ident? hident) h

theorem identified_of_properties {interface : String} {remaining : Nat}
    {lines : List (List Char)} {ps : List Property}
    (h : properties interface remaining lines = .ok ps) : ∀ p ∈ ps, p.Identified := by
  induction lines generalizing remaining ps with
  | nil =>
    cases h
    exact List.forall_mem_nil _
  | cons line lines ih =>
    simp only [properties] at h
    split at h
    · exact ih h
    split at h
    · cases h
    next p hp =>
      obtain ⟨more, hmore, rfl⟩ := exists_of_map_eq_ok h
      exact List.forall_mem_cons.mpr ⟨identified_of_property hp, ih hmore⟩

/-! ## Declarations -/

/-- A reading yields declarations whose names are identifiers only. -/
def Reading.Identified (r : Reading Declaration) : Prop :=
  ∀ d rest, r = some (.ok (d, rest)) → d.Identified

theorem identified_headerAt? (cs : List Char) : (headerAt? cs).Identified := by
  intro d rest h
  obtain ⟨⟨name, mid⟩, hmid, heq⟩ := Option.map_eq_some_iff.mp h
  obtain ⟨_, -, hident⟩ := Option.bind_eq_some_iff.mp hmid
  cases heq
  exact isName_of_ident? hident

theorem identified_referenceAt? (cs : List Char) : (referenceAt? cs).Identified := by
  intro d rest h
  obtain ⟨_, -, heq⟩ := Option.map_eq_some_iff.mp h
  cases heq
  trivial

theorem identified_terminalAt? (cs : List Char) : (terminalAt? cs).Identified := by
  intro d rest h
  obtain ⟨⟨name, returns, mid⟩, hhead, heq⟩ := Option.map_eq_some_iff.mp h
  obtain ⟨_, -, hd⟩ := exists_of_map_eq_ok heq
  cases hd
  obtain ⟨_, -, hhead⟩ := Option.bind_eq_some_iff.mp hhead
  obtain ⟨_, -, hhead⟩ := List.exists_of_findSome?_eq_some hhead
  obtain ⟨_, hident, hhead⟩ := Option.bind_eq_some_iff.mp hhead
  obtain ⟨_, hreturns, hhead⟩ := List.exists_of_findSome?_eq_some hhead
  obtain ⟨_, -, heq⟩ := Option.map_eq_some_iff.mp hhead
  cases heq
  exact ⟨isName_of_ident? hident, isName_of_mem_optionalName hreturns⟩

theorem isName_of_interfaceHead? {cs rest : List Char} {name : String} {names : List String}
    (h : interfaceHead? cs = some (name, names, rest)) :
    IsName name ∧ ∀ n ∈ names, IsName n := by
  obtain ⟨⟨ident, mid⟩, hident, h⟩ := Option.bind_eq_some_iff.mp h
  obtain ⟨_, -, hident⟩ := Option.bind_eq_some_iff.mp hident
  have hname := isName_of_ident? hident
  dsimp only at h
  split at h
  next hextends =>
    obtain ⟨⟨supers, _⟩, hsupers, hmark⟩ := Option.bind_eq_some_iff.mp hextends
    obtain ⟨_, -, heq⟩ := Option.map_eq_some_iff.mp hmark
    cases heq
    cases h
    exact ⟨hname, isName_of_extends? hsupers⟩
  next =>
    obtain ⟨_, -, heq⟩ := Option.map_eq_some_iff.mp h
    cases heq
    exact ⟨hname, List.forall_mem_nil _⟩

theorem identified_interfaceAt? (notes : Annotations) (cs : List Char) :
    (interfaceAt? notes cs).Identified := by
  intro d rest h
  obtain ⟨⟨name, names, mid⟩, hhead, heq⟩ := Option.map_eq_some_iff.mp h
  obtain ⟨hname, hnames⟩ := isName_of_interfaceHead? hhead
  dsimp only at heq
  split at heq
  · cases heq
  split at heq
  · cases heq
  obtain ⟨ps, hps, hd⟩ := exists_of_map_eq_ok heq
  cases hd
  exact ⟨hname, identified_of_properties hps, hnames⟩

theorem identified_aliasAt? (notes : Annotations) (cs : List Char) :
    (aliasAt? notes cs).Identified := by
  intro d rest h
  obtain ⟨⟨name, mid⟩, hhead, heq⟩ := Option.map_eq_some_iff.mp h
  obtain ⟨⟨ident, _⟩, hident, hmark⟩ := Option.bind_eq_some_iff.mp hhead
  obtain ⟨_, -, hident⟩ := Option.bind_eq_some_iff.mp hident
  obtain ⟨_, -, hname⟩ := Option.map_eq_some_iff.mp hmark
  cases hname
  obtain ⟨⟨definition, after⟩, -, hd⟩ := Outcome.bind_eq_ok.mp heq
  dsimp only at hd
  split at hd
  · cases hd
  · cases hd
    exact isName_of_ident? hident

theorem identified_ruleAt? (notes : Annotations) (cs : List Char) :
    (ruleAt? notes cs).Identified := by
  intro d rest h
  obtain ⟨⟨head, mid⟩, hhead, heq⟩ := Option.map_eq_some_iff.mp h
  obtain ⟨_, -, hhead⟩ := List.exists_of_findSome?_eq_some hhead
  obtain ⟨_, -, hhead⟩ := List.exists_of_findSome?_eq_some hhead
  obtain ⟨_, hident, hhead⟩ := Option.bind_eq_some_iff.mp hhead
  obtain ⟨_, hreturns, hhead⟩ := List.exists_of_findSome?_eq_some hhead
  obtain ⟨_, -, hhead⟩ := List.exists_of_findSome?_eq_some hhead
  obtain ⟨_, -, hhead⟩ := Option.map_eq_some_iff.mp hhead
  cases hhead
  obtain ⟨⟨definition, after⟩, -, hd⟩ := exists_of_map_eq_ok heq
  dsimp only at hd
  split at hd
  · cases hd
    trivial
  · cases hd
    exact ⟨isName_of_ident? hident, isName_of_mem_optionalName hreturns⟩

theorem identified_of_mem_kinds (notes : Annotations) (cs : List Char) :
    ∀ kind ∈ kinds notes, (kind cs).Identified :=
  forall_kinds.mpr ⟨identified_headerAt? cs, identified_referenceAt? cs, identified_terminalAt? cs,
    identified_interfaceAt? notes cs, identified_aliasAt? notes cs, identified_ruleAt? notes cs⟩

theorem identified_of_declaration {notes : Annotations} {cs rest : List Char} {d : Declaration}
    (h : declaration notes cs = .ok (d, rest)) : d.Identified := by
  rw [declaration_eq_ok_iff] at h
  obtain ⟨kind, hkind, hread⟩ := List.exists_of_findSome?_eq_some h
  exact identified_of_mem_kinds notes cs kind hkind d rest hread

/-! ## Texts -/

/-- The induction is on what is left of the text: the scanner passes over a character or a comment,
or it reads a declaration. -/
theorem identified_of_scan {notes : Annotations} {cs : List Char} {ds : List Declaration}
    (h : scan notes cs = .ok ds) : ∀ d ∈ ds, d.Identified := by
  fun_induction scan notes cs generalizing ds with
  | case1 =>
    cases h
    exact List.forall_mem_nil _
  | case2 _ _ _ _ ih | case3 _ _ _ _ _ ih => exact ih h
  | case4 => cases h
  | case5 _ _ _ _ _ d after hread ih =>
    obtain ⟨ds', hds', rfl⟩ := exists_of_map_eq_ok h
    exact List.forall_mem_cons.mpr ⟨identified_of_declaration hread, ih hds'⟩

/-- **Every name in a declaration is an identifier.** -/
theorem identified_of_declarations {source : List Char} {ds : List Declaration}
    (h : declarations source = .ok ds) : ∀ d ∈ ds, d.Identified := by
  rw [declarations] at h
  split at h
  · cases h
  split at h
  · cases h
  next hscan =>
    cases h
    exact identified_of_scan hscan

end Grammar

end DiagramForge
