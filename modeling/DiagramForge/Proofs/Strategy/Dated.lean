import DiagramForge.Proofs.Strategy.Completion
import DiagramForge.Proofs.Template.Timeless
import DiagramForge.Strategy.Builtin

/-!
# What the built-in strategies render does not show the time

The built-in strategies render their templates for two diagrams that differ in their time, from two
sound stores and on two disks: they come to the same result (`TemplateStrategy.render_inStep`).

What rendering comes to is a function of the outcomes of the jobs (`comesTo_render_worked`), so all
that is asked of a job is that its outcome is the same. Which jobs there are depends on the library
and the elements of the diagram. The library of the built-in templates is on a disk of its own and
looks at no other.
-/

namespace DiagramForge

open Template Outcome

/-- The texts of the keys in the library of the built-in templates, on any disk. -/
def builtinReads : TemplateKey → String → Prop :=
  builtinLibrary.Reads (.empty [])

/-- The library of the built-in templates does not look at the disk. -/
theorem keyedBy_builtinReads (disk : Disk) : builtinLibrary.KeyedBy disk builtinReads where
  load_eq_ok := (builtinLibrary.keyedBy_reads (.empty [])).load_eq_ok
  fragment := (builtinLibrary.keyedBy_reads (.empty [])).fragment

theorem compileTemplate_builtin (disk disk' : Disk) (name : String) :
    compileTemplate builtinLibrary disk' name = compileTemplate builtinLibrary disk name := rfl

namespace TemplateStrategy

variable {s : TemplateStrategy} {d : Diagram}

/-- A job does not show the time. -/
theorem outcome_dated (hpartials : ∀ e ∈ d.partials, Timeless e.2) (disk disk' : Disk)
    (time : String) :
    s.outcome builtinLibrary disk' (d.dated time) = s.outcome builtinLibrary disk d := by
  funext job
  rw [outcome, outcome, compileTemplate_builtin disk disk']
  cases hcompile : compileTemplate builtinLibrary disk job.template with
  | error failure => dsimp only [bind, Except.bind]
  | ok b =>
    obtain ⟨source, hload, hb⟩ := compileTemplate_eq_ok.mp hcompile
    obtain ⟨b', hb', hwithin⟩ := (timeless_of_load hload).compiled
    obtain rfl : b = b' := Except.ok.inj (hb.symm.trans hb')
    have htext := Block.textFor_dated (keyedBy_builtinReads disk) (keyedBy_builtinReads disk')
      hpartials hwithin job.vars time
    dsimp only [bind, Except.bind]
    rw [htext]

/-- What a strategy renders does not show the time, if its variables do not. -/
theorem renderedBy_dated (hpartials : ∀ e ∈ d.partials, Timeless e.2) (disk disk' : Disk)
    {time : String} (hvars : s.vars (d.dated time) = s.vars d) :
    s.renderedBy builtinLibrary disk' (d.dated time)
        (s.worked builtinLibrary disk' (d.dated time)) =
      s.renderedBy builtinLibrary disk d (s.worked builtinLibrary disk d) := by
  have houtcome := s.outcome_dated hpartials disk disk' time
  have hworked : s.worked builtinLibrary disk' (d.dated time) = s.worked builtinLibrary disk d := by
    funext workers r jobs
    rw [worked, worked, houtcome]
    rfl
  rw [renderedBy, renderedBy, houtcome, hworked, hvars]
  rfl

/-- The variables of the built-in strategies do not show the time. -/
theorem vars_dated (hs : s ∈ builtinStrategies) (d : Diagram) (time : String) :
    s.vars (d.dated time) = s.vars d := by
  simp only [builtinStrategies, List.mem_cons, List.not_mem_nil, or_false] at hs
  rcases hs with rfl | rfl | rfl
  · rfl
  · rfl
  · rfl

/-- Rendering is in step. -/
theorem render_inStep (hs : s ∈ builtinStrategies) (hpartials : ∀ e ∈ d.partials, Timeless e.2)
    (disk disk' : Disk) (time : String) :
    InStep (BothSound builtinReads) Eq (s.render builtinLibrary disk d)
      (s.render builtinLibrary disk' (d.dated time)) := by
  have hrender := comesTo_render_worked (s := s) (d := d) (keyedBy_builtinReads disk)
  have hrender' := comesTo_render_worked (s := s) (d := d.dated time) (keyedBy_builtinReads disk')
  rw [renderedBy_dated hpartials disk disk' (vars_dated hs d time)] at hrender'
  exact (hrender.inStep hrender').mono fun _ _ h ↦ h.1

end TemplateStrategy

end DiagramForge
