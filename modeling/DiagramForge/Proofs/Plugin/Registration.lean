import DiagramForge.Proofs.Plugin.Chain
import Mathlib.Data.List.Nodup
import Mathlib.Data.List.Perm.Basic

/-!
# Histories of the registry

Plugins are registered and removed in any order, and each registration may or may not ask for the
priority of its plugin. `after_orderly` says what the registry is like after any history of such
calls, and what one more call makes of it.

## The order of plugins

A plugin that is registered by priority goes in front of the *first* one of lower priority. Where
registrations of both kinds are mixed the list is not sorted, so the plugin may stand in front of
others of higher priority; but nothing of lower priority stands in front of it. If all registrations
are by priority, the list is sorted, and the first plugin of lower priority is where the lower
priorities begin.

The order of registration is lost then. `enrolled` keeps it: the plugins that are there, each behind
those that were there when it came. Among plugins of one priority it is the order of the registry.
-/

namespace DiagramForge

variable {σ : Type}

/-! ## Calls -/

/-- A call of the registry. -/
inductive RegistryCall (σ : Type) where
  /-- Registers a plugin, by priority or behind all others. -/
  | register (p : Plugin σ) (byPriority : Bool)
  /-- Removes the plugin with a name. -/
  | unregister (name : String)

namespace RegistryCall

/-- The name of the plugin that a call is about. -/
def name : RegistryCall σ → String
  | register p _ => p.name
  | unregister name => name

/-- What a call does to a registry. It can fail. -/
def run : RegistryCall σ → ExceptT Diagnostic (StateM (PluginRegistry σ)) Unit
  | register p byPriority => do
    match (← get).register p byPriority with
    | .ok r => set r
    | .error d => throw d
  | unregister name => modify (·.unregister name)

/-- A call with what it leaves. -/
def apply (c : RegistryCall σ) (r : PluginRegistry σ) : Except Diagnostic Unit × PluginRegistry σ :=
  c.run.run r

/-- The plugins in the order of their registration, after one more call. -/
def enrol (ps : List (Plugin σ)) : RegistryCall σ → List (Plugin σ)
  | register p _ =>
    if p.name ∈ ps.map (·.name) ∨ (PluginRegistry.unknownHook? p).isSome then ps else ps ++ [p]
  | unregister name => ps.filter fun p ↦ p.name != name

/-- The plugins that are there after calls, in the order of their registration. -/
def enrolled (calls : List (RegistryCall σ)) : List (Plugin σ) :=
  calls.foldl enrol []

end RegistryCall

/-- The handlers that a plugin declares for a hook, with its name. -/
def Plugin.declared (hook : Hook) (p : Plugin σ) : List (String × Handler σ) :=
  (p.hooks.filter fun h ↦ h.1 == hook.label).map fun h ↦ (p.name, h.2)

/-- A plugin stands before another among plugins that have been enrolled, or has a higher priority
than it. -/
def Plugin.RanksAbove (enrolled : List (Plugin σ)) (p q : Plugin σ) : Prop :=
  q.priority < p.priority ∨ (q.priority = p.priority ∧ [p, q].Sublist enrolled)

theorem Plugin.RanksAbove.mono {ps qs : List (Plugin σ)} (hsub : ps.Sublist qs) {p q : Plugin σ}
    (h : Plugin.RanksAbove ps p q) : Plugin.RanksAbove qs p q :=
  h.imp_right fun ⟨heq, hpq⟩ ↦ ⟨heq, hpq.trans hsub⟩

theorem Plugin.RanksAbove.priority_le {ps : List (Plugin σ)} {p q : Plugin σ}
    (h : Plugin.RanksAbove ps p q) : q.priority ≤ p.priority :=
  h.elim Int.le_of_lt fun ⟨heq, _⟩ ↦ Int.le_of_eq heq

namespace PluginRegistry

open RegistryCall

/-- The registry after calls. A call that fails is no reason not to go on. -/
def after (r : PluginRegistry σ) (calls : List (RegistryCall σ)) : PluginRegistry σ :=
  calls.foldl (fun r c ↦ (c.apply r).2) r

/-- The plugins of other names. -/
def others (r : PluginRegistry σ) (name : String) : List (Plugin σ) :=
  r.plugins.filter fun p ↦ p.name != name

/-! ## Handlers -/

/-- A hook has the handlers that are declared for its name. -/
theorem handlers_eq_declared (r : PluginRegistry σ) (hook : Hook) :
    r.handlers hook = r.plugins.flatMap (Plugin.declared hook) := by
  rw [handlers_eq]
  refine congrArg (r.plugins.flatMap ·) (funext fun p ↦ ?_)
  rw [Plugin.handlersFor_eq, List.map_map]
  rfl

theorem exists_label_of_unknownHook?_eq_none {p : Plugin σ} (h : unknownHook? p = none)
    {e : String × Handler σ} (he : e ∈ p.hooks) : ∃ hook : Hook, hook.label = e.1 := by
  have hknown := unknownHook?_eq_none_iff.mp h e.1 (List.mem_map_of_mem he)
  obtain ⟨hook, hhook⟩ := Option.isSome_iff_exists.mp hknown
  exact ⟨hook, (Plugin.ofLabel?_eq_some_iff.mp hhook).symm⟩

/-! ## What a call can do -/

/-- A plugin is put in front of the first one of lower priority. -/
theorem insertByPriority_eq (p : Plugin σ) (ps : List (Plugin σ)) :
    ∃ before after, ps = before ++ after ∧ insertByPriority p ps = before ++ p :: after ∧
      (∀ q ∈ before, p.priority ≤ q.priority) ∧ ∀ q ∈ after.head?, q.priority < p.priority := by
  induction ps with
  | nil => exact ⟨[], [], rfl, rfl, List.forall_mem_nil _, fun _ h ↦ nomatch h⟩
  | cons q ps ih =>
    rw [insertByPriority]
    by_cases hlt : q.priority < p.priority
    · rw [if_pos hlt]
      refine ⟨[], q :: ps, rfl, rfl, List.forall_mem_nil _, fun q' hq' ↦ ?_⟩
      rwa [← Option.some.inj hq']
    · obtain ⟨before, after, rfl, hinsert, hbefore, hafter⟩ := ih
      rw [if_neg hlt, hinsert]
      exact ⟨q :: before, after, rfl, rfl,
        List.forall_mem_cons.mpr ⟨Int.not_lt.mp hlt, hbefore⟩, hafter⟩

theorem apply_register_eq (r : PluginRegistry σ) (p : Plugin σ) (byPriority : Bool) :
    (RegistryCall.register p byPriority).apply r = match r.register p byPriority with
      | .ok r' => (.ok (), r')
      | .error d => (.error d, r) := by
  have hrun : (RegistryCall.register p byPriority).apply r =
      ((match r.register p byPriority with
        | .ok r' => set r'
        | .error d => throw d : ExceptT Diagnostic (StateM (PluginRegistry σ)) Unit).run r) := rfl
  rw [hrun]
  cases r.register p byPriority <;> rfl

/-- What a registration can do: it puts a plugin with a new name and with hooks that exist between
the others, or it fails and does nothing. -/
theorem apply_register (r : PluginRegistry σ) (p : Plugin σ) (byPriority : Bool) :
    ((p.name ∈ r.plugins.map (·.name) ∨ (unknownHook? p).isSome) ∧
      ∃ d, (RegistryCall.register p byPriority).apply r = (.error d, r)) ∨
    (p.name ∉ r.plugins.map (·.name) ∧ unknownHook? p = none ∧
      ∃ before after, r.plugins = before ++ after ∧
        (RegistryCall.register p byPriority).apply r =
          (.ok (), { r with plugins := before ++ p :: after }) ∧
        (byPriority = true → (∀ q ∈ before, p.priority ≤ q.priority) ∧
          ∀ q ∈ after.head?, q.priority < p.priority) ∧
        (byPriority = false → after = [])) := by
  have htaken : (r.plugins.any fun q ↦ q.name == p.name) = true ↔
      p.name ∈ r.plugins.map (·.name) := by
    simp
  rw [apply_register_eq, register]
  by_cases hname : p.name ∈ r.plugins.map (·.name)
  · rw [if_pos (htaken.mpr hname)]
    exact .inl ⟨.inl hname, _, rfl⟩
  rw [if_neg (mt htaken.mp hname)]
  cases hhook : unknownHook? p with
  | some hook => exact .inl ⟨.inr rfl, _, rfl⟩
  | none =>
    refine .inr ⟨hname, rfl, ?_⟩
    cases byPriority with
    | true =>
      obtain ⟨before, after, hplugins, hinsert, hplace⟩ := insertByPriority_eq p r.plugins
      refine ⟨before, after, hplugins, ?_, fun _ ↦ hplace, fun h ↦ Bool.noConfusion h⟩
      rw [← hinsert]
      rfl
    | false =>
      exact ⟨r.plugins, [], (List.append_nil _).symm, rfl, fun h ↦ Bool.noConfusion h, fun _ ↦ rfl⟩

/-- A removal never fails. -/
theorem apply_unregister (r : PluginRegistry σ) (name : String) :
    (RegistryCall.unregister name).apply r = (.ok (), { r with plugins := r.others name }) :=
  rfl

/-- A call about a plugin leaves the others in their order. -/
theorem others_apply (r : PluginRegistry σ) (c : RegistryCall σ) :
    (c.apply r).2.others c.name = r.others c.name := by
  cases c with
  | register p byPriority =>
    rcases apply_register r p byPriority with ⟨-, d, happly⟩ | ⟨-, -, before, after, hr, happly, -⟩
    · rw [happly]
    · rw [happly, others, others, hr, RegistryCall.name, List.filter_append, List.filter_append,
        List.filter_cons_of_neg (by simp)]
  | unregister name =>
    rw [apply_unregister, others, RegistryCall.name, others, List.filter_filter]
    simp only [Bool.and_self]

/-! ## What a history keeps -/

/-- A registry holds plugins that are known to be enrolled. -/
structure Holds (r : PluginRegistry σ) (enrolled : List (Plugin σ)) : Prop where
  /-- No two plugins have the same name. -/
  names : (r.plugins.map (·.name)).Nodup
  /-- Plugins have hooks that exist. -/
  hooks : ∀ p ∈ r.plugins, unknownHook? p = none
  /-- These plugins are there and no others. -/
  perm : r.plugins.Perm enrolled

theorem Holds.apply {r : PluginRegistry σ} {ps : List (Plugin σ)} (h : r.Holds ps)
    (c : RegistryCall σ) : (c.apply r).2.Holds (enrol ps c) := by
  cases c with
  | register p byPriority =>
    have hmem : p.name ∈ ps.map (·.name) ↔ p.name ∈ r.plugins.map (·.name) :=
      (h.perm.map _).mem_iff.symm
    rcases apply_register r p byPriority with
      ⟨hrefused, d, happly⟩ | ⟨hname, hhook, before, after, hr, happly, -⟩
    · rwa [happly, enrol, if_pos (by rwa [hmem])]
    · rw [happly, enrol, if_neg (by simp [hmem, hname, hhook])]
      have hperm : (before ++ p :: after).Perm (p :: r.plugins) := by
        rw [hr]
        exact List.perm_middle
      refine ⟨?_, ?_, ?_⟩
      · rw [(hperm.map _).nodup_iff]
        exact List.nodup_cons.mpr ⟨hname, h.names⟩
      · intro q hq
        rcases List.mem_cons.mp (hperm.mem_iff.mp hq) with rfl | hq
        · exact hhook
        · exact h.hooks q hq
      · exact (hperm.trans (h.perm.cons p)).trans (List.perm_append_singleton p ps).symm
  | unregister name =>
    rw [apply_unregister]
    refine ⟨?_, ?_, ?_⟩
    · exact h.names.sublist (List.filter_sublist.map _)
    · exact fun q hq ↦ h.hooks q (List.mem_of_mem_filter hq)
    · exact h.perm.filter _

theorem Holds.after {r : PluginRegistry σ} {ps : List (Plugin σ)} (h : r.Holds ps)
    (calls : List (RegistryCall σ)) : (r.after calls).Holds (calls.foldl enrol ps) := by
  induction calls generalizing r ps with
  | nil => exact h
  | cons c calls ih => exact ih (h.apply c)

theorem holds_empty (isolates : Bool) : Holds ({ isolates } : PluginRegistry σ) [] :=
  ⟨List.nodup_nil, List.forall_mem_nil _, List.Perm.refl []⟩

/-! ## Registrations by priority -/

/-- If the plugins are ranked, one that is registered by priority finds its rank: behind all of
higher priority and behind those of its own priority, which have been there before. -/
theorem Holds.ranked_register {r : PluginRegistry σ} {ps : List (Plugin σ)} (h : r.Holds ps)
    (hranked : r.plugins.Pairwise (Plugin.RanksAbove ps)) (p : Plugin σ) :
    ((RegistryCall.register p true).apply r).2.plugins.Pairwise
      (Plugin.RanksAbove (enrol ps (.register p true))) := by
  have hmem : p.name ∈ ps.map (·.name) ↔ p.name ∈ r.plugins.map (·.name) :=
    (h.perm.map _).mem_iff.symm
  rcases apply_register r p true with
    ⟨hrefused, d, happly⟩ | ⟨hname, hhook, before, after, hr, happly, hplace, -⟩
  · rwa [happly, enrol, if_pos (by rwa [hmem])]
  obtain ⟨hbefore, hafter⟩ := hplace rfl
  rw [happly, enrol, if_neg (by simp [hmem, hname, hhook])]
  have hkept := hranked.imp (Plugin.RanksAbove.mono (List.sublist_append_left ps [p]))
  rw [hr, List.pairwise_append] at hkept
  obtain ⟨hkeptBefore, hkeptAfter, hacross⟩ := hkept
  -- behind the place of the plugin the priorities are no higher than the first, which is lower
  have hlower : ∀ q ∈ after, q.priority < p.priority := by
    rw [hr, List.pairwise_append] at hranked
    cases after with
    | nil => exact List.forall_mem_nil _
    | cons first after =>
      have hfirst : first.priority < p.priority := hafter first rfl
      refine List.forall_mem_cons.mpr ⟨hfirst, fun q hq ↦ ?_⟩
      exact Int.lt_of_le_of_lt ((List.pairwise_cons.mp hranked.2.1).1 q hq).priority_le hfirst
  have htie : ∀ q ∈ before, Plugin.RanksAbove (ps ++ [p]) q p := by
    intro q hq
    rcases Int.lt_or_eq_of_le (hbefore q hq) with hlt | heq
    · exact .inl hlt
    · have hq' : q ∈ ps := h.perm.mem_iff.mp (hr ▸ List.mem_append_left _ hq)
      exact .inr ⟨heq, (List.singleton_sublist.mpr hq').append (List.Sublist.refl [p])⟩
  rw [List.pairwise_append, List.pairwise_cons]
  refine ⟨hkeptBefore, ⟨fun q hq ↦ .inl (hlower q hq), hkeptAfter⟩, fun q hq q' hq' ↦ ?_⟩
  rcases List.mem_cons.mp hq' with rfl | hq'
  · exact htie q hq
  · exact hacross q hq q' hq'

theorem ranked_unregister {r : PluginRegistry σ} {ps : List (Plugin σ)}
    (hranked : r.plugins.Pairwise (Plugin.RanksAbove ps)) (name : String) :
    ((RegistryCall.unregister name).apply r).2.plugins.Pairwise
      (Plugin.RanksAbove (enrol ps (.unregister name))) := by
  rw [apply_unregister, enrol]
  refine (hranked.filter _).imp_of_mem fun {p q} hp hq hpq ↦ hpq.imp_right fun ⟨heq, hsub⟩ ↦ ?_
  have hkept := hsub.filter fun p ↦ p.name != name
  rw [List.filter_cons_of_pos (List.of_mem_filter hp),
    List.filter_cons_of_pos (List.of_mem_filter hq)] at hkept
  exact ⟨heq, hkept⟩

theorem ranked_after {r : PluginRegistry σ} {ps : List (Plugin σ)} (h : r.Holds ps)
    (hranked : r.plugins.Pairwise (Plugin.RanksAbove ps)) {calls : List (RegistryCall σ)}
    (hcalls : ∀ p, RegistryCall.register p false ∉ calls) :
    (r.after calls).plugins.Pairwise (Plugin.RanksAbove (calls.foldl enrol ps)) := by
  induction calls generalizing r ps with
  | nil => exact hranked
  | cons c calls ih =>
    refine ih (h.apply c) ?_ fun p hp ↦ hcalls p (List.mem_cons_of_mem _ hp)
    cases c with
    | register p byPriority =>
      cases byPriority with
      | true => exact h.ranked_register hranked p
      | false => exact absurd List.mem_cons_self (hcalls p)
    | unregister name => exact ranked_unregister hranked name

/-! ## Registrations that ignore priorities -/

theorem plugins_register_plain (r : PluginRegistry σ) (p : Plugin σ) :
    ((RegistryCall.register p false).apply r).2.plugins =
      enrol r.plugins (.register p false) := by
  rcases apply_register r p false with
    ⟨hrefused, d, happly⟩ | ⟨hname, hhook, before, after, hr, happly, -, hlast⟩
  · rw [happly, enrol, if_pos hrefused]
  · rw [happly, enrol, if_neg (by simp [hname, hhook]), hr, hlast rfl, List.append_nil]

theorem plugins_after_of_plain (r : PluginRegistry σ) {calls : List (RegistryCall σ)}
    (hcalls : ∀ p, RegistryCall.register p true ∉ calls) :
    (r.after calls).plugins = calls.foldl enrol r.plugins := by
  induction calls generalizing r with
  | nil => rfl
  | cons c calls ih =>
    have hc : (c.apply r).2.plugins = enrol r.plugins c := by
      cases c with
      | register p byPriority =>
        cases byPriority with
        | true => exact absurd List.mem_cons_self (hcalls p)
        | false => exact plugins_register_plain r p
      | unregister name => rfl
    rw [List.foldl_cons, ← hc]
    exact ih _ fun p hp ↦ hcalls p (List.mem_cons_of_mem _ hp)

/-! ## Any history -/

/-- **The registry after any history of calls.** The plugins have distinct names and are those that
are enrolled. Each hook has the handlers that the plugins declare for it, in the order of the
plugins, and no handler is declared for a hook that does not exist. If all registrations are by
priority, plugins of higher priority come first, and plugins of one priority in the order of their
registration; if none is, all plugins are in that order.

One more call that fails changes nothing. None changes the order of the plugins it is not about. A
registration that succeeds puts its plugin behind all others, or, by priority, at a place that no
plugin of lower priority stands in front of. -/
theorem after_orderly (isolates : Bool) (calls : List (RegistryCall σ)) :
    let r := ({ isolates } : PluginRegistry σ).after calls
    (r.plugins.map (·.name)).Nodup ∧ r.plugins.Perm (enrolled calls) ∧
    (∀ hook, r.handlers hook = r.plugins.flatMap (Plugin.declared hook)) ∧
    (∀ p ∈ r.plugins, ∀ e ∈ p.hooks, ∃ hook : Hook, hook.label = e.1) ∧
    ((∀ p, RegistryCall.register p false ∉ calls) →
      r.plugins.Pairwise (Plugin.RanksAbove (enrolled calls))) ∧
    ((∀ p, RegistryCall.register p true ∉ calls) → r.plugins = enrolled calls) ∧
    ∀ c : RegistryCall σ,
      (∀ d, (c.apply r).1 = .error d → (c.apply r).2 = r) ∧
      (c.apply r).2.others c.name = r.others c.name ∧
      ∀ p byPriority, c = .register p byPriority → (c.apply r).1 = .ok () →
        ∃ before after, r.plugins = before ++ after ∧
          (c.apply r).2.plugins = before ++ p :: after ∧
          (byPriority = true → ∀ q ∈ before, ¬ q.priority < p.priority) ∧
          (byPriority = false → after = []) := by
  intro r
  have hholds : r.Holds (enrolled calls) := (holds_empty isolates).after calls
  refine ⟨hholds.names, hholds.perm, r.handlers_eq_declared, ?_, ?_, ?_, fun c ↦ ⟨?_, ?_, ?_⟩⟩
  · exact fun p hp e he ↦ exists_label_of_unknownHook?_eq_none (hholds.hooks p hp) he
  · exact ranked_after (holds_empty isolates) List.Pairwise.nil
  · exact plugins_after_of_plain { isolates }
  · intro d hfails
    cases c with
    | register p byPriority =>
      rcases apply_register r p byPriority with ⟨-, d, happly⟩ | ⟨-, -, before, after, -, happly, -⟩
      · rw [happly]
      · rw [happly] at hfails
        cases hfails
    | unregister name => cases hfails
  · exact others_apply r c
  · rintro p byPriority rfl hsucceeds
    rcases apply_register r p byPriority with
      ⟨-, d, happly⟩ | ⟨-, -, before, after, hr, happly, hplace, hlast⟩
    · rw [happly] at hsucceeds
      cases hsucceeds
    · rw [happly]
      exact ⟨before, after, hr, rfl, fun hby q hq ↦ Int.not_lt.mpr ((hplace hby).1 q hq), hlast⟩

/-- A plugin that is registered by priority can come to stand in front of one of higher priority. -/
example : ((({} : PluginRegistry Unit).after
    [.register { name := "low" } false, .register { name := "high", priority := 10 } false,
      .register { name := "middle", priority := 5 } true]).plugins.map (·.name)) =
    ["middle", "low", "high"] := by
  rfl

end PluginRegistry

end DiagramForge
