import LintScan.Proofs.Walk
import LintScan.Schedule.Closure

/-!
# Orders of plugins

The walk that puts plugins in order keeps the plugins that it is in and the order so far.  This file
says what it amounts to on the graph of dependencies:

* `DependsOn`, `IsWanted` — the graph, and the plugins that an order has to hold.
* `Ordered` — the orders themselves: every plugin known, listed once, and behind all it needs.
* `visit_continues` — a visit that ends well continues the order by wanted plugins only, by none of
  those that it is in, and keeps it ordered.
* `exists_visit` — a visit ends well where every wanted plugin is known, none needs itself, and
  nothing needed has been left out.
* `order_holds_wanted_behind_needed` — when there is an order, what it holds, and what a missing
  dependency says.
-/

namespace LintScan

namespace Dependencies

open Relation

variable {deps : Dependencies} {listed : List String} {pullIn : Bool}

/-! ## The graph -/

/-- A plugin needs another one to run before it. -/
def DependsOn (deps : Dependencies) (plugin dependency : String) : Prop :=
  dependency ∈ deps.needs plugin

/-- The plugins that an order has to hold: those listed, and with `pullIn` all that they need
directly or indirectly. -/
def IsWanted (deps : Dependencies) (pullIn : Bool) (listed : List String) (plugin : String) :
    Prop :=
  if pullIn then ∃ name ∈ listed, ReflTransGen deps.DependsOn name plugin else plugin ∈ listed

theorem dependsOn_iff {plugin dependency : String} {needed : List String}
    (h : deps.get? plugin = some needed) :
    deps.DependsOn plugin dependency ↔ dependency ∈ needed := by
  simp [DependsOn, needs, h]

theorem isWanted_of_mem {name : String} (h : name ∈ listed) :
    deps.IsWanted pullIn listed name := by
  unfold IsWanted
  split
  · exact ⟨name, h, .refl⟩
  · exact h

theorem isMissing_eq_false_iff {dependency : String} :
    isMissing listed pullIn dependency = false ↔ pullIn = true ∨ dependency ∈ listed := by
  cases pullIn <;> simp [isMissing]

/-- What a wanted plugin needs is wanted, unless it has been left out. -/
theorem IsWanted.step {plugin dependency : String} (h : deps.IsWanted pullIn listed plugin)
    (hdep : deps.DependsOn plugin dependency)
    (hmiss : isMissing listed pullIn dependency = false) :
    deps.IsWanted pullIn listed dependency := by
  rw [isMissing_eq_false_iff] at hmiss
  rcases hmiss with rfl | hmiss
  · obtain ⟨name, hn, hr⟩ := h
    exact ⟨name, hn, hr.tail hdep⟩
  · exact isWanted_of_mem hmiss

/-! ## Ordered lists -/

/-- Lists of known plugins in which each stands once and behind all that it needs. -/
inductive Ordered (deps : Dependencies) : List String → Prop
  | nil : Ordered deps []
  | snoc {order needed : List String} {name : String} :
      Ordered deps order → name ∉ order → deps.get? name = some needed →
      (∀ dependency ∈ needed, dependency ∈ order) → Ordered deps (order ++ [name])

theorem Ordered.nodup {order : List String} (h : deps.Ordered order) : order.Nodup := by
  induction h with
  | nil => exact List.nodup_nil
  | snoc _ hn _ _ ih => exact nodup_snoc ih hn

theorem Ordered.known {order : List String} (h : deps.Ordered order) :
    ∀ plugin ∈ order, (deps.get? plugin).isSome = true := by
  induction h with
  | nil =>
    intro plugin hp
    cases hp
  | snoc _ _ hk _ ih =>
    intro plugin hp
    rcases List.mem_append.1 hp with hp | hp
    · exact ih plugin hp
    · rw [List.mem_singleton] at hp
      rw [hp, hk]
      rfl

theorem Ordered.behind {order : List String} (h : deps.Ordered order) :
    ∀ {before after : List String} {plugin : String}, order = before ++ plugin :: after →
      ∀ dependency, deps.DependsOn plugin dependency → dependency ∈ before := by
  induction h with
  | nil =>
    intro before after plugin he
    simp at he
  | snoc _ _ hk hneeded ih =>
    intro before after plugin he dependency hdep
    rcases List.eq_nil_or_concat after with rfl | ⟨after, last, rfl⟩
    · obtain ⟨rfl, hlast⟩ := List.append_inj' he rfl
      cases hlast
      exact hneeded dependency ((dependsOn_iff hk).1 hdep)
    · rw [List.concat_eq_append, ← List.cons_append, ← List.append_assoc] at he
      exact ih (List.append_inj' he rfl).1 dependency hdep

theorem Ordered.closed {order : List String} (h : deps.Ordered order) {plugin dependency : String}
    (hp : plugin ∈ order) (hdep : deps.DependsOn plugin dependency) : dependency ∈ order := by
  obtain ⟨before, after, rfl⟩ := List.append_of_mem hp
  exact List.mem_append_left _ (h.behind rfl dependency hdep)

/-- Every way along the dependencies of an ordered plugin ends. -/
theorem Ordered.acc {order : List String} (h : deps.Ordered order) :
    ∀ plugin ∈ order, Acc (fun dependency plugin => deps.DependsOn plugin dependency) plugin := by
  induction h with
  | nil =>
    intro plugin hp
    cases hp
  | snoc _ _ hk hneeded ih =>
    intro plugin hp
    rcases List.mem_append.1 hp with hp | hp
    · exact ih plugin hp
    · rw [List.mem_singleton] at hp
      subst hp
      exact Acc.intro _ fun dependency hdep =>
        ih dependency (hneeded dependency ((dependsOn_iff hk).1 hdep))

theorem Ordered.wanted {order names : List String} (h : deps.Ordered order)
    (hnames : names ⊆ order) {plugin : String} (hp : deps.IsWanted pullIn names plugin) :
    plugin ∈ order := by
  unfold IsWanted at hp
  split at hp
  · obtain ⟨name, hn, hr⟩ := hp
    induction hr with
    | refl => exact hnames hn
    | tail _ hdep ih => exact h.closed ih hdep
  · exact hnames hp

/-! ## Visits -/

/-- One dependency of a plugin is visited, unless it has been left out. -/
def visitNeeded (deps : Dependencies) (listed : List String) (pullIn : Bool)
    (visiting : List String) (plugin : String) (order : List String) (dependency : String) :
    Except OrderError (List String) :=
  if isMissing listed pullIn dependency then .error (.missingDependency plugin dependency)
  else deps.visit listed pullIn visiting dependency order

theorem visit_of_mem (visiting : List String) {name : String} {order : List String}
    (h : name ∈ order) : deps.visit listed pullIn visiting name order = .ok order := by
  rw [visit, if_pos h]

theorem visit_of_visiting {visiting order : List String} {name : String} (hn : name ∉ order)
    (h : name ∈ visiting) :
    deps.visit listed pullIn visiting name order = .error (.cycle (visiting ++ [name])) := by
  rw [visit, if_neg hn, dif_pos h]

theorem visit_of_unknown {visiting order : List String} {name : String} (hn : name ∉ order)
    (hv : name ∉ visiting) (h : deps.get? name = none) :
    deps.visit listed pullIn visiting name order = .error (.unknownPlugin name) := by
  rw [visit, if_neg hn, dif_neg hv]
  split
  · rfl
  · rename_i hk
    rw [h] at hk
    cases hk

theorem visit_of_known {visiting order needed : List String} {name : String} (hn : name ∉ order)
    (hv : name ∉ visiting) (h : deps.get? name = some needed) :
    deps.visit listed pullIn visiting name order =
      (needed.foldlM (deps.visitNeeded listed pullIn (visiting ++ [name]) name) order >>=
        fun order => .ok (order ++ [name])) := by
  rw [visit, if_neg hn, dif_neg hv]
  split
  · rename_i hk
    rw [h] at hk
    cases hk
  · rename_i hk
    rw [h] at hk
    cases hk
    rfl

/-- What a walk over some plugins does to an order: it is continued, up to each of them, by wanted
plugins only, by none that are being visited, and stays ordered. -/
structure Continues (deps : Dependencies) (listed : List String) (pullIn : Bool)
    (visiting names order order' : List String) : Prop where
  kept : order ⊆ order'
  reached : names ⊆ order'
  fresh : ∀ plugin ∈ order', plugin ∈ order ∨ plugin ∉ visiting
  wanted : (∀ name ∈ names, deps.IsWanted pullIn listed name) →
    ∀ plugin ∈ order', plugin ∈ order ∨ deps.IsWanted pullIn listed plugin
  ordered : deps.Ordered order → deps.Ordered order'

theorem Continues.trans {visiting names more order order' order'' : List String}
    (h : deps.Continues listed pullIn visiting names order order')
    (h' : deps.Continues listed pullIn visiting more order' order'') :
    deps.Continues listed pullIn visiting (names ++ more) order order'' := by
  refine ⟨fun p hp => h'.kept (h.kept hp), ?_, ?_, ?_, fun ho => h'.ordered (h.ordered ho)⟩
  · intro p hp
    rcases List.mem_append.1 hp with hp | hp
    · exact h'.kept (h.reached hp)
    · exact h'.reached hp
  · intro p hp
    rcases h'.fresh p hp with hp | hp
    · exact h.fresh p hp
    · exact .inr hp
  · intro hw p hp
    rcases h'.wanted (fun n hn => hw n (List.mem_append_right _ hn)) p hp with hp | hp
    · exact h.wanted (fun n hn => hw n (List.mem_append_left _ hn)) p hp
    · exact .inr hp

theorem continues_of_foldlM {visiting : List String}
    {step : List String → String → Except OrderError (List String)}
    (each : ∀ {name order order'}, step order name = .ok order' →
      deps.Continues listed pullIn visiting [name] order order')
    {names : List String} :
    ∀ {order order' : List String}, names.foldlM step order = .ok order' →
      deps.Continues listed pullIn visiting names order order' := by
  induction names with
  | nil =>
    intro order order' h
    cases h
    exact ⟨List.Subset.refl _, List.nil_subset _, fun p hp => .inl hp, fun _ p hp => .inl hp, id⟩
  | cons name names ih =>
    intro order order' h
    rw [List.foldlM_cons, bind_eq_ok_iff] at h
    obtain ⟨mid, hstep, hrest⟩ := h
    exact (each hstep).trans (ih hrest)

theorem visitNeeded_ok {visiting order order' : List String} {plugin dependency : String}
    (h : deps.visitNeeded listed pullIn visiting plugin order dependency = .ok order') :
    isMissing listed pullIn dependency = false ∧
      deps.visit listed pullIn visiting dependency order = .ok order' := by
  unfold visitNeeded at h
  split at h
  · cases h
  · rename_i hm
    exact ⟨by simpa using hm, h⟩

/-- **A visit that ends well continues the order.** -/
theorem visit_continues {visiting order order' : List String} {name : String}
    (h : deps.visit listed pullIn visiting name order = .ok order') :
    deps.Continues listed pullIn visiting [name] order order' := by
  induction visiting, name, order using visit.induct deps generalizing order' with
  | case1 visiting name order hn =>
    rw [visit_of_mem visiting hn] at h
    cases h
    exact ⟨List.Subset.refl _, by simpa using hn, fun p hp => .inl hp, fun _ p hp => .inl hp, id⟩
  | case2 visiting name order hn hv =>
    rw [visit_of_visiting hn hv] at h
    cases h
  | case3 visiting name order hn hv hk =>
    rw [visit_of_unknown hn hv hk] at h
    cases h
  | case4 visiting name order hn hv needed hk ih =>
    rw [visit_of_known hn hv hk, bind_eq_ok_iff] at h
    obtain ⟨mid, hfold, h⟩ := h
    cases h
    have hmid := continues_of_foldlM (fun hs => ih _ _ (visitNeeded_ok hs).2) hfold
    refine ⟨fun p hp => List.mem_append_left _ (hmid.kept hp), by simp, ?_, ?_, ?_⟩
    · intro p hp
      rcases List.mem_append.1 hp with hp | hp
      · rcases hmid.fresh p hp with hp | hp
        · exact .inl hp
        · exact .inr fun hpv => hp (List.mem_append_left _ hpv)
      · rw [List.mem_singleton] at hp
        exact .inr (hp ▸ hv)
    · intro hw p hp
      have hname := hw name (List.mem_singleton_self name)
      rcases List.mem_append.1 hp with hp | hp
      · refine hmid.wanted (fun dependency hd => ?_) p hp
        obtain ⟨_, _, hs⟩ := foldlM_ok_step hfold dependency hd
        exact hname.step ((dependsOn_iff hk).2 hd) (visitNeeded_ok hs).1
      · rw [List.mem_singleton] at hp
        exact .inr (hp ▸ hname)
    · intro ho
      -- the visits below were in `name`, so none of them has added it
      have hfresh : name ∉ mid := by
        intro hm
        rcases hmid.fresh name hm with hm | hm
        · exact hn hm
        · exact hm (List.mem_append_right _ (List.mem_singleton_self name))
      exact .snoc (hmid.ordered ho) hfresh hk fun dependency hd => hmid.reached hd

theorem visit_missing {visiting order : List String} {name plugin dependency : String}
    (h : deps.visit listed pullIn visiting name order
      = .error (.missingDependency plugin dependency)) :
    deps.DependsOn plugin dependency ∧ dependency ∉ listed := by
  induction visiting, name, order using visit.induct deps with
  | case1 visiting name order hn =>
    rw [visit_of_mem visiting hn] at h
    cases h
  | case2 visiting name order hn hv =>
    rw [visit_of_visiting hn hv] at h
    cases h
  | case3 visiting name order hn hv hk =>
    rw [visit_of_unknown hn hv hk] at h
    cases h
  | case4 visiting name order hn hv needed hk ih =>
    rw [visit_of_known hn hv hk, bind_eq_error_iff] at h
    rcases h with h | ⟨mid, _, h⟩
    · obtain ⟨t, d, hd, hs⟩ := foldlM_error h
      unfold visitNeeded at hs
      split at hs
      · rename_i hm
        cases hs
        refine ⟨(dependsOn_iff hk).2 hd, fun hl => ?_⟩
        rw [isMissing_eq_false_iff.2 (.inr hl)] at hm
        cases hm
      · exact ih _ _ hs
    · cases h

/-- A visit ends well where every wanted plugin is known, none needs itself, and nothing needed has
been left out. The plugins that are being visited need the one that is visited next, so that one is
none of them. -/
theorem exists_visit
    (known : ∀ plugin, deps.IsWanted pullIn listed plugin → (deps.get? plugin).isSome = true)
    (acyclic : ∀ plugin, deps.IsWanted pullIn listed plugin →
      ¬ TransGen deps.DependsOn plugin plugin)
    (complete : pullIn = false → ∀ plugin ∈ listed, ∀ dependency,
      deps.DependsOn plugin dependency → dependency ∈ listed)
    {visiting order : List String} {name : String} (wanted : deps.IsWanted pullIn listed name)
    (above : ∀ plugin ∈ visiting, TransGen deps.DependsOn plugin name) :
    ∃ order', deps.visit listed pullIn visiting name order = .ok order' := by
  induction visiting, name, order using visit.induct deps with
  | case1 visiting name order hn => exact ⟨order, visit_of_mem visiting hn⟩
  | case2 visiting name order hn hv => exact absurd (above name hv) (acyclic name wanted)
  | case3 visiting name order hn hv hk =>
    have hsome := known name wanted
    rw [hk] at hsome
    cases hsome
  | case4 visiting name order hn hv needed hk ih =>
    have hfold : ∃ mid,
        needed.foldlM (deps.visitNeeded listed pullIn (visiting ++ [name]) name) order
          = .ok mid := by
      apply foldlM_ok
      intro t dependency hd
      have hdep : deps.DependsOn name dependency := (dependsOn_iff hk).2 hd
      have hmiss : isMissing listed pullIn dependency = false := by
        rw [isMissing_eq_false_iff]
        cases hp : pullIn with
        | true => exact .inl rfl
        | false =>
          rw [hp, IsWanted, if_neg (by simp)] at wanted
          exact .inr (complete hp name wanted dependency hdep)
      obtain ⟨u, hu⟩ := ih t dependency (wanted.step hdep hmiss) (transGen_of_mem_snoc above hdep)
      exact ⟨u, by rw [visitNeeded, if_neg (by rw [hmiss]; simp), hu]⟩
    obtain ⟨mid, hmid⟩ := hfold
    exact ⟨mid ++ [name], by rw [visit_of_known hn hv hk, hmid]; rfl⟩

/-! ## Orders -/

theorem order_continues {names order : List String} (h : deps.order pullIn names = .ok order) :
    deps.Continues names pullIn [] names [] order :=
  continues_of_foldlM visit_continues h

theorem order_ordered {names order : List String} (h : deps.order pullIn names = .ok order) :
    deps.Ordered order :=
  (order_continues h).ordered .nil

theorem mem_order {names order : List String} (h : deps.order pullIn names = .ok order)
    {plugin : String} : plugin ∈ order ↔ deps.IsWanted pullIn names plugin := by
  have hc := order_continues h
  refine ⟨fun hp => ?_, (order_ordered h).wanted hc.reached⟩
  rcases hc.wanted (fun name hn => isWanted_of_mem hn) plugin hp with hp | hp
  · cases hp
  · exact hp

/-- **What an order holds, and when there is one.** Plugins can be put in order exactly where every
wanted one is known, none needs itself, and without `pullIn` nothing needed has been left out. The
order then holds the wanted plugins, each once and behind all that it needs. A dependency that is
reported missing is one that the plugin has and the list has not. -/
theorem order_holds_wanted_behind_needed (deps : Dependencies) (pullIn : Bool)
    (names : List String) :
    ((∃ order, deps.order pullIn names = .ok order) ↔
      (∀ plugin, deps.IsWanted pullIn names plugin → (deps.get? plugin).isSome = true) ∧
      (∀ plugin, deps.IsWanted pullIn names plugin → ¬ TransGen deps.DependsOn plugin plugin) ∧
      (pullIn = false → ∀ plugin ∈ names, ∀ dependency,
        deps.DependsOn plugin dependency → dependency ∈ names)) ∧
    (∀ order, deps.order pullIn names = .ok order →
      order.Nodup ∧ (∀ plugin, plugin ∈ order ↔ deps.IsWanted pullIn names plugin) ∧
      ∀ before plugin after, order = before ++ plugin :: after →
        ∀ dependency, deps.DependsOn plugin dependency → dependency ∈ before) ∧
    ∀ plugin dependency,
      deps.order pullIn names = .error (.missingDependency plugin dependency) →
      deps.DependsOn plugin dependency ∧ dependency ∉ names := by
  have holds : ∀ {order}, deps.order pullIn names = .ok order →
      deps.Ordered order ∧ ∀ plugin, plugin ∈ order ↔ deps.IsWanted pullIn names plugin := by
    intro order h
    have hc := order_continues h
    have ho := hc.ordered .nil
    refine ⟨ho, fun plugin => ⟨fun hp => ?_, ho.wanted hc.reached⟩⟩
    rcases hc.wanted (fun name hn => isWanted_of_mem hn) plugin hp with hp | hp
    · cases hp
    · exact hp
  refine ⟨⟨?_, ?_⟩, ?_, ?_⟩
  · rintro ⟨order, h⟩
    obtain ⟨ho, hmem⟩ := holds h
    refine ⟨fun plugin hp => ho.known plugin ((hmem plugin).2 hp),
      fun plugin hp => not_transGen_of_acc (ho.acc plugin ((hmem plugin).2 hp)), ?_⟩
    intro hpull plugin hp dependency hdep
    have hd := ho.closed ((hmem plugin).2 (isWanted_of_mem hp)) hdep
    rw [hmem, hpull] at hd
    exact hd
  · rintro ⟨known, acyclic, complete⟩
    apply foldlM_ok
    intro order name hn
    exact exists_visit known acyclic complete (isWanted_of_mem hn) (fun plugin hp => by cases hp)
  · intro order h
    obtain ⟨ho, hmem⟩ := holds h
    exact ⟨ho.nodup, hmem, fun before plugin after he => ho.behind he⟩
  · intro plugin dependency h
    obtain ⟨order, name, _, hv⟩ := foldlM_error h
    exact visit_missing hv

end Dependencies

end LintScan
