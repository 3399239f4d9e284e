import LintScan.Proofs.Schedule.Order

/-!
# Plugins with all that they need

The closure is found with a list of plugins still to be looked at.  This file says what it holds,
and that an order stays one when it is cut down to a closure:

* `NeedsCovered` — what the plugins found so far need has been found, or is still to be looked at;
  each step keeps this.
* `reaches_of_mem_closeOver`, `needsCovered_closeOver` — the walk adds only what those to be looked
  at lead to, and misses nothing of it.
* `mem_closure` — the closure of some plugins, in terms of the graph.
* `Ordered.filter` — an ordered list stays ordered when it is cut down to a set that holds all that
  its members need.
-/

namespace LintScan

namespace Dependencies

open Relation

variable {deps : Dependencies}

/-! ## The walk -/

/-- What each plugin found so far needs has been found or is pending. -/
def NeedsCovered (deps : Dependencies) (found pending : List String) : Prop :=
  ∀ name ∈ found, ∀ dependency, deps.DependsOn name dependency →
    dependency ∈ found ∨ dependency ∈ pending

theorem NeedsCovered.skip {found rest : List String} {name : String}
    (h : deps.NeedsCovered found (name :: rest)) (hname : name ∈ found) :
    deps.NeedsCovered found rest := by
  intro plugin hp dependency hdep
  rcases h plugin hp dependency hdep with hd | hd
  · exact .inl hd
  · rcases List.mem_cons.1 hd with rfl | hd
    · exact .inl hname
    · exact .inr hd

theorem NeedsCovered.enter {found rest : List String} {name : String}
    (h : deps.NeedsCovered found (name :: rest)) :
    deps.NeedsCovered (name :: found) (deps.needs name ++ rest) := by
  intro plugin hp dependency hdep
  rcases List.mem_cons.1 hp with rfl | hp
  · exact .inr (List.mem_append_left _ hdep)
  · rcases h plugin hp dependency hdep with hd | hd
    · exact .inl (List.mem_cons_of_mem _ hd)
    · rcases List.mem_cons.1 hd with rfl | hd
      · exact .inl List.mem_cons_self
      · exact .inr (List.mem_append_right _ hd)

/-- Nothing that has been found is lost, and whatever was pending is found. -/
theorem subset_closeOver (found pending : List String) :
    found ⊆ deps.closeOver found pending ∧ pending ⊆ deps.closeOver found pending := by
  fun_induction closeOver deps found pending with
  | case1 found => exact ⟨List.Subset.refl _, List.nil_subset _⟩
  | case2 found name rest hname ih =>
    refine ⟨ih.1, fun plugin hp => ?_⟩
    rcases List.mem_cons.1 hp with rfl | hp
    · exact ih.1 hname
    · exact ih.2 hp
  | case3 found name rest _ ih =>
    refine ⟨fun plugin hp => ih.1 (List.mem_cons_of_mem _ hp), fun plugin hp => ?_⟩
    rcases List.mem_cons.1 hp with rfl | hp
    · exact ih.1 List.mem_cons_self
    · exact ih.2 (List.mem_append_right _ hp)

/-- Only what some pending plugin leads to is added. -/
theorem reaches_of_mem_closeOver {found pending : List String} {plugin : String}
    (h : plugin ∈ deps.closeOver found pending) :
    plugin ∈ found ∨ ∃ name ∈ pending, ReflTransGen deps.DependsOn name plugin := by
  fun_induction closeOver deps found pending with
  | case1 found => exact .inl h
  | case2 found name rest _ ih =>
    rcases ih h with hp | ⟨start, hs, hr⟩
    · exact .inl hp
    · exact .inr ⟨start, List.mem_cons_of_mem _ hs, hr⟩
  | case3 found name rest _ ih =>
    rcases ih h with hp | ⟨start, hs, hr⟩
    · rcases List.mem_cons.1 hp with rfl | hp
      · exact .inr ⟨plugin, List.mem_cons_self, .refl⟩
      · exact .inl hp
    · rcases List.mem_append.1 hs with hs | hs
      · exact .inr ⟨name, List.mem_cons_self, .head hs hr⟩
      · exact .inr ⟨start, List.mem_cons_of_mem _ hs, hr⟩

/-- The walk ends with a set that holds all that its members need. -/
theorem needsCovered_closeOver {found pending : List String}
    (h : deps.NeedsCovered found pending) :
    deps.NeedsCovered (deps.closeOver found pending) [] := by
  fun_induction closeOver deps found pending with
  | case1 found => exact h
  | case2 found name rest hname ih => exact ih (h.skip hname)
  | case3 found name rest _ ih => exact ih h.enter

/-! ## The closure -/

theorem mem_closure_of_dependsOn {names : List String} {plugin dependency : String}
    (hp : plugin ∈ deps.closure names) (hdep : deps.DependsOn plugin dependency) :
    dependency ∈ deps.closure names := by
  have covered : deps.NeedsCovered (deps.closure names) [] :=
    needsCovered_closeOver fun name hn => by cases hn
  rcases covered plugin hp dependency hdep with hd | hd
  · exact hd
  · cases hd

/-- The closure of some plugins holds exactly what they lead to along dependencies. A plugin that is
not known leads to itself only. -/
theorem mem_closure {names : List String} {plugin : String} :
    plugin ∈ deps.closure names ↔ ∃ name ∈ names, ReflTransGen deps.DependsOn name plugin := by
  constructor
  · intro h
    rcases reaches_of_mem_closeOver h with hp | hr
    · cases hp
    · exact hr
  · rintro ⟨name, hn, hr⟩
    induction hr with
    | refl => exact (subset_closeOver [] names).2 hn
    | tail _ hdep ih => exact mem_closure_of_dependsOn ih hdep

/-! ## Orders that are cut down -/

theorem Ordered.filter {order : List String} (h : deps.Ordered order) {keep : String → Bool}
    (closed : ∀ plugin dependency, keep plugin = true → deps.DependsOn plugin dependency →
      keep dependency = true) : deps.Ordered (order.filter keep) := by
  induction h with
  | nil => exact .nil
  | @snoc order needed name _ hn hk hneeded ih =>
    rw [List.filter_append]
    by_cases hkeep : keep name = true
    · rw [List.filter_cons_of_pos hkeep, List.filter_nil]
      refine .snoc ih (fun hm => hn (List.mem_filter.1 hm).1) hk fun dependency hd => ?_
      have hdep : deps.DependsOn name dependency := (dependsOn_iff hk).2 hd
      exact List.mem_filter.2 ⟨hneeded dependency hd, closed name dependency hkeep hdep⟩
    · rw [List.filter_cons_of_neg hkeep, List.filter_nil, List.append_nil]
      exact ih

/-- An order that is cut down to the closure of some plugins is ordered. -/
theorem Ordered.filter_closure {order : List String} (h : deps.Ordered order)
    (names : List String) :
    deps.Ordered (order.filter fun name => (deps.closure names).contains name) := by
  apply h.filter
  intro plugin dependency hp hdep
  rw [List.contains_iff_mem] at hp ⊢
  exact mem_closure_of_dependsOn hp hdep

end Dependencies

end LintScan
