import LintScan.Proofs.Firsts
import LintScan.Proofs.Schedule.Order

/-!
# Orders that stay as they are

Plugins are put in order by walks that go down before they add anything. Where all that a plugin
needs is there already, such a walk turns back at once, so a list that is in order keeps its order.

* `IsReady` — a list in which each plugin is known and stands behind all that it needs; unlike an
  order it may hold a plugin again.
* `visit_of_ready` — a plugin with all that it needs in front of it goes right behind the order.
* `order_of_isReady` — what has been put in order at each step are the first occurrences of the
  plugins so far.
* `visit_agree` — a walk asks for the plugins that it orders and for no others.
* `order_keeps_ready` — these together, for orders that are put in order again.
-/

namespace LintScan

namespace Dependencies

variable {deps others : Dependencies} {listed : List String} {pullIn : Bool}

/-- Every plugin of the list is known and has all that it needs in front of it. -/
def IsReady (deps : Dependencies) (names : List String) : Prop :=
  ∀ before name after, names = before ++ name :: after →
    ∃ needed, deps.get? name = some needed ∧ needed ⊆ before

theorem Ordered.isReady {order : List String} (h : deps.Ordered order) : deps.IsReady order := by
  intro before name after he
  have hname : name ∈ order := by simp [he]
  obtain ⟨needed, hneeded⟩ := Option.isSome_iff_exists.1 (h.known name hname)
  exact ⟨needed, hneeded, fun dependency hd =>
    h.behind he dependency ((dependsOn_iff hneeded).2 hd)⟩

/-! ## Lists that are in order -/

/-- The walk looks at all that the plugin needs and finds it in the order. -/
theorem foldlM_visitNeeded_of_subset {visiting needed order : List String} {name : String}
    (hlisted : needed ⊆ listed) (hordered : needed ⊆ order) :
    needed.foldlM (deps.visitNeeded listed pullIn visiting name) order = .ok order := by
  induction needed with
  | nil => rfl
  | cons dependency needed ih =>
    have hmissing : isMissing listed pullIn dependency = false :=
      isMissing_eq_false_iff.2 (.inr (hlisted List.mem_cons_self))
    have hstep : deps.visitNeeded listed pullIn visiting name order dependency = .ok order := by
      rw [visitNeeded, hmissing, if_neg Bool.false_ne_true,
        visit_of_mem visiting (hordered List.mem_cons_self)]
    rw [List.foldlM_cons, hstep]
    exact ih (fun d hd => hlisted (List.mem_cons_of_mem dependency hd))
      fun d hd => hordered (List.mem_cons_of_mem dependency hd)

theorem visit_of_ready {order needed : List String} {name : String} (hnew : name ∉ order)
    (hknown : deps.get? name = some needed) (hlisted : needed ⊆ listed)
    (hordered : needed ⊆ order) :
    deps.visit listed pullIn [] name order = .ok (order ++ [name]) := by
  rw [visit_of_known hnew List.not_mem_nil hknown,
    foldlM_visitNeeded_of_subset hlisted hordered]
  rfl

theorem order_of_isReady {names : List String} (h : deps.IsReady names) (pullIn : Bool) :
    deps.order pullIn names = .ok names.eraseDups := by
  -- The order holds the first occurrences of the plugins `before`; `rest` is still to be visited.
  have hwalk : ∀ rest before, names = before ++ rest →
      rest.foldlM (fun order name => deps.visit names pullIn [] name order) before.eraseDups =
        .ok names.eraseDups := by
    intro rest
    induction rest with
    | nil =>
      intro before he
      rw [he, List.append_nil]
      rfl
    | cons name rest ih =>
      intro before he
      have hstep : deps.visit names pullIn [] name before.eraseDups =
          .ok (before ++ [name]).eraseDups := by
        rw [eraseDups_snoc]
        split
        · rename_i hmet
          exact visit_of_mem [] hmet
        · rename_i hnew
          obtain ⟨needed, hknown, hneeded⟩ := h before name rest he
          refine visit_of_ready hnew hknown (fun d hd => ?_) fun d hd => ?_
          · rw [he]
            exact List.mem_append_left _ (hneeded hd)
          · exact List.mem_eraseDups.2 (hneeded hd)
      rw [List.foldlM_cons, hstep]
      exact ih (before ++ [name]) (by rw [he, List.append_assoc, List.singleton_append])
  exact hwalk names [] rfl

/-! ## What a walk asks for -/

/-- Two tables that say the same of the plugins of an order. -/
def AgreeOn (deps others : Dependencies) (order : List String) : Prop :=
  ∀ plugin ∈ order, others.get? plugin = deps.get? plugin

/-- A visit that ends well goes the same way along any table that says the same of the plugins that
it has put in order. -/
theorem visit_agree {visiting order order' : List String} {name : String}
    (h : deps.visit listed pullIn visiting name order = .ok order')
    (agree : deps.AgreeOn others order') :
    others.visit listed pullIn visiting name order = .ok order' := by
  induction visiting, name, order using visit.induct deps generalizing order' with
  | case1 visiting name order hn =>
    rw [visit_of_mem visiting hn] at h ⊢
    exact h
  | case2 visiting name order hn hv =>
    rw [visit_of_visiting hn hv] at h
    cases h
  | case3 visiting name order hn hv hk =>
    rw [visit_of_unknown hn hv hk] at h
    cases h
  | case4 visiting name order hn hv needed hk ih =>
    rw [visit_of_known hn hv hk, bind_eq_ok_iff] at h
    obtain ⟨mid, hfold, h⟩ := h
    cases h
    have hk' : others.get? name = some needed := (agree name (by simp)).trans hk
    have hmid : deps.AgreeOn others mid := fun p hp => agree p (List.mem_append_left _ hp)
    have hfold' : needed.foldlM (others.visitNeeded listed pullIn (visiting ++ [name]) name) order =
        .ok mid := by
      refine (foldlM_ok_congr (fun hs ht p hp => ?_) (fun hs ht => ?_) hfold hmid).2
      · exact ht p ((visit_continues (visitNeeded_ok hs).2).kept hp)
      · obtain ⟨hmissing, hvisit⟩ := visitNeeded_ok hs
        rw [visitNeeded, hmissing, if_neg Bool.false_ne_true]
        exact ih _ _ hvisit ht
    rw [visit_of_known hn hv hk', hfold']
    rfl

theorem order_agree {names order : List String} (h : deps.order pullIn names = .ok order)
    (agree : deps.AgreeOn others order) : others.order pullIn names = .ok order := by
  refine (foldlM_ok_congr (fun hs ht p hp => ?_) (fun hs ht => ?_) h agree).2
  · exact ht p ((visit_continues hs).kept hp)
  · exact visit_agree hs ht

/-! ## Orders that are put in order again -/

/-- **An order stays as it is.** Plugins that have been put in order are left as they are when they
are put in order again, whether dependencies are to be added or not. A list in which every plugin is
known and stands behind all that it needs loses its later repetitions and keeps its order. A walk
that ends well has asked only for the plugins that it puts in order; so these hold along any
function from plugins to dependencies, of which the table is the part that has been asked for. -/
theorem order_keeps_ready (deps : Dependencies) :
    (∀ pullIn names order, deps.order pullIn names = .ok order →
      ∀ mode, deps.order mode order = .ok order) ∧
    (∀ names, (∀ before name after, names = before ++ name :: after →
        ∃ needed, deps.get? name = some needed ∧ needed ⊆ before) →
      ∀ pullIn, deps.order pullIn names = .ok names.eraseDups) ∧
    ∀ pullIn names order, deps.order pullIn names = .ok order →
      ∀ others : Dependencies, (∀ plugin ∈ order, others.get? plugin = deps.get? plugin) →
        others.order pullIn names = .ok order := by
  refine ⟨fun pullIn names order h mode => ?_, fun names h => order_of_isReady h,
    fun pullIn names order h others agree => order_agree h agree⟩
  have hordered := order_ordered h
  rw [order_of_isReady hordered.isReady mode, eraseDups_of_nodup hordered.nodup]

end Dependencies

end LintScan
