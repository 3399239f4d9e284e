import LintScan.Table.Sorted
import LintScan.Table.Unvisited

/-!
# Order of plugins

* `Dependencies` — the known plugins, each with the plugins that have to run before it.
* `Dependencies.order` — the listed plugins, each behind its dependencies. With `pullIn` the
  dependencies that are not listed are added; without it they are an error.
* `OrderError` — why there is no such order.

A walk enters only known plugins that it is not in yet, so it ends.
-/

namespace LintScan

/-- The known plugins with their dependencies. -/
abbrev Dependencies := SortedTable String (List String)

/-- Why plugins cannot be put in order. -/
inductive OrderError where
  | unknownPlugin (name : String)
  | missingDependency (plugin dependency : String)
  | cycle (chain : List String)
  deriving Repr, DecidableEq

namespace Dependencies

/-- Whether a dependency is neither listed nor to be added. -/
def isMissing (listed : List String) (pullIn : Bool) (dependency : String) : Bool :=
  !pullIn && !listed.contains dependency

/-- The order `order`, continued by a plugin that is reached through the plugins `visiting`: first
its dependencies, then the plugin. -/
def visit (deps : Dependencies) (listed : List String) (pullIn : Bool) (visiting : List String)
    (name : String) (order : List String) : Except OrderError (List String) :=
  if name ∈ order then .ok order
  else if _fresh : name ∈ visiting then .error (.cycle (visiting ++ [name]))
  else
    match _known : deps.get? name with
    | none => .error (.unknownPlugin name)
    | some needed => do
      let order ← needed.foldlM
        (fun order dependency =>
          if isMissing listed pullIn dependency then .error (.missingDependency name dependency)
          else visit deps listed pullIn (visiting ++ [name]) dependency order)
        order
      .ok (order ++ [name])
termination_by unvisited deps.keys visiting
decreasing_by exact unvisited_append_lt (SortedTable.mem_keys_of_get? _known) _fresh

/-- The listed plugins, each behind its dependencies. -/
def order (deps : Dependencies) (pullIn : Bool) (names : List String) :
    Except OrderError (List String) :=
  names.foldlM (fun order name => deps.visit names pullIn [] name order) []

end Dependencies

end LintScan
