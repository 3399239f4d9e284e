import LintScan.Discovery.Basic
import LintScan.Report.Basic
import LintScan.Schedule.Closure
import LintScan.Tool.Builtin

/-!
# The registry of plugins

* `Registry` — the plugins of each kind by name.
* `Registry.builtin` — those that are known from the start.
-/

namespace LintScan

/-- The plugins of each kind by name. -/
structure Registry where
  discovery : SortedTable String DiscoveryPlugin := .empty
  tool : SortedTable String ToolPlugin := .empty
  reporting : SortedTable String ReportingPlugin := .empty

namespace Registry

/-- The registry with a discovery plugin; it takes the place of one with the same name. -/
def addDiscovery (r : Registry) (d : DiscoveryPlugin) : Registry :=
  { r with discovery := r.discovery.insert d.name d }

/-- The registry with a tool; it takes the place of one with the same name. -/
def addTool (r : Registry) (t : ToolPlugin) : Registry := { r with tool := r.tool.insert t.name t }

/-- The registry with a reporting plugin; it takes the place of one with the same name. -/
def addReporting (r : Registry) (p : ReportingPlugin) : Registry :=
  { r with reporting := r.reporting.insert p.name p }

/-- The registry of the given plugins. -/
def ofLists (ds : List DiscoveryPlugin) (ts : List ToolPlugin) (ps : List ReportingPlugin) :
    Registry :=
  ps.foldl addReporting (ts.foldl addTool (ds.foldl addDiscovery {}))

/-- The built-in plugins. -/
def builtin : Registry :=
  ofLists DiscoveryPlugin.builtin ToolPlugin.builtin ReportingPlugin.builtin

/-- The discovery plugins with their dependencies. -/
def discoveryDependencies (r : Registry) : Dependencies := r.discovery.map fun _ d => d.dependencies

/-- The tools with their dependencies. -/
def toolDependencies (r : Registry) : Dependencies := r.tool.map fun _ t => t.dependencies

end Registry

end LintScan
