import LintScan.Main
import LintScan.Proofs.Command.UserPaths
import LintScan.Proofs.Config.Default
import LintScan.Proofs.Config.Flattened
import LintScan.Proofs.Config.Merge
import LintScan.Proofs.Config.Parents
import LintScan.Proofs.Config.Plugins
import LintScan.Proofs.Config.Respelled
import LintScan.Proofs.Config.Setting
import LintScan.Proofs.Config.ToolSetting
import LintScan.Proofs.Cycles
import LintScan.Proofs.Discovery.Sniffing
import LintScan.Proofs.Exceptions.Early
import LintScan.Proofs.Exceptions.Filter
import LintScan.Proofs.Exceptions.LineEnds
import LintScan.Proofs.Exceptions.Message
import LintScan.Proofs.Exceptions.Warned
import LintScan.Proofs.Files.Changes
import LintScan.Proofs.Glob.Ranges
import LintScan.Proofs.Report.Console
import LintScan.Proofs.Report.ReadBack
import LintScan.Proofs.Scan.Confined
import LintScan.Proofs.Scan.FindPackages
import LintScan.Proofs.Scan.Result
import LintScan.Proofs.Scan.Timings
import LintScan.Proofs.Schedule.Order
import LintScan.Proofs.Schedule.Stable
import LintScan.Proofs.Settings.Output
import LintScan.Proofs.Settings.Root
import LintScan.Proofs.Settings.UserPaths
import LintScan.Proofs.Text.Words
import LintScan.Proofs.Tool.Flags
import LintScan.Proofs.Tool.Inherited
import LintScan.Proofs.Tool.LineCheckers
import LintScan.Proofs.Tool.Mapping
import LintScan.Proofs.Tool.Pylint
import LintScan.Proofs.Tool.Spelling
