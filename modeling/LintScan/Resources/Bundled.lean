/-!
# The documents that come with the program

* `Bundled.files` — the level document, the exceptions and the profile that are used where the user
  has none.
-/

namespace LintScan.Bundled

/-- The text of some lines. -/
def ofLines (lines : List String) : String := String.join (lines.map (· ++ "\n"))

/-- The levels that come with the program. -/
def config : String :=
  ofLines [
    "levels:",
    "  python:",
    "    discovery:",
    "      python:",
    "    tool:",
    "      pylint:",
    "        flags: \"\"",
    "      mypy:",
    "        flags: \"--ignore-missing-imports\"",
    "    reporting:",
    "      print_to_console:",
    "",
    "  lint:",
    "    inherits_from:",
    "      - python",
    "    discovery:",
    "      shell:",
    "      yaml:",
    "      markdown:",
    "      c:",
    "    tool:",
    "      shellcheck:",
    "        flags: \"\"",
    "      yamllint:",
    "        flags: \"-d relaxed\"",
    "      markdownlint:",
    "        flags: \"\"",
    "    reporting:",
    "      json:",
    "        files: \"true\"",
    "        terminal: \"false\"",
    "",
    "  strict:",
    "    inherits_from: lint",
    "    tool:",
    "      pylint:",
    "        flags: \"--disable=R\"",
    "      mypy:",
    "        flags: \"--strict --ignore-missing-imports\"",
    "      yamllint:",
    "        flags: \"-d default\"",
    "    reporting:",
    "      write_jenkins_warnings_ng:"]

/-- The exceptions that come with the program. -/
def exceptions : String :=
  ofLines [
    "ignore_packages:",
    "",
    "global:",
    "  exceptions:",
    "    file:",
    "      - tools: all",
    "        globs: [\"*/build/*\", \"*/.git/*\", \"*/node_modules/*\", \"*/target/*\", "
      ++ "\"*/__pycache__/*\"]",
    "    message_regex:",
    "",
    "packages:"]

/-- The profile that comes with the program. -/
def profile : String :=
  ofLines [
    "default: lint",
    "",
    "packages:"]

/-- The documents by name. -/
def files : List (String × String) :=
  [("config.yaml", config), ("exceptions.yaml", exceptions), ("profile.yaml", profile)]

end LintScan.Bundled
