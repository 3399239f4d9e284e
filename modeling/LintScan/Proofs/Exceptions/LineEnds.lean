import LintScan.Proofs.Exceptions.Filter
import LintScan.Proofs.Text.SourceLines
import LintScan.Proofs.Text.Utf8

/-!
# The line that an issue points to

An issue counts the lines of its file from one.  Which line it means is settled by the lines of the
text that is read from the file, whatever ends them.

* `FilterPass.lineAt_learn` — the line with a number is found among the lines of the file.
* `sourceLines_regardless_of_ends` — the lines of a text, and that a file with other endings has the
  same line for each number.
-/

namespace LintScan

/-- What is read of a file, with a mark for what is not well formed, is a text. -/
def Host.ShowsText (h : Host) (filename text : String) : Prop :=
  ∃ bytes, h.read ⟨filename⟩ = .ok bytes ∧ Text.Utf8.decodeLossy bytes = text

namespace FilterPass

variable {h : Host} {pass : FilterPass} {filename : String}

theorem linesOfFile_of_shows {text : String} (hshows : h.ShowsText filename text) :
    linesOfFile h filename = some (Text.sourceLines text) := by
  obtain ⟨bytes, hread, rfl⟩ := hshows
  rw [linesOfFile, hread]

/-- The line with a number in a file that can be read. -/
theorem lineAt_learn (hp : pass.Remembers h) {text : String} (hshows : h.ShowsText filename text)
    (number : Int) :
    (pass.learn h filename).lineAt filename number =
      if number < 1 then none else (Text.sourceLines text)[(number - 1).toNat]? := by
  rw [lineAt, lookup_learn_self hp, linesOfFile_of_shows hshows]

end FilterPass

namespace Text

theorem isLine_of_mem_sourceLines {s line : String} (h : line ∈ sourceLines s) :
    IsLine line.toList := by
  obtain ⟨chars, hchars, rfl⟩ := List.mem_map.1 h
  rw [String.toList_ofList]
  exact (writesSource_iff.2 rfl).isLine chars hchars

theorem sourceLines_eq_iff {s : String} {lines : List String} :
    sourceLines s = lines ↔ sourceLinesOf s.toList = lines.map String.toList := by
  unfold sourceLines
  constructor
  · rintro rfl
    simp
  · intro h
    simp [h]

end Text

/-- **The lines of a source file.** The lines of a text hold neither of the two characters that end
lines; they are the only lines that write the text, each with its ending behind it, and the last one
perhaps without. When the line feeds of a text without carriage returns become endings of another
kind, the lines stay the same. So a number means the same line in the two files. -/
theorem sourceLines_regardless_of_ends (text : String) :
    (∀ line ∈ Text.sourceLines text, '\n' ∉ line.toList ∧ '\r' ∉ line.toList) ∧
    (∀ lines : List String,
      Text.WritesSource (lines.map String.toList) text.toList ↔ Text.sourceLines text = lines) ∧
    (∀ h filename, h.ShowsText filename text → ∀ pass : FilterPass, pass.Remembers h → ∀ number,
      (pass.learn h filename).lineAt filename number =
        if number < 1 then none else (Text.sourceLines text)[(number - 1).toNat]?) ∧
    ('\r' ∉ text.toList → ∀ (e : Text.LineEnd) (other : String),
      other.toList = Text.withEnds e text.toList →
      Text.sourceLines other = Text.sourceLines text ∧
      ∀ h filename h' filename', h.ShowsText filename text → h'.ShowsText filename' other →
        ∀ pass pass' : FilterPass, pass.Remembers h → pass'.Remembers h' → ∀ number,
          (pass'.learn h' filename').lineAt filename' number =
            (pass.learn h filename).lineAt filename number) := by
  refine ⟨fun line hline => Text.isLine_of_mem_sourceLines hline, fun lines => ?_,
    fun h filename hshows pass hp number => FilterPass.lineAt_learn hp hshows number,
    fun plain e other hother => ?_⟩
  · rw [Text.writesSource_iff, Text.sourceLines_eq_iff]
  · have hlines : Text.sourceLines other = Text.sourceLines text := by
      rw [Text.sourceLines, hother, Text.sourceLinesOf_withEnds plain, Text.sourceLines]
    refine ⟨hlines, fun h filename h' filename' hshows hshows' pass pass' hp hp' number => ?_⟩
    rw [FilterPass.lineAt_learn hp' hshows', FilterPass.lineAt_learn hp hshows, hlines]

/-- A machine with one source file under two names, with line feeds and with carriage returns and
line feeds. -/
def sourceHost : Host where
  files := ⟨[(["unix.py"], .file (Text.Utf8.encode "a = 1\n\nb = 2  # NOLINT\n") 0o644),
    (["dos.py"], .file (Text.Utf8.encode "a = 1\r\n\r\nb = 2  # NOLINT\r\n") 0o644)]⟩
  workingDirectory := []
  searchPath := none
  noColor := true
  logFilter := none
  resourceRoot := ⟨"/"⟩
  programs := fun _ => none

theorem sourceHost_shows : sourceHost.ShowsText "/unix.py" "a = 1\n\nb = 2  # NOLINT\n" ∧
    sourceHost.ShowsText "/dos.py" "a = 1\r\n\r\nb = 2  # NOLINT\r\n" :=
  ⟨⟨_, by decide +kernel, Text.Utf8.decodeLossy_encode _⟩,
    ⟨_, by decide +kernel, Text.Utf8.decodeLossy_encode _⟩⟩

/-- The third line of both files is the one with the marker. -/
theorem sourceLines_unixAndDos :
    '\r' ∉ "a = 1\n\nb = 2  # NOLINT\n".toList ∧
    (({} : FilterPass).learn sourceHost "/dos.py").lineAt "/dos.py" 3 =
      (({} : FilterPass).learn sourceHost "/unix.py").lineAt "/unix.py" 3 ∧
    (({} : FilterPass).learn sourceHost "/unix.py").lineAt "/unix.py" 3 =
      some "b = 2  # NOLINT" := by
  have plain : '\r' ∉ "a = 1\n\nb = 2  # NOLINT\n".toList := by decide
  obtain ⟨hunix, hdos⟩ := sourceHost_shows
  have hempty := FilterPass.remembers_empty sourceHost
  obtain ⟨_, _, hline, hother⟩ := sourceLines_regardless_of_ends "a = 1\n\nb = 2  # NOLINT\n"
  refine ⟨plain, (hother plain .both _ (by decide)).2 _ _ _ _ hunix hdos _ _ hempty hempty 3, ?_⟩
  rw [hline _ _ hunix _ hempty]
  decide

end LintScan
