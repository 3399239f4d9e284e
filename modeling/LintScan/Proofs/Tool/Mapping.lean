import LintScan.Proofs.Table.Sorted
import LintScan.Proofs.Text.Lines
import LintScan.Proofs.Text.Pieces
import LintScan.Proofs.Text.Stripped
import LintScan.Tool.Mapping
import Mathlib.Data.List.Forall2

/-!
# Reading a mapping file

A mapping file has a pair of a warning and a reference on each line.  Blanks around a pair do not
count, nor do blank lines; any other line is left out with a complaint.

* `MappingLine.Spells` — what a line may look like that says something; `spells_iff` says that it is
  read as that.
* `MappingLine.Written` — a text writes some lines, each with one of the two endings.
* `Resources.IsFirst`, `Resources.FindsMapping` — the file of a name that comes first in the chain
  of directories, and the file that is read for a tool.
* `Resources.mapping_reads_written` — the mapping of a tool is what the lines of that file say.
-/

namespace LintScan

/-! ## Lines -/

namespace MappingLine

open Text

/-- What a line looks like that says something. Blanks around a pair do not count, and blanks around
the colon belong to its two sides. A line is invalid if it has no colon or several. -/
inductive Spells : MappingLine → List Char → Prop
  | blank {cs : List Char} (hblank : ∀ c ∈ cs, isBlank c = true) : Spells .blank cs
  | pair {before behind : List Char} {warning reference : String}
      (hbefore : ∀ c ∈ before, isBlank c = true) (hbehind : ∀ c ∈ behind, isBlank c = true)
      (hwarning : ':' ∉ warning.toList) (hreference : ':' ∉ reference.toList)
      (hhead : ∀ c ∈ warning.toList.head?, isBlank c = false)
      (hlast : ∀ c ∈ reference.toList.getLast?, isBlank c = false) :
      Spells (.pair warning reference)
        (before ++ (warning.toList ++ ':' :: reference.toList) ++ behind)
  | invalid {before behind : List Char} {line : String}
      (hbefore : ∀ c ∈ before, isBlank c = true) (hbehind : ∀ c ∈ behind, isBlank c = true)
      (hne : line ≠ "") (hcolons : line.toList.count ':' ≠ 1)
      (hhead : ∀ c ∈ line.toList.head?, isBlank c = false)
      (hlast : ∀ c ∈ line.toList.getLast?, isBlank c = false) :
      Spells (.invalid line) (before ++ line.toList ++ behind)

variable {l : MappingLine} {ls : List MappingLine} {cs : List Char}

/-- The colon is not blank, so a pair begins with a blank exactly if the warning does. -/
theorem head_pair_iff {a b : List Char} :
    (∀ c ∈ (a ++ ':' :: b).head?, isBlank c = false) ↔ ∀ c ∈ a.head?, isBlank c = false := by
  have hcolon : isBlank ':' = false := by decide
  cases a <;> simp [hcolon]

theorem last_pair_iff {a b : List Char} :
    (∀ c ∈ (a ++ ':' :: b).getLast?, isBlank c = false) ↔ ∀ c ∈ b.getLast?, isBlank c = false := by
  have hcolon : isBlank ':' = false := by decide
  cases b <;> simp [hcolon, List.getLast?_cons]

theorem Spells.ofChars_eq (h : Spells l cs) : ofChars cs = l := by
  unfold ofChars
  cases h with
  | blank hblank =>
    have hnone : trimChars cs = [] := trimChars_eq_nil_iff.2 (List.all_eq_true.2 hblank)
    rw [hnone]
    rfl
  | @pair before behind warning reference hbefore hbehind hwarning hreference hhead hlast =>
    have htrim : trimChars (before ++ (warning.toList ++ ':' :: reference.toList) ++ behind) =
        warning.toList ++ ':' :: reference.toList :=
      stripWhere_surrounded hbefore hbehind (head_pair_iff.2 hhead) (last_pair_iff.2 hlast)
    simp only
    rw [htrim, splitAtEach_eq_pair_iff.2 ⟨rfl, hwarning, hreference⟩, if_neg (by simp)]
    simp only [String.ofList_toList]
  | @invalid before behind line hbefore hbehind hne hcolons hhead hlast =>
    have htrim : trimChars (before ++ line.toList ++ behind) = line.toList :=
      stripWhere_surrounded hbefore hbehind hhead hlast
    simp only
    rw [htrim, if_neg (by simpa using hne), String.ofList_toList]
    split
    · rename_i warning reference hpieces
      have hlength := length_splitAtEach ':' line.toList
      rw [hpieces] at hlength
      exact absurd (Nat.succ.inj hlength).symm hcolons
    · rfl

theorem spells_ofChars (cs : List Char) : Spells (ofChars cs) cs := by
  obtain ⟨before, behind, hbefore, hbehind, hcs⟩ := exists_stripWhere isBlank cs
  have hhead : ∀ c ∈ (trimChars cs).head?, isBlank c = false := head_stripWhere
  have hlast : ∀ c ∈ (trimChars cs).getLast?, isBlank c = false := last_stripWhere
  rw [← trimChars] at hcs
  unfold ofChars
  simp only
  split
  · rename_i hempty
    exact .blank (List.all_eq_true.1 (trimChars_eq_nil_iff.1 (List.isEmpty_iff.1 hempty)))
  · rename_i hne
    split
    · rename_i warning reference hpieces
      obtain ⟨htrim, hwarning, hreference⟩ := splitAtEach_eq_pair_iff.1 hpieces
      rw [htrim] at hcs hhead hlast
      have hspells : Spells (.pair (String.ofList warning) (String.ofList reference)) _ :=
        .pair hbefore hbehind (by simpa using hwarning) (by simpa using hreference)
          (by simpa using head_pair_iff.1 hhead) (by simpa using last_pair_iff.1 hlast)
      simpa only [String.toList_ofList, ← hcs] using hspells
    · rename_i hpieces
      have hcolons : (trimChars cs).count ':' ≠ 1 := by
        intro hcount
        have hlength := length_splitAtEach ':' (trimChars cs)
        rw [hcount, List.length_eq_two] at hlength
        obtain ⟨warning, reference, hpair⟩ := hlength
        exact hpieces warning reference hpair
      have hspells : Spells (.invalid (String.ofList (trimChars cs))) _ :=
        .invalid hbefore hbehind (by simpa using hne) (by simpa using hcolons)
          (by simpa using hhead) (by simpa using hlast)
      simpa only [String.toList_ofList, ← hcs] using hspells

/-- A line is read as what it says, and every line says something. -/
theorem spells_iff : Spells l cs ↔ ofChars cs = l :=
  ⟨Spells.ofChars_eq, fun h => h ▸ spells_ofChars cs⟩

/-! ## Texts -/

/-- A text writes some lines, each with one of the two endings, the last one perhaps without. -/
def Written (ls : List MappingLine) (cs : List Char) : Prop :=
  ∃ raws, List.Forall₂ Spells ls raws ∧ Writes raws cs

theorem written_iff : Written ls cs ↔ (linesOf cs).map ofChars = ls := by
  have hspells : Spells = fun l cs => l = ofChars cs :=
    funext₂ fun _ _ => propext (spells_iff.trans eq_comm)
  have hread : ∀ raws, List.Forall₂ Spells ls raws ↔ raws.map ofChars = ls := fun raws => by
    rw [hspells, ← List.forall₂_map_right_iff, List.forall₂_eq_eq_eq, eq_comm]
  unfold Written
  simp only [hread, writes_iff]
  constructor
  · rintro ⟨_, h, rfl⟩
    exact h
  · exact fun h => ⟨_, h, rfl⟩

end MappingLine

theorem readMapping_written {ls : List MappingLine} {file text : String}
    (written : MappingLine.Written ls text.toList) :
    readMapping file text =
      (.ofList (MappingLine.pairs ls), ls.filterMap (MappingLine.complaint? file)) := by
  rw [readMapping, MappingLine.written_iff.1 written]

/-! ## Files -/

namespace Resources

variable {r : Resources} {h : Host} {s : Settings} {name tool : String}
  {path : Path}

/-- The file of a name in the first of the directories that has one: those of the user come in their
order, and the one of the program comes last. -/
def IsFirst (r : Resources) (h : Host) (name : String) (path : Path) : Prop :=
  ∃ before root behind, r.userPaths ++ [r.defaultPath] = before ++ root :: behind ∧
    (∀ earlier ∈ before, h.hasFile (place earlier name) = false) ∧
    h.hasFile (place root name) = true ∧ path = place root name

/-- The file that is read for a tool: the first one with the suffix of the settings, or the first
plain one if there is no suffix or no directory has such a file. -/
def FindsMapping (r : Resources) (h : Host) (s : Settings) (tool : String) (path : Path) : Prop :=
  (∃ suffix, s.mappingFileSuffix = some suffix ∧
    r.IsFirst h ("plugin_mapping/" ++ tool ++ "-" ++ suffix ++ ".txt") path) ∨
  (∀ suffix, s.mappingFileSuffix = some suffix → ∀ root ∈ r.userPaths ++ [r.defaultPath],
    h.hasFile (place root ("plugin_mapping/" ++ tool ++ "-" ++ suffix ++ ".txt")) = false) ∧
  r.IsFirst h ("plugin_mapping/" ++ tool ++ ".txt") path

theorem file?_eq_some_iff : r.file? h name = some path ↔ r.IsFirst h name path := by
  unfold file? fileIn? paths IsFirst
  rw [List.find?_map, Option.map_eq_some_iff]
  constructor
  · rintro ⟨root, hroot, rfl⟩
    obtain ⟨hfile, before, behind, hsplit, hearlier⟩ := List.find?_eq_some_iff_append.1 hroot
    exact ⟨before, root, behind, hsplit, fun p hp => by simpa using hearlier p hp, hfile, rfl⟩
  · rintro ⟨before, root, behind, hsplit, hearlier, hfile, rfl⟩
    refine ⟨root, List.find?_eq_some_iff_append.2 ⟨hfile, before, behind, hsplit, ?_⟩, rfl⟩
    exact fun p hp => by simpa using hearlier p hp

theorem file?_eq_none_iff :
    r.file? h name = none ↔
      ∀ root ∈ r.userPaths ++ [r.defaultPath], h.hasFile (place root name) = false := by
  unfold file? fileIn? paths
  rw [List.find?_map, Option.map_eq_none_iff, List.find?_eq_none]
  simp only [Function.comp_apply, Bool.not_eq_true]

theorem mappingName_special (tool suffix : String) :
    mappingName (tool ++ "-" ++ suffix) = "plugin_mapping/" ++ tool ++ "-" ++ suffix ++ ".txt" := by
  show "plugin_mapping/" ++ (tool ++ "-" ++ suffix) ++ ".txt" = _
  simp only [String.append_assoc]

theorem mappingFile?_eq_some_iff :
    r.mappingFile? h s tool = some path ↔ r.FindsMapping h s tool path := by
  unfold mappingFile? FindsMapping
  simp only [Option.or_eq_some_iff, Option.bind_eq_some_iff, Option.bind_eq_none_iff,
    mappingName_special, file?_eq_some_iff, file?_eq_none_iff]
  rfl

/-- **What a mapping file says.** The file that is read for a tool is the first one with the suffix
of the settings, or else the first plain one. Every text writes some lines; and if the text of the
file writes some lines, the mapping has the last reference that they give for each warning, and the
log has one complaint for each line that is invalid. So a mapping comes back from a file with its
pairs in any order, whatever else stands between them. -/
theorem mapping_reads_written (r : Resources) (h : Host) (s : Settings) (tool : String) :
    (∀ path, r.mappingFile? h s tool = some path ↔ r.FindsMapping h s tool path) ∧
    ∀ path text, r.FindsMapping h s tool path → h.readText path = .ok text →
      (∃ ls, MappingLine.Written ls text.toList) ∧
      ∀ ls, MappingLine.Written ls text.toList →
        (∀ warning, (r.mapping h s tool).1.get? warning =
          (MappingLine.pairs ls).reverse.lookup warning) ∧
        (∀ m : Mapping, (MappingLine.pairs ls).Perm m.entries → (r.mapping h s tool).1 = m) ∧
        (r.mapping h s tool).2 = ls.filterMap
          (MappingLine.complaint? ("plugin_mapping/" ++ tool ++ ".txt")) := by
  refine ⟨fun path => mappingFile?_eq_some_iff, fun path text hfinds hread =>
    ⟨⟨_, MappingLine.written_iff.2 rfl⟩, fun ls written => ?_⟩⟩
  have hmapping : r.mapping h s tool = (.ofList (MappingLine.pairs ls),
      ls.filterMap (MappingLine.complaint? ("plugin_mapping/" ++ tool ++ ".txt"))) := by
    rw [mapping, mappingFile?_eq_some_iff.2 hfinds]
    simp only [hread]
    exact readMapping_written written
  rw [hmapping]
  exact ⟨SortedTable.get?_ofList _, fun m hperm => SortedTable.ofList_of_perm hperm, rfl⟩

/-- A machine with a plain mapping file in one directory and two special ones behind it. -/
def mappingHost : Host where
  files := ⟨[(["a"], .directory), (["a", "rsc"], .directory),
    (["a", "rsc", "plugin_mapping"], .directory),
    (["a", "rsc", "plugin_mapping", "t.txt"], .file (Text.Utf8.encode "P:plain\n") 0o644),
    (["b"], .directory), (["b", "rsc"], .directory), (["b", "rsc", "plugin_mapping"], .directory),
    (["b", "rsc", "plugin_mapping", "t-x.txt"],
      .file (Text.Utf8.encode "W2:old\n\n  W2:REF-2 \r\nno pair\na:b:c\n W1:REF-1") 0o644),
    (["c"], .directory), (["c", "rsc"], .directory), (["c", "rsc", "plugin_mapping"], .directory),
    (["c", "rsc", "plugin_mapping", "t-x.txt"], .file (Text.Utf8.encode "P:last\n") 0o644)]⟩
  workingDirectory := []
  searchPath := none
  noColor := true
  logFilter := none
  resourceRoot := ⟨"/"⟩
  programs := fun _ => none

/-- The first special file is read. Its pairs make up the mapping, the second one for a warning in
the place of the first, and the two lines that are no pairs are complained about. -/
theorem mapping_mappingHost :
    let r : Resources := { userPaths := [⟨"/a"⟩, ⟨"/b"⟩], defaultPath := ⟨"/c"⟩ }
    let s : Settings := { mappingFileSuffix := some "x" }
    r.FindsMapping mappingHost s "t" ⟨"/b/rsc/plugin_mapping/t-x.txt"⟩ ∧
    (r.mapping mappingHost s "t").1.get? "W2" = some "REF-2" ∧
    (r.mapping mappingHost s "t").1.get? "W1" = some "REF-1" ∧
    (r.mapping mappingHost s "t").2.map LogEntry.text =
      ["Invalid line no pair in mapping file plugin_mapping/t.txt",
        "Invalid line a:b:c in mapping file plugin_mapping/t.txt"] := by
  intro r s
  obtain ⟨hfile, hmapping⟩ := mapping_reads_written r mappingHost s "t"
  have hfinds := (hfile ⟨"/b/rsc/plugin_mapping/t-x.txt"⟩).1 (by decide +kernel)
  have hread : mappingHost.readText ⟨"/b/rsc/plugin_mapping/t-x.txt"⟩ =
      .ok "W2:old\n\n  W2:REF-2 \r\nno pair\na:b:c\n W1:REF-1" := by decide +kernel
  have hwritten : MappingLine.Written
      [.pair "W2" "old", .blank, .pair "W2" "REF-2", .invalid "no pair", .invalid "a:b:c",
        .pair "W1" "REF-1"] "W2:old\n\n  W2:REF-2 \r\nno pair\na:b:c\n W1:REF-1".toList :=
    MappingLine.written_iff.2 (by decide +kernel)
  obtain ⟨hget, _, hlog⟩ := (hmapping _ _ hfinds hread).2 _ hwritten
  refine ⟨hfinds, ?_, ?_, ?_⟩
  · rw [hget]
    rfl
  · rw [hget]
    rfl
  · rw [hlog]
    rfl

end Resources

end LintScan
