import LintScan.Proofs.Discovery.Order
import LintScan.Proofs.Files.LastName
import LintScan.Proofs.Text.Utf8
import LintScan.Proofs.Unicode.Case

/-!
# What sniffing lets in

The sniffing program prints the path of a file in front of what it says of the contents, and the
plugins that look for a kind of file search the whole of it. So a directory may speak for the files
below it.

* `Sniffing`, `DiscoveryPlugin.sniffing` — the plugins that look for kinds of files.
* `mentions_told` — what is printed mentions a kind exactly if a directory above the file, its name
  or its type does.
* `Host.Sniffed`, `Host.Sniffed.mem_claimed_iff` — a file that is walked and sniffed, and whether a
  plugin claims it.
* `DiscoveryPlugin.claimed_alike_iff` — two files with one name and one type are treated alike
  exactly if their directories are not what decides, or mention a kind both or neither.
-/

namespace LintScan

/-! ## Names and kinds -/

/-- A text holds one of the kinds, upper and lower case taken for the same. -/
def Mentions (kinds : List String) (text : String) : Prop :=
  ∃ kind ∈ kinds, Text.occursIn kind (Unicode.lowercase text) = true

instance (kinds : List String) (text : String) : Decidable (Mentions kinds text) :=
  inferInstanceAs (Decidable (∃ kind ∈ kinds, _))

/-- A name ends in one of the given ways, upper and lower case taken for the same. -/
def HasEnding (endings : List String) (name : String) : Prop :=
  ∃ e ∈ endings, Text.endsWith e.toList (Unicode.lowercase name).toList = true

instance (endings : List String) (name : String) : Decidable (HasEnding endings name) :=
  inferInstanceAs (Decidable (∃ e ∈ endings, _))

/-- A kind does not reach from one part of what is printed into the next. -/
structure IsKind (kind : String) : Prop where
  slash : '/' ∉ kind.toList
  colon : ':' ∉ kind.toList
  blank : kind.toList.head? ≠ some ' '
  sigma : 'σ' ∉ kind.toList
  finalSigma : 'ς' ∉ kind.toList

/-- How a plugin looks at a file: the endings that make it claim the file, the kinds that it looks
for otherwise, and the endings with which it does not. -/
structure Sniffing where
  extensions : List String
  kinds : List String
  excluded : List String

namespace Sniffing

/-- Python sources. -/
def python : Sniffing where
  extensions := [".py"]
  kinds := ["python script"]
  excluded := [".cfg"]

/-- Shell scripts. -/
def shell : Sniffing where
  extensions := [".sh", ".bash", ".zsh", ".csh", ".ksh", ".dash"]
  kinds := ["shell script", "dash script", "zsh script"]
  excluded := []

/-- C and C++ sources. -/
def c : Sniffing where
  extensions := [".c", ".cc", ".cpp", ".cxx", ".h", ".hxx", ".hpp"]
  kinds := ["c source", "c program", "c++ source"]
  excluded := [".cfg"]

end Sniffing

namespace DiscoveryPlugin

/-- The plugins that look for kinds of files. -/
def sniffing : List (DiscoveryPlugin × Sniffing) :=
  [(python, .python), (shell, .shell), (c, .c)]

variable {d : DiscoveryPlugin} {form : Sniffing}

theorem sniffing_cases (hd : (d, form) ∈ sniffing) :
    (d = python ∧ form = .python) ∨ (d = shell ∧ form = .shell) ∨ (d = c ∧ form = .c) := by
  simpa [sniffing] using hd

theorem builtin_of_sniffing (hd : (d, form) ∈ sniffing) : d ∈ builtin := by
  rcases sniffing_cases hd with ⟨rfl, _⟩ | ⟨rfl, _⟩ | ⟨rfl, _⟩ <;> simp [builtin]

theorem isKind_of_sniffing (hd : (d, form) ∈ sniffing) : ∀ kind ∈ form.kinds, IsKind kind := by
  intro kind hkind
  rcases sniffing_cases hd with ⟨_, rfl⟩ | ⟨_, rfl⟩ | ⟨_, rfl⟩ <;>
    simp only [Sniffing.python, Sniffing.shell, Sniffing.c, List.mem_cons, List.not_mem_nil,
      or_false] at hkind
  · obtain rfl := hkind
    constructor <;> decide
  · rcases hkind with rfl | rfl | rfl <;> constructor <;> decide
  · rcases hkind with rfl | rfl | rfl <;> constructor <;> decide

/-- A plugin that looks for kinds claims a file for its ending, or else for a kind. -/
theorem claims_of_sniffing (hd : (d, form) ∈ sniffing) (f : PackageFile) :
    d.claims f = (f.hasExtension form.extensions ||
      (f.isDescribedAs form.kinds && !f.hasExtension form.excluded)) := by
  rcases sniffing_cases hd with ⟨rfl, rfl⟩ | ⟨rfl, rfl⟩ | ⟨rfl, rfl⟩
  · rfl
  · have hnone : f.hasExtension Sniffing.shell.excluded = false := rfl
    rw [hnone, Bool.not_false, Bool.and_true]
    rfl
  · rfl

end DiscoveryPlugin

/-! ## What is printed -/

/-- What is printed of a file, in lower case, is put together from its parts in lower case. -/
theorem lowered_told (dir base type : String) :
    Unicode.lowered (dir ++ "/" ++ base ++ ": " ++ type).toList =
      Unicode.lowered dir.toList ++ '/' ::
        (Unicode.lowered base.toList ++ ':' :: ' ' :: Unicode.lowered type.toList) := by
  have htext : (dir ++ "/" ++ base ++ ": " ++ type).toList =
      dir.toList ++ '/' :: (base.toList ++ ':' :: ' ' :: type.toList) := by
    simp
  rw [htext, Unicode.lowered_append, Unicode.lowered_cons (by decide +kernel),
    Unicode.lowered_append, Unicode.lowered_cons (by decide +kernel),
    Unicode.lowered_cons (by decide +kernel)]

theorem IsKind.occursIn_told {kind : String} (hkind : IsKind kind) (dir base type : String) :
    Text.occursIn kind (Unicode.lowercase (dir ++ "/" ++ base ++ ": " ++ type)) = true ↔
      Text.occursIn kind (Unicode.lowercase base) = true ∨
        Text.occursIn kind (Unicode.lowercase type) = true ∨
          Text.occursIn kind (Unicode.lowercase dir) = true := by
  obtain ⟨slash, colon, blank, sigma, finalSigma⟩ := hkind
  have hblank : kind.toList <:+: ' ' :: Unicode.lowered type.toList ↔
      kind.toList <:+: Unicode.lowered type.toList := by
    rw [List.infix_cons_iff, or_iff_right_of_imp]
    intro hbegins
    rcases List.prefix_cons_iff.1 hbegins with hnil | ⟨rest, hrest, _⟩
    · exact hnil ▸ List.nil_infix
    · exact absurd (congrArg List.head? hrest) blank
  simp only [Unicode.occursIn_lowercase_iff sigma finalSigma]
  rw [lowered_told, Text.infix_append_cons_iff slash, Text.infix_append_cons_iff colon, hblank,
    or_comm, or_assoc]

/-- What is printed of a file mentions a kind if one of its parts does. -/
theorem mentions_told {kinds : List String} (hkinds : ∀ kind ∈ kinds, IsKind kind)
    (dir base type : String) : Mentions kinds (dir ++ "/" ++ base ++ ": " ++ type) ↔
      Mentions kinds base ∨ Mentions kinds type ∨ Mentions kinds dir := by
  constructor
  · rintro ⟨kind, hkind, hmentions⟩
    rcases ((hkinds kind hkind).occursIn_told dir base type).1 hmentions with hbase | htype | hdir
    · exact .inl ⟨kind, hkind, hbase⟩
    · exact .inr (.inl ⟨kind, hkind, htype⟩)
    · exact .inr (.inr ⟨kind, hkind, hdir⟩)
  · have htold : ∀ kind ∈ kinds, _ := fun kind hkind =>
      ((hkinds kind hkind).occursIn_told dir base type).2
    rintro (⟨kind, hkind, hbase⟩ | ⟨kind, hkind, htype⟩ | ⟨kind, hkind, hdir⟩)
    · exact ⟨kind, hkind, htold kind hkind (.inl hbase)⟩
    · exact ⟨kind, hkind, htold kind hkind (.inr (.inl htype))⟩
    · exact ⟨kind, hkind, htold kind hkind (.inr (.inr hdir))⟩

/-- The text of a path in front of its last slash. -/
def Path.above (p : Path) : String :=
  String.ofList ((p.text.toList.reverse.dropWhile (· != '/')).tail.reverse)

theorem Path.above_of_text {p : Path} {dir base : String} (htext : p.text = dir ++ "/" ++ base)
    (hslash : '/' ∉ base.toList) : p.above = dir := by
  have hchars : p.text.toList.reverse = base.toList.reverse ++ '/' :: dir.toList.reverse := by
    simp [htext]
  have hbase : ∀ c ∈ base.toList.reverse, (c != '/') = true := fun c hc =>
    bne_iff_ne.2 (ne_of_mem_of_not_mem (List.mem_reverse.1 hc) hslash)
  rw [above, hchars, List.dropWhile_append_of_pos hbase, List.dropWhile_cons_of_neg (by simp),
    List.tail_cons, List.reverse_reverse, String.ofList_toList]

namespace Host

/-- The files that a plugin claims in the package at a path, where nothing is excepted. -/
def claimed (h : Host) (ctx : PluginContext) (level : String) (d : DiscoveryPlugin) (root : Path) :
    List Path :=
  ((d.scan ctx (.ofPath root) level none).runFrom { host := h }).1.paths d.tag

/-- A file of the package at a path is walked and sniffed: it has a name, and the sniffing program
prints its path and its type. -/
structure Sniffed (h : Host) (root p : Path) (base type : String) : Prop where
  tree : h.files.IsTree
  walked : p ∈ h.regularFiles root
  named : p.fileName? = some base
  sniffs : h.commandExists Package.sniffer = true
  told : ∃ errors, (h.findProgram Package.sniffer >>= (h.runProgram · [(h.absolute p).text])) =
    .ok ⟨Text.Utf8.encode ((h.absolute p).text ++ ": " ++ type), errors, .code 0⟩

variable {h : Host} (ctx : PluginContext) (level : String) {root p : Path} {d : DiscoveryPlugin}
  {form : Sniffing} {base type : String}

theorem mem_claimed_iff (tree : h.files.IsTree) (hp : p ∈ h.regularFiles root)
    (hd : d ∈ DiscoveryPlugin.builtin) :
    h.absolute p ∈ h.claimed ctx level d root ↔ d.claims (h.recordOf p) = true := by
  have hclaimed : h.claimed ctx level d root =
      Package.pathsFound (Package.ofPath root).name d.claims none (h.packageFiles root) := by
    obtain ⟨_, hrun⟩ := Package.collect_runFrom d.tag d.claims none (.ofPath root) { host := h }
    rw [claimed, DiscoveryPlugin.scan_builtin hd, hrun, Package.paths, Package.get?]
    simp only [Package.setPaths, Package.insert, SortedTable.get?_insert, if_true]
    rfl
  have honce : ((h.regularFiles root).map fun q => (h.recordOf q).path.names).Nodup :=
    (ascending_records tree root).imp fun hlt => Std.ne_of_lt hlt
  rw [hclaimed, Package.mem_pathsFound_iff, values_packageFiles tree]
  constructor
  · rintro ⟨_, hf, hpath, hclaims, _⟩
    obtain ⟨q, hq, rfl⟩ := List.mem_map.1 hf
    obtain rfl := List.inj_on_of_nodup_map honce hq hp (congrArg Path.names hpath)
    exact hclaims
  · exact fun hclaims => ⟨_, List.mem_map_of_mem hp, rfl, hclaims,
      fun rules hrules => absurd hrules (Option.not_mem_none rules)⟩

namespace Sniffed

theorem recordOf_eq (hs : h.Sniffed root p base type) :
    h.recordOf p = ⟨Unicode.lowercase base, h.absolute p,
      Unicode.lowercase ((h.absolute p).text ++ ": " ++ type)⟩ := by
  obtain ⟨errors, htold⟩ := hs.told
  have hsniffed : h.sniffed (h.absolute p) =
      Unicode.lowercase ((h.absolute p).text ++ ": " ++ type) := by
    rw [sniffed, htold]
    simp only [if_true, Text.Utf8.decodeLossy_encode]
  rw [recordOf, recordWith, hs.sniffs, hs.named, hsniffed]
  rfl

/-- A file with none of the endings is claimed exactly if its name, its type or a directory above it
mentions a kind, unless its ending excludes it. -/
theorem mem_claimed_iff (hs : h.Sniffed root p base type)
    (hd : (d, form) ∈ DiscoveryPlugin.sniffing) (hplain : ¬ HasEnding form.extensions base) :
    h.absolute p ∈ h.claimed ctx level d root ↔ ¬ HasEnding form.excluded base ∧
      (Mentions form.kinds base ∨ Mentions form.kinds type ∨
        Mentions form.kinds (h.absolute p).above) := by
  have hending : ∀ endings, (h.recordOf p).hasExtension endings = true ↔
      HasEnding endings base := by
    intro endings
    rw [hs.recordOf_eq, PackageFile.hasExtension, List.any_eq_true]
    rfl
  have hkinds : (h.recordOf p).isDescribedAs form.kinds = true ↔ Mentions form.kinds base ∨
      Mentions form.kinds type ∨ Mentions form.kinds (h.absolute p).above := by
    obtain ⟨dir, name, hname, htext⟩ := exists_text_absolute hs.tree hs.walked
    obtain rfl : name = base := Option.some.inj (hname.symm.trans hs.named)
    rw [Path.above_of_text htext (Path.fileName?_no_slash hname),
      ← mentions_told (DiscoveryPlugin.isKind_of_sniffing hd), ← htext, hs.recordOf_eq,
      PackageFile.isDescribedAs, List.any_eq_true]
    rfl
  rw [Host.mem_claimed_iff ctx level hs.tree hs.walked (DiscoveryPlugin.builtin_of_sniffing hd),
    DiscoveryPlugin.claims_of_sniffing hd, Bool.or_eq_true, Bool.and_eq_true, Bool.not_eq_true',
    ← Bool.not_eq_true, hending, hending, hkinds, or_iff_right hplain, and_comm]

end Sniffed

/-- A program is started from the first directory that has it. -/
theorem searchProgram_of_programAt {h : Host} {name dir : Path} {denied : Bool} {rest : List Path}
    {place : Place} (hp : h.programAt (dir.join name) = .ok place) :
    h.searchProgram name denied (dir :: rest) = .ok place := by
  unfold searchProgram
  simp only [hp]

end Host

namespace DiscoveryPlugin

variable {d : DiscoveryPlugin} {form : Sniffing} {h h' : Host} {ctx ctx' : PluginContext}
  {level level' : String} {root root' p p' : Path} {base type : String}

/-- A plugin that looks for kinds of files treats two files with one name and one type alike exactly
if the name or the type settles the matter, or the directories above the two files both mention a
kind or both do not. -/
theorem claimed_alike_iff (hd : (d, form) ∈ sniffing) (hs : h.Sniffed root p base type)
    (hs' : h'.Sniffed root' p' base type) (hplain : ¬ HasEnding form.extensions base) :
    (h.absolute p ∈ h.claimed ctx level d root ↔
        h'.absolute p' ∈ h'.claimed ctx' level' d root') ↔
      HasEnding form.excluded base ∨ Mentions form.kinds base ∨ Mentions form.kinds type ∨
        (Mentions form.kinds (h.absolute p).above ↔
          Mentions form.kinds (h'.absolute p').above) := by
  rw [hs.mem_claimed_iff ctx level hd hplain, hs'.mem_claimed_iff ctx' level' hd hplain]
  by_cases hexcluded : HasEnding form.excluded base
  · simp [hexcluded]
  · by_cases hbase : Mentions form.kinds base
    · simp [hbase]
    · by_cases htype : Mentions form.kinds type
      · simp [htype]
      · simp [hexcluded, hbase, htype]

/-- A tree with the sniffing program and a package that holds one file. -/
def notesTree (dir : String) : FileTree :=
  ⟨[(["bin"], .directory), (["bin", "file"], .file [] 0o755), ([dir], .directory),
    ([dir, "notes.txt"], .file [] 0o644)]⟩

/-- A machine with this tree, on which all files are sniffed to be of one type. -/
def notesHost (dir type : String) : Host where
  files := notesTree dir
  workingDirectory := []
  searchPath := some "/bin"
  noColor := true
  logFilter := none
  resourceRoot := ⟨"/"⟩
  programs := fun place =>
    if place = ["bin", "file"] then
      some fun _ args => .ok ⟨Text.Utf8.encode (Text.join " " args ++ ": " ++ type), [], .code 0⟩
    else none

theorem regularFiles_notesHost {dir : String} (hdir : dir ∈ ["plain", "my shell script"])
    (type : String) : (notesHost dir type).regularFiles ⟨"/" ++ dir⟩ =
      [⟨"/" ++ dir ++ "/notes.txt"⟩] := by
  obtain ⟨hlocate, hentry, hsorted, hfiles⟩ :
      (notesTree dir).locate [] false ⟨"/" ++ dir⟩ = .ok [dir] ∧
      FileTree.entry? (notesTree dir) [dir] = some .directory ∧
      (((notesTree dir).listedBelow [dir]).Pairwise fun a b : FileTree.Below =>
        (!decide (b.names < a.names)) = true) ∧
      (((notesTree dir).listedBelow [dir]).filter (·.entry.isFile)).map
        (fun b => b.names.foldl (fun p name => p.join ⟨name⟩) (⟨"/" ++ dir⟩ : Path)) =
          [⟨"/" ++ dir ++ "/notes.txt"⟩] := by
    simp only [List.mem_cons, List.not_mem_nil, or_false] at hdir
    rcases hdir with rfl | rfl <;> decide +kernel
  have hbelow : (notesTree dir).below [dir] = (notesTree dir).listedBelow [dir] :=
    List.mergeSort_of_pairwise hsorted
  have hlocate' : (notesHost dir type).files.locate (notesHost dir type).workingDirectory false
      ⟨"/" ++ dir⟩ = .ok [dir] := hlocate
  have hentry' : FileTree.entry? (notesHost dir type).files [dir] = some .directory := hentry
  rw [Host.regularFiles, hlocate']
  simp only [hentry', Host.regularFiles.inside]
  rw [← hfiles, ← hbelow]
  rfl

theorem sniffed_notesHost {dir : String} (hdir : dir ∈ ["plain", "my shell script"])
    (type : String) :
    (notesHost dir type).Sniffed ⟨"/" ++ dir⟩ ⟨"/" ++ dir ++ "/notes.txt"⟩ "notes.txt" type := by
  obtain ⟨tree, hname, hprogram, hexists⟩ : (notesTree dir).IsTree ∧
      (Path.mk ("/" ++ dir ++ "/notes.txt")).fileName? = some "notes.txt" ∧
      (notesHost dir "").programAt ((Path.mk "/bin").join ⟨Package.sniffer⟩) =
        .ok ["bin", "file"] ∧
      (notesHost dir "").commandExists Package.sniffer = true := by
    simp only [List.mem_cons, List.not_mem_nil, or_false] at hdir
    rcases hdir with rfl | rfl <;> decide +kernel
  have hfind : (notesHost dir type).findProgram Package.sniffer = .ok ["bin", "file"] := by
    have hdirectories : Host.directoriesOf ((notesHost dir type).searchPath.getD
        Host.standardPath) = [⟨"/bin"⟩] := by
      change Host.directoriesOf "/bin" = _
      decide +kernel
    rw [Host.findProgram, if_neg (by decide), if_neg (by decide +kernel), hdirectories]
    exact Host.searchProgram_of_programAt hprogram
  refine ⟨tree, regularFiles_notesHost hdir type ▸ List.mem_cons_self, hname, hexists, [], ?_⟩
  rw [hfind]
  rfl

/-- Files of one type in two directories of which one looks like a kind: what is printed of the type
settles the matter. -/
theorem claimed_alike_script :
    let type := "POSIX shell script, ASCII text executable\n"
    let h := notesHost "plain" type
    let h' := notesHost "my shell script" type
    (shell, .shell) ∈ sniffing ∧
      h.Sniffed ⟨"/plain"⟩ ⟨"/plain/notes.txt"⟩ "notes.txt" type ∧
      h'.Sniffed ⟨"/my shell script"⟩ ⟨"/my shell script/notes.txt"⟩ "notes.txt" type ∧
      ¬ HasEnding Sniffing.shell.extensions "notes.txt" ∧
      (h.absolute ⟨"/plain/notes.txt"⟩ ∈ h.claimed plainContext "basic" shell ⟨"/plain"⟩ ↔
        h'.absolute ⟨"/my shell script/notes.txt"⟩ ∈
          h'.claimed plainContext "basic" shell ⟨"/my shell script"⟩) := by
  intro type h h'
  have hd : (shell, .shell) ∈ sniffing := List.mem_cons_of_mem _ List.mem_cons_self
  have hs : h.Sniffed ⟨"/plain"⟩ ⟨"/plain/notes.txt"⟩ "notes.txt" type :=
    sniffed_notesHost List.mem_cons_self type
  have hs' : h'.Sniffed ⟨"/my shell script"⟩ ⟨"/my shell script/notes.txt"⟩ "notes.txt" type :=
    sniffed_notesHost (List.mem_cons_of_mem _ List.mem_cons_self) type
  have hplain : ¬ HasEnding Sniffing.shell.extensions "notes.txt" := by decide +kernel
  have htype : Mentions Sniffing.shell.kinds type := by decide +kernel
  exact ⟨hd, hs, hs', hplain,
    (claimed_alike_iff hd hs hs' hplain).2 (.inr (.inr (.inl htype)))⟩

/-- **A plain text becomes a shell script by the name of its directory.** -/
theorem claimed_for_directory :
    let type := "ASCII text\n"
    let h := notesHost "plain" type
    let h' := notesHost "my shell script" type
    h.Sniffed ⟨"/plain"⟩ ⟨"/plain/notes.txt"⟩ "notes.txt" type ∧
      h'.Sniffed ⟨"/my shell script"⟩ ⟨"/my shell script/notes.txt"⟩ "notes.txt" type ∧
      ¬ HasEnding Sniffing.shell.extensions "notes.txt" ∧
      ⟨"/plain/notes.txt"⟩ ∉ h.claimed plainContext "basic" shell ⟨"/plain"⟩ ∧
      ⟨"/my shell script/notes.txt"⟩ ∈
        h'.claimed plainContext "basic" shell ⟨"/my shell script"⟩ := by
  intro type h h'
  have hd : (shell, .shell) ∈ sniffing := List.mem_cons_of_mem _ List.mem_cons_self
  have hs : h.Sniffed ⟨"/plain"⟩ ⟨"/plain/notes.txt"⟩ "notes.txt" type :=
    sniffed_notesHost List.mem_cons_self type
  have hs' : h'.Sniffed ⟨"/my shell script"⟩ ⟨"/my shell script/notes.txt"⟩ "notes.txt" type :=
    sniffed_notesHost (List.mem_cons_of_mem _ List.mem_cons_self) type
  have hplain : ¬ HasEnding Sniffing.shell.extensions "notes.txt" := by decide +kernel
  have hpath : h.absolute ⟨"/plain/notes.txt"⟩ = ⟨"/plain/notes.txt"⟩ := by decide +kernel
  have hpath' : h'.absolute ⟨"/my shell script/notes.txt"⟩ = ⟨"/my shell script/notes.txt"⟩ := by
    decide +kernel
  have hclaimed := hs.mem_claimed_iff plainContext "basic" hd hplain
  have hclaimed' := hs'.mem_claimed_iff plainContext "basic" hd hplain
  rw [hpath] at hclaimed
  rw [hpath'] at hclaimed'
  refine ⟨hs, hs', hplain, mt hclaimed.1 ?_, hclaimed'.2 ?_⟩ <;> decide +kernel

end DiscoveryPlugin

end LintScan
