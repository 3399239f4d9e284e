import LintScan.Proofs.Discovery.Walk
import LintScan.Proofs.Exceptions.Early
import LintScan.Proofs.Scan.Discreet
import LintScan.Proofs.Scan.Packages

/-!
# Discovery in any order

The built-in discovery plugins share one walk and write under tags of their own, so the order in
which they are run does not matter.

* `KeepsEarly`, `Package.pathsFound` — what one plugin finds among the files that are known.
* `Package.collect_runFrom` — a plugin walks the package if it is the first one, and puts its finds
  under its tag.
* `DiscoveryPlugin.scanEach`, `DiscoveryPlugin.Finds` — a run of some plugins on a machine that may
  change, and what a package is behind it; `Finds.unique` says that this is the whole package.
* `DiscoveryPlugin.finds_scanEach` — by induction, one plugin at a time.
* `DiscoveryPlugin.scanEach_depends_on_set` — the package depends on the set of plugins alone.
-/

namespace LintScan

open Session

/-! ## One plugin -/

/-- The early filter keeps a file, where there are exceptions at all. -/
def KeepsEarly (x : Option Exceptions) (package file : String) : Prop :=
  ∀ rules ∈ x, file ∈ (rules.filterFilesEarly package [file]).1

instance (x : Option Exceptions) (package file : String) : Decidable (KeepsEarly x package file) :=
  inferInstanceAs (Decidable (∀ rules ∈ x, _))

theorem keepsEarly_some_iff {x : Exceptions} {package file : String} :
    KeepsEarly (some x) package file ↔ ¬ x.CoveredByName package file := by
  simp [KeepsEarly, Exceptions.mem_filterFilesEarly_iff]

namespace Package

/-- What a plugin finds among the files: the paths of those that it claims and that the early filter
keeps. -/
def pathsFound (package : String) (claims : PackageFile → Bool) (x : Option Exceptions)
    (files : PackageFiles) : List Path :=
  ((files.values.filter claims).map (·.path)).filter fun path => KeepsEarly x package path.text

theorem mem_pathsFound_iff {package : String} {claims : PackageFile → Bool}
    {x : Option Exceptions} {files : PackageFiles} {path : Path} :
    path ∈ pathsFound package claims x files ↔
      ∃ f ∈ files.values, f.path = path ∧ claims f = true ∧ KeepsEarly x package path.text := by
  simp only [pathsFound, List.mem_filter, List.mem_map, decide_eq_true_eq]
  constructor
  · rintro ⟨⟨f, ⟨hf, hclaims⟩, rfl⟩, hkeeps⟩
    exact ⟨f, hf, rfl, hclaims, hkeeps⟩
  · rintro ⟨f, hf, rfl, hclaims, hkeeps⟩
    exact ⟨⟨f, ⟨hf, hclaims⟩, rfl⟩, hkeeps⟩

theorem pathsFound_none (package : String) (claims : PackageFile → Bool) (files : PackageFiles) :
    pathsFound package claims none files = (files.values.filter claims).map (·.path) := by
  have hall : ∀ file, KeepsEarly none package file := fun file => nofun
  simp [pathsFound, hall]

theorem pathsFound_some (package : String) (claims : PackageFile → Bool) (x : Exceptions)
    (files : PackageFiles) :
    pathsFound package claims (some x) files =
      (x.filterFilesEarly package
        (((files.values.filter claims).map (·.path)).map (·.text))).1.map Path.mk := by
  unfold pathsFound
  rw [Exceptions.filterFilesEarly_eq_filter]
  generalize (files.values.filter claims).map (·.path) = paths
  rw [List.filter_map, List.map_map]
  simp only [keepsEarly_some_iff]
  exact (List.map_id' _).symm

/-- A plugin walks the package, unless that was done before, and puts what it finds under its tag;
on the machine it changes nothing. -/
theorem collect_runFrom (tag : String) (claims : PackageFile → Bool) (x : Option Exceptions)
    (p : Package) (s : SessionState) : ∃ journal,
    (collect tag claims x p).runFrom s =
      (let files := p.files.getD (s.host.packageFiles p.path)
       ({ p with files := some files }.setPaths tag (pathsFound p.name claims x files)),
        { s with journal }) := by
  obtain ⟨j, hj⟩ := walk_runFrom p s
  unfold collect
  rw [runFrom_bind, hj]
  cases x with
  | none =>
    refine ⟨j, ?_⟩
    simp only [pathsFound_none]
    rfl
  | some x =>
    simp only [pathsFound_some]
    exact ⟨_, rfl⟩

end Package

/-! ## Some plugins -/

namespace DiscoveryPlugin

/-- Runs discovery plugins one after the other. Behind each, the machine may be changed from
outside. -/
def scanEach (ctx : PluginContext) (level : String) (x : Option Exceptions) :
    List (DiscoveryPlugin × (Host → Host)) → Package → Session Package
  | [], p => return p
  | (d, change) :: visits, p => do
    let p ← d.scan ctx p level x
    modify fun s => { s with host := change s.host }
    scanEach ctx level x visits p

variable (ctx : PluginContext) (level : String)

/-- What some plugins make of a package whose files are known: the finds of each stand under its
tag, and nothing else is changed. -/
structure Finds (x : Option Exceptions) (known : PackageFiles) (ran : DiscoveryPlugin → Prop)
    (p q : Package) : Prop where
  name : q.name = p.name
  path : q.path = p.path
  files : q.files = some known
  under : ∀ d, ran d → q.get? d.tag = some (.paths (Package.pathsFound p.name d.claims x known))
  others : ∀ tag, (∀ d, ran d → d.tag ≠ tag) → q.get? tag = p.get? tag

theorem Finds.unique {x : Option Exceptions} {files : PackageFiles} {ran : DiscoveryPlugin → Prop}
    {p q q' : Package} (h : Finds x files ran p q) (h' : Finds x files ran p q') : q = q' := by
  have hdiscovered : q.discovered = q'.discovered := by
    refine SortedTable.ext_get? fun tag => ?_
    by_cases hran : ∃ d, ran d ∧ d.tag = tag
    · obtain ⟨d, hd, rfl⟩ := hran
      exact (h.under d hd).trans (h'.under d hd).symm
    · have hnone : ∀ d, ran d → d.tag ≠ tag := fun d hd htag => hran ⟨d, hd, htag⟩
      exact (h.others tag hnone).trans (h'.others tag hnone).symm
  obtain ⟨_, _, _, _⟩ := q
  obtain ⟨_, _, _, _⟩ := q'
  obtain ⟨rfl, rfl, rfl⟩ := And.intro (h.name.trans h'.name.symm)
    (And.intro (h.path.trans h'.path.symm) (h.files.trans h'.files.symm))
  cases hdiscovered
  rfl

/-- No two built-in plugins share a tag. -/
theorem eq_of_tag_eq {d d' : DiscoveryPlugin} (hd : d ∈ builtin) (hd' : d' ∈ builtin)
    (htag : d.tag = d'.tag) : d = d' := by
  have hnodup : (builtin.map (·.tag)).Nodup := by decide
  exact List.inj_on_of_nodup_map hnodup hd hd' htag

/-- The first plugin of a run walks the package; the others find it walked. -/
theorem scanEach_cons {x : Option Exceptions} {d : DiscoveryPlugin} (change : Host → Host)
    {visits : List (DiscoveryPlugin × (Host → Host))} (hd : d ∈ builtin) (p : Package)
    (s : SessionState) :
    ∃ s', ((scanEach ctx level x ((d, change) :: visits) p).runFrom s).1 =
      let files := p.files.getD (s.host.packageFiles p.path)
      ((scanEach ctx level x visits ({ p with files := some files }.setPaths d.tag
        (Package.pathsFound p.name d.claims x files))).runFrom s').1 := by
  obtain ⟨j, hj⟩ := Package.collect_runFrom d.tag d.claims x p s
  rw [scanEach, scan_builtin hd, runFrom_bind, hj]
  exact ⟨_, rfl⟩

/-- One plugin more, ahead of the others. -/
theorem Finds.cons {x : Option Exceptions} {files : PackageFiles} {d : DiscoveryPlugin}
    {ds : List DiscoveryPlugin} {p q : Package} (hd : d ∈ builtin) (hds : ∀ e ∈ ds, e ∈ builtin)
    (h : Finds x files (· ∈ ds) ({ p with files := some files }.setPaths d.tag
      (Package.pathsFound p.name d.claims x files)) q) :
    Finds x files (· ∈ d :: ds) p q := by
  have hget : ∀ tag, ({ p with files := some files }.setPaths d.tag
      (Package.pathsFound p.name d.claims x files)).get? tag =
      if tag = d.tag then some (.paths (Package.pathsFound p.name d.claims x files))
      else p.get? tag := fun tag => SortedTable.get?_insert _ _ _ _
  refine ⟨h.name, h.path, h.files, fun e he => ?_, fun tag htag => ?_⟩
  · by_cases hagain : e ∈ ds
    · exact h.under e hagain
    · obtain rfl : e = d := (List.mem_cons.1 he).resolve_right hagain
      refine (h.others e.tag fun e' he' htag => hagain ?_).trans ((hget _).trans (if_pos rfl))
      rwa [eq_of_tag_eq (hds e' he') hd htag] at he'
  · refine (h.others tag fun e he => htag e (List.mem_cons_of_mem _ he)).trans ?_
    exact (hget tag).trans (if_neg fun heq => htag d List.mem_cons_self heq.symm)

theorem finds_scanEach_of_walked {x : Option Exceptions} {files : PackageFiles}
    {visits : List (DiscoveryPlugin × (Host → Host))} (hbuiltin : ∀ v ∈ visits, v.1 ∈ builtin)
    {p : Package} (hfiles : p.files = some files) (s : SessionState) :
    Finds x files (· ∈ visits.map (·.1)) p ((scanEach ctx level x visits p).runFrom s).1 := by
  induction visits generalizing p s with
  | nil => exact ⟨rfl, rfl, hfiles, nofun, fun _ _ => rfl⟩
  | cons v visits ih =>
    obtain ⟨hv, hrest⟩ := List.forall_mem_cons.1 hbuiltin
    obtain ⟨s', hs'⟩ := scanEach_cons ctx level v.2 hv p s
    simp only [hfiles, Option.getD_some] at hs'
    rw [hs']
    exact .cons hv (List.forall_mem_map.2 hrest) (ih hrest rfl s')

/-- Some plugins find what is among the files that the machine holds before the first of them is
run. -/
theorem finds_scanEach {x : Option Exceptions} {visits : List (DiscoveryPlugin × (Host → Host))}
    (hbuiltin : ∀ v ∈ visits, v.1 ∈ builtin) (hne : visits ≠ []) (p : Package)
    (s : SessionState) :
    Finds x (p.files.getD (s.host.packageFiles p.path)) (· ∈ visits.map (·.1)) p
      ((scanEach ctx level x visits p).runFrom s).1 := by
  obtain ⟨v, visits, rfl⟩ := List.exists_cons_of_ne_nil hne
  obtain ⟨hv, hrest⟩ := List.forall_mem_cons.1 hbuiltin
  obtain ⟨s', hs'⟩ := scanEach_cons ctx level v.2 hv p s
  rw [hs']
  exact .cons hv (List.forall_mem_map.2 hrest) (finds_scanEach_of_walked ctx level hrest rfl s')

/-- What plugins see of a scan without settings. -/
def plainContext : PluginContext where
  settings := {}
  config := {}
  resources := { defaultPath := ⟨"/"⟩ }

/-- Whatever the order of the built-in plugins, however often each is run, whatever the level and
the settings, and whatever becomes of the machine once the first one has run, a package comes out
the same: it has one record for each regular file that the machine held at the start, and under the
tag of each plugin that was run the files that the plugin claims and that the early filter keeps, in
the order of their paths. -/
theorem scanEach_depends_on_set {x : Option Exceptions} {p : Package} {s : SessionState}
    {visits : List (DiscoveryPlugin × (Host → Host))} (tree : s.host.files.IsTree)
    (fresh : p.files = none) (hne : visits ≠ []) (hbuiltin : ∀ v ∈ visits, v.1 ∈ builtin) :
    ∃ q : Package,
      (∀ ctx level visits' s', (∀ d, d ∈ visits'.map (·.1) ↔ d ∈ visits.map (·.1)) →
        s'.host = s.host → ((scanEach ctx level x visits' p).runFrom s').1 = q) ∧
      q.name = p.name ∧ q.path = p.path ∧
      q.fileList = (s.host.regularFiles p.path).map s.host.recordOf ∧
      q.fileList.Pairwise (fun f f' => f.path.names < f'.path.names) ∧
      (∀ v ∈ visits, ∃ found, q.get? v.1.tag = some (.paths found) ∧
        found.Pairwise (fun path path' => path.names < path'.names) ∧
        ∀ path, path ∈ found ↔ ∃ f ∈ q.fileList, f.path = path ∧ v.1.claims f = true ∧
          KeepsEarly x p.name path.text) ∧
      ∀ tag, (∀ v ∈ visits, v.1.tag ≠ tag) → q.get? tag = p.get? tag := by
  have hfinds := finds_scanEach plainContext "" (x := x) hbuiltin hne p s
  rw [fresh, Option.getD_none] at hfinds
  have hlist : ((scanEach plainContext "" x visits p).runFrom s).1.fileList =
      (s.host.packageFiles p.path).values := by
    rw [Package.fileList, hfinds.files]
  have hsorted : (s.host.packageFiles p.path).values.Pairwise
      fun f f' => f.path.names < f'.path.names := by
    rw [Host.values_packageFiles tree]
    exact List.pairwise_map.2 (List.pairwise_map.1 (Host.ascending_records tree p.path))
  refine ⟨_, fun ctx level visits' s' hsame hhost => ?_, hfinds.name, hfinds.path,
    hlist.trans (Host.values_packageFiles tree p.path), hlist ▸ hsorted, fun v hv => ?_,
    fun tag htag => ?_⟩
  · have hbuiltin' : ∀ v ∈ visits', v.1 ∈ builtin := fun v hv => by
      obtain ⟨w, hw, heq⟩ := List.mem_map.1 ((hsame v.1).1 (List.mem_map_of_mem hv))
      exact heq ▸ hbuiltin w hw
    have hne' : visits' ≠ [] := by
      rintro rfl
      obtain ⟨v, rest, rfl⟩ := List.exists_cons_of_ne_nil hne
      exact absurd ((hsame v.1).2 List.mem_cons_self) (List.not_mem_nil)
    have hfinds' := finds_scanEach ctx level (x := x) hbuiltin' hne' p s'
    rw [fresh, Option.getD_none, hhost, funext fun d => propext (hsame d)] at hfinds'
    exact hfinds'.unique hfinds
  · refine ⟨_, hfinds.under v.1 (List.mem_map_of_mem hv), ?_, fun path => ?_⟩
    · have hpaths : (((s.host.packageFiles p.path).values.filter v.1.claims).map (·.path)).Pairwise
          fun path path' => path.names < path'.names := List.pairwise_map.2 (hsorted.filter _)
      exact hpaths.filter _
    · rw [hlist]
      exact Package.mem_pathsFound_iff
  · refine hfinds.others tag fun d hd htag' => ?_
    obtain ⟨w, hw, rfl⟩ := List.mem_map.1 hd
    exact htag w hw htag'

/-- A machine with a package of Python sources, one of them generated, and a shell script. -/
def mixedHost : Host where
  files := ⟨[(["w"], .directory), (["w", "b.sh"], .file [] 0o644), (["w", "gen"], .directory),
    (["w", "gen", "a.py"], .file [] 0o644), (["w", "z.py"], .file [] 0o644)]⟩
  workingDirectory := []
  searchPath := none
  noColor := true
  logFilter := none
  resourceRoot := ⟨"/"⟩
  programs := fun _ => none

theorem regularFiles_mixedHost :
    mixedHost.regularFiles ⟨"/w"⟩ = [⟨"/w/b.sh"⟩, ⟨"/w/gen/a.py"⟩, ⟨"/w/z.py"⟩] := by
  have hbelow : mixedHost.files.below ["w"] = mixedHost.files.listedBelow ["w"] :=
    List.mergeSort_of_pairwise (by decide +kernel)
  have hlocate : mixedHost.files.locate mixedHost.workingDirectory false ⟨"/w"⟩ = .ok ["w"] := by
    decide +kernel
  have hentry : mixedHost.files.entry? ["w"] = some .directory := by decide +kernel
  simp only [Host.regularFiles, hlocate, hentry, Host.regularFiles.inside, hbelow]
  decide +kernel

/-- Two orders, one with a repetition and with all files gone behind the first plugin. -/
theorem scanEach_mixedHost :
    let x := some (Exceptions.forAllTools ["*/gen/*"])
    let s : SessionState := { host := mixedHost }
    let wipe (h : Host) : Host := { h with files := ⟨[]⟩ }
    let run := fun visits => ((scanEach plainContext "basic" x visits (.ofPath ⟨"/w"⟩)).runFrom s).1
    let q := run [(shell, id), (python, id)]
    run [(python, wipe), (shell, id), (python, id)] = q ∧
      q.fileList.map (·.path) = [⟨"/w/b.sh"⟩, ⟨"/w/gen/a.py"⟩, ⟨"/w/z.py"⟩] ∧
      ⟨"/w/z.py"⟩ ∈ q.paths Tag.python ∧ ⟨"/w/gen/a.py"⟩ ∉ q.paths Tag.python ∧
      q.get? Tag.yaml = none := by
  intro x s wipe run q
  have hbuiltin : ∀ v ∈ [(shell, (id : Host → Host)), (python, id)], v.1 ∈ builtin := by
    simp [builtin]
  obtain ⟨q', hsame, _, _, hfiles, _, hfound, hothers⟩ :=
    scanEach_depends_on_set (x := x) (p := .ofPath ⟨"/w"⟩) (s := s) (by decide +kernel) rfl
      (List.cons_ne_nil _ _) hbuiltin
  have hq : q = q' := hsame _ _ _ s (fun _ => Iff.rfl) rfl
  have hagain : ∀ d, d ∈ [python, shell, python] ↔ d ∈ [shell, python] := by
    intro d
    simp only [List.mem_cons, List.not_mem_nil, or_false]
    tauto
  have hlist : q.fileList = [⟨"b.sh", ⟨"/w/b.sh"⟩, ""⟩, ⟨"a.py", ⟨"/w/gen/a.py"⟩, ""⟩,
      ⟨"z.py", ⟨"/w/z.py"⟩, ""⟩] := by
    rw [hq, hfiles]
    have hregular : s.host.regularFiles ⟨"/w"⟩ = _ := regularFiles_mixedHost
    have hpath : (Package.ofPath ⟨"/w"⟩).path = ⟨"/w"⟩ := rfl
    rw [hpath, hregular]
    decide +kernel
  obtain ⟨found, hpython, _, hmem⟩ := hfound (python, id) (by simp)
  have hpaths : q.paths Tag.python = found := by
    have htag : q.get? Tag.python = some (.paths found) := hq ▸ hpython
    rw [Package.paths, htag]
  rw [← hq] at hmem
  refine ⟨(hsame _ _ [(python, wipe), (shell, id), (python, id)] s hagain rfl).trans hq.symm, ?_,
    ?_, ?_, ?_⟩
  · rw [hlist]
    rfl
  · rw [hpaths]
    exact (hmem _).2 ⟨⟨"z.py", ⟨"/w/z.py"⟩, ""⟩, by simp [hlist], rfl, by decide,
      by decide +kernel⟩
  · rw [hpaths]
    intro h
    obtain ⟨f, _, _, _, hkeeps⟩ := (hmem _).1 h
    exact absurd hkeeps (by decide +kernel)
  · rw [hq]
    exact hothers Tag.yaml (by simp; decide)

end DiscoveryPlugin

end LintScan
