import LintScan.Proofs.Config.Parents
import LintScan.Proofs.Level.Respelled

/-!
# Documents in another spelling

A configuration comes from documents. What can be asked of their levels does not depend on how they
are spelled, and no question to the configuration asks for more.

* `Config.seen` — what can be asked of all levels of a configuration; `QueriedAlike.of_seen` — no
  question tells two configurations apart that have it in common.
* `seen_merge` — a user document adds what can be asked of its levels to what can be asked already.
* `RespelledText` — two texts that lead from one to the other by any number of respellings.
* `respelled_texts_load_alike` — loaded from such texts, configurations answer alike.
-/

namespace LintScan

namespace Config

variable {c d : Config} {user user' : OrderedTable Level}

/-! ## Configurations that no question tells apart -/

/-- What can be asked of the levels. -/
def seen (c : Config) : Seen.LevelsSeen := c.levels.map fun _ => Level.seen

/-- Two configurations that no question tells apart. -/
structure QueriedAlike (c d : Config) : Prop where
  levelNames : d.levelNames = c.levelNames
  hasLevel : ∀ level, d.hasLevel level = c.hasLevel level
  answers : AnswersAlike c d

theorem get?_seen (c : Config) (name : String) :
    c.seen.get? name = (c.levels.get? name).map Level.seen :=
  OrderedTable.get?_map _ c.levels name

theorem LevelLike.of_seen {name : String} {l l' : Level} (h : l.seen = l'.seen) :
    LevelLike Eq name l l' where
  pluginNames kind := by rw [Level.pluginNames_eq_seen, Level.pluginNames_eq_seen, h]
  ownSetting kind plugin key := by rw [Level.ownSetting_eq_seen, Level.ownSetting_eq_seen, h]
  parents := by
    have hparents : l.inheritsFrom = l'.inheritsFrom := congrArg LevelSeen.inheritsFrom h
    rw [climbParents, climbParents, hparents]

theorem ClimbsLike.of_seen (hdefault : c.defaultLevel = d.defaultLevel) (h : c.seen = d.seen) :
    ClimbsLike Eq c d := by
  refine ⟨hdefault.symm, fun name => ?_⟩
  have hname := congrArg (·.get? name) h
  simp only [get?_seen] at hname
  generalize c.levels.get? name = found at hname ⊢
  generalize d.levels.get? name = other at hname ⊢
  match found, other with
  | none, none => exact .none
  | some l, some l' => exact .some (.of_seen (Option.some.inj hname))
  | none, some l' => cases hname
  | some l, none => cases hname

theorem QueriedAlike.of_seen (hdefault : c.defaultLevel = d.defaultLevel) (h : c.seen = d.seen) :
    QueriedAlike c d where
  levelNames := by
    have hkeys (c : Config) : c.seen.keys = c.levelNames := OrderedTable.keys_map _ c.levels
    rw [← hkeys, ← hkeys, h]
  hasLevel level := by
    have hfound (c : Config) : (c.seen.get? level).isSome = c.hasLevel level := by
      rw [get?_seen, Option.isSome_map]
      rfl
    rw [← hfound, ← hfound, h]
  answers := (ClimbsLike.of_seen hdefault h).answersAlike

/-! ## Merged levels -/

/-- What can be asked of a user level; one that inherits only from itself inherits from nothing. -/
def ownSeen (name : String) (l : LevelSeen) : LevelSeen :=
  if l.inheritsFrom = [name] then { l with inheritsFrom := [] } else l

theorem seen_ownLevel (name : String) (l : Level) :
    (ownLevel name l).seen = ownSeen name l.seen := by
  have hparents : l.seen.inheritsFrom = l.inheritsFrom := rfl
  unfold ownLevel ownSeen
  rw [hparents]
  split
  · refine congrArg (LevelSeen.mk · []) (funext fun kind => ?_)
    cases kind <;> rfl
  · rfl

theorem seen_merge (c : Config) (user : OrderedTable Level) :
    (c.merge user).seen =
      c.seen.insertAll ((user.map fun _ => Level.seen).map ownSeen).entries := by
  have hown : (user.map ownLevel).map (fun _ => Level.seen) =
      (user.map fun _ => Level.seen).map ownSeen := by
    rw [OrderedTable.map_map, OrderedTable.map_map]
    exact congrArg (OrderedTable.map · user) (funext fun name => funext (seen_ownLevel name))
  have hmerge : (c.merge user).seen =
      c.seen.insertAll ((user.map ownLevel).map fun _ => Level.seen).entries :=
    OrderedTable.map_insertAll _ c.levels (user.map ownLevel).entries
  rw [hmerge, hown]

/-! ## Texts -/

/-- Two texts of documents that come from each other by any number of respellings, forward or
back. -/
def RespelledText (text text' : String) : Prop :=
  ∃ v w, Yaml.readValue text = .ok v ∧ Yaml.readValue text' = .ok w ∧
    Relation.EqvGen Respelled.Document v w

/-- What can be asked of the levels of a text. -/
def seenText (path : Path) (text : String) : Except ConfigError Seen.LevelsSeen :=
  (levelsOfText path text).map fun levels => levels.map fun _ => Level.seen

/-- What one respelling leaves as it is stays the same through any number of them. -/
theorem document_of_respellings {v w : Yaml.Value} (h : Relation.EqvGen Respelled.Document v w) :
    Seen.document v = Seen.document w := by
  induction h with
  | rel v w h => exact h.seen
  | refl v => rfl
  | symm v w _ ih => exact ih.symm
  | trans u v w _ _ ihv ihw => exact ihv.trans ihw

theorem seenText_eq {text : String} {v : Yaml.Value} (h : Yaml.readValue text = .ok v)
    (path : Path) : seenText path text = (Seen.document v).mapError (.malformed path) := by
  have hread : (Yaml.readValue text >>= levelsOfValue) = levelsOfValue v := by
    rw [h]
    rfl
  rw [seenText, levelsOfText, hread, Seen.document]
  cases levelsOfValue v <;> rfl

theorem RespelledText.seen {text text' : String} (h : RespelledText text text') (path : Path) :
    seenText path text = seenText path text' := by
  obtain ⟨v, w, hv, hw, hrespelled⟩ := h
  rw [seenText_eq hv, seenText_eq hw, document_of_respellings hrespelled]

/-! ## Loads -/

/-- Both loads fail for the same reason, or load configurations that no question tells apart. -/
inductive LoadedAlike : Except ConfigError Config → Except ConfigError Config → Prop
  | failed (e : ConfigError) : LoadedAlike (.error e) (.error e)
  | loaded {c d : Config} : QueriedAlike c d → LoadedAlike (.ok c) (.ok d)

/-- What is made of levels that are asked for the same is loaded alike, if it is so for each. -/
theorem LoadedAlike.bind {path : Path} {text text' : String} (h : RespelledText text text')
    {f g : OrderedTable Level → Except ConfigError Config}
    (each : ∀ t u : OrderedTable Level,
      t.map (fun _ => Level.seen) = u.map (fun _ => Level.seen) → LoadedAlike (f t) (g u)) :
    LoadedAlike (levelsOfText path text >>= f) (levelsOfText path text' >>= g) := by
  have hseen := h.seen path
  unfold seenText at hseen
  generalize levelsOfText path text = x at hseen ⊢
  generalize levelsOfText path text' = y at hseen ⊢
  match x, y with
  | .ok t, .ok u => exact each t u (Except.ok.inj hseen)
  | .error e, .error e' =>
    cases hseen
    exact .failed e
  | .ok t, .error e => cases hseen
  | .error e, .ok u => cases hseen

theorem LoadedAlike.base {text text' : String} (h : RespelledText text text') (path : Path)
    (default : String) :
    LoadedAlike (levelsOfText path text >>= fun levels => .ok ⟨levels, default⟩)
      (levelsOfText path text' >>= fun levels => .ok ⟨levels, default⟩) :=
  .bind h fun _ _ hlevels => .loaded (.of_seen rfl hlevels)

theorem LoadedAlike.merge {text text' : String} (h : RespelledText text text') (path : Path)
    (hdefault : c.defaultLevel = d.defaultLevel) (hseen : c.seen = d.seen) :
    LoadedAlike (levelsOfText path text >>= fun more => .ok (c.merge more))
      (levelsOfText path text' >>= fun more => .ok (d.merge more)) := by
  refine .bind h fun t u hmore => .loaded (.of_seen hdefault ?_)
  rw [seen_merge, seen_merge, hseen, hmore]

/-! ### Texts -/

theorem ofText_eq (text : String) :
    ofText text = levelsOfText .memory text >>= fun levels => .ok { levels } := by
  rw [ofText]
  cases levelsOfText .memory text <;> rfl

theorem withUserText_eq (c : Config) (text : String) :
    c.withUserText text = levelsOfText .memory text >>= fun more => .ok (c.merge more) := by
  rw [withUserText]
  cases levelsOfText .memory text <;> rfl

/-! ### Files -/

variable {files : FileTree} {cwd : Place} {path : Path} {text : String}

theorem filter_exists? (h : files.readText cwd path = .ok text) :
    (some path).filter (files.exists? cwd) = some path := by
  obtain ⟨bytes, hread, _⟩ := bind_eq_ok_iff.1 h
  obtain ⟨found, hfind, _⟩ := bind_eq_ok_iff.1 hread
  have hexists : files.exists? cwd path = true := by rw [FileTree.exists?, hfind]
  rw [Option.filter_some, if_pos hexists]

theorem levelsOfFile_eq (h : files.readText cwd path = .ok text) :
    levelsOfFile files cwd path = levelsOfText path text := by
  rw [levelsOfFile, h]

theorem load_base (h : files.readText cwd path = .ok text) (default : String) :
    load files cwd (some path) none default = levelsOfText path text >>= fun levels =>
      .ok { levels, defaultLevel := default } := by
  rw [load, filter_exists? h]
  simp only [levelsOfFile_eq h]
  rfl

theorem load_user {user : Path} {userText : String} (hbase : files.readText cwd path = .ok text)
    (huser : files.readText cwd user = .ok userText) (default : String) :
    load files cwd (some path) (some user) default = levelsOfText path text >>= fun levels =>
      levelsOfText user userText >>= fun more =>
        .ok (({ levels, defaultLevel := default } : Config).merge more) := by
  rw [load, filter_exists? hbase, filter_exists? huser]
  simp only [levelsOfFile_eq hbase, levelsOfFile_eq huser]

/-! ### What is loaded -/

/-- **Spellings make no difference.** Take a base document and a user document, and respell their
levels, as often as wanted and wherever they stand, in any of these ways: the plugins of a kind as a
list or as a mapping with null for settings, with or without names that the list repeats; no plugins
as nothing, null or something empty; a setting that is null or left out; a single parent by itself
or in a list; no parents as nothing, null, a blank name or a list of blank names; a level that is
null or empty. The base document alone, the user document over any configuration, and one over the
other, given as texts or read from files, fail to load for the same reason as before, or load to a
configuration with the same levels in which every question has the same answer. -/
theorem respelled_texts_load_alike {base base' user user' : String}
    (hbase : RespelledText base base') (huser : RespelledText user user') :
    LoadedAlike (ofText base) (ofText base') ∧
    (∀ c : Config, LoadedAlike (c.withUserText user) (c.withUserText user')) ∧
    LoadedAlike (ofText base >>= (·.withUserText user)) (ofText base' >>= (·.withUserText user')) ∧
    ∀ (files files' : FileTree) (cwd : Place) (path : Path) (default : String),
      files.readText cwd path = .ok base → files'.readText cwd path = .ok base' →
      LoadedAlike (load files cwd (some path) none default)
        (load files' cwd (some path) none default) ∧
      ∀ more : Path, files.readText cwd more = .ok user → files'.readText cwd more = .ok user' →
        LoadedAlike (load files cwd (some path) (some more) default)
          (load files' cwd (some path) (some more) default) := by
  refine ⟨?_, fun c => ?_, ?_, fun files files' cwd path default hpath hpath' =>
    ⟨?_, fun more hmore hmore' => ?_⟩⟩
  · rw [ofText_eq, ofText_eq]
    exact .base hbase .memory _
  · rw [withUserText_eq, withUserText_eq]
    exact .merge huser .memory rfl rfl
  · rw [ofText_eq, ofText_eq, bind_assoc, bind_assoc]
    refine .bind hbase fun t u hlevels => ?_
    have hmerge (levels : OrderedTable Level) (text : String) :
        ((.ok { levels } : Except ConfigError Config) >>= (·.withUserText text)) =
          Config.withUserText { levels } text := rfl
    rw [hmerge, hmerge, withUserText_eq, withUserText_eq]
    exact .merge huser .memory rfl hlevels
  · rw [load_base hpath, load_base hpath']
    exact .base hbase path default
  · rw [load_user hpath hmore, load_user hpath' hmore']
    exact .bind hbase fun t u hlevels => .merge huser more rfl hlevels

/-- A level with a name twice in a list, and the same level with a mapping and an empty list of
parents. -/
theorem respelledText_repeated :
    RespelledText "levels:\n  a:\n    tool: [x, x]"
      "levels:\n  a:\n    tool:\n      x:\n    inherits_from: []" := by
  have htext (s : String) : Respelled.IsText (.string s) s := rfl
  have habsent (name : String) : Respelled.Absent name ([] ++ []) := fun p hp => by cases hp
  have hrepeated : Respelled.Table (some (.seq [.string "x", .string "x"]))
      (some (.seq [.string "x"])) :=
    .repeated (.cons (htext "x") (.cons (htext "x") .nil)) (.cons (htext "x") .nil)
  have hlisted : Respelled.Table (some (.seq [.string "x"])) (some (.map [(.string "x", .null)])) :=
    .listed [.string "x"]
  have htable {v w : Yaml.Value} (h : Respelled.Table (some v) (some w)) :
      Respelled.Level (.map [(.string "tool", v)]) (.map [(.string "tool", w)]) :=
    .plugins [] [] (.string "tool") .tool (htext "tool") (habsent "tool") h
  have hparents : Respelled.Level (.map [(.string "tool", .map [(.string "x", .null)])])
      (.map [(.string "tool", .map [(.string "x", .null)]),
        (.string "inherits_from", .seq [])]) := by
    have hempty : Respelled.NoParents (some (.seq ([].map .string))) :=
      .blanks fun n hn => by cases hn
    refine .parents [(.string "tool", .map [(.string "x", .null)])] [] (.string "inherits_from")
      (htext "inherits_from") ?_ (.none .missing hempty)
    simp [Respelled.Absent, Respelled.IsText, Yaml.Source.values, Yaml.Value.untagged]
  have hlevel {v w : Yaml.Value} (h : Respelled.Level v w) :
      Relation.EqvGen Respelled.Document (.map [(.string "levels", .map [(.string "a", v)])])
        (.map [(.string "levels", .map [(.string "a", w)])]) :=
    .rel _ _ (.level [] [] (.string "levels") [] [] (.string "a") (htext "levels")
      (habsent "levels") h)
  refine ⟨_, _, ?_, ?_, .trans _ _ _ (hlevel (htable hrepeated))
    (.trans _ _ _ (hlevel (htable hlisted)) (hlevel hparents))⟩
  · have htokens : Yaml.tokens "levels:\n  a:\n    tool: [x, x]" = .ok [.blockMapStart, .key,
        .scalar "levels" .plain, .value, .blockMapStart, .key, .scalar "a" .plain, .value,
        .blockMapStart, .key, .scalar "tool" .plain, .value, .flowSeqStart, .scalar "x" .plain,
        .flowEntry, .scalar "x" .plain, .flowSeqEnd, .blockEnd, .blockEnd, .blockEnd] := by
      decide +kernel
    rw [Yaml.readValue, Yaml.readNode, htokens]
    rfl
  · have htokens : Yaml.tokens "levels:\n  a:\n    tool:\n      x:\n    inherits_from: []" = .ok
        [.blockMapStart, .key, .scalar "levels" .plain, .value, .blockMapStart, .key,
        .scalar "a" .plain, .value, .blockMapStart, .key, .scalar "tool" .plain, .value,
        .blockMapStart, .key, .scalar "x" .plain, .value, .blockEnd, .key,
        .scalar "inherits_from" .plain, .value, .flowSeqStart, .flowSeqEnd, .blockEnd, .blockEnd,
        .blockEnd] := by
      decide +kernel
    rw [Yaml.readValue, Yaml.readNode, htokens]
    rfl

theorem respelled_texts_load_alike_repeated :
    (ofText "levels:\n  a:\n    tool: [x, x]").map (·.enabledPlugins "a" .tool) = .ok (.ok ["x"]) ∧
    LoadedAlike (ofText "levels:\n  a:\n    tool: [x, x]")
      (ofText "levels:\n  a:\n    tool:\n      x:\n    inherits_from: []") :=
  ⟨by decide +kernel, (respelled_texts_load_alike respelledText_repeated respelledText_repeated).1⟩

end Config

end LintScan
