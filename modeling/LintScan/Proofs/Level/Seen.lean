import LintScan.Config.Resolve
import LintScan.Proofs.Table.Ordered
import LintScan.Proofs.Table.Sorted
import LintScan.Proofs.Walk

/-!
# What can be asked of a level

A level is asked for its plugins, for the texts of their settings and for its parents. Different
documents can come to the same answers, so this file reads a document straight to what can be asked
of its levels.

* `LevelSeen`, `Level.seen` — the answers of a level. A setting that is null has no text, so it is
  as good as none.
* `Source.readPairs_append`, `Source.readPairs_replace`, `Source.readPairs_map` — how the pairs of a
  mapping are read, one beside the other.
* `Seen.texts`, `Seen.table`, `Seen.parents`, `Seen.level`, `Seen.document` — the answers, read from
  the settings of a plugin up to a document.
* `Seen.texts_map`, `Seen.table_map`, `Seen.table_seq`, `Seen.levels_map` — each answer comes from
  those of the parts, and `Seen.level_eq`, `Seen.document_eq` from the fields alone.
-/

namespace LintScan

open Yaml (Problem Source Value)

/-! ## What can be asked of a level -/

/-- The text of each setting of a plugin, if it has one. -/
abbrev SettingTexts := String → Option String

/-- The texts of the settings of a plugin. -/
def PluginSettings.texts (settings : Option PluginSettings) : SettingTexts := fun key =>
  (settings.bind (·.get? key)).bind Config.settingText

/-- The plugins of one kind with the texts of their settings. -/
def PluginTable.seen (table : Option PluginTable) : OrderedTable SettingTexts :=
  (table.getD .empty).map fun _ => PluginSettings.texts

/-- What can be asked of a level. -/
structure LevelSeen where
  plugins : PluginKind → OrderedTable SettingTexts
  inheritsFrom : List String

/-- What can be asked of the level. -/
def Level.seen (l : Level) : LevelSeen :=
  ⟨fun kind => PluginTable.seen (l.plugins kind), l.inheritsFrom⟩

theorem Level.pluginNames_eq_seen (l : Level) (kind : PluginKind) :
    l.pluginNames kind = (l.seen.plugins kind).keys := by
  have hseen : l.seen.plugins kind = PluginTable.seen (l.plugins kind) := rfl
  rw [hseen, Level.pluginNames]
  cases l.plugins kind with
  | none => rfl
  | some t => exact (OrderedTable.keys_map _ t).symm

theorem Level.ownSetting_eq_seen (l : Level) (kind : PluginKind) (plugin key : String) :
    Config.ownSetting l kind plugin key = ((l.seen.plugins kind).get? plugin).bind (· key) := by
  have hseen : l.seen.plugins kind = PluginTable.seen (l.plugins kind) := rfl
  rw [hseen, Config.ownSetting, Level.setting?]
  cases l.plugins kind with
  | none => rfl
  | some t =>
    have hget : (PluginTable.seen (some t)).get? plugin =
        (t.get? plugin).map PluginSettings.texts := OrderedTable.get?_map _ t plugin
    rw [hget, Option.bind_some]
    cases t.get? plugin with
    | none => rfl
    | some settings => cases settings <;> rfl

/-! ## Reading mappings -/

namespace Yaml.Source

variable {α β γ : Type} {s : Source α} {read : α → Except Problem β}

theorem readPairs_cons (k v : α) (pairs : List (α × α)) :
    s.readPairs read ((k, v) :: pairs) = (do
      let name ← s.string k
      let b ← read v
      let rest ← s.readPairs read pairs
      .ok ((name, b) :: rest)) := by
  unfold readPairs
  simp only [List.mapM_cons, bind_assoc]
  rfl

theorem readPairs_append (pairs more : List (α × α)) :
    s.readPairs read (pairs ++ more) = (do
      let first ← s.readPairs read pairs
      let rest ← s.readPairs read more
      .ok (first ++ rest)) :=
  List.mapM_append

/-- A value may take the place of one that is read alike. -/
theorem readPairs_replace {v w : α} (h : read v = read w) (before after : List (α × α)) (key : α) :
    s.readPairs read (before ++ (key, v) :: after) =
      s.readPairs read (before ++ (key, w) :: after) := by
  rw [readPairs_append, readPairs_append, readPairs_cons, readPairs_cons, h]

/-- Values may be changed as they are read or afterwards. -/
theorem readPairs_map (f : β → γ) (pairs : List (α × α)) :
    s.readPairs (fun v => (read v).map f) pairs =
      (s.readPairs read pairs).map fun es => es.map fun e => (e.1, f e.2) := by
  induction pairs with
  | nil => rfl
  | cons p pairs ih =>
    obtain ⟨k, v⟩ := p
    rw [readPairs_cons, readPairs_cons, ih]
    cases s.string k with
    | error e => rfl
    | ok name =>
      cases read v with
      | error e => rfl
      | ok b => cases s.readPairs read pairs <;> rfl

theorem string?_of_mem_readPairs {pairs : List (α × α)} {es : List (String × β)}
    (h : s.readPairs read pairs = .ok es) {e : String × β} (he : e ∈ es) :
    ∃ p ∈ pairs, s.string? p.1 = some e.1 := by
  obtain ⟨⟨k, v⟩, hp, hread⟩ := mapM_ok_mem h e he
  refine ⟨(k, v), hp, ?_⟩
  obtain ⟨name, hname, hread⟩ := bind_eq_ok_iff.1 hread
  obtain ⟨b, _, hread⟩ := bind_eq_ok_iff.1 hread
  cases hread
  unfold string expect at hname
  split at hname
  · cases hname
    assumption
  · cases hname

end Yaml.Source

namespace Seen

/-! ## Records -/

/-- The pairs with a known name. -/
def knownPairs (known : List String) (named : List (String × Value)) : List (String × Value) :=
  named.filter fun e => known.contains e.1

/-- What the pairs of a record say of its known fields, of which none may come twice. -/
def record (known : List String) (named : List (String × Value)) :
    Except Problem (String → Option Value) :=
  if ((knownPairs known named).map (·.1)).Nodup then
    .ok fun name => (knownPairs known named).lookup name
  else .error .repeatedKey

/-- The fields of a record, each under its name. -/
def fields (known : List String) (v : Value) : Except Problem (String → Option Value) :=
  (Source.values.fields known v).map fun fs name => fs.lookup name

theorem fields_map (known : List String) (pairs : List (Value × Value)) :
    fields known (.map pairs) = Source.values.readPairs .ok pairs >>= record known := by
  have hfields : Source.values.fields known (.map pairs) =
      Source.values.readPairs .ok pairs >>= fun named =>
        if ((knownPairs known named).map (·.1)).Nodup then .ok (knownPairs known named)
        else .error .repeatedKey := rfl
  rw [fields, hfields]
  cases Source.values.readPairs .ok pairs with
  | error e => rfl
  | ok named =>
    simp only [bind, Except.bind, record]
    split <;> rfl

/-! ## The settings of a plugin -/

/-- The texts of the settings of a plugin. -/
def texts (v : Value) : Except Problem SettingTexts :=
  (Source.values.optional (PluginSettings.read .values) v).map PluginSettings.texts

theorem texts_ofList (entries : List (String × Value)) (key : String) :
    PluginSettings.texts (some (SortedTable.ofList entries)) key =
      (entries.reverse.lookup key).bind Config.settingText := by
  rw [PluginSettings.texts, Option.bind_some, SortedTable.get?_ofList]

theorem texts_map (pairs : List (Value × Value)) :
    texts (.map pairs) = (Source.values.readPairs .ok pairs).map fun entries =>
      PluginSettings.texts (some (SortedTable.ofList entries)) := by
  have hread : PluginSettings.read .values (.map pairs) =
      Source.values.readPairs .ok pairs >>= fun entries => .ok (SortedTable.ofList entries) := rfl
  rw [texts, Source.optional, hread]
  cases Source.values.readPairs .ok pairs <;> rfl

theorem texts_tagged (tag : String) (v : Value) :
    texts (.tagged tag v) = texts v := by
  cases v with
  | null =>
    -- Under a tag, null is a mapping without pairs.
    have hnull : PluginSettings.texts (some (SortedTable.ofList [])) = PluginSettings.texts none :=
      funext fun key => texts_ofList [] key
    exact congrArg Except.ok hnull
  | _ => rfl

/-! ## The plugins of one kind -/

/-- The plugins of one kind, where they are given. -/
def readTable (v : Option Value) : Except Problem (Option PluginTable) :=
  match v with
  | some a => Source.values.optional (PluginTable.read .values) a
  | none => .ok none

/-- The plugins of one kind with the texts of their settings. -/
def table (v : Option Value) : Except Problem (OrderedTable SettingTexts) :=
  (readTable v).map PluginTable.seen

theorem table_map (pairs : List (Value × Value)) :
    table (some (.map pairs)) =
      (Source.values.readPairs texts pairs).map OrderedTable.ofList := by
  let read := Source.values.optional (PluginSettings.read .values)
  have hread : readTable (some (.map pairs)) =
      (Source.values.readPairs read pairs >>= fun entries =>
        .ok (OrderedTable.ofList entries)).map some := rfl
  have htexts : Source.values.readPairs texts pairs =
      (Source.values.readPairs read pairs).map fun es =>
        es.map fun e => (e.1, PluginSettings.texts e.2) := Source.readPairs_map _ pairs
  rw [table, hread, htexts]
  cases Source.values.readPairs read pairs with
  | error e => rfl
  | ok entries => exact congrArg Except.ok (OrderedTable.map_ofList _ entries)

theorem table_seq (items : List Value) :
    table (some (.seq items)) = (items.mapM Source.values.string).map fun names =>
      OrderedTable.ofList (names.map fun n => (n, PluginSettings.texts none)) := by
  have hread : readTable (some (.seq items)) =
      (items.mapM Source.values.string >>= fun names =>
        .ok (OrderedTable.ofList (names.map fun n => (n, none)))).map some := rfl
  rw [table, hread]
  cases items.mapM Source.values.string with
  | error e => rfl
  | ok names =>
    refine congrArg Except.ok ((OrderedTable.map_ofList _ _).trans ?_)
    rw [List.map_map]
    rfl

theorem readPairs_null (items : List Value) :
    Source.values.readPairs texts (items.map fun n => (n, .null)) =
      (items.mapM Source.values.string).map fun names =>
        names.map fun n => (n, PluginSettings.texts none) := by
  induction items with
  | nil => rfl
  | cons item items ih =>
    rw [List.map_cons, Source.readPairs_cons, List.mapM_cons, ih]
    cases Source.values.string item with
    | error e => rfl
    | ok name => cases items.mapM Source.values.string <;> rfl

/-! ## The parents of a level -/

/-- The parents of a level, where they are given. -/
def parents (v : Option Value) : Except Problem (List String) :=
  match v with
  | some a => Level.readParents .values a
  | none => .ok []

theorem parents_seq (names : List String) :
    parents (some (.seq (names.map .string))) =
      .ok (names.filter fun p => !Text.isBlankText p) := by
  have hnames (read : Value → Except Problem String) (hread : ∀ n, read (.string n) = .ok n) :
      (names.map Value.string).mapM read = .ok names := by
    induction names with
    | nil => rfl
    | cons n names ih =>
      rw [List.map_cons, List.mapM_cons, hread, ih]
      rfl
  have hlist : Source.values.stringOrList (.seq (names.map .string)) = .ok (.inr names) :=
    congrArg (Sum.inr <$> ·) (hnames _ fun _ => rfl)
  have hoptional : Source.values.optional Source.values.stringOrList (.seq (names.map .string)) =
      .ok (some (.inr names)) := congrArg (Except.map some) hlist
  rw [parents, Level.readParents, hoptional]
  rfl

/-! ## Levels -/

/-- The fields of a level. -/
def levelFields : List String := ["discovery", "tool", "reporting", "inherits_from"]

/-- A level with these fields. -/
def read (field : String → Option Value) : Except Problem Level := do
  let discovery ← readTable (field "discovery")
  let tool ← readTable (field "tool")
  let reporting ← readTable (field "reporting")
  let inheritsFrom ← parents (field "inherits_from")
  .ok { discovery, tool, reporting, inheritsFrom }

theorem read_eq (v : Value) :
    Level.read .values v = fields levelFields v >>= read := by
  have hread : Level.read .values v = Source.values.fields levelFields v >>= fun fs =>
      read fun name => fs.lookup name := by
    refine bind_congr fun fs => ?_
    have htable (name : String) : Source.values.optionalField fs name (PluginTable.read .values) =
        readTable (fs.lookup name) := by
      unfold Source.optionalField readTable
      cases fs.lookup name <;> rfl
    simp only [htable, read, parents]
    cases fs.lookup "inherits_from" <;> rfl
  rw [hread, fields]
  cases Source.values.fields levelFields v <;> rfl

/-- What can be asked of a level with these fields. -/
def ofFields (field : String → Option Value) : Except Problem LevelSeen := do
  let discovery ← table (field "discovery")
  let tool ← table (field "tool")
  let reporting ← table (field "reporting")
  let inheritsFrom ← parents (field "inherits_from")
  let plugins : PluginKind → OrderedTable SettingTexts
    | .discovery => discovery
    | .tool => tool
    | .reporting => reporting
  .ok { plugins, inheritsFrom }

theorem map_ofFields (field : String → Option Value) :
    (read field).map Level.seen = ofFields field := by
  unfold read ofFields table
  cases readTable (field "discovery") with
  | error e => rfl
  | ok discovery =>
    cases readTable (field "tool") with
    | error e => rfl
    | ok tool =>
      cases readTable (field "reporting") with
      | error e => rfl
      | ok reporting =>
        cases parents (field "inherits_from") with
        | error e => rfl
        | ok parents =>
          refine congrArg Except.ok (congrArg (LevelSeen.mk · parents) ?_)
          funext kind
          cases kind <;> rfl

/-- What can be asked of a level. -/
def level (v : Value) : Except Problem LevelSeen :=
  (Level.read .values v).map Level.seen

theorem level_eq (v : Value) : level v = fields levelFields v >>= ofFields := by
  rw [level, read_eq]
  cases fields levelFields v with
  | error e => rfl
  | ok field => exact map_ofFields field

/-! ## Documents -/

/-- What can be asked of the levels of a document. -/
abbrev LevelsSeen := OrderedTable LevelSeen

/-- The levels of a document, where they are given. -/
def levels (v : Option Value) : Except Problem LevelsSeen :=
  match v with
  | some a => (LevelTable.read .values a).map fun t => t.map fun _ l => (l.getD {}).seen
  | none => .ok .empty

/-- What can be asked of the levels of a document. -/
def document (v : Value) : Except Problem LevelsSeen :=
  (Config.levelsOfValue v).map fun t => t.map fun _ => Level.seen

theorem optional_level (v : Value) :
    (Source.values.optional (Level.read .values) v).map (fun l => (l.getD {}).seen) =
      level v := by
  unfold Source.optional level
  cases v with
  | null => rfl
  | _ =>
    simp only [Source.values]
    cases Level.read _ _ <;> rfl

theorem levels_map (pairs : List (Value × Value)) :
    levels (some (.map pairs)) =
      (Source.values.readPairs level pairs).map OrderedTable.ofList := by
  let read := Source.values.optional (Level.read .values)
  have hread : LevelTable.read .values (.map pairs) =
      Source.values.readPairs read pairs >>= fun entries => .ok (OrderedTable.ofList entries) := rfl
  have hseen : Source.values.readPairs level pairs =
      (Source.values.readPairs read pairs).map fun es =>
        es.map fun e => (e.1, (e.2.getD {}).seen) := by
    rw [← funext optional_level]
    exact Source.readPairs_map _ pairs
  rw [levels, hread, hseen]
  cases Source.values.readPairs read pairs with
  | error e => rfl
  | ok entries => exact congrArg Except.ok (OrderedTable.map_ofList _ entries)

theorem document_eq (v : Value) :
    document v = fields ["levels"] v >>= fun field => levels (field "levels") := by
  have hread : (LevelTable.readDocument .values v).map
      (fun t => t.map fun _ l => (l.getD {}).seen) =
      fields ["levels"] v >>= fun field => levels (field "levels") := by
    rw [LevelTable.readDocument, fields]
    cases Source.values.fields ["levels"] v with
    | error e => rfl
    | ok fs =>
      simp only [bind, Except.bind, Except.map]
      cases fs.lookup "levels" <;> rfl
  rw [← hread]
  unfold document Config.levelsOfValue
  split
  · rfl
  · cases LevelTable.readDocument .values v with
    | error e => rfl
    | ok t => exact congrArg Except.ok (OrderedTable.map_map _ _ t)

end Seen

end LintScan
