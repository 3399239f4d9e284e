import LintScan.Proofs.Level.Seen

/-!
# Spellings of a level document

A document can say the same of its levels in several ways. This file lists the ways and shows that
what can be asked of the levels is the same in all of them, wherever in a document they stand.

* `Respelled.Settings`, `Respelled.Table`, `Respelled.Parents`, `Respelled.Level`,
  `Respelled.Document` — two spellings of one thing, from the settings of a plugin up to a document.
* `fields_withField` — a field between other pairs is one field more; all others are what they are
  without it.
* `Settings.texts`, `Table.seen`, `Parents.read`, `Level.seen`, `Document.seen` — two spellings are
  read to the same answers, or fail to be read for the same reason.
-/

namespace LintScan

open Yaml (Problem Source Value)

namespace Respelled

/-! ## Spellings -/

/-- The value is read as a text where a text is expected. -/
def IsText (v : Value) (text : String) : Prop := Source.values.string? v = some text

/-- None of the pairs has a key that is read as the name. -/
def Absent (name : String) (pairs : List (Value × Value)) : Prop := ∀ p ∈ pairs, ¬ IsText p.1 name

/-- A mapping with a value for a key between other pairs, or without the key. -/
def withField (before after : List (Value × Value)) (key : Value) (v : Option Value) : Value :=
  .map (before ++ ((v.map fun x => (key, x)).toList ++ after))

/-- Settings of a plugin: one that is null may be left out. -/
inductive Settings : Value → Value → Prop
  | leaveOut {name : String} (before after : List (Value × Value)) (key : Value) :
      IsText key name → Absent name (before ++ after) →
      Settings (withField before after key (some .null)) (withField before after key none)
  | tagged {v w : Value} (tag : String) : Settings v w → Settings (.tagged tag v) (.tagged tag w)

/-- What may stand for no plugins, also nothing at all. -/
inductive NoPlugins : Option Value → Prop
  | missing : NoPlugins none
  | null : NoPlugins (some .null)
  | map : NoPlugins (some (.map []))
  | seq : NoPlugins (some (.seq []))

/-- Plugins of one kind: the names in a list or with null for their settings, once or repeatedly;
no plugins; and the settings of one of them in another spelling. -/
inductive Table : Option Value → Option Value → Prop
  | listed (names : List Value) :
      Table (some (.seq names)) (some (.map (names.map fun n => (n, .null))))
  | repeated {items kept : List Value} {names : List String} :
      items.Forall₂ IsText names → kept.Forall₂ IsText names.eraseDups →
      Table (some (.seq items)) (some (.seq kept))
  | none {v w : Option Value} : NoPlugins v → NoPlugins w → Table v w
  | settings {v w : Value} (before after : List (Value × Value)) (plugin : Value) : Settings v w →
      Table (some (withField before after plugin (some v)))
        (some (withField before after plugin (some w)))

/-- What may stand for no parents, also nothing at all. -/
inductive NoParents : Option Value → Prop
  | missing : NoParents none
  | null : NoParents (some .null)
  | blank {s : String} : Text.isBlankText s = true → NoParents (some (.string s))
  | blanks {names : List String} : (∀ n ∈ names, Text.isBlankText n = true) →
      NoParents (some (.seq (names.map .string)))

/-- Parents: a single one by itself or in a list; no parents. -/
inductive Parents : Option Value → Option Value → Prop
  | single (s : String) : Parents (some (.string s)) (some (.seq [.string s]))
  | none {v w : Option Value} : NoParents v → NoParents w → Parents v w

/-- A level: null or nothing in it; its plugins of one kind or its parents in another spelling. -/
inductive Level : Value → Value → Prop
  | empty : Level .null (.map [])
  | plugins {v w : Option Value} (before after : List (Value × Value)) (key : Value)
      (kind : PluginKind) : IsText key kind.name → Absent kind.name (before ++ after) →
      Table v w → Level (withField before after key v) (withField before after key w)
  | parents {v w : Option Value} (before after : List (Value × Value)) (key : Value) :
      IsText key "inherits_from" → Absent "inherits_from" (before ++ after) →
      Parents v w → Level (withField before after key v) (withField before after key w)
  | tagged {v w : Value} (tag : String) : Level v w → Level (.tagged tag v) (.tagged tag w)

/-- A document: one of its levels in another spelling. -/
inductive Document : Value → Value → Prop
  | level {v w : Value} (before after : List (Value × Value)) (key : Value)
      (above below : List (Value × Value)) (name : Value) :
      IsText key "levels" → Absent "levels" (before ++ after) → Level v w →
      Document (withField before after key (some (withField above below name (some v))))
        (withField before after key (some (withField above below name (some w))))
  | tagged {v w : Value} (tag : String) : Document v w → Document (.tagged tag v) (.tagged tag w)

/-! ## Texts and names -/

theorem IsText.string {v : Value} {text : String} (h : IsText v text) :
    Source.values.string v = .ok text := by
  unfold IsText at h
  rw [Source.string, h]
  rfl

theorem mapM_string {items : List Value} {names : List String} (h : items.Forall₂ IsText names) :
    items.mapM Source.values.string = .ok names := by
  induction h with
  | nil => rfl
  | cons htext _ ih =>
    rw [List.mapM_cons, htext.string, ih]
    rfl

theorem Absent.left {name : String} {before after : List (Value × Value)}
    (h : Absent name (before ++ after)) : Absent name before :=
  fun p hp => h p (List.mem_append_left after hp)

theorem Absent.right {name : String} {before after : List (Value × Value)}
    (h : Absent name (before ++ after)) : Absent name after :=
  fun p hp => h p (List.mem_append_right before hp)

/-- An absent name is not among those that are read from the pairs. -/
theorem Absent.not_mem {β : Type} {read : Value → Except Problem β} {name : String}
    {pairs : List (Value × Value)} (h : Absent name pairs) {es : List (String × β)}
    (hread : Source.values.readPairs read pairs = .ok es) : name ∉ es.map (·.1) := by
  intro hmem
  obtain ⟨e, he, rfl⟩ := List.mem_map.1 hmem
  obtain ⟨p, hp, htext⟩ := Source.string?_of_mem_readPairs hread he
  exact h p hp htext

/-! ## A field between other pairs -/

section Between

variable {name : String} {first rest : List (String × Value)} {known : List String}

theorem lookup_eq_none (h : name ∉ first.map (·.1)) : first.lookup name = none := by
  cases hfound : first.lookup name with
  | none => rfl
  | some v => exact absurd (OrderedTable.mem_keys_of_lookup hfound) h

theorem lookup_between (hfirst : name ∉ first.map (·.1)) (hrest : name ∉ rest.map (·.1))
    (v : Option Value) (other : String) :
    (first ++ ((v.map fun x => (name, x)).toList ++ rest)).lookup other =
      if other = name then v else (first ++ rest).lookup other := by
  rw [List.lookup_append, List.lookup_append, List.lookup_append]
  split
  · rename_i hother
    subst hother
    rw [lookup_eq_none hfirst, lookup_eq_none hrest]
    cases v <;> simp
  · rename_i hother
    have hb : (other == name) = false := by simpa using hother
    cases v with
    | none => rfl
    | some x => simp [List.lookup_cons, hb]

theorem knownPairs_between (hknown : name ∈ known) (v : Option Value) :
    Seen.knownPairs known (first ++ ((v.map fun x => (name, x)).toList ++ rest)) =
      Seen.knownPairs known first ++
        ((v.map fun x => (name, x)).toList ++ Seen.knownPairs known rest) := by
  cases v <;> simp [Seen.knownPairs, hknown]

theorem not_mem_knownPairs (h : name ∉ first.map (·.1)) :
    name ∉ (Seen.knownPairs known first).map (·.1) :=
  fun hmem => h ((List.filter_sublist.map _).subset hmem)

theorem nodup_between (hfirst : name ∉ first.map (·.1)) (hrest : name ∉ rest.map (·.1))
    (v : Option Value) :
    ((first ++ ((v.map fun x => (name, x)).toList ++ rest)).map (·.1)).Nodup ↔
      ((first ++ rest).map (·.1)).Nodup := by
  cases v with
  | none => rfl
  | some x =>
    have hnot : name ∉ first.map (·.1) ++ rest.map (·.1) := by
      rw [List.mem_append]
      exact not_or.2 ⟨hfirst, hrest⟩
    simp only [Option.map_some, Option.toList_some, List.singleton_append, List.map_append,
      List.map_cons, List.nodup_middle, List.nodup_cons]
    exact and_iff_right hnot

theorem record_between (hknown : name ∈ known) (hfirst : name ∉ first.map (·.1))
    (hrest : name ∉ rest.map (·.1)) (v : Option Value) :
    Seen.record known (first ++ ((v.map fun x => (name, x)).toList ++ rest)) =
      (Seen.record known (first ++ rest)).map fun field => Function.update field name v := by
  have hfirst' : name ∉ (Seen.knownPairs known first).map (·.1) := not_mem_knownPairs hfirst
  have hrest' : name ∉ (Seen.knownPairs known rest).map (·.1) := not_mem_knownPairs hrest
  have happend : Seen.knownPairs known (first ++ rest) =
      Seen.knownPairs known first ++ Seen.knownPairs known rest := List.filter_append ..
  have honce := nodup_between hfirst' hrest' v
  unfold Seen.record
  rw [knownPairs_between hknown, happend]
  by_cases h : ((Seen.knownPairs known first ++ Seen.knownPairs known rest).map (·.1)).Nodup
  · rw [if_pos h, if_pos (honce.2 h), Except.map]
    congr 1
    funext other
    rw [lookup_between hfirst' hrest', Function.update_apply]
  · rw [if_neg h, if_neg (mt honce.1 h), Except.map]

end Between

theorem readPairs_withField {key : Value} {name : String} (hkey : IsText key name)
    (before after : List (Value × Value)) (v : Option Value) :
    Source.values.readPairs Except.ok
        (before ++ ((v.map fun x => (key, x)).toList ++ after)) = (do
      let first ← Source.values.readPairs .ok before
      let rest ← Source.values.readPairs .ok after
      .ok (first ++ ((v.map fun x => (name, x)).toList ++ rest))) := by
  rw [Source.readPairs_append]
  cases v with
  | none => rfl
  | some x =>
    refine bind_congr fun first => ?_
    simp only [Option.map_some, Option.toList_some, List.singleton_append]
    rw [Source.readPairs_cons, hkey.string]
    cases Source.values.readPairs Except.ok after <;> rfl

theorem fields_withField {key : Value} {name : String} {before after : List (Value × Value)}
    {known : List String} (hkey : IsText key name) (habsent : Absent name (before ++ after))
    (hknown : name ∈ known) (v : Option Value) :
    Seen.fields known (withField before after key v) =
      (Seen.fields known (.map (before ++ after))).map fun field =>
        Function.update field name v := by
  rw [withField, Seen.fields_map, Seen.fields_map, readPairs_withField hkey,
    Source.readPairs_append]
  cases hfirst : Source.values.readPairs Except.ok before with
  | error e => rfl
  | ok first =>
    cases hrest : Source.values.readPairs Except.ok after with
    | error e => rfl
    | ok rest =>
      exact record_between hknown (habsent.left.not_mem hfirst) (habsent.right.not_mem hrest) v

/-! ## Settings -/

/-- A setting that is null has no text, like one that is missing. -/
theorem texts_between {name : String} {first rest : List (String × Value)}
    (hfirst : name ∉ first.map (·.1)) (hrest : name ∉ rest.map (·.1)) :
    PluginSettings.texts (some (SortedTable.ofList (first ++ (name, .null) :: rest))) =
      PluginSettings.texts (some (SortedTable.ofList (first ++ rest))) := by
  funext key
  have hfirst' : name ∉ first.reverse.map (·.1) := by simpa using hfirst
  have hrest' : name ∉ rest.reverse.map (·.1) := by simpa using hrest
  have hlookup := lookup_between hrest' hfirst' (some .null) key
  have hreverse : (first ++ (name, Value.null) :: rest).reverse =
      rest.reverse ++ ([(name, .null)] ++ first.reverse) := by simp
  rw [Seen.texts_ofList, Seen.texts_ofList, hreverse, List.reverse_append]
  refine (congrArg (·.bind Config.settingText) hlookup).trans ?_
  split
  · rename_i hkey
    rw [hkey, lookup_eq_none (by simp [hfirst, hrest])]
    rfl
  · rfl

theorem Settings.texts {v w : Value} (h : Settings v w) : Seen.texts v = Seen.texts w := by
  induction h with
  | tagged tag _ ih => rw [Seen.texts_tagged, Seen.texts_tagged, ih]
  | leaveOut before after key hkey habsent =>
    rw [withField, withField, Seen.texts_map, Seen.texts_map, readPairs_withField hkey,
      readPairs_withField hkey]
    cases hfirst : Source.values.readPairs Except.ok before with
    | error e => rfl
    | ok first =>
      cases hrest : Source.values.readPairs Except.ok after with
      | error e => rfl
      | ok rest =>
        have hbetween := texts_between (habsent.left.not_mem hfirst) (habsent.right.not_mem hrest)
        exact congrArg Except.ok hbetween

/-! ## Plugins -/

theorem NoPlugins.seen {v : Option Value} (h : NoPlugins v) : Seen.table v = .ok .empty := by
  cases h <;> rfl

theorem Table.seen {v w : Option Value} (h : Table v w) : Seen.table v = Seen.table w := by
  cases h with
  | listed items =>
    rw [Seen.table_seq, Seen.table_map, Seen.readPairs_null]
    cases items.mapM Source.values.string <;> rfl
  | repeated hitems hkept =>
    rw [Seen.table_seq, Seen.table_seq, mapM_string hitems, mapM_string hkept]
    exact congrArg Except.ok (OrderedTable.ofList_eraseDups _ _).symm
  | none hv hw => rw [hv.seen, hw.seen]
  | settings before after plugin hsettings =>
    rw [withField, withField, Seen.table_map, Seen.table_map]
    exact congrArg (Except.map OrderedTable.ofList)
      (Source.readPairs_replace hsettings.texts before after plugin)

/-! ## Parents -/

theorem NoParents.read {v : Option Value} (h : NoParents v) : Seen.parents v = .ok [] := by
  cases h with
  | missing => rfl
  | null => rfl
  | @blank s hs =>
    have hread : Seen.parents (some (.string s)) =
        .ok ([s].filter fun p => !Text.isBlankText p) := rfl
    rw [hread, List.filter_cons_of_neg (by simp [hs])]
    rfl
  | @blanks names hnames =>
    rw [Seen.parents_seq, List.filter_eq_nil_iff.2 fun n hn => by simp [hnames n hn]]

theorem Parents.read {v w : Option Value} (h : Parents v w) : Seen.parents v = Seen.parents w := by
  cases h with
  | single s => rfl
  | none hv hw => rw [hv.read, hw.read]

/-! ## Levels and documents -/

theorem level_withField {key : Value} {name : String} {before after : List (Value × Value)}
    (hkey : IsText key name) (habsent : Absent name (before ++ after))
    (hknown : name ∈ Seen.levelFields) (v : Option Value) :
    Seen.level (withField before after key v) =
      Seen.fields Seen.levelFields (.map (before ++ after)) >>= fun field =>
        Seen.ofFields (Function.update field name v) := by
  rw [Seen.level_eq, fields_withField hkey habsent hknown]
  cases Seen.fields Seen.levelFields (.map (before ++ after)) <;> rfl

theorem Level.seen {v w : Value} (h : Level v w) : Seen.level v = Seen.level w := by
  induction h with
  | empty => rfl
  | plugins before after key kind hkey habsent htable =>
    have hknown : kind.name ∈ Seen.levelFields := by cases kind <;> decide
    rw [level_withField hkey habsent hknown, level_withField hkey habsent hknown]
    refine bind_congr fun field => ?_
    unfold Seen.ofFields
    cases kind <;> simp [PluginKind.name, htable.seen]
  | parents before after key hkey habsent hparents =>
    have hknown : "inherits_from" ∈ Seen.levelFields := by decide
    rw [level_withField hkey habsent hknown, level_withField hkey habsent hknown]
    refine bind_congr fun field => ?_
    unfold Seen.ofFields
    simp [hparents.read]
  | tagged tag _ ih => exact ih

theorem Document.seen {v w : Value} (h : Document v w) : Seen.document v = Seen.document w := by
  induction h with
  | level before after key above below name hkey habsent hlevel =>
    rw [Seen.document_eq, Seen.document_eq, fields_withField hkey habsent (by decide),
      fields_withField hkey habsent (by decide)]
    cases Seen.fields ["levels"] (.map (before ++ after)) with
    | error e => rfl
    | ok field =>
      simp only [Except.map, bind, Except.bind, Function.update_self]
      rw [withField, withField, Seen.levels_map, Seen.levels_map]
      exact congrArg (Except.map OrderedTable.ofList)
        (Source.readPairs_replace hlevel.seen above below name)
  | tagged tag _ ih =>
    rw [Seen.document_eq, Seen.document_eq] at ih ⊢
    exact ih

end Respelled

end LintScan
