import LintScan.Proofs.Files.Changes

/-!
# Directories without links

In a directory that holds no link, a path leads where its names say.

* `FileTree.Extends` — a later tree that has the directories, the links and the files of an earlier
  one, be it with other contents; `Extends.find` — what was found before is found there.
* `FileTree.Unlinked` — no link lies below a place.
* `link_of_write`, `link_of_makeDirectories` — neither new files nor new directories bring a link
  in.
* `FileTree.place_of_locate` — where a path inside such a directory leads.
-/

namespace LintScan.FileTree

variable {t t' t'' : FileTree} {cwd place : Place} {e : Entry} {p q : Path} {bytes : List UInt8}

/-! ## Later trees -/

/-- A later tree has what an earlier one has; only the contents of files may be other ones. -/
def Extends (t t' : FileTree) : Prop :=
  ∀ place e, t.entry? place = some e →
    t'.entry? place = some e ∨
      e.isFile = true ∧ ∃ bytes mode, t'.entry? place = some (.file bytes mode)

namespace Extends

theorem refl (t : FileTree) : Extends t t := fun _ _ => .inl

theorem trans (h : Extends t t') (h' : Extends t' t'') : Extends t t'' := by
  intro place e he
  rcases h place e he with hsame | ⟨hfile, bytes, mode, hother⟩
  · exact h' place e hsame
  · rcases h' place _ hother with hsame | ⟨_, hother'⟩
    · exact .inr ⟨hfile, bytes, mode, hsame⟩
    · exact .inr ⟨hfile, hother'⟩

theorem of_write (h : t.write cwd p bytes = .ok t') : Extends t t' := by
  intro place e he
  obtain ⟨target, mode, _, rfl, htarget, hplaced⟩ := eq_set_of_write h
  by_cases hsame : place = target
  · subst hsame
    refine .inr ⟨?_, bytes, mode, entry?_set_self t htarget _⟩
    rcases hplaced with ⟨old, hold⟩ | ⟨hnone, _⟩
    · cases he.symm.trans hold
      rfl
    · cases he.symm.trans hnone
  · exact .inl ((entry?_set_of_ne hsame _).trans he)

theorem of_makeDirectories (h : t.makeDirectories cwd p = .ok t') : Extends t t' :=
  fun _ _ he => .inl (entry?_makeDirectories h he)

theorem directory (h : Extends t t') (hplace : t.entry? place = some .directory) :
    t'.entry? place = some .directory :=
  (h place _ hplace).resolve_right fun hfile => by cases hfile.1

theorem link (h : Extends t t') {target : Path} (hplace : t.entry? place = some (.link target)) :
    t'.entry? place = some (.link target) :=
  (h place _ hplace).resolve_right fun hfile => by cases hfile.1

/-- A way to an entry is still one in a later tree. -/
theorem followSteps (h : Extends t t') {jump jump' : Place → List String → Except FileError Place}
    (hjump : ∀ there onward, jump there onward = .ok place → jump' there onward = .ok place)
    {from_ : Place} {steps : List String}
    (hsteps : t.followSteps true jump from_ steps = .ok place) (he : t.entry? place = some e) :
    t'.followSteps true jump' from_ steps = .ok place := by
  fun_induction FileTree.followSteps t true jump from_ steps with
  | case1 => exact hsteps
  | case2 _ s _ here hdot ih =>
    obtain rfl : s = "." := eq_of_beq hdot
    rw [followSteps_dot (h.directory here)]
    exact ih hsteps
  | case3 _ s _ here _ hdots ih =>
    obtain rfl : s = ".." := eq_of_beq hdots
    rw [followSteps_up (h.directory here)]
    exact ih hsteps
  | case4 _ _ rest _ _ _ _ _ _ hlast => simp at hlast
  | case5 at_ s steps here hdot hdots _ target hlink =>
    rw [beq_iff_eq] at hdot hdots
    rw [followSteps_link (h.directory here) _ hdot hdots (h.link hlink)]
    exact hjump _ _ hsteps
  | case6 at_ s steps here hdot hdots _ e' hlink hnext ih =>
    rw [beq_iff_eq] at hdot hdots
    obtain ⟨later, hlater, hnolink⟩ : ∃ later, t'.entry? (at_ ++ [s]) = some later ∧
        ∀ target, later ≠ .link target := by
      rcases h _ _ hnext with hsame | ⟨_, bytes, mode, hfile⟩
      · exact ⟨e', hsame, fun target hl => hlink target hl⟩
      · exact ⟨_, hfile, fun target hl => by cases hl⟩
    rw [followSteps_entry (h.directory here) _ hdot hdots hlater hnolink]
    exact ih hsteps
  | case7 _ _ _ _ _ _ _ hnone =>
    obtain rfl := Except.ok.inj hsteps
    rw [hnone] at he
    cases he
  | _ => cases hsteps

theorem follow (h : Extends t t') {links : Nat} {from_ : Place} {steps : List String}
    (hsteps : t.follow true links from_ steps = .ok place) (he : t.entry? place = some e) :
    t'.follow true links from_ steps = .ok place := by
  induction links generalizing from_ steps with
  | zero => exact h.followSteps (fun _ _ hjump => by cases hjump) hsteps he
  | succ links ih => exact h.followSteps (fun _ _ hjump => ih hjump) hsteps he

theorem locate (h : Extends t t') (hlocate : t.locate cwd true p = .ok place)
    (he : t.entry? place = some e) : t'.locate cwd true p = .ok place := by
  obtain ⟨htext, hfollow⟩ := locate_eq_ok_iff.1 hlocate
  exact locate_eq_ok_iff.2 ⟨htext, h.follow hfollow he⟩

/-- A directory that was found is found in a later tree. -/
theorem find_directory (h : Extends t t') (hfind : t.find cwd p = .ok (place, .directory)) :
    t'.find cwd p = .ok (place, .directory) := by
  obtain ⟨hlocate, he⟩ := find_eq_ok_iff.1 hfind
  exact find_eq_ok_iff.2 ⟨h.locate hlocate he, h.directory he⟩

end Extends

/-! ## Ways without links -/

section Way

variable {followLast : Bool} {jump jump' : Place → List String → Except FileError Place}
  {steps : List String}

/-- Steps on whose way no link lies lead where their names say. -/
theorem place_of_followSteps (noUp : ".." ∉ steps)
    (unlinked : ∀ above, above <+: steps.filter (· ≠ ".") → ∀ target,
      t.entry? (place ++ above) ≠ some (.link target)) {target : Place}
    (hsteps : t.followSteps followLast jump place steps = .ok target) :
    target = place ++ steps.filter (· ≠ ".") := by
  fun_induction FileTree.followSteps t followLast jump place steps with
  | case1 => simpa using (Except.ok.inj hsteps).symm
  | case2 _ s _ here hdot ih =>
    obtain rfl : s = "." := eq_of_beq hdot
    rw [List.filter_cons_of_neg (by decide)] at unlinked ⊢
    exact ih (fun hmem => noUp (List.mem_cons_of_mem _ hmem)) unlinked hsteps
  | case3 _ s _ _ _ hdots =>
    obtain rfl : s = ".." := eq_of_beq hdots
    exact absurd List.mem_cons_self noUp
  | case4 _ s _ _ hdot _ _ there hlink | case5 _ s _ _ hdot _ _ there hlink =>
    rw [List.filter_cons_of_pos (by simpa using hdot)] at unlinked
    exact absurd hlink (unlinked [s] (List.cons_prefix_cons.2 ⟨rfl, List.nil_prefix⟩) there)
  | case6 at_ s rest here hdot hdots _ _ _ _ ih =>
    rw [List.filter_cons_of_pos (by simpa using hdot)] at unlinked ⊢
    have hbehind := ih (fun hmem => noUp (List.mem_cons_of_mem _ hmem)) (fun above habove => by
      rw [List.append_assoc]
      exact unlinked _ (List.cons_prefix_cons.2 ⟨rfl, habove⟩)) hsteps
    rw [hbehind, List.append_assoc]
    rfl
  | case7 at_ s rest _ hdot _ _ _ hrest =>
    obtain rfl : rest = [] := by simpa using hrest
    obtain rfl := Except.ok.inj hsteps
    rw [List.filter_cons_of_pos (by simpa using hdot)]
    rfl
  | _ => cases hsteps

/-- A way without links is the same in every tree that has the same on it. -/
theorem followSteps_of_agree (noUp : ".." ∉ steps)
    (unlinked : ∀ above, above <+: steps.filter (· ≠ ".") → ∀ target,
      t.entry? (place ++ above) ≠ some (.link target))
    (agree : ∀ above, above <+: steps.filter (· ≠ ".") →
      t'.entry? (place ++ above) = t.entry? (place ++ above)) :
    t'.followSteps followLast jump' place steps = t.followSteps followLast jump place steps := by
  have hhere : ∀ {place : Place} {names : List String},
      (∀ above, above <+: names → t'.entry? (place ++ above) = t.entry? (place ++ above)) →
      t'.entry? place = t.entry? place := fun h => by simpa using h [] List.nil_prefix
  induction steps generalizing place with
  | nil => rfl
  | cons s steps ih =>
    have hrest : ".." ∉ steps := fun hmem => noUp (List.mem_cons_of_mem _ hmem)
    have hdots : s ≠ ".." := fun h => noUp (h ▸ List.mem_cons_self)
    unfold FileTree.followSteps
    rw [hhere agree]
    split
    · by_cases hdot : s = "."
      · subst hdot
        rw [List.filter_cons_of_neg (by decide)] at unlinked agree
        exact ih hrest unlinked agree
      · rw [List.filter_cons_of_pos (by simpa using hdot)] at unlinked agree
        have hbehind : ∀ Q : Place → Prop,
            (∀ above, above <+: s :: steps.filter (· ≠ ".") → Q (place ++ above)) →
            ∀ above, above <+: steps.filter (· ≠ ".") → Q (place ++ [s] ++ above) := by
          intro Q h above habove
          rw [List.append_assoc]
          exact h _ (List.cons_prefix_cons.2 ⟨rfl, habove⟩)
        have hagree := hbehind (fun q => t'.entry? q = t.entry? q) agree
        have hnext := hhere hagree
        simp only [beq_iff_eq, hdot, hdots, if_false, hnext]
        split
        · rename_i hlink
          exact absurd hlink (unlinked [s] (List.cons_prefix_cons.2 ⟨rfl, List.nil_prefix⟩) _)
        · exact ih hrest
            (hbehind (fun q => ∀ target, t.entry? q ≠ some (.link target)) unlinked) hagree
        · rfl
    · rfl
    · rfl

end Way

/-! ## Directories without links -/

/-- No link lies below a place. -/
def Unlinked (t : FileTree) (place : Place) : Prop :=
  ∀ names target, t.entry? (place ++ names) ≠ some (.link target)

/-- A tree of files and directories alone has no links anywhere. -/
theorem Unlinked.of_forall (h : ∀ entry ∈ t.entries, (entry.2.isFile || entry.2.isDirectory) = true)
    (place : Place) : t.Unlinked place := by
  intro names target hlink
  unfold entry? at hlink
  split at hlink
  · cases hlink
  · obtain ⟨_, _, hentries, _⟩ := List.lookup_eq_some_iff.1 hlink
    have := h _ (hentries ▸ List.mem_append_right _ List.mem_cons_self)
    cases this

section

variable {target : Path}

theorem link_of_set {other : Place} (hother : other ≠ []) (hnew : ∀ there, e ≠ .link there)
    (h : entry? (t.set other e) place = some (.link target)) :
    t.entry? place = some (.link target) := by
  by_cases hsame : place = other
  · rw [hsame, entry?_set_self t hother, Option.some.injEq] at h
    exact absurd h (hnew target)
  · rwa [entry?_set_of_ne hsame] at h

/-- A file that is written brings no link in. -/
theorem link_of_write (hwrite : t.write cwd p bytes = .ok t')
    (h : t'.entry? place = some (.link target)) : t.entry? place = some (.link target) := by
  obtain ⟨other, mode, _, rfl, hother, _⟩ := eq_set_of_write hwrite
  exact link_of_set hother (fun there hl => by cases hl) h

/-- Directories that are made bring no link in. -/
theorem link_of_makeDirectories (hmake : t.makeDirectories cwd p = .ok t')
    (h : t'.entry? place = some (.link target)) : t.entry? place = some (.link target) := by
  have hchain := reflTransGen_makeDirectories hmake
  clear hmake
  induction hchain with
  | refl => exact h
  | tail _ hmade ih =>
    obtain ⟨_, hmade⟩ := hmade
    obtain ⟨other, _, rfl, hnone, _⟩ := eq_set_of_makeDirectory hmade
    refine ih (link_of_set ?_ (fun there hl => by cases hl) h)
    rintro rfl
    cases hnone

end

/-- **A path inside a directory without links leads where its names say.** -/
theorem place_of_locate (unlinked : t.Unlinked place)
    (found : t.find cwd p = .ok (place, .directory)) (hq : q.IsNamed) (hne : q.text ≠ "")
    (noUp : .up ∉ q.parts) {target : Place} (h : t.locate cwd true (p.join q) = .ok target) :
    target = place ++ q.namesOn := by
  obtain ⟨left, hleft⟩ := exists_locate_join p hq hne found
  rw [hleft] at h
  have hsteps : ".." ∉ stepsOf q := fun hmem => dots_notMem_namesOn q (by
    rw [← filter_stepsOf noUp]
    exact List.mem_filter.2 ⟨hmem, by decide⟩)
  rw [← filter_stepsOf noUp]
  cases left <;> exact place_of_followSteps hsteps (fun above _ => unlinked above) h

end LintScan.FileTree
