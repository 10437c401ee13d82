import PageScript.Proofs.File.Directories

/-!
# Saving texts one after the other

Whether a text can be saved under plain names depends on what is in the way (`Settles`): a file
above, a directory at the very place, the length of the path, or something that refuses the text
itself.  A save that fails leaves the tree as it was, unless the path is too long or the text is
refused; a save that succeeds writes the text, makes the directories above that were missing, and
does nothing else.

From this step a history follows.  `Shelf t log strays` says that the files of a tree hold what was
last saved under their names according to a log, and that its directories lead to something in the
log or to where a save went astray.  Every save keeps that (`Shelf.saveAll`).
-/

namespace PageScript.File.Tree

open PageScript.File.Path

variable {t t' : Tree} {names dir : List String} {name text : String} {refusal : Option Failure}

/-! ### One save -/

/-- A file stands in the way of names. -/
def Blocked (t : Tree) (names : List String) : Prop :=
  ∃ front text, front <+: names ∧ front ≠ names ∧ t.entryAt front = some (.file text)

/-- The second tree is the first one with a text saved under names: directories lead to it, and
everything else is as it was. -/
structure Stored (t : Tree) (names : List String) (text : String) (t' : Tree) : Prop where
  here : t'.here = t.here
  target : t'.entryAt names = some (.file text)
  above : ∀ front, front <+: names → front ≠ names → t'.entryAt front = some .directory
  elsewhere : ∀ place, (∀ front, front <+: names → place ≠ t.here ++ front) →
    t'.lookup place = t.lookup place

/-- What comes of saving under names a text that is written or else refused. -/
structure Settles (t : Tree) (names : List String) (text : String) (Written : Prop)
    (result : Except Failure Unit) (t' : Tree) : Prop where
  /-- A directory in its place, a file in the way, too long a path and a text that is refused make a
  save fail. -/
  fails_iff : result ≠ .ok () ↔
    t.entryAt names = some .directory ∨ t.Blocked names ∨ ¬ Fits names ∨ ¬ Written
  /-- A failure changes nothing, unless the path is too long or the text is refused. -/
  unchanged : result ≠ .ok () → Fits names → Written → t' = t
  /-- In these two cases the directories above may have been made. -/
  strayed : ¬ Fits names ∨ ¬ Written →
    t' = t ∨ ¬ t.Blocked names ∧ t.Opens names.dropLast t'
  stored : result = .ok () → t.Stored names text t'

theorem blocked_concat_iff : t.Blocked (dir ++ [name]) ↔ t.FileOn dir := by
  constructor
  · rintro ⟨front, text, hfront, hne, hfile⟩
    rcases List.prefix_concat_iff.mp hfront with rfl | hfront
    · exact absurd rfl hne
    · exact ⟨front, text, hfront, hfile⟩
  · rintro ⟨front, text, hfront, hfile⟩
    refine ⟨front, text, hfront.trans (List.prefix_append _ _), ?_, hfile⟩
    rintro rfl
    exact not_concat_prefix hfront

/-- Saving makes the directory first. -/
theorem save_concat (t : Tree) (dir : List String) (name text : String)
    (refusal : Option Failure) :
    t.save (below (dir ++ [name])) text refusal =
      match makeAll .here dir.reverse t with
      | (.error failure, t) => (.error failure, t)
      | (.ok (), t) =>
        match refusal with
        | some failure => (.error failure, t)
        | none => t.write (below (dir ++ [name])) text := by
  have hparent : (below (dir ++ [name])).parent = below dir := Path.parent_child (below dir) name
  rw [save, hparent]
  rfl

/-- In a directory a text is written, unless a directory has its name. -/
theorem Grounded.write_cases (ht : t.Grounded) (h : ∀ n ∈ dir ++ [name], IsPlain n)
    (hfits : Fits (dir ++ [name])) (hdir : t.entryAt dir = some .directory) (text : String) :
    (t.entryAt (dir ++ [name]) = some .directory ∧
      ∃ failure, t.write (below (dir ++ [name])) text = (.error failure, t)) ∨
    (t.entryAt (dir ++ [name]) ≠ some .directory ∧
      t.write (below (dir ++ [name])) text =
        (.ok (), t.put (t.here ++ (dir ++ [name])) (.file text))) := by
  have hresolve : t.resolve (below (dir ++ [name])) = .ok (t.here ++ (dir ++ [name])) := by
    rw [resolve_below h hfits]
    rcases ht.walk_cases h with ⟨-, hwalk⟩ | ⟨hfile, -⟩ | ⟨hnone, -⟩
    · exact hwalk
    · exact absurd hfile (ht.not_fileOn_of_directory hdir)
    · rw [hdir] at hnone
      cases hnone
  rw [write, hresolve]
  dsimp only
  split
  · next hlookup => exact .inl ⟨hlookup, _, rfl⟩
  · next hlookup => exact .inr ⟨fun hentry => hlookup hentry, rfl⟩

/-- Writing a text behind directories that lead to it stores it. -/
theorem Opens.stored (h : t.Opens dir t') (name text : String) :
    t.Stored (dir ++ [name]) text (t'.put (t'.here ++ (dir ++ [name])) (.file text)) where
  here := h.here
  target := t'.put_entryAt_self (by simp) _
  above front hfront hne := by
    rcases List.prefix_concat_iff.mp hfront with rfl | hfront
    · exact absurd rfl hne
    · rw [put_entryAt_of_ne hne, h.onWay front hfront]
  elsewhere place hplace := by
    rw [lookup_put_of_ne]
    · exact h.elsewhere place fun front hfront =>
        hplace front (hfront.trans (List.prefix_append _ _))
    · rw [h.here]
      exact hplace _ List.prefix_rfl

/-- If only the path of the text itself is too long, or the text is refused, its directory is made
and then the save fails. -/
theorem Grounded.save_strays (ht : t.Grounded) (h : ∀ n ∈ dir ++ [name], IsPlain n)
    (hlost : ¬ Fits (dir ++ [name]) ∨ refusal ≠ none) (hdir : Fits dir) (hfile : ¬ t.FileOn dir)
    (text : String) :
    ∃ failure t', t.save (below (dir ++ [name])) text refusal = (.error failure, t') ∧
      t.Opens dir t' := by
  have hplain : ∀ n ∈ dir, IsPlain n := fun n hn => h n (List.mem_append_left _ hn)
  obtain ⟨t', hmake, hopens⟩ := (ht.makeAll_spec hplain hdir).2 hfile
  rw [save_concat, hmake]
  cases refusal with
  | some failure => exact ⟨failure, t', rfl, hopens⟩
  | none =>
    have hfits : ¬ Fits (dir ++ [name]) := hlost.resolve_right fun hne => hne rfl
    dsimp only
    rw [write, resolve_below_of_not_fits h hfits]
    exact ⟨_, t', rfl, hopens⟩

/-- A file in the way, or too long a path to the directory, lets a save fail at once. -/
theorem Grounded.save_of_blocked (ht : t.Grounded) (h : ∀ n ∈ dir ++ [name], IsPlain n)
    (hdir : Fits dir → t.FileOn dir) (text : String) (refusal : Option Failure) :
    ∃ failure, t.save (below (dir ++ [name])) text refusal = (.error failure, t) := by
  have hplain : ∀ n ∈ dir, IsPlain n := fun n hn => h n (List.mem_append_left _ hn)
  have hmakes : ∃ failure, makeAll .here dir.reverse t = (.error failure, t) := by
    by_cases hfits : Fits dir
    · exact (ht.makeAll_spec hplain hfits).1 (hdir hfits)
    · exact makeAll_of_not_fits hplain hfits
  obtain ⟨failure, hmake⟩ := hmakes
  rw [save_concat, hmake]
  exact ⟨failure, rfl⟩

/-- A text that is not refused and whose path is not too long is saved where nothing is in the
way. -/
theorem Grounded.save_of_free (ht : t.Grounded) (h : ∀ n ∈ dir ++ [name], IsPlain n)
    (hfits : Fits (dir ++ [name])) (hfree : ¬ t.FileOn dir) (text : String) :
    (t.entryAt (dir ++ [name]) = some .directory ∧
      ∃ failure, t.save (below (dir ++ [name])) text = (.error failure, t)) ∨
    (t.entryAt (dir ++ [name]) ≠ some .directory ∧
      ∃ t', t.save (below (dir ++ [name])) text = (.ok (), t') ∧
        t.Stored (dir ++ [name]) text t') := by
  have hplain : ∀ n ∈ dir, IsPlain n := fun n hn => h n (List.mem_append_left _ hn)
  have hdirFits := hfits.init h
  obtain ⟨t', hmake, hopens⟩ := (ht.makeAll_spec hplain hdirFits).2 hfree
  have hlonger : t'.entryAt (dir ++ [name]) = t.entryAt (dir ++ [name]) :=
    hopens.entryAt_elsewhere not_concat_prefix
  have hwrites := (hopens.grounded ht).write_cases h hfits (hopens.onWay dir List.prefix_rfl) text
  rw [hlonger] at hwrites
  refine hwrites.imp ?_ ?_
  · rintro ⟨hentry, failure, hwrite⟩
    -- A directory has the name; the directories above it were there already.
    have hdir : t.entryAt dir = some .directory := ht.inDirectory (by rw [hentry]; simp)
    have hsame := ht.makeAll_of_directory hplain hdirFits hdir
    rw [hmake] at hsame
    cases hsame
    rw [save_concat, hmake]
    exact ⟨hentry, failure, hwrite⟩
  · rintro ⟨hentry, hwrite⟩
    rw [save_concat, hmake]
    exact ⟨hentry, _, hwrite, hopens.stored name text⟩

/-- What comes of a save is decided by what is in the way. -/
theorem Grounded.save_settles (ht : t.Grounded) (hne : names ≠ [])
    (h : ∀ n ∈ names, IsPlain n) (text : String) (refusal : Option Failure) :
    t.Settles names text (refusal = none) (t.save (below names) text refusal).1
      (t.save (below names) text refusal).2 := by
  cases names using List.reverseRecOn with
  | nil => exact absurd rfl hne
  | append_singleton dir name =>
    by_cases hblocked : Fits dir → t.FileOn dir
    · -- Not even the directories above can be made.
      obtain ⟨failure, hsave⟩ := ht.save_of_blocked h hblocked text refusal
      rw [hsave]
      have hreason : t.Blocked (dir ++ [name]) ∨ ¬ Fits (dir ++ [name]) := by
        by_cases hfits : Fits (dir ++ [name])
        · exact .inl (blocked_concat_iff.mpr (hblocked (hfits.init h)))
        · exact .inr hfits
      exact ⟨⟨fun _ => .inr (hreason.imp_right .inl), fun _ => nofun⟩, fun _ _ _ => rfl,
        fun _ => .inl rfl, nofun⟩
    · obtain ⟨hdirFits, hfile⟩ := Classical.not_imp.mp hblocked
      have hfree : ¬ t.Blocked (dir ++ [name]) := mt blocked_concat_iff.mp hfile
      by_cases hlost : ¬ Fits (dir ++ [name]) ∨ refusal ≠ none
      · obtain ⟨failure, t', hsave, hopens⟩ := ht.save_strays h hlost hdirFits hfile text
        rw [hsave]
        refine ⟨⟨fun _ => .inr (.inr hlost), fun _ => nofun⟩, fun _ hfits hwritten => ?_,
          fun _ => .inr ⟨hfree, ?_⟩, nofun⟩
        · exact absurd hlost (not_or.mpr ⟨not_not.mpr hfits, not_not.mpr hwritten⟩)
        · rwa [List.dropLast_concat]
      · obtain ⟨hfits, rfl⟩ : Fits (dir ++ [name]) ∧ refusal = none := by
          simpa only [not_or, not_not] using hlost
        rcases ht.save_of_free h hfits hfile text with ⟨hentry, failure, hsave⟩ |
          ⟨hentry, t', hsave, hstored⟩
        · rw [hsave]
          exact ⟨⟨fun _ => .inl hentry, fun _ => nofun⟩, fun _ _ _ => rfl,
            fun hlost' => absurd hlost' hlost, nofun⟩
        · rw [hsave]
          refine ⟨⟨fun hfails => absurd rfl hfails, ?_⟩, fun hfails => absurd rfl hfails,
            fun hlost' => absurd hlost' hlost, fun _ => hstored⟩
          rintro (hdirectory | hfile' | hlost')
          · exact absurd hdirectory hentry
          · exact absurd hfile' hfree
          · exact absurd hlost' hlost

/-! ### Many saves -/

/-- A tree with nothing in the working directory. -/
structure Bare (t : Tree) : Prop where
  here : t.entryAt [] = some .directory
  nothing : ∀ names, names ≠ [] → t.entryAt names = none

/-- A text that is to be saved under names, and what may refuse it. -/
structure Saving where
  names : List String
  text : String
  refusal : Option Failure

/-- What a log shows of a text that is saved. -/
def Saving.entry (s : Saving) : List String × String := (s.names, s.text)

/-- Save texts one after the other, whatever comes of each. -/
def saveAll : Tree → List Saving → List (Except Failure Unit) × Tree
  | t, [] => ([], t)
  | t, s :: rest =>
    let saved := t.save (below s.names) s.text s.refusal
    let after := saveAll saved.2 rest
    (saved.1 :: after.1, after.2)

/-- The members of a list at which the results are successes. -/
def successes : List α → List (Except Failure Unit) → List α
  | x :: xs, .ok () :: results => x :: successes xs results
  | _ :: xs, .error _ :: results => successes xs results
  | _, _ => []

theorem successes_cons (x : α) (xs : List α) (result : Except Failure Unit)
    (results : List (Except Failure Unit)) :
    successes (x :: xs) (result :: results) = successes [x] [result] ++ successes xs results := by
  cases result <;> rfl

theorem mem_of_mem_successes {x : α} {xs : List α} {results : List (Except Failure Unit)}
    (h : x ∈ successes xs results) : x ∈ xs := by
  induction xs generalizing results with
  | nil => cases results <;> cases h
  | cons y xs ih =>
    cases results with
    | nil => cases h
    | cons result results =>
      rw [successes_cons, List.mem_append] at h
      rcases h with h | h
      · cases result with
        | ok _ => exact List.mem_cons.mpr (.inl (List.mem_singleton.mp h))
        | error failure => cases h
      · exact .tail _ (ih h)

/-- Files hold what the log says was last saved under their names, and directories lead to something
in the log or to a stray path. -/
structure Shelf (t : Tree) (log : List (List String × String)) (strays : List (List String)) :
    Prop where
  grounded : t.Grounded
  file_iff : ∀ names text,
    t.entryAt names = some (.file text) ↔ log.reverse.lookup names = some text
  directory : ∀ names, names ≠ [] → t.entryAt names = some .directory →
    (∃ entry ∈ log, names <+: entry.1 ∧ names ≠ entry.1) ∨
      ∃ stray ∈ strays, names <+: stray ∧ names ≠ stray

variable {log : List (List String × String)} {strays : List (List String)}

theorem Bare.shelf (h : t.Bare) : t.Shelf [] [] where
  grounded := ⟨h.here, fun hentry => absurd (h.nothing _ (by simp)) hentry⟩
  file_iff names text := by
    by_cases hne : names = []
    · subst hne
      simp [h.here]
    · simp [h.nothing names hne]
  directory names hne hentry := by
    rw [h.nothing names hne] at hentry
    cases hentry

theorem Bare.not_fileOn (h : t.Bare) (names : List String) : ¬ t.FileOn names := by
  rintro ⟨front, text, -, hfile⟩
  by_cases hne : front = []
  · rw [hne, h.here] at hfile
    cases hfile
  · rw [h.nothing front hne] at hfile
    cases hfile

theorem Stored.entryAt_elsewhere (h : t.Stored names text t') {other : List String}
    (hother : ¬ other <+: names) : t'.entryAt other = t.entryAt other := by
  rw [entryAt, h.here, h.elsewhere, entryAt]
  rintro front hfront heq
  exact hother (List.append_cancel_left heq ▸ hfront)

theorem Stored.grounded (h : t.Stored names text t') (ht : t.Grounded) (hne : names ≠ [])
    (hfree : t.entryAt names ≠ some .directory) : t'.Grounded where
  here := h.above [] List.nil_prefix hne.symm
  inDirectory {ns n} hentry := by
    by_cases hlonger : ns ++ [n] <+: names
    · apply h.above ns ((List.prefix_append ns [n]).trans hlonger)
      rintro rfl
      exact not_concat_prefix hlonger
    · -- Nothing has changed there, so it stood in a directory before.
      rw [h.entryAt_elsewhere hlonger] at hentry
      have hns := ht.inDirectory hentry
      by_cases hprefix : ns <+: names
      · apply h.above ns hprefix
        rintro rfl
        exact hfree hns
      · rw [h.entryAt_elsewhere hprefix, hns]

/-- What is stored is the last thing in the log. -/
theorem Shelf.stored (hs : t.Shelf log strays) (hne : names ≠ [])
    (hfree : t.entryAt names ≠ some .directory) (hblocked : ¬ t.Blocked names)
    (h : t.Stored names text t') : t'.Shelf (log ++ [(names, text)]) strays where
  grounded := h.grounded hs.grounded hne hfree
  file_iff other found := by
    have hlookup : (log ++ [(names, text)]).reverse.lookup other =
        if other = names then some text else log.reverse.lookup other := by
      rw [List.reverse_append, List.reverse_singleton, List.singleton_append, List.lookup_cons]
      by_cases heq : other = names
      · simp [heq]
      · have hkey : (other == names) = false := beq_eq_false_iff_ne.mpr heq
        rw [hkey, if_neg heq]
    rw [hlookup]
    by_cases heq : other = names
    · rw [if_pos heq, heq, h.target]
      simp
    · rw [if_neg heq, ← hs.file_iff]
      by_cases hprefix : other <+: names
      · rw [h.above other hprefix heq]
        constructor
        · intro hfile
          cases hfile
        · intro hfile
          exact absurd ⟨other, found, hprefix, heq, hfile⟩ hblocked
      · rw [h.entryAt_elsewhere hprefix]
  directory other hother hentry := by
    by_cases hprefix : other <+: names
    · refine .inl ⟨(names, text), by simp, hprefix, ?_⟩
      rintro rfl
      rw [h.target] at hentry
      cases hentry
    · rw [h.entryAt_elsewhere hprefix] at hentry
      refine (hs.directory other hother hentry).imp_left fun ⟨entry, hentry, hbelow⟩ => ?_
      exact ⟨entry, List.mem_append_left _ hentry, hbelow⟩

theorem not_prefix_dropLast (hne : names ≠ []) : ¬ names <+: names.dropLast := by
  intro h
  have hlength := h.length_le
  have hpos := List.length_pos_iff.mpr hne
  rw [List.length_dropLast] at hlength
  omega

/-- Directories that were made for nothing are those of a stray. -/
theorem Shelf.strayed (hs : t.Shelf log strays) (hne : names ≠ []) (hblocked : ¬ t.Blocked names)
    (h : t.Opens names.dropLast t') : t'.Shelf log (strays ++ [names]) where
  grounded := h.grounded hs.grounded
  file_iff other found := by
    rw [← hs.file_iff]
    by_cases hprefix : other <+: names.dropLast
    · rw [h.onWay other hprefix]
      constructor
      · intro hfile
        cases hfile
      · intro hfile
        refine absurd ⟨other, found, hprefix.trans (List.dropLast_prefix _), ?_, hfile⟩ hblocked
        rintro rfl
        exact not_prefix_dropLast hne hprefix
    · rw [h.entryAt_elsewhere hprefix]
  directory other hother hentry := by
    by_cases hprefix : other <+: names.dropLast
    · refine .inr ⟨names, by simp, hprefix.trans (List.dropLast_prefix _), ?_⟩
      rintro rfl
      exact not_prefix_dropLast hne hprefix
    · rw [h.entryAt_elsewhere hprefix] at hentry
      refine (hs.directory other hother hentry).imp_right fun ⟨stray, hstray, hbelow⟩ => ?_
      exact ⟨stray, List.mem_append_left _ hstray, hbelow⟩

theorem Shelf.more_strays (hs : t.Shelf log strays) (more : List (List String)) :
    t.Shelf log (strays ++ more) where
  grounded := hs.grounded
  file_iff := hs.file_iff
  directory names hne hentry :=
    (hs.directory names hne hentry).imp_right fun ⟨stray, hstray, hbelow⟩ =>
      ⟨stray, List.mem_append_left _ hstray, hbelow⟩

/-- A text that may go astray: its path is too long, or it is refused. -/
def Saving.MayStray (s : Saving) : Prop := ¬ Fits s.names ∨ s.refusal ≠ none

instance : DecidablePred Fits := fun names =>
  inferInstanceAs (Decidable ((below names).text.utf8ByteSize ≤ pathLimit))

instance : DecidablePred Saving.MayStray := fun s =>
  decidable_of_iff (¬ Fits s.names ∨ s.refusal.isSome = true) <| by
    rw [Saving.MayStray, ne_eq, ← Option.not_isSome_iff_eq_none, not_not]

/-- The names under which texts of a list may have gone astray. -/
def straysOf (saves : List Saving) : List (List String) :=
  (saves.filter fun s => decide s.MayStray).map Saving.names

theorem straysOf_cons (s : Saving) (saves : List Saving) :
    straysOf (s :: saves) = straysOf [s] ++ straysOf saves := by
  by_cases hstray : s.MayStray <;> simp [straysOf, hstray]

/-- One save keeps a shelf. -/
theorem Shelf.save (hs : t.Shelf log strays) {s : Saving} (hne : s.names ≠ [])
    (h : ∀ n ∈ s.names, IsPlain n) :
    (t.save (below s.names) s.text s.refusal).2.Shelf
      (log ++ (successes [s] [(t.save (below s.names) s.text s.refusal).1]).map Saving.entry)
      (strays ++ straysOf [s]) := by
  have hsettles := hs.grounded.save_settles hne h s.text s.refusal
  generalize t.save (below s.names) s.text s.refusal = saved at hsettles ⊢
  obtain ⟨result, t'⟩ := saved
  dsimp only at hsettles ⊢
  cases result with
  | ok _ =>
    -- A save that succeeds is not in the way of anything.
    obtain ⟨hdirectory, hblocked, hkept⟩ : t.entryAt s.names ≠ some .directory ∧
        ¬ t.Blocked s.names ∧ ¬ s.MayStray := by
      have hfree := mt hsettles.fails_iff.mpr (not_not.mpr rfl)
      rwa [not_or, not_or] at hfree
    have hstrays : straysOf [s] = [] := by simp [straysOf, hkept]
    rw [hstrays, List.append_nil]
    exact hs.stored hne hdirectory hblocked (hsettles.stored rfl)
  | error failure =>
    have hnone : (successes [s] [.error failure]).map Saving.entry = [] := rfl
    rw [hnone, List.append_nil]
    by_cases hstray : s.MayStray
    · rcases hsettles.strayed hstray with rfl | ⟨hblocked, hopens⟩
      · exact hs.more_strays _
      · have hstrays : straysOf [s] = [s.names] := by simp [straysOf, hstray]
        rw [hstrays]
        exact hs.strayed hne hblocked hopens
    · obtain ⟨hfits, hwritten⟩ := not_or.mp hstray
      rw [hsettles.unchanged nofun (not_not.mp hfits) (not_not.mp hwritten)]
      exact hs.more_strays _

/-- So do many. -/
theorem Shelf.saveAll (hs : t.Shelf log strays) {saves : List Saving}
    (h : ∀ s ∈ saves, s.names ≠ [] ∧ ∀ n ∈ s.names, IsPlain n) :
    (t.saveAll saves).2.Shelf (log ++ (successes saves (t.saveAll saves).1).map Saving.entry)
      (strays ++ straysOf saves) := by
  induction saves generalizing t log strays with
  | nil => simpa [Tree.saveAll, successes, straysOf] using hs
  | cons s saves ih =>
    obtain ⟨hne, hplain⟩ := h s (.head _)
    have hrest := ih (hs.save hne hplain) fun s hs => h s (.tail _ hs)
    rw [Tree.saveAll, straysOf_cons]
    dsimp only
    rw [successes_cons, List.map_append, ← List.append_assoc, ← List.append_assoc]
    exact hrest

end PageScript.File.Tree
