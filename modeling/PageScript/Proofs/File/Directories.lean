import Mathlib.Data.List.Induction
import PageScript.Proofs.File.PlainPath
import PageScript.Proofs.File.Save

/-!
# Making directories

What stands below the working directory stands in directories (`Grounded`).  So whatever is in the
way of a path is either a file, and then nothing stands behind it, or something that is missing, and
then nothing stands behind it either.

Making a directory goes up to the missing ones and back down.  It fails if a file is in the way, and
leaves the tree as it was; otherwise it makes exactly what was missing (`Grounded.makeAll_spec`).
-/

namespace PageScript.File.Tree

open PageScript.File.Path

/-- What stands at names below the working directory. -/
def entryAt (t : Tree) (names : List String) : Option Entry := t.lookup (t.here ++ names)

/-- Trees in which everything below the working directory stands in a directory. -/
structure Grounded (t : Tree) : Prop where
  here : t.entryAt [] = some .directory
  inDirectory {names : List String} {name : String} :
    t.entryAt (names ++ [name]) ≠ none → t.entryAt names = some .directory

/-- A file stands on the way that names go. -/
def FileOn (t : Tree) (names : List String) : Prop :=
  ∃ front text, front <+: names ∧ t.entryAt front = some (.file text)

/-- Names whose path is not too long. -/
def Fits (names : List String) : Prop := (below names).text.utf8ByteSize ≤ pathLimit

variable {t t' : Tree} {names other : List String} {name : String}

/-- What stands somewhere has nothing but directories above it. -/
theorem Grounded.directory_above (ht : t.Grounded) {front : List String}
    (h : t.entryAt names ≠ none) (hfront : front <+: names) (hne : front ≠ names) :
    t.entryAt front = some .directory := by
  induction names using List.reverseRecOn with
  | nil => exact absurd (List.prefix_nil.mp hfront) hne
  | append_singleton names name ih =>
    have hnames := ht.inDirectory h
    rcases List.prefix_concat_iff.mp hfront with rfl | hfront
    · exact absurd rfl hne
    · by_cases heq : front = names
      · rw [heq, hnames]
      · exact ih (by simp [hnames]) hfront heq

theorem Grounded.not_fileOn_of_directory (ht : t.Grounded)
    (h : t.entryAt names = some .directory) : ¬ t.FileOn names := by
  rintro ⟨front, text, hfront, hfile⟩
  by_cases heq : front = names
  · rw [heq, h] at hfile
    cases hfile
  · rw [ht.directory_above (by simp [h]) hfront heq] at hfile
    cases hfile

theorem not_concat_prefix : ¬ names ++ [name] <+: names := by
  intro h
  have hlength := h.length_le
  rw [List.length_append, List.length_singleton] at hlength
  omega

theorem FileOn.concat (h : t.FileOn names) (name : String) : t.FileOn (names ++ [name]) := by
  obtain ⟨front, text, hfront, hfile⟩ := h
  exact ⟨front, text, hfront.trans (List.prefix_append _ _), hfile⟩

theorem fileOn_concat_iff :
    t.FileOn (names ++ [name]) ↔
      t.FileOn names ∨ ∃ text, t.entryAt (names ++ [name]) = some (.file text) := by
  constructor
  · rintro ⟨front, text, hfront, hfile⟩
    rcases List.prefix_concat_iff.mp hfront with rfl | hfront
    · exact .inr ⟨text, hfile⟩
    · exact .inl ⟨front, text, hfront, hfile⟩
  · rintro (h | ⟨text, hfile⟩)
    · exact h.concat name
    · exact ⟨_, text, List.prefix_rfl, hfile⟩

/-! ### Following plain names -/

theorem walk_concat (t : Tree) (place : Place) (names : List String) (name : String) :
    t.walk place (names ++ [name]) =
      match t.walk place names with
      | .ok next => t.enter next name
      | .error fault => .error fault := by
  induction names generalizing place with
  | nil =>
    simp only [List.nil_append, walk]
    split <;> simp_all
  | cons first names ih =>
    simp only [List.cons_append, walk]
    split
    · exact ih _
    · rfl

theorem enter_of_directory {place : Place} (h : t.lookup place = some .directory)
    (hname : IsPlain name) : t.enter place name = .ok (place ++ [name]) := by
  simp [enter, h, hname.ne_dots, Nat.not_lt.mpr hname.2.2]

/-- The way to a name goes through its directory, or a file is in the way, or the directory is
missing. -/
theorem Grounded.walk_cases (ht : t.Grounded) (h : ∀ n ∈ names ++ [name], IsPlain n) :
    (t.entryAt names = some .directory ∧
      t.walk t.here (names ++ [name]) = .ok (t.here ++ (names ++ [name]))) ∨
    (t.FileOn names ∧ t.walk t.here (names ++ [name]) = .error .notDirectory) ∨
    (t.entryAt names = none ∧ ¬ t.FileOn names ∧
      t.walk t.here (names ++ [name]) = .error .notFound) := by
  induction names using List.reverseRecOn generalizing name with
  | nil =>
    left
    have hhere : t.lookup t.here = some .directory := by simpa [entryAt] using ht.here
    refine ⟨ht.here, ?_⟩
    simp [walk, enter_of_directory hhere (h name (by simp))]
  | append_singleton names last ih =>
    have hplain : ∀ n ∈ names ++ [last], IsPlain n := fun n hn => h n (List.mem_append_left _ hn)
    rcases ih hplain with ⟨hnames, hwalk⟩ | ⟨hfile, hwalk⟩ | ⟨hnames, hfile, hwalk⟩
    · rw [walk_concat, hwalk]
      dsimp only
      cases hentry : t.entryAt (names ++ [last]) with
      | none =>
        right; right
        have hlookup : t.lookup (t.here ++ (names ++ [last])) = none := hentry
        refine ⟨rfl, ?_, by simp [enter, hlookup]⟩
        rw [fileOn_concat_iff, hentry]
        rintro (hfile | ⟨text, htext⟩)
        · exact ht.not_fileOn_of_directory hnames hfile
        · cases htext
      | some entry =>
        have hlookup : t.lookup (t.here ++ (names ++ [last])) = some entry := hentry
        cases entry with
        | directory =>
          left
          refine ⟨rfl, ?_⟩
          rw [enter_of_directory hlookup (h name (by simp)), List.append_assoc]
        | file text =>
          right; left
          exact ⟨fileOn_concat_iff.mpr (.inr ⟨text, hentry⟩), by simp [enter, hlookup]⟩
    · right; left
      exact ⟨hfile.concat last, by rw [walk_concat, hwalk]⟩
    · right; right
      have hentry : t.entryAt (names ++ [last]) = none := by
        by_contra hentry
        rw [ht.inDirectory hentry] at hnames
        cases hnames
      refine ⟨hentry, ?_, by rw [walk_concat, hwalk]⟩
      rw [fileOn_concat_iff, hentry]
      rintro (hfile' | ⟨text, htext⟩)
      · exact hfile hfile'
      · cases htext

theorem resolve_below (h : ∀ n ∈ names, IsPlain n) (hfits : Fits names) :
    t.resolve (below names) = t.walk t.here names := by
  have hnul : ¬ (below names).text.toList.contains '\x00' = true := by
    rw [List.contains_iff_mem]
    exact nul_notMem_text_below h
  rw [resolve, if_neg hnul, if_neg (Nat.not_lt.mpr hfits)]
  rfl

theorem resolve_below_of_not_fits (h : ∀ n ∈ names, IsPlain n) (hfits : ¬ Fits names) :
    t.resolve (below names) = .error .nameTooLong := by
  have hnul : ¬ (below names).text.toList.contains '\x00' = true := by
    rw [List.contains_iff_mem]
    exact nul_notMem_text_below h
  rw [resolve, if_neg hnul, if_pos (Nat.lt_of_not_le hfits)]

theorem Fits.init (h : ∀ n ∈ names ++ [name], IsPlain n) (hfits : Fits (names ++ [name])) :
    Fits names := Nat.le_trans (size_text_below_le h) hfits

theorem fits_nil : Fits [] := by
  unfold Fits
  decide

/-! ### One directory -/

/-- Making a directory puts it where nothing stands, unless something is in the way. -/
theorem Grounded.makeDirectory_cases (ht : t.Grounded) (h : ∀ n ∈ names ++ [name], IsPlain n)
    (hfits : Fits (names ++ [name])) :
    (t.entryAt names = some .directory ∧ t.entryAt (names ++ [name]) = none ∧
      t.makeDirectory (below (names ++ [name])) =
        .ok (t.put (t.here ++ (names ++ [name])) .directory)) ∨
    (t.resolve (below (names ++ [name])) = .ok (t.here ++ (names ++ [name])) ∧
      (∃ entry, t.entryAt (names ++ [name]) = some entry) ∧
      t.makeDirectory (below (names ++ [name])) = .error .exists) ∨
    (t.FileOn names ∧ t.resolve (below (names ++ [name])) = .error .notDirectory ∧
      t.makeDirectory (below (names ++ [name])) = .error .notDirectory) ∨
    (t.entryAt names = none ∧ ¬ t.FileOn names ∧
      t.makeDirectory (below (names ++ [name])) = .error .notFound) := by
  have hresolve := resolve_below (t := t) h hfits
  rcases ht.walk_cases h with ⟨hnames, hwalk⟩ | ⟨hfile, hwalk⟩ | ⟨hnames, hfile, hwalk⟩
  · rw [hwalk] at hresolve
    cases hentry : t.entryAt (names ++ [name]) with
    | none =>
      left
      have hlookup : t.lookup (t.here ++ (names ++ [name])) = none := hentry
      exact ⟨hnames, rfl, by simp [makeDirectory, hresolve, hlookup]⟩
    | some entry =>
      right; left
      have hlookup : t.lookup (t.here ++ (names ++ [name])) = some entry := hentry
      exact ⟨hresolve, ⟨entry, rfl⟩, by simp [makeDirectory, hresolve, hlookup]⟩
  · right; right; left
    rw [hwalk] at hresolve
    exact ⟨hfile, hresolve, by simp [makeDirectory, hresolve]⟩
  · right; right; right
    rw [hwalk] at hresolve
    exact ⟨hnames, hfile, by simp [makeDirectory, hresolve]⟩

theorem overlook_of_directory {p : Path} {place : Place} (hresolve : t.resolve p = .ok place)
    (h : t.lookup place = some .directory) : t.overlook p .exists = .ok () := by
  simp [overlook, isDirectory, hresolve, h]

theorem overlook_of_file {p : Path} {place : Place} {text : String}
    (hresolve : t.resolve p = .ok place) (h : t.lookup place = some (.file text)) :
    t.overlook p .exists = .error (.file .exists p.text) := by
  have hno : t.isDirectory p = .ok false := by
    unfold isDirectory
    rw [hresolve]
    dsimp only
    rw [h]
    rfl
  simp [overlook, hno]

theorem overlook_of_notDirectory {p : Path} (hresolve : t.resolve p = .error .notDirectory) :
    t.overlook p .notDirectory = .error (.file .notDirectory p.text) := by
  simp [overlook, isDirectory, hresolve]

theorem overlook_of_nameTooLong {p : Path} (hresolve : t.resolve p = .error .nameTooLong) :
    t.overlook p .nameTooLong = .error (.file .nameTooLong p.text) := by
  simp [overlook, isDirectory, hresolve]

/-! ### All directories on a way -/

/-- The second tree is the first one with directories on the whole way that names go. -/
structure Opens (t : Tree) (names : List String) (t' : Tree) : Prop where
  here : t'.here = t.here
  onWay : ∀ front, front <+: names → t'.entryAt front = some .directory
  elsewhere : ∀ place, (∀ front, front <+: names → place ≠ t.here ++ front) →
    t'.lookup place = t.lookup place

theorem Opens.entryAt_elsewhere (h : t.Opens names t') (hother : ¬ other <+: names) :
    t'.entryAt other = t.entryAt other := by
  rw [entryAt, h.here, h.elsewhere, entryAt]
  rintro front hfront heq
  exact hother (List.append_cancel_left heq ▸ hfront)

theorem Opens.grounded (h : t.Opens names t') (ht : t.Grounded) : t'.Grounded where
  here := h.onWay [] (List.nil_prefix)
  inDirectory {ns n} hentry := by
    by_cases hns : ns <+: names
    · exact h.onWay ns hns
    · have hlonger : ¬ ns ++ [n] <+: names := fun hmem =>
        hns ((List.prefix_append ns [n]).trans hmem)
      rw [h.entryAt_elsewhere hlonger] at hentry
      rw [h.entryAt_elsewhere hns]
      exact ht.inDirectory hentry

theorem Grounded.opens_self (ht : t.Grounded) (h : t.entryAt names = some .directory) :
    t.Opens names t where
  here := rfl
  onWay front hfront := by
    by_cases heq : front = names
    · rw [heq, h]
    · exact ht.directory_above (by simp [h]) hfront heq
  elsewhere _ _ := rfl

theorem put_entryAt_of_ne (h : other ≠ names) (entry : Entry) :
    (t.put (t.here ++ names) entry).entryAt other = t.entryAt other := by
  show (t.put _ entry).lookup (t.here ++ other) = t.lookup (t.here ++ other)
  apply lookup_put_of_ne
  intro heq
  exact h (List.append_cancel_left heq)

theorem put_entryAt_self (t : Tree) (hne : names ≠ []) (entry : Entry) :
    (t.put (t.here ++ names) entry).entryAt names = some entry := by
  show (t.put _ entry).lookup (t.here ++ names) = some entry
  exact t.lookup_put_self (by simp [hne]) entry

/-- One more directory at the end of the way. -/
theorem Opens.concat (h : t.Opens names t') (name : String) :
    t.Opens (names ++ [name]) (t'.put (t'.here ++ (names ++ [name])) .directory) where
  here := h.here
  onWay front hfront := by
    rcases List.prefix_concat_iff.mp hfront with rfl | hfront
    · exact t'.put_entryAt_self (by simp) _
    · rw [put_entryAt_of_ne, h.onWay front hfront]
      rintro rfl
      exact not_concat_prefix hfront
  elsewhere place hplace := by
    rw [lookup_put_of_ne]
    · exact h.elsewhere place fun front hfront =>
        hplace front (hfront.trans (List.prefix_append _ _))
    · rw [h.here]
      exact hplace _ List.prefix_rfl

/-- Making directories, seen from the last one. -/
theorem makeAll_concat (t : Tree) (names : List String) (name : String) :
    makeAll .here (names ++ [name]).reverse t =
      match t.makeDirectory (below (names ++ [name])) with
      | .ok t => (.ok (), t)
      | .error .notFound =>
        match makeAll .here names.reverse t with
        | (.error failure, t) => (.error failure, t)
        | (.ok (), t) =>
          match t.makeDirectory (below (names ++ [name])) with
          | .ok t => (.ok (), t)
          | .error .notFound => (.error (.file .notFound (below (names ++ [name])).text), t)
          | .error fault => (t.overlook (below (names ++ [name])) fault, t)
      | .error fault => (t.overlook (below (names ++ [name])) fault, t) := by
  have hreverse : (names ++ [name]).reverse = name :: names.reverse := by simp
  rw [hreverse, makeAll, List.reverse_cons, List.reverse_reverse]
  rfl

/-- Making a directory that exists changes nothing. -/
theorem Grounded.makeAll_of_directory (ht : t.Grounded) (h : ∀ n ∈ names, IsPlain n)
    (hfits : Fits names) (hnames : t.entryAt names = some .directory) :
    makeAll .here names.reverse t = (.ok (), t) := by
  have hlookup : t.lookup (t.here ++ names) = some .directory := hnames
  have hresolve : t.resolve (below names) = .ok (t.here ++ names) := by
    rw [resolve_below h hfits]
    cases names using List.reverseRecOn with
    | nil => simp [walk]
    | append_singleton front name =>
      rcases ht.walk_cases h with ⟨-, hwalk⟩ | ⟨hfile, -⟩ | ⟨hfront, -⟩
      · exact hwalk
      · exact absurd (hfile.concat name) (ht.not_fileOn_of_directory hnames)
      · have hentry : t.entryAt (front ++ [name]) ≠ none := by simp [hnames]
        rw [ht.inDirectory hentry] at hfront
        cases hfront
  have hmake : t.makeDirectory (below names) = .error .exists := by
    simp [makeDirectory, hresolve, hlookup]
  have hoverlook := overlook_of_directory hresolve hlookup
  cases names using List.reverseRecOn with
  | nil =>
    rw [below] at hmake hoverlook
    simp [makeAll, hmake, hoverlook]
  | append_singleton front name =>
    rw [makeAll_concat, hmake]
    dsimp only
    rw [hoverlook]

/-- A file in the way is the one thing that keeps directories from being made, and then nothing is
made. -/
theorem Grounded.makeAll_spec (ht : t.Grounded) (h : ∀ n ∈ names, IsPlain n) (hfits : Fits names) :
    (t.FileOn names → ∃ failure, makeAll .here names.reverse t = (.error failure, t)) ∧
    (¬ t.FileOn names → ∃ t', makeAll .here names.reverse t = (.ok (), t') ∧
      t.Opens names t') := by
  induction names using List.reverseRecOn with
  | nil =>
    have hmake := ht.makeAll_of_directory h hfits ht.here
    exact ⟨fun hfile => absurd hfile (ht.not_fileOn_of_directory ht.here),
      fun _ => ⟨t, hmake, ht.opens_self ht.here⟩⟩
  | append_singleton names name ih =>
    have hplain : ∀ n ∈ names, IsPlain n := fun n hn => h n (List.mem_append_left _ hn)
    obtain ⟨hfails, hmakes⟩ := ih hplain (hfits.init h)
    rw [makeAll_concat]
    rcases ht.makeDirectory_cases h hfits with ⟨hnames, hentry, hmake⟩ |
      ⟨hresolve, ⟨entry, hentry⟩, hmake⟩ | ⟨hfile, hresolve, hmake⟩ | ⟨hnames, hfile, hmake⟩
    · -- The directory above exists.
      rw [hmake]
      refine ⟨fun hfile => ?_, fun _ => ⟨_, rfl, (ht.opens_self hnames).concat name⟩⟩
      rcases fileOn_concat_iff.mp hfile with hfile | ⟨text, htext⟩
      · exact absurd hfile (ht.not_fileOn_of_directory hnames)
      · rw [hentry] at htext
        cases htext
    · -- Something stands there.
      rw [hmake]
      dsimp only
      have hlookup : t.lookup (t.here ++ (names ++ [name])) = some entry := hentry
      cases entry with
      | directory =>
        rw [overlook_of_directory hresolve hlookup]
        exact ⟨fun hfile => absurd hfile (ht.not_fileOn_of_directory hentry),
          fun _ => ⟨t, rfl, ht.opens_self hentry⟩⟩
      | file text =>
        rw [overlook_of_file hresolve hlookup]
        exact ⟨fun _ => ⟨_, rfl⟩,
          fun hfile => absurd (fileOn_concat_iff.mpr (.inr ⟨text, hentry⟩)) hfile⟩
    · -- A file is in the way.
      rw [hmake]
      dsimp only
      rw [overlook_of_notDirectory hresolve]
      exact ⟨fun _ => ⟨_, rfl⟩, fun hnone => absurd (hfile.concat name) hnone⟩
    · -- The directory above is made first; then nothing is in the way any more.
      rw [hmake]
      dsimp only
      obtain ⟨t', hmade, hopens⟩ := hmakes hfile
      have hmissing : t.entryAt (names ++ [name]) = none := by
        by_contra hentry
        rw [ht.inDirectory hentry] at hnames
        cases hnames
      have hmissing' : t'.entryAt (names ++ [name]) = none := by
        rw [hopens.entryAt_elsewhere not_concat_prefix, hmissing]
      have hnames' := hopens.onWay names List.prefix_rfl
      have hmake' : t'.makeDirectory (below (names ++ [name])) =
          .ok (t'.put (t'.here ++ (names ++ [name])) .directory) := by
        rcases (hopens.grounded ht).makeDirectory_cases h hfits with ⟨-, -, hmake'⟩ |
          ⟨-, ⟨entry, hentry⟩, -⟩ | ⟨hfile', -⟩ | ⟨hnone, -⟩
        · exact hmake'
        · rw [hmissing'] at hentry
          cases hentry
        · exact absurd hfile' ((hopens.grounded ht).not_fileOn_of_directory hnames')
        · rw [hnames'] at hnone
          cases hnone
      rw [hmade]
      dsimp only
      rw [hmake']
      refine ⟨fun hfile' => ?_, fun _ => ⟨_, rfl, hopens.concat name⟩⟩
      rcases fileOn_concat_iff.mp hfile' with hfile' | ⟨text, htext⟩
      · exact absurd hfile' hfile
      · rw [hmissing] at htext
        cases htext

/-- A directory whose path is too long is not made, nor is anything above it. -/
theorem makeAll_of_not_fits (h : ∀ n ∈ names, IsPlain n) (hfits : ¬ Fits names) :
    ∃ failure, makeAll .here names.reverse t = (.error failure, t) := by
  have hresolve := resolve_below_of_not_fits (t := t) h hfits
  have hmake : t.makeDirectory (below names) = .error .nameTooLong := by
    simp [makeDirectory, hresolve]
  have hoverlook := overlook_of_nameTooLong hresolve
  cases names using List.reverseRecOn with
  | nil => exact absurd fits_nil hfits
  | append_singleton front name =>
    rw [makeAll_concat, hmake]
    dsimp only
    rw [hoverlook]
    exact ⟨_, rfl⟩

end PageScript.File.Tree
