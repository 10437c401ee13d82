import PageScript.File.Tree

/-!
# What a saved text leaves

`Tree.textAt` is the text of the file to which a path leads.  After a text is saved under a path it
is the text of that file (`textAt_save`): the new entry stands where no directory was, so the path
still leads there.  Whether a text can be saved does not depend on what it says, so a path under
which one can is called creatable.
-/

namespace PageScript.File.Tree

/-- The text of the file to which a path leads. -/
def textAt (t : Tree) (p : Path) : Option String :=
  match t.resolve p with
  | .error _ => none
  | .ok place =>
    match t.lookup place with
    | some (.file text) => some text
    | _ => none

variable {t : Tree} {place : Place}

theorem lookup_filter_of_ne {other : Place} (h : other ≠ place) (entries : List (Place × Entry)) :
    (entries.filter (·.1 != place)).lookup other = entries.lookup other := by
  induction entries with
  | nil => rfl
  | cons e entries ih =>
    obtain ⟨key, entry⟩ := e
    by_cases hkey : key = place
    · subst hkey
      have hother : (other == key) = false := beq_eq_false_iff_ne.mpr h
      simp [List.lookup_cons, hother, ih]
    · simp [hkey, List.lookup_cons, ih]

/-- Putting an entry leaves the other places alone. -/
theorem lookup_put_of_ne {other : Place} (h : other ≠ place) (t : Tree) (entry : Entry) :
    (t.put place entry).lookup other = t.lookup other := by
  have hother : (other == place) = false := beq_eq_false_iff_ne.mpr h
  simp only [lookup, put, List.lookup_cons, hother, lookup_filter_of_ne h]

/-- A way goes through directories only, so it does not change where there is none. -/
theorem walk_put (hplace : t.lookup place ≠ some .directory) (entry : Entry)
    {start goal : Place} {names : List String} (h : t.walk start names = .ok goal) :
    (t.put place entry).walk start names = .ok goal := by
  induction names generalizing start with
  | nil => exact h
  | cons name names ih =>
    rw [walk] at h ⊢
    cases hnext : t.enter start name with
    | error fault =>
      rw [hnext] at h
      cases h
    | ok next =>
      rw [hnext] at h
      have hstart : start ≠ place := by
        rintro rfl
        unfold enter at hnext
        split at hnext
        · cases hnext
        · cases hnext
        · next hdirectory => exact hplace hdirectory
      have henter : (t.put place entry).enter start name = .ok next := by
        rw [← hnext, enter, enter, lookup_put_of_ne hstart]
      rw [henter]
      exact ih h

theorem resolve_put (hplace : t.lookup place ≠ some .directory) (entry : Entry) {p : Path}
    {goal : Place} (h : t.resolve p = .ok goal) :
    (t.put place entry).resolve p = .ok goal := by
  unfold resolve at h ⊢
  split at h
  · cases h
  · split at h
    · cases h
    · next hnul hlong =>
      rw [if_neg hnul, if_neg hlong]
      exact walk_put hplace entry h

/-- Whether a text can be written does not depend on what it says. -/
theorem write_result (t : Tree) (p : Path) (text text' : String) :
    (t.write p text).1 = (t.write p text').1 := by
  unfold write
  cases t.resolve p with
  | error fault => rfl
  | ok place =>
    dsimp only
    split <;> rfl

/-- What is written to a file is its text. -/
theorem textAt_write {p : Path} {text : String} (h : (t.write p text).1 = .ok ()) :
    (t.write p text).2.textAt p = some text := by
  unfold write at h ⊢
  cases hresolve : t.resolve p with
  | error fault =>
    rw [hresolve] at h
    cases h
  | ok place =>
    rw [hresolve] at h
    dsimp only at h ⊢
    split at h
    · cases h
    · next hdirectory =>
      have hplace : t.lookup place ≠ some .directory := hdirectory
      have hne : place ≠ [] := by
        rintro rfl
        exact hplace t.lookup_nil
      rw [textAt, resolve_put hplace _ hresolve]
      dsimp only
      rw [t.lookup_put_self hne]

/-- What is saved under a path is the text of its file. -/
theorem textAt_save {p : Path} {text : String} (h : (t.save p text).1 = .ok ()) :
    (t.save p text).2.textAt p = some text := by
  unfold save at h ⊢
  split at h
  · cases h
  · exact textAt_write h

/-- A text can be saved under a path. -/
def Creatable (t : Tree) (p : Path) : Prop := (t.save p "").1 = .ok ()

/-- If one text can be saved, any can. -/
theorem Creatable.save_result {p : Path} (h : t.Creatable p) (text : String) :
    (t.save p text).1 = .ok () := by
  rw [← h]
  unfold save
  split
  · rfl
  · exact write_result _ p text ""

end PageScript.File.Tree
