import PageScript.Proofs.Except
import PageScript.Proofs.Walk.LongestPrefix

/-!
# Which answers are kept

A path waits for the next answer.  `run_pairing` states which calls of the keeper this comes to over
a whole walk: an answer is kept if and only if a path has been set before it that no other path and
no complete query has followed, and it is kept under that path.

`Turn.pathFrom` says what one turn does to the pending path.  `Taken.pending_eq` shows it of a turn
that is taken, and `Course.pending_eq` of a whole course.
-/

namespace PageScript.Walk

/-! ### What is seen of a turn -/

/-- The path and the answer of a call to the keeper. -/
def Exchange.write? (e : Exchange) : Option (String × Json) :=
  match e.call with
  | .keep path answer => some (path, answer)
  | _ => none

/-- The calls to the keeper, in order. -/
def writes (calls : List Exchange) : List (String × Json) := calls.filterMap Exchange.write?

/-- The agent's answer to a query. -/
def Exchange.answer? (e : Exchange) : Option Json :=
  match e.call with
  | .consult .query _ => e.reply.toOption
  | _ => none

/-- The path in an argument, if it is one that sets a path. -/
def pathOf? (a : Argument) : Option String :=
  if a.name = "query-output" then a.value.text? else none

namespace Turn

/-- The agent's answer, if the turn is a query. -/
def answer? (t : Turn) : Option Json :=
  if t.argument.name = "query" then t.calls.findSome? Exchange.answer? else none

/-- A complete turn that sets a path. -/
def Sets (t : Turn) (path : String) : Prop := t.standing = .passed ∧ pathOf? t.argument = some path

/-- A complete turn that decides which path is pending: a query, or one that sets a path. -/
def Settles (t : Turn) : Prop :=
  t.standing = .passed ∧ (t.argument.name = "query-output" ∨ t.argument.name = "query")

instance (t : Turn) : Decidable t.Settles := inferInstanceAs (Decidable (_ ∧ _))

/-- The path that is pending after a turn. -/
def pathFrom (pending : Option String) (t : Turn) : Option String :=
  if t.Settles then pathOf? t.argument else pending

/-- What is to be kept of a turn: its answer, under the pending path. -/
def due (pending : Option String) (t : Turn) : Option (String × Json) :=
  pending.bind fun path => t.answer?.map fun answer => (path, answer)

theorem Sets.settles {t : Turn} {path : String} (h : t.Sets path) : t.Settles := by
  obtain ⟨hpassed, hpath⟩ := h
  refine ⟨hpassed, .inl ?_⟩
  rw [pathOf?] at hpath
  split at hpath
  · assumption
  · cases hpath

end Turn

/-! ### The pending path over many turns -/

/-- The path that is pending after some turns. -/
def pathAfter (pending : Option String) (turns : List Turn) : Option String :=
  turns.foldl Turn.pathFrom pending

/-- What is to be kept at a position, after the turns before it. -/
def due (pending : Option String) (turns : List Turn) (j : Nat) : Option (String × Json) :=
  turns[j]?.bind (Turn.due (pathAfter pending (turns.take j)))

/-- The turn at `i` sets a path, and nothing before `j` replaces or uses it. -/
def Waits (turns : List Turn) (i j : Nat) (path : String) : Prop :=
  i < j ∧ (∃ t, turns[i]? = some t ∧ t.Sets path) ∧
    ∀ k u, i < k → k < j → turns[k]? = some u → ¬ u.Settles

/-- The path that is set at `i` waits for the answer at `j`. -/
def Pairs (turns : List Turn) (i j : Nat) (path : String) (answer : Json) : Prop :=
  Waits turns i j path ∧ ∃ t, turns[j]? = some t ∧ t.answer? = some answer

theorem waits_succ_of_not_settles {turns : List Turn} {i j : Nat} {path : String}
    (h : ∀ u, turns[j]? = some u → ¬ u.Settles) :
    Waits turns i (j + 1) path ↔ Waits turns i j path := by
  constructor
  · rintro ⟨hij, ⟨t, ht, hsets⟩, hrest⟩
    have hne : i ≠ j := by
      rintro rfl
      exact h t ht hsets.settles
    exact ⟨by omega, ⟨t, ht, hsets⟩, fun k u hik hkj => hrest k u hik (by omega)⟩
  · rintro ⟨hij, hset, hrest⟩
    refine ⟨by omega, hset, fun k u hik hkj hu => ?_⟩
    by_cases hk : k = j
    · subst hk
      exact h u hu
    · exact hrest k u hik (by omega) hu

theorem waits_succ_of_settles {turns : List Turn} {i j : Nat} {path : String} {t : Turn}
    (ht : turns[j]? = some t) (h : t.Settles) :
    Waits turns i (j + 1) path ↔ i = j ∧ pathOf? t.argument = some path := by
  constructor
  · rintro ⟨hij, ⟨u, hu, hsets⟩, hrest⟩
    have hi : i = j := by
      by_cases hlt : i < j
      · exact absurd h (hrest j t hlt (by omega) ht)
      · omega
    subst hi
    rw [ht] at hu
    cases hu
    exact ⟨rfl, hsets.2⟩
  · rintro ⟨rfl, hpath⟩
    exact ⟨by omega, ⟨t, ht, h.1, hpath⟩, fun k u hik hkj => by omega⟩

/-- The pending path is the one that waits. -/
theorem pathAfter_take_eq_some_iff {turns : List Turn} {j : Nat} {path : String} :
    pathAfter none (turns.take j) = some path ↔ ∃ i, Waits turns i j path := by
  -- one more turn decides anew which path waits if it settles, and else changes nothing
  induction j with
  | zero =>
    constructor
    · intro h
      cases h
    · rintro ⟨i, hi, -⟩
      omega
  | succ j ih =>
    rw [List.take_add_one]
    cases ht : turns[j]? with
    | none =>
      rw [Option.toList_none, List.append_nil, ih]
      refine exists_congr fun i => (waits_succ_of_not_settles ?_).symm
      intro u hu
      rw [ht] at hu
      cases hu
    | some t =>
      rw [Option.toList_some, pathAfter, List.foldl_append, List.foldl_cons, List.foldl_nil,
        Turn.pathFrom]
      by_cases hsettles : t.Settles
      · rw [if_pos hsettles]
        constructor
        · intro hpath
          exact ⟨j, (waits_succ_of_settles ht hsettles).mpr ⟨rfl, hpath⟩⟩
        · rintro ⟨i, hi⟩
          exact ((waits_succ_of_settles ht hsettles).mp hi).2
      · rw [if_neg hsettles]
        refine ih.trans (exists_congr fun i => (waits_succ_of_not_settles ?_).symm)
        intro u hu
        rw [ht] at hu
        cases hu
        exact hsettles

theorem due_eq_some_iff {turns : List Turn} {j : Nat} {path : String} {answer : Json} :
    due none turns j = some (path, answer) ↔ ∃ i, Pairs turns i j path answer := by
  simp only [due, Turn.due, Option.bind_eq_some_iff, Option.map_eq_some_iff, Prod.mk.injEq]
  constructor
  · rintro ⟨t, ht, path, hpath, answer, hanswer, rfl, rfl⟩
    obtain ⟨i, hwaits⟩ := pathAfter_take_eq_some_iff.mp hpath
    exact ⟨i, hwaits, t, ht, hanswer⟩
  · rintro ⟨i, hwaits, t, ht, hanswer⟩
    exact ⟨t, ht, path, pathAfter_take_eq_some_iff.mpr ⟨i, hwaits⟩, answer, hanswer, rfl, rfl⟩

/-! ### One turn -/

/-- The name that asks for a task. -/
def Task.name : Task → String
  | .consult .action => "action"
  | .consult .assertion => "assert"
  | .consult .query => "query"
  | .setPath => "query-output"
  | .pause => "sleep"

theorem ofName?_eq_some_iff {name : String} {task : Task} :
    Task.ofName? name = some task ↔ name = task.name := by
  constructor
  · intro h
    unfold Task.ofName? at h
    repeat' split at h
    all_goals cases h <;> assumption
  · rintro rfl
    rcases task with ⟨⟨⟩⟩ | _ | _ <;> rfl

theorem ofName?_eq_query_iff {name : String} :
    Task.ofName? name = some (.consult .query) ↔ name = "query" :=
  ofName?_eq_some_iff

theorem ofName?_eq_setPath_iff {name : String} :
    Task.ofName? name = some .setPath ↔ name = "query-output" :=
  ofName?_eq_some_iff

/-- A name with another task neither sets a path nor uses one. -/
theorem ne_of_ofName? {name : String} (hset : Task.ofName? name ≠ some .setPath)
    (hquery : Task.ofName? name ≠ some (.consult .query)) :
    ¬ (name = "query-output" ∨ name = "query") := by
  rintro (h | h)
  · exact hset (ofName?_eq_setPath_iff.mpr h)
  · exact hquery (ofName?_eq_query_iff.mpr h)

/-- A text that is required is not empty. -/
theorem requireText_eq_ok_iff {a : Argument} {text : String} :
    requireText a = .ok text ↔ a.value = .text text ∧ text ≠ "" := by
  unfold requireText
  cases a.value with
  | text s =>
    by_cases hs : s = ""
    · subst hs
      simp +contextual [Value.isGiven, eq_comm]
    · simp only [Value.isGiven, bne_iff_ne, ne_eq, hs, not_false_eq_true, if_true,
        Except.ok.injEq, Value.text.injEq]
      constructor
      · rintro rfl
        exact ⟨rfl, hs⟩
      · exact And.left
  | _ => simp [Value.isGiven]

theorem pathOf?_of_setPath {a : Argument} {path : String}
    (task : Task.ofName? a.name = some .setPath) (text : requireText a = .ok path) :
    pathOf? a = some path := by
  rw [pathOf?, if_pos (ofName?_eq_setPath_iff.mp task), (requireText_eq_ok_iff.mp text).1]
  rfl

theorem pathOf?_of_query {a : Argument} (task : Task.ofName? a.name = some (.consult .query)) :
    pathOf? a = none := by
  rw [pathOf?, ofName?_eq_query_iff.mp task]
  rfl

section Dispatched

variable {pending : Option String} {a : Argument} {calls : List Exchange}
  {result : Except Failure (Option String × Json)}

/-- An answer is kept under the pending path, and nothing else is. -/
theorem Dispatched.writes_eq (h : Dispatched pending a calls result)
    (hpending : pending ≠ some "") :
    writes calls =
      (pending.bind fun path =>
        (if a.name = "query" then calls.findSome? Exchange.answer? else none).map
          fun answer => (path, answer)).toList := by
  cases h with
  | idle | unfit | pathSet | unpaused | notNumber | tooLarge | slept =>
    simp [writes, Exchange.write?, Exchange.answer?]
  | @consulted capability instruction reply task other text =>
    cases capability with
    | query => exact absurd rfl other
    | action | assertion => simp [writes, Exchange.write?, Exchange.answer?]
  | unanswered => simp [writes, Exchange.write?, Exchange.answer?, Except.toOption]
  | answered task text path =>
    rcases path with rfl | rfl
    · simp [writes, Exchange.write?]
    · exact absurd rfl hpending
  | kept task text path_eq path_ne =>
    subst path_eq
    rw [if_pos (ofName?_eq_query_iff.mp task)]
    rfl

/-- A path is pending after an argument that sets it, none after a query, and otherwise what was
pending before. -/
theorem Dispatched.pending_eq {pending' : Option String} {answer : Json}
    (h : Dispatched pending a calls result) (hpending : pending ≠ some "")
    (hresult : result = .ok (pending', answer)) :
    pending' = if a.name = "query-output" ∨ a.name = "query" then pathOf? a else pending := by
  have hother {task : Option Task} (h : Task.ofName? a.name = task) (hset : task ≠ some .setPath)
      (hquery : task ≠ some (.consult .query)) :
      (if a.name = "query-output" ∨ a.name = "query" then pathOf? a else pending) = pending :=
    if_neg (ne_of_ofName? (h ▸ hset) (h ▸ hquery))
  cases h with
  | idle task =>
    cases hresult
    exact (hother task (by simp) (by simp)).symm
  | unfit | unanswered | notNumber | tooLarge => cases hresult
  | pathSet task text =>
    cases hresult
    rw [if_pos (.inl (ofName?_eq_setPath_iff.mp task)), pathOf?_of_setPath task text]
  | @consulted capability instruction reply task other text =>
    obtain ⟨_, -, hpair⟩ := map_eq_ok_iff.mp hresult
    cases hpair
    refine (hother task (by simp) ?_).symm
    simp [other]
  | answered task text path =>
    cases hresult
    rw [if_pos (.inr (ofName?_eq_query_iff.mp task)), pathOf?_of_query task]
    rcases path with rfl | rfl
    · rfl
    · exact absurd rfl hpending
  | kept task text path_eq path_ne =>
    obtain ⟨_, -, hpair⟩ := map_eq_ok_iff.mp hresult
    cases hpair
    rw [if_pos (.inr (ofName?_eq_query_iff.mp task)), pathOf?_of_query task]
  | unpaused task value =>
    cases hresult
    exact (hother task (by simp) (by simp)).symm
  | slept task number value =>
    obtain ⟨_, -, hpair⟩ := map_eq_ok_iff.mp hresult
    cases hpair
    exact (hother task (by simp) (by simp)).symm

/-- No empty path is ever pending. -/
theorem Dispatched.pending_ne {pending' : Option String} {answer : Json}
    (h : Dispatched pending a calls result) (hpending : pending ≠ some "")
    (hresult : result = .ok (pending', answer)) : pending' ≠ some "" := by
  cases h with
  | pathSet task text =>
    cases hresult
    exact fun hempty => (requireText_eq_ok_iff.mp text).2 (Option.some.inj hempty)
  | unfit | unanswered | notNumber | tooLarge => cases hresult
  | idle | unpaused | answered =>
    cases hresult
    exact hpending
  | consulted | slept =>
    obtain ⟨_, -, hpair⟩ := map_eq_ok_iff.mp hresult
    cases hpair
    exact hpending
  | kept =>
    obtain ⟨_, -, hpair⟩ := map_eq_ok_iff.mp hresult
    cases hpair
    exact fun hempty => nomatch hempty

end Dispatched

section Taken

variable {σ : Type} {partners : Partners σ} {host : Host σ} {w w' : σ} {t : Turn}

/-- A turn keeps its answer under the pending path, and nothing else. -/
theorem Taken.writes_eq (h : Taken partners host w t w') (hpending : t.start.pending ≠ some "") :
    writes t.calls = (t.due t.start.pending).toList := by
  obtain ⟨start, a, calls, events, result⟩ := t
  cases h.way with
  | refused => simp [writes, Turn.due, Turn.answer?]
  | admitted phase_eq dispatched => exact dispatched.writes_eq hpending

/-- What is pending after a turn; a turn that fails leaves everything pending. -/
theorem Taken.pending_eq (h : Taken partners host w t w') (hpending : t.start.pending ≠ some "") :
    t.finish.pending = t.pathFrom t.start.pending ∧ t.finish.pending ≠ some "" := by
  obtain ⟨start, a, calls, events, result⟩ := t
  cases result with
  | error failure =>
    have hsettles : ¬ Turn.Settles ⟨start, a, calls, events, .error failure⟩ := by
      rintro ⟨hpassed, -⟩
      cases hpassed
    exact ⟨(if_neg hsettles).symm, hpending⟩
  | ok out =>
    obtain ⟨pending', answer⟩ := out
    generalize hresult : Except.ok (pending', answer) = result at h
    cases h.way with
    | refused => cases hresult
    | admitted phase_eq dispatched =>
      subst hresult
      refine ⟨?_, dispatched.pending_ne hpending rfl⟩
      rw [Turn.pathFrom]
      simp only [Turn.Settles, Turn.standing, true_and]
      exact dispatched.pending_eq hpending rfl

end Taken

/-! ### A whole walk -/

variable {σ : Type} {partners : Partners σ} {host : Host σ} {s s' : State} {w w' : σ}
  {args : List Argument} {turns : List Turn}

/-- The path that is pending at the end of a course. -/
theorem Course.pending_eq (h : Course partners host s w args turns s' w')
    (hpending : s.pending ≠ some "") : s'.pending = pathAfter s.pending turns := by
  induction h with
  | done => rfl
  | stop taken failed => exact (taken.pending_eq hpending).1
  | pass taken passed _ ih =>
    obtain ⟨hfinish, hfinish_ne⟩ := taken.pending_eq hpending
    rw [ih hfinish_ne, hfinish]
    rfl

/-- What is due behind a turn is due after it. -/
theorem due_cons_succ (pending : Option String) (t : Turn) (turns : List Turn) (j : Nat) :
    due pending (t :: turns) (j + 1) = due (t.pathFrom pending) turns j := by
  simp only [due, List.getElem?_cons_succ, List.take_succ_cons, pathAfter, List.foldl_cons]

theorem due_cons_zero (pending : Option String) (t : Turn) (turns : List Turn) :
    due pending (t :: turns) 0 = t.due pending := rfl

/-- All that is due over some turns, in order. -/
def allDue (pending : Option String) (turns : List Turn) : List (String × Json) :=
  (List.range turns.length).filterMap (due pending turns)

theorem allDue_cons (pending : Option String) (t : Turn) (turns : List Turn) :
    allDue pending (t :: turns) =
      (t.due pending).toList ++ allDue (t.pathFrom pending) turns := by
  rw [allDue, List.length_cons, List.range_succ_eq_map, List.filterMap_cons, List.filterMap_map,
    due_cons_zero]
  have hrest : due pending (t :: turns) ∘ Nat.succ = due (t.pathFrom pending) turns :=
    funext fun j => due_cons_succ pending t turns j
  rw [hrest]
  cases t.due pending <;> rfl

/-- Over a course, what is due is kept, in order. -/
theorem Course.writes_eq (h : Course partners host s w args turns s' w')
    (hpending : s.pending ≠ some "") :
    writes (turns.flatMap Turn.calls) = allDue s.pending turns := by
  induction h with
  | done => rfl
  | @stop w w' t rest taken failed =>
    rw [allDue_cons, List.flatMap_singleton, taken.writes_eq hpending]
    exact (List.append_nil _).symm
  | @pass s' w w' w'' t rest turns taken passed _ ih =>
    obtain ⟨hfinish, hfinish_ne⟩ := taken.pending_eq hpending
    have hrest := ih hfinish_ne
    rw [hfinish] at hrest
    rw [allDue_cons, List.flatMap_cons, ← hrest, ← taken.writes_eq hpending]
    exact List.filterMap_append

/-- All turns but the last have passed. -/
theorem Course.passed_of_getElem? (h : Course partners host s w args turns s' w') {j k : Nat}
    {t u : Turn} (hjk : j < k) (ht : turns[j]? = some t) (hu : turns[k]? = some u) :
    t.standing = .passed := by
  induction h generalizing j k with
  | done => cases ht
  | stop =>
    cases k with
    | zero => omega
    | succ k => cases hu
  | pass taken passed _ ih =>
    cases k with
    | zero => omega
    | succ k =>
      cases j with
      | zero =>
        cases ht
        exact passed
      | succ j => exact ih (Nat.lt_of_succ_lt_succ hjk) ht hu

/-- Over a course, a path waits for one answer at most. -/
theorem Course.pairs_unique (h : Course partners host s w args turns s' w') {i j j' : Nat}
    {path path' : String} {answer answer' : Json} (hj : Pairs turns i j path answer)
    (hj' : Pairs turns i j' path' answer') : j = j' := by
  have hle {j j' : Nat} {path path' : String} {answer answer' : Json}
      (hj : Pairs turns i j path answer) (hj' : Pairs turns i j' path' answer') : j' ≤ j := by
    obtain ⟨⟨hij, -, -⟩, t, ht, hanswer⟩ := hj
    obtain ⟨⟨-, -, hrest⟩, u, hu, -⟩ := hj'
    -- A query before the last turn has passed, so no path outlasts it.
    refine Nat.le_of_not_lt fun hlt => hrest j t hij hlt ht ?_
    refine ⟨h.passed_of_getElem? hlt ht hu, .inr ?_⟩
    rw [Turn.answer?] at hanswer
    split at hanswer
    · assumption
    · cases hanswer
  exact Nat.le_antisymm (hle hj' hj) (hle hj hj')

/-- Over a fresh walk, the calls of the keeper are exactly those that are due: one for each answer
for which a path waits.  A path waits for one answer at most, and the path that waits at the end is
pending then. -/
theorem run_pairing (partners : Partners σ) (host : Host σ) (world : σ) (url : Option String)
    (browser : Value) (headed : Bool) (started : Float) (args : List Argument) :
    ∃ walk turns final,
      run partners { report := { url, browser, headed, started } } args host world =
        ⟨.ok walk, turns.flatMap Turn.block, final⟩ ∧
      Course partners host {} world args turns walk.state final ∧
      writes (run (partners.logging host) { report := { url, browser, headed, started } } args
        (logging host) (world, [])).world.2 =
          (List.range turns.length).filterMap (due none turns) ∧
      (∀ j path answer, due none turns j = some (path, answer) ↔
        ∃ i, Pairs turns i j path answer) ∧
      (∀ i j j' path path' answer answer', Pairs turns i j path answer →
        Pairs turns i j' path' answer' → j = j') ∧
      ∀ path, walk.state.pending = some path ↔ ∃ i, Waits turns i turns.length path := by
  obtain ⟨turns, s', final, hcourse⟩ := exists_course partners host {} world args
  obtain ⟨r', hrun, -⟩ := hcourse.run_eq { url, browser, headed, started }
  have hpending : ({} : State).pending ≠ some "" := by decide
  have hlog := congrArg (fun outcome => outcome.world.2)
    (hcourse.logs_run { url, browser, headed, started } [])
  refine ⟨⟨s', r'⟩, turns, final, hrun, hcourse, ?_, fun _ _ _ => due_eq_some_iff,
    fun _ _ _ _ _ _ _ => hcourse.pairs_unique, fun path => ?_⟩
  · exact (congrArg writes hlog).trans (hcourse.writes_eq hpending)
  · have hend : pathAfter none (turns.take turns.length) = some path ↔
        ∃ i, Waits turns i turns.length path := pathAfter_take_eq_some_iff
    rw [List.take_length] at hend
    rw [← hend, hcourse.pending_eq hpending]

end PageScript.Walk
