import PageScript.Proofs.Walk.Course

/-!
# Walking a sequence in two parts

A sequence may be cut anywhere and its parts walked one after the other: `perform_append` says that
the second walk, which goes on from the state and the report of the first, completes what one walk
through the whole sequence does.  If the first part fails, so does the whole, in the same way.

In between the status is *completed*, while one walk through the whole is still *running* there.
Nothing that a step does depends on the status (`run_withStatus`); only the checkpoints show it.
-/

namespace PageScript

/-- The events but for the checkpoints. -/
def told (events : List Event) : List Event :=
  events.filter fun
    | .checkpoint _ => false
    | _ => true

@[simp] theorem told_append (events more : List Event) :
    told (events ++ more) = told events ++ told more := List.filter_append ..

namespace Walk

variable {σ : Type} {partners : Partners σ} {host : Host σ} {s : State} {w w' : σ} {t : Turn}

/-! ### The status -/

/-- A state with another status. -/
def State.withStatus (s : State) (status : Status) : State := { s with status }

/-- A turn that starts with another status. -/
def Turn.withStatus (t : Turn) (status : Status) : Turn :=
  { t with start := t.start.withStatus status }

theorem Taken.withStatus (h : Taken partners host w t w') (status : Status) :
    Taken partners host w (t.withStatus status) w' where
  outcome := h.outcome
  logs := h.logs
  way := by
    obtain ⟨start, a, calls, events, result⟩ := t
    cases h.way with
    | refused phase => exact .refused phase
    | admitted phase_eq dispatched => exact .admitted phase_eq dispatched

theorem Turn.finish_withStatus_of_passed (h : t.standing = .passed) (status : Status) :
    (t.withStatus status).finish = t.finish.withStatus status := by
  cases hresult : t.result with
  | ok out => simp [finish, withStatus, hresult, State.complete, State.withStatus, State.phaseAfter]
  | error failure => simp [standing, hresult] at h

/-- A failure takes the place of any status. -/
theorem Turn.finish_withStatus_of_failed (h : t.standing = .failed) (status : Status) :
    (t.withStatus status).finish = t.finish := by
  cases hresult : t.result with
  | ok out => simp [standing, hresult] at h
  | error failure =>
    simp [finish, withStatus, hresult, State.fail, State.withStatus, State.phaseAfter]

theorem Turn.status_finish_of_passed (h : t.standing = .passed) :
    t.finish.status = t.start.status := by
  cases hresult : t.result with
  | ok out => simp [finish, hresult, State.complete]
  | error failure => simp [standing, hresult] at h

theorem Turn.status_finish_of_failed (h : t.standing = .failed) : t.finish.status = .failed := by
  cases hresult : t.result with
  | ok out => simp [standing, hresult] at h
  | error failure => simp [finish, hresult, State.fail]

theorem Turn.told_withStatus (t : Turn) (status : Status) :
    told (t.withStatus status).block = told t.block := by
  cases hresult : t.result with
  | ok out => simp [block, closing, withStatus, hresult, told]
  | error failure => simp [block, closing, withStatus, hresult, told]

/-- Apart from the checkpoints, a walk does the same whatever status it starts with. -/
theorem run_withStatus (partners : Partners σ) (host : Host σ) (s : State) (status : Status)
    (r : Report) (args : List Argument) (w : σ) :
    (run partners ⟨s.withStatus status, r⟩ args host w).result =
        (run partners ⟨s, r⟩ args host w).result ∧
      told (run partners ⟨s.withStatus status, r⟩ args host w).events =
        told (run partners ⟨s, r⟩ args host w).events ∧
      (run partners ⟨s.withStatus status, r⟩ args host w).world =
        (run partners ⟨s, r⟩ args host w).world := by
  induction args generalizing s r w with
  | nil => exact ⟨rfl, rfl, rfl⟩
  | cons a rest ih =>
    obtain ⟨t, w', rfl, harg, htaken⟩ := exists_taken partners host s (host.now w).2 a
    have htaken' := htaken.withStatus status
    rcases t.standing_cases with hstanding | hstanding
    · have hthis := run_cons_of_passed htaken.outcome harg hstanding rest r
      have hother := run_cons_of_passed htaken'.outcome harg hstanding rest r
      rw [Turn.finish_withStatus_of_passed hstanding] at hother
      obtain ⟨hresult, hevents, hworld⟩ :=
        ih t.finish (t.reportOn r (host.now w).1 (host.now w').1) (host.now w').2
      rw [hthis, show t.start.withStatus status = (t.withStatus status).start from rfl, hother]
      refine ⟨hresult, ?_, hworld⟩
      simp only [told_append, Turn.told_withStatus]
      exact congrArg (told t.block ++ ·) hevents
    · have hthis := run_cons_of_failed htaken.outcome harg hstanding rest r
      have hother := run_cons_of_failed htaken'.outcome harg hstanding rest r
      rw [Turn.finish_withStatus_of_failed hstanding] at hother
      rw [hthis, show t.start.withStatus status = (t.withStatus status).start from rfl, hother]
      exact ⟨rfl, t.told_withStatus status, rfl⟩

/-! ### Two parts -/

/-- What a walk through a whole sequence does after a walk through its first part, which has left
the walk `v`: nothing if that has failed, else it goes on with the status that it started with. -/
def goOn (partners : Partners σ) (status : Status) (bs : List Argument) (v : Walk) : Act σ Walk :=
  if v.state.status = .failed then return v
  else run partners ⟨v.state.withStatus status, v.report⟩ bs

/-- One walk through two parts is a walk through the first that goes on, unless it has failed. -/
theorem exists_run_append (partners : Partners σ) (host : Host σ) (s : State) (r : Report)
    (as bs : List Argument) (w : σ) :
    ∃ v events w', run partners ⟨s, r⟩ as host w = ⟨.ok v, events, w'⟩ ∧
      (v.state.status = .failed ∨ v.state.status = .completed) ∧
      run partners ⟨s, r⟩ (as ++ bs) host w =
        let after := goOn partners s.status bs v host w'
        ⟨after.result, events ++ after.events, after.world⟩ := by
  induction as generalizing s r w with
  | nil => exact ⟨⟨s.finish, r⟩, [], w, rfl, .inr rfl, rfl⟩
  | cons a rest ih =>
    obtain ⟨t, w', rfl, harg, htaken⟩ := exists_taken partners host s (host.now w).2 a
    rcases t.standing_cases with hstanding | hstanding
    · obtain ⟨v, events, w'', hrest, hends, hall⟩ :=
        ih t.finish (t.reportOn r (host.now w).1 (host.now w').1) (host.now w').2
      rw [Turn.status_finish_of_passed hstanding] at hall
      refine ⟨v, t.block ++ events, w'', ?_, hends, ?_⟩
      · rw [run_cons_of_passed htaken.outcome harg hstanding rest r, hrest]
      · rw [List.cons_append, run_cons_of_passed htaken.outcome harg hstanding (rest ++ bs) r, hall]
        simp [List.append_assoc]
    · have hstatus := Turn.status_finish_of_failed hstanding
      refine ⟨_, _, _, run_cons_of_failed htaken.outcome harg hstanding rest r, .inl hstatus, ?_⟩
      rw [List.cons_append, run_cons_of_failed htaken.outcome harg hstanding (rest ++ bs) r, goOn,
        if_pos hstatus]
      simp

/-! ### What can be seen of a walk -/

/-- What can be seen of a walk: where it ends, with its state and its records; what it tells and
asks for; whom it calls, with what came of it; and how it leaves the surroundings. -/
@[ext]
structure Performance (σ : Type) where
  walk : Except Failure Walk
  events : List Event
  calls : List Exchange
  world : σ

/-- Two performances as one. -/
def Performance.followedBy (first second : Performance σ) : Performance σ :=
  ⟨second.walk, first.events ++ second.events, first.calls ++ second.calls, second.world⟩

/-- The performance of a walk through a sequence. -/
def perform (partners : Partners σ) (host : Host σ) (v : Walk) (args : List Argument) (w : σ) :
    Performance σ where
  walk := (run partners v args host w).result
  events := told (run partners v args host w).events
  calls := (run (partners.logging host) v args (logging host) (w, [])).world.2
  world := (run partners v args host w).world

/-- A log beside the surroundings grows by the calls of the performance. -/
theorem run_logging (partners : Partners σ) (host : Host σ) (v : Walk) (args : List Argument)
    (w : σ) (log : List Exchange) :
    run (partners.logging host) v args (logging host) (w, log) =
      beside (run partners v args host w) (log ++ (perform partners host v args w).calls) := by
  obtain ⟨turns, s', w', hcourse⟩ := exists_course partners host v.state w args
  have hlogs : Logs host (run (partners.logging host) v args) (run partners v args) w _ :=
    hcourse.logs_run v.report
  have hcalls : (perform partners host v args w).calls = turns.flatMap Turn.calls :=
    congrArg (fun outcome => outcome.world.2) (hlogs [])
  rw [hlogs log, hcalls]

/-- Walking through a sequence is walking through its first part and then, unless that has failed,
from where it ends through the rest. -/
theorem perform_append (partners : Partners σ) (host : Host σ) (start : Walk)
    (as bs : List Argument) (w : σ) :
    ∃ middle, (perform partners host start as w).walk = .ok middle ∧
      (middle.state.status = .failed ∧
          perform partners host start (as ++ bs) w = perform partners host start as w ∨
        middle.state.status = .completed ∧
          perform partners host start (as ++ bs) w =
            (perform partners host start as w).followedBy
              (perform partners host middle bs (perform partners host start as w).world)) := by
  obtain ⟨middle, events, w', has, hends, hall⟩ :=
    exists_run_append partners host start.state start.report as bs w
  -- The same walks with a log beside the surroundings, for the calls.
  obtain ⟨_, _, _, has', -, hall'⟩ :=
    exists_run_append (partners.logging host) (logging host) start.state start.report as bs (w, [])
  have hlog := run_logging partners host start as w []
  rw [has] at hlog
  cases has'.symm.trans hlog
  rw [List.nil_append] at hall'
  refine ⟨middle, congrArg Outcome.result has, ?_⟩
  rcases hends with hfailed | hcompleted
  · refine .inl ⟨hfailed, ?_⟩
    rw [goOn, if_pos hfailed] at hall hall'
    simp only [Act.pure_apply, List.append_nil] at hall hall'
    unfold perform
    rw [hall, hall', has]
    rfl
  · refine .inr ⟨hcompleted, ?_⟩
    have hgoesOn : middle.state.status ≠ .failed := by
      rw [hcompleted]
      decide
    rw [goOn, if_neg hgoesOn] at hall hall'
    obtain ⟨hresult, hevents, hworld⟩ := run_withStatus partners host middle.state
      start.state.status middle.report bs w'
    obtain ⟨-, -, hlogged⟩ := run_withStatus (partners.logging host) (logging host) middle.state
      start.state.status middle.report bs (w', (perform partners host start as w).calls)
    have hfirst : (perform partners host start as w).world = w' := congrArg Outcome.world has
    ext1
    · exact (congrArg Outcome.result hall).trans (hfirst ▸ hresult)
    · have hevents' := congrArg (fun outcome => told outcome.events) hall
      simp only [told_append, hevents] at hevents'
      simpa only [perform, Performance.followedBy, has] using hevents'
    · have hsecond :=
        run_logging partners host middle bs w' (perform partners host start as w).calls
      rw [Performance.followedBy, hfirst]
      calc (perform partners host start (as ++ bs) w).calls
          = _ := congrArg (·.world.2) hall'
        _ = _ := congrArg Prod.snd hlogged
        _ = _ := congrArg (·.world.2) hsecond
    · exact (congrArg Outcome.world hall).trans (hfirst ▸ hworld)

end Walk
end PageScript
