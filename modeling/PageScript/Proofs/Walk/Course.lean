import PageScript.Proofs.Report.Record
import PageScript.Proofs.Walk.Log
import PageScript.Walk.Basic

/-!
# The course of a walk

A walk takes its arguments turn by turn.  A `Turn` is what happens while one argument is
undertaken, and `Course` says which turns lead from one state to another.

`exists_course` gives a course to every sequence, and `Course.run_eq` shows that the walk takes it:
its events, records and calls are those of its turns.
-/

namespace PageScript.Walk

variable {σ : Type}

/-! ### Undertaking an argument -/

/-- The phase in which an argument leaves a walk, whether or not it is refused. -/
def State.phaseAfter (s : State) (name : String) : Phase :=
  if isActionName name then .acting else s.phase

/-- Carry out an argument if the phase admits it. -/
def undertake (partners : Partners σ) (s : State) (a : Argument) :
    Act σ (Option String × Json) := do
  let _ ← Act.ofExcept (s.phase.advance a.name)
  dispatch partners s.pending a

/-- The calls that an argument leads to in a state, and what they come to. -/
inductive Undertaken (s : State) (a : Argument) :
    List Exchange → Except Failure (Option String × Json) → Prop
  | refused {failure} (phase : s.phase.advance a.name = .error failure) :
      Undertaken s a [] (.error failure)
  | admitted {phase calls result} (phase_eq : s.phase.advance a.name = .ok phase)
      (dispatched : Dispatched s.pending a calls result) : Undertaken s a calls result

/-- What happens while an argument is undertaken. -/
structure Turn where
  /-- The state in which it is undertaken. -/
  start : State
  argument : Argument
  calls : List Exchange
  events : List Event
  /-- The path that is pending then, and the answer of a query. -/
  result : Except Failure (Option String × Json)

/-- A turn that the surroundings allow between `w` and `w'`. -/
structure Taken (partners : Partners σ) (host : Host σ) (w : σ) (t : Turn) (w' : σ) : Prop where
  outcome : undertake partners t.start t.argument host w = ⟨t.result, t.events, w'⟩
  logs : Logs host (undertake (partners.logging host) t.start t.argument)
    (undertake partners t.start t.argument) w t.calls
  way : Undertaken t.start t.argument t.calls t.result

variable {partners : Partners σ} {host : Host σ} {s s' : State} {w w' w'' : σ} {t : Turn}

/-- Every argument can be undertaken. -/
theorem exists_taken (partners : Partners σ) (host : Host σ) (s : State) (w : σ) (a : Argument) :
    ∃ t w', t.start = s ∧ t.argument = a ∧ Taken partners host w t w' := by
  cases hphase : s.phase.advance a.name with
  | error failure =>
    have hundertake : ∀ {τ : Type} (ps : Partners τ), undertake ps s a = Act.fail failure := by
      intro τ ps
      rw [undertake, hphase, Act.ofExcept_error_bind]
    refine ⟨⟨s, a, [], [], .error failure⟩, w, rfl, rfl, ?_, ?_, .refused hphase⟩
    · rw [hundertake]
      rfl
    · rw [hundertake, hundertake]
      exact Logs.fail failure
  | ok phase =>
    have hundertake : ∀ {τ : Type} (ps : Partners τ),
        undertake ps s a = dispatch ps s.pending a := by
      intro τ ps
      rw [undertake, hphase, Act.ofExcept_ok_bind]
    obtain ⟨calls, hdispatched, hlogs⟩ := dispatch_logging partners host s.pending a w
    refine ⟨⟨s, a, calls, (dispatch partners s.pending a host w).events,
      (dispatch partners s.pending a host w).result⟩, (dispatch partners s.pending a host w).world,
      rfl, rfl, ?_, ?_, .admitted hphase hdispatched⟩
    · rw [hundertake]
    · rw [hundertake, hundertake]
      exact hlogs

/-- A turn is taken with the same outcome beside a log, which then shows its calls. -/
theorem Taken.outcome_logging (h : Taken partners host w t w') (log : List Exchange) :
    undertake (partners.logging host) t.start t.argument (logging host) (w, log) =
      ⟨t.result, t.events, w', log ++ t.calls⟩ := by
  rw [h.logs log, h.outcome]
  rfl

/-! ### What follows a turn -/

namespace Turn

/-- How the record of a turn ends. -/
def standing (t : Turn) : Report.Standing :=
  match t.result with
  | .ok _ => .passed
  | .error _ => .failed

theorem standing_cases (t : Turn) : t.standing = .passed ∨ t.standing = .failed := by
  rw [standing]
  cases t.result with
  | ok out => exact .inl rfl
  | error failure => exact .inr rfl

theorem isOk_of_passed {t : Turn} (h : t.standing = .passed) : t.result.isOk = true := by
  rw [standing] at h
  cases hresult : t.result with
  | ok out => rfl
  | error failure =>
    rw [hresult] at h
    cases h

theorem isOk_of_failed {t : Turn} (h : t.standing = .failed) : t.result.isOk = false := by
  rw [standing] at h
  cases hresult : t.result with
  | error failure => rfl
  | ok out =>
    rw [hresult] at h
    cases h

/-- The state after a turn. -/
def finish (t : Turn) : State :=
  match t.result with
  | .ok (pending, _) => t.start.complete (t.start.phaseAfter t.argument.name) pending
  | .error failure => t.start.fail (t.start.phaseAfter t.argument.name) t.argument failure

/-- The report after a turn that begins and ends at some times. -/
def reportOn (t : Turn) (r : Report) (started ended : Float) : Report :=
  (r.record t.argument.name t.argument.value started).finish t.standing
    (match t.result with
      | .ok _ => none
      | .error failure => some failure.message) ended

/-- The events that close a turn. -/
def closing (t : Turn) : List Event :=
  match t.result with
  | .ok (_, answer) =>
    (if t.argument.isAction then [.notice (noticeText t.argument.name t.argument.value.toJson)]
      else [])
      ++ .checkpoint t.finish.checkpoint
      :: if t.argument.name = "query" then [.notice (noticeText "answer" answer)] else []
  | .error failure =>
    [.notice (noticeText (t.argument.name ++ " - Failed") t.argument.value.toJson),
      .notice (noticeText "Error" (.string failure.message))]

/-- All events of a turn. -/
def block (t : Turn) : List Event :=
  .notice (Report.announcement t.argument) :: (t.events ++ t.closing)

theorem brief_reportOn (t : Turn) (r : Report) (started ended : Float) :
    (t.reportOn r started ended).steps.map Report.Step.brief =
      r.steps.map Report.Step.brief
        ++ [(r.steps.length + 1, t.argument.name, t.argument.value, t.standing)] :=
  Report.brief_finish_record r t.argument started ended t.standing _

theorem length_steps_reportOn (t : Turn) (r : Report) (started ended : Float) :
    (t.reportOn r started ended).steps.length = r.steps.length + 1 := by
  have := congrArg List.length (t.brief_reportOn r started ended)
  simpa using this

end Turn

/-! ### One step of a walk -/

theorem phaseAfter_of_error {name : String} {failure : Failure}
    (h : s.phase.advance name = .error failure) : s.phaseAfter name = s.phase := by
  obtain ⟨-, hname, -⟩ := Phase.advance_eq_error_iff.mp h
  simp [State.phaseAfter, hname]

theorem phaseAfter_of_ok {name : String} {phase : Phase}
    (h : s.phase.advance name = .ok phase) : s.phaseAfter name = phase := by
  unfold Phase.advance at h
  rw [State.phaseAfter]
  split at h
  · rename_i hname
    rw [if_pos hname]
    exact Except.ok.inj h
  · rename_i hname
    rw [if_neg hname]
    cases hphase : s.phase <;> rw [hphase] at h
    · exact Except.ok.inj h
    · cases h

/-- A step announces its argument, undertakes it, and then fails or is complete. -/
theorem step_eq (partners : Partners σ) (walk : Walk) (a : Argument) :
    walk.step partners a =
      walk.report.progress a >>= fun report =>
        (undertake partners walk.state a).attempt >>= fun
          | .error failure =>
            ({ walk with report }.failAt (walk.state.phaseAfter a.name) a failure) >>= fun walk =>
              Pure.pure (walk, false)
          | .ok (pending, answer) =>
            ({ walk with report }.completeAt (walk.state.phaseAfter a.name) a pending answer) >>=
              fun walk => Pure.pure (walk, true) := by
  rw [step, undertake]
  congr 1
  funext report
  dsimp only
  cases hphase : walk.state.phase.advance a.name with
  | error failure =>
    have hrefused : Act.attempt (Act.ofExcept (.error failure) >>= fun _ : Phase =>
        dispatch partners walk.state.pending a) = Pure.pure (.error failure) := rfl
    rw [phaseAfter_of_error hphase, hrefused]
    refine Eq.trans ?_ (Act.pure_bind_eq (Except.error failure) _).symm
    rfl
  | ok phase =>
    rw [phaseAfter_of_ok hphase]
    exact congrArg (fun x => Act.attempt x >>= _) (Act.ofExcept_ok_bind ..).symm

theorem failAt_apply {r : Report} (h : r.steps ≠ []) (s : State) (phase : Phase) (a : Argument)
    (failure : Failure) (host : Host σ) (w : σ) :
    Walk.failAt ⟨s, r⟩ phase a failure host w =
      ⟨.ok ⟨s.fail phase a failure, r.finish .failed (some failure.message) (host.now w).1⟩,
        [.notice (noticeText (a.name ++ " - Failed") a.value.toJson),
          .notice (noticeText "Error" (.string failure.message))], (host.now w).2⟩ := by
  have hfailed := Report.failed_apply h a failure host w
  rw [failAt, Act.bind_of_ok (congrArg Outcome.result hfailed), hfailed]
  rfl

theorem completeAt_apply {r : Report} (h : r.steps ≠ []) (s : State) (phase : Phase)
    (a : Argument) (pending : Option String) (answer : Json) (host : Host σ) (w : σ) :
    Walk.completeAt ⟨s, r⟩ phase a pending answer host w =
      ⟨.ok ⟨s.complete phase pending, r.finish .passed none (host.now w).1⟩,
        (if a.isAction then [.notice (noticeText a.name a.value.toJson)] else [])
          ++ .checkpoint (s.complete phase pending).checkpoint
          :: (if a.name = "query" then [.notice (noticeText "answer" answer)] else []),
        (host.now w).2⟩ := by
  have hcompleted := Report.completed_apply h a host w
  rw [completeAt, Act.bind_of_ok (congrArg Outcome.result hcompleted), hcompleted]
  by_cases hname : a.name = "query"
  · simp only [if_pos hname]
    rfl
  · simp only [if_neg hname]
    rfl

/-- A step is the turn that its argument comes to; the walk goes on if it has passed. -/
theorem step_apply
    (h : undertake partners t.start t.argument host (host.now w).2 = ⟨t.result, t.events, w'⟩)
    (r : Report) :
    Walk.step partners ⟨t.start, r⟩ t.argument host w =
      ⟨.ok (⟨t.finish, t.reportOn r (host.now w).1 (host.now w').1⟩, t.result.isOk), t.block,
        (host.now w').2⟩ := by
  have hprogress := Report.progress_apply r t.argument host w
  have hattempt : (undertake partners t.start t.argument).attempt host (host.now w).2 =
      ⟨.ok t.result, t.events, w'⟩ := by
    rw [Act.attempt_apply, h]
  have hsteps := Report.steps_record_ne_nil r t.argument.name t.argument.value (host.now w).1
  rw [step_eq, Act.bind_of_ok (congrArg Outcome.result hprogress), hprogress]
  dsimp only
  rw [Act.bind_of_ok (congrArg Outcome.result hattempt), hattempt]
  cases hresult : t.result with
  | error failure =>
    have hfail := failAt_apply hsteps t.start (t.start.phaseAfter t.argument.name) t.argument
      failure host w'
    dsimp only
    rw [Act.bind_of_ok (congrArg Outcome.result hfail), hfail]
    simp [Turn.finish, Turn.reportOn, Turn.standing, Turn.block, Turn.closing, hresult,
      Except.isOk, Except.toBool]
  | ok out =>
    obtain ⟨pending, answer⟩ := out
    have hcomplete := completeAt_apply hsteps t.start (t.start.phaseAfter t.argument.name)
      t.argument pending answer host w'
    dsimp only
    rw [Act.bind_of_ok (congrArg Outcome.result hcomplete), hcomplete]
    simp [Turn.finish, Turn.reportOn, Turn.standing, Turn.block, Turn.closing, hresult,
      Except.isOk, Except.toBool]

/-- A walk whose first argument passes goes on from where that leaves it. -/
theorem run_cons_of_passed {a : Argument}
    (h : undertake partners t.start t.argument host (host.now w).2 = ⟨t.result, t.events, w'⟩)
    (harg : t.argument = a) (passed : t.standing = .passed) (rest : List Argument) (r : Report) :
    run partners ⟨t.start, r⟩ (a :: rest) host w =
      let after := run partners ⟨t.finish, t.reportOn r (host.now w).1 (host.now w').1⟩ rest host
        (host.now w').2
      ⟨after.result, t.block ++ after.events, after.world⟩ := by
  have hstep := step_apply h r
  subst harg
  rw [run, Act.bind_of_ok (congrArg Outcome.result hstep), hstep]
  simp [Turn.isOk_of_passed passed]

/-- A walk whose first argument fails ends there. -/
theorem run_cons_of_failed {a : Argument}
    (h : undertake partners t.start t.argument host (host.now w).2 = ⟨t.result, t.events, w'⟩)
    (harg : t.argument = a) (failed : t.standing = .failed) (rest : List Argument) (r : Report) :
    run partners ⟨t.start, r⟩ (a :: rest) host w =
      ⟨.ok ⟨t.finish, t.reportOn r (host.now w).1 (host.now w').1⟩, t.block, (host.now w').2⟩ := by
  have hstep := step_apply h r
  subst harg
  rw [run, Act.bind_of_ok (congrArg Outcome.result hstep), hstep]
  simp [Turn.isOk_of_failed failed]

/-- What a step logs is what its turn calls. -/
theorem Taken.logs_step (h : Taken partners host (host.now w).2 t w') (r : Report) :
    Logs host (Walk.step (partners.logging host) ⟨t.start, r⟩ t.argument)
      (Walk.step partners ⟨t.start, r⟩ t.argument) w t.calls := by
  intro log
  have hlogging := h.outcome_logging log
  rw [step_apply h.outcome, step_apply (w := (w, log)) hlogging]
  rfl

/-! ### Courses -/

/-- The turns that lead a walk through a sequence, up to the first that fails. -/
inductive Course (partners : Partners σ) (host : Host σ) :
    State → σ → List Argument → List Turn → State → σ → Prop
  | done {s : State} {w : σ} : Course partners host s w [] [] s.finish w
  | stop {w w' : σ} {t : Turn} {rest : List Argument}
      (taken : Taken partners host (host.now w).2 t w') (failed : t.standing = .failed) :
      Course partners host t.start w (t.argument :: rest) [t] t.finish (host.now w').2
  | pass {s' : State} {w w' w'' : σ} {t : Turn} {rest : List Argument} {turns : List Turn}
      (taken : Taken partners host (host.now w).2 t w') (passed : t.standing = .passed)
      (course : Course partners host t.finish (host.now w').2 rest turns s' w'') :
      Course partners host t.start w (t.argument :: rest) (t :: turns) s' w''

/-- Every sequence has a course. -/
theorem exists_course (partners : Partners σ) (host : Host σ) (s : State) (w : σ)
    (args : List Argument) : ∃ turns s' w', Course partners host s w args turns s' w' := by
  induction args generalizing s w with
  | nil => exact ⟨[], s.finish, w, .done⟩
  | cons a rest ih =>
    obtain ⟨t, w', rfl, rfl, htaken⟩ := exists_taken partners host s (host.now w).2 a
    rcases t.standing_cases with hpassed | hfailed
    · obtain ⟨turns, s', w'', hcourse⟩ := ih t.finish (host.now w').2
      exact ⟨_, _, _, .pass htaken hpassed hcourse⟩
    · exact ⟨_, _, _, .stop htaken hfailed⟩

/-- The records that turns leave behind `n` earlier ones. -/
def records (n : Nat) (turns : List Turn) : List (Nat × String × Value × Report.Standing) :=
  turns.mapIdx fun i t => (n + i + 1, t.argument.name, t.argument.value, t.standing)

theorem records_cons (n : Nat) (t : Turn) (turns : List Turn) :
    records n (t :: turns) =
      (n + 1, t.argument.name, t.argument.value, t.standing) :: records (n + 1) turns := by
  simp only [records, List.mapIdx_cons, Nat.add_zero]
  congr 2
  funext i u
  rw [Nat.add_right_comm n 1 i, Nat.add_assoc n i 1]

/-- A walk takes the course of its sequence. -/
theorem Course.run_eq {args : List Argument} {turns : List Turn}
    (h : Course partners host s w args turns s' w') (r : Report) :
    ∃ r', Walk.run partners ⟨s, r⟩ args host w = ⟨.ok ⟨s', r'⟩, turns.flatMap Turn.block, w'⟩ ∧
      r'.steps.map Report.Step.brief =
        r.steps.map Report.Step.brief ++ records r.steps.length turns := by
  -- for every report, since each turn leaves its record in the report of the next
  induction h generalizing r with
  | done => exact ⟨r, rfl, (List.append_nil _).symm⟩
  | @stop w w' t rest htaken hfailed =>
    refine ⟨t.reportOn r (host.now w).1 (host.now w').1, ?_, ?_⟩
    · rw [run_cons_of_failed htaken.outcome rfl hfailed, List.flatMap_singleton]
    · rw [t.brief_reportOn, records_cons]
      rfl
  | @pass s' w w' w'' t rest turns htaken hpassed _ ih =>
    obtain ⟨r', hrun, hsteps⟩ := ih (t.reportOn r (host.now w).1 (host.now w').1)
    refine ⟨r', ?_, ?_⟩
    · rw [run_cons_of_passed htaken.outcome rfl hpassed, hrun, List.flatMap_cons]
    · rw [hsteps, t.brief_reportOn, t.length_steps_reportOn, records_cons, List.append_assoc]
      rfl

/-- A walk calls nobody but in the turns of its course. -/
theorem Course.logs_run {args : List Argument} {turns : List Turn}
    (h : Course partners host s w args turns s' w') (r : Report) :
    Logs host (Walk.run (partners.logging host) ⟨s, r⟩ args) (Walk.run partners ⟨s, r⟩ args) w
      (turns.flatMap Turn.calls) := by
  induction h generalizing r with
  | done => exact Logs.pure _
  | @stop w w' t rest htaken hfailed =>
    have hstep := congrArg Outcome.result (step_apply htaken.outcome r)
    rw [List.flatMap_singleton, ← List.append_nil t.calls]
    refine (htaken.logs_step r).bind_ok hstep ?_
    rw [Turn.isOk_of_failed hfailed]
    exact Logs.pure _
  | @pass s' w w' w'' t rest turns htaken hpassed _ ih =>
    have hstep := step_apply htaken.outcome r
    rw [List.flatMap_cons]
    refine (htaken.logs_step r).bind_ok (congrArg Outcome.result hstep) ?_
    rw [hstep, Turn.isOk_of_passed hpassed]
    exact ih _

end PageScript.Walk
