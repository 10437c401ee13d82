import PageScript.Browser.Session
import PageScript.Proofs.Browser.Attempt

/-!
# The life of a browser

`Opening` says what the opening of a session can do to the browser, and `Lifetime` what can happen
to it from then on, until it is closed:

    start ── launch ── uses ── close the context ── close the browser ── stop

The later stages are missing where the earlier ones fail.  Each one that is due comes exactly once
and in this order, even if the one before it fails; `Lifetime.leftClosed` reads that off the shape.
-/

namespace PageScript.Browser

open PageScript.Act

/-! ### Shapes -/

/-- Nothing but uses of the page. -/
def AreUses (b : List Attempt) : Prop := ∀ a ∈ b, a.stage = .use

/-- What opening a session does to the browser, with whether there is a session afterwards. -/
inductive Opening : Bool → List Attempt → Prop
  | unstarted : Opening false [⟨.start, false⟩]
  /-- The launch may fail before it reaches the browser. -/
  | unlaunched {launches : List Attempt} (stopped : Bool)
      (h : ∀ a ∈ launches, a = ⟨.launch, false⟩) :
      Opening false (⟨.start, true⟩ :: launches ++ [⟨.stop, stopped⟩])
  | abandoned {uses : List Attempt} (closed stopped : Bool) (h : AreUses uses) :
      Opening false (⟨.start, true⟩ :: ⟨.launch, true⟩ :: uses ++
        [⟨.closeBrowser, closed⟩, ⟨.stop, stopped⟩])
  | opened {uses : List Attempt} (h : AreUses uses) :
      Opening true (⟨.start, true⟩ :: ⟨.launch, true⟩ :: uses)

/-- What a run does to the browser, with whether it has had a session. -/
inductive Lifetime : Bool → List Attempt → Prop
  | unopened {b : List Attempt} (h : Opening false b) : Lifetime false b
  | closed {b uses : List Attempt} (left closed stopped : Bool) (h : Opening true b)
      (huses : AreUses uses) :
      Lifetime true (b ++ uses ++
        [⟨.closeContext, left⟩, ⟨.closeBrowser, closed⟩, ⟨.stop, stopped⟩])

/-- The stages that end something. -/
def Stage.isEnd : Stage → Bool
  | .closeContext | .closeBrowser | .stop => true
  | _ => false

/-- The stages that are due come exactly once and in order, and none comes to a browser that is to
be spared. -/
structure LeftClosed (started launched session spared : Prop) (stages : List Stage) : Prop where
  stops : started → stages.count .stop = 1 ∧ stages.getLast? = some .stop
  closes : launched → stages.count .closeBrowser = 1 ∧ [.closeBrowser, .stop].Sublist stages
  leaves : session → stages.count .closeContext = 1 ∧ [.closeContext, .closeBrowser].Sublist stages
  spares : spared → ∀ s ∈ stages, s.isEnd = false

section LeftClosed

variable {started launched session spared : Prop}

theorem LeftClosed.mono {stages : List Stage}
    (h : LeftClosed started launched session spared stages)
    {started' launched' session' spared' : Prop} (hstarted : started' → started)
    (hlaunched : launched' → launched) (hsession : session' → session)
    (hspared : spared' → spared) : LeftClosed started' launched' session' spared' stages where
  stops h' := h.stops (hstarted h')
  closes h' := h.closes (hlaunched h')
  leaves h' := h.leaves (hsession h')
  spares h' := h.spares (hspared h')

/-- What ends nothing may come before. -/
theorem LeftClosed.of_append {before b : List Attempt}
    (hbefore : ∀ a ∈ before, a.stage.isEnd = false)
    (h : LeftClosed started launched session spared (b.map Attempt.stage)) :
    LeftClosed started launched session spared ((before ++ b).map Attempt.stage) := by
  have hstages : ∀ s ∈ before.map Attempt.stage, s.isEnd = false := by
    intro s hs
    obtain ⟨a, ha, rfl⟩ := List.mem_map.mp hs
    exact hbefore a ha
  -- An end is found in the rest alone, so what is said of its number and place stays true.
  have hcount (s : Stage) (hs : s.isEnd = true) :
      ((before ++ b).map Attempt.stage).count s = (b.map Attempt.stage).count s := by
    have hnone : (before.map Attempt.stage).count s = 0 := by
      apply List.count_eq_zero.mpr
      intro hmem
      rw [hstages s hmem] at hs
      cases hs
    rw [List.map_append, List.count_append, hnone, Nat.zero_add]
  have hsublist {l : List Stage} (hl : l.Sublist (b.map Attempt.stage)) :
      l.Sublist ((before ++ b).map Attempt.stage) := by
    rw [List.map_append]
    exact hl.trans (List.sublist_append_right _ _)
  constructor
  · intro hstarted
    obtain ⟨honce, hlast⟩ := h.stops hstarted
    rw [hcount .stop rfl, List.map_append, List.getLast?_append, hlast]
    exact ⟨honce, rfl⟩
  · intro hlaunched
    obtain ⟨honce, horder⟩ := h.closes hlaunched
    rw [hcount .closeBrowser rfl]
    exact ⟨honce, hsublist horder⟩
  · intro hsession
    obtain ⟨honce, horder⟩ := h.leaves hsession
    rw [hcount .closeContext rfl]
    exact ⟨honce, hsublist horder⟩
  · intro hspared s hs
    rw [List.map_append] at hs
    rcases List.mem_append.mp hs with hs | hs
    · exact hstages s hs
    · exact h.spares hspared s hs

end LeftClosed

/-! ### Lifetimes -/

/-- What happens to a browser that is started and not yet ended. -/
def Underway (b : List Attempt) : Prop :=
  ∀ a ∈ b, a = ⟨.start, true⟩ ∨ a.stage = .launch ∨ a.stage = .use

theorem AreUses.underway {b : List Attempt} (h : AreUses b) : Underway b :=
  fun a ha => .inr (.inr (h a ha))

theorem Underway.start {b : List Attempt} (h : Underway b) : Underway (⟨.start, true⟩ :: b) :=
  List.forall_mem_cons.mpr ⟨.inl rfl, h⟩

theorem Underway.launch {b : List Attempt} (h : Underway b) : Underway (⟨.launch, true⟩ :: b) :=
  List.forall_mem_cons.mpr ⟨.inr (.inl rfl), h⟩

theorem Underway.append {b more : List Attempt} (h : Underway b) (hmore : Underway more) :
    Underway (b ++ more) :=
  List.forall_mem_append.mpr ⟨h, hmore⟩

theorem Underway.isEnd {b : List Attempt} (h : Underway b) : ∀ a ∈ b, a.stage.isEnd = false := by
  intro a ha
  rcases h a ha with rfl | hstage | hstage
  · rfl
  · rw [hstage]
    rfl
  · rw [hstage]
    rfl

/-- A browser that is underway has started, so it is not spared. -/
theorem Underway.leftClosed {before : List Attempt} {launched session : Prop}
    (hbefore : Underway before) (ends : List Attempt) (hends : ∀ a ∈ ends, a.stage.isEnd = true)
    (h : LeftClosed True launched session False (ends.map Attempt.stage)) :
    LeftClosed (⟨.start, true⟩ ∈ before ++ ends) launched session (⟨.start, false⟩ ∈ before ++ ends)
      ((before ++ ends).map Attempt.stage) := by
  refine (LeftClosed.of_append hbefore.isEnd h).mono (fun _ => trivial) id id ?_
  intro hspared
  rcases List.mem_append.mp hspared with hmem | hmem
  · rcases hbefore _ hmem with h | h | h <;> cases h
  · cases hends _ hmem

theorem Lifetime.leftClosed {session : Bool} {b : List Attempt} (h : Lifetime session b) :
    LeftClosed (⟨.start, true⟩ ∈ b) (⟨.launch, true⟩ ∈ b) (session = true) (⟨.start, false⟩ ∈ b)
      (b.map Attempt.stage) := by
  -- Every lifetime but the shortest is something underway with its ends behind it.
  cases h with
  | unopened h =>
    cases h with
    | unstarted => constructor <;> simp [Stage.isEnd]
    | @unlaunched launches stopped hlaunches =>
      have hunderway : Underway (⟨.start, true⟩ :: launches) := by
        apply Underway.start
        intro a ha
        exact .inr (.inl (congrArg Attempt.stage (hlaunches a ha)))
      have hends : LeftClosed True False (false = true) False [.stop] := by
        constructor <;> decide
      have hall := hunderway.leftClosed [⟨.stop, stopped⟩] (by simp [Stage.isEnd]) hends
      refine hall.mono id ?_ id id
      intro hlaunched
      simp only [List.cons_append, List.mem_cons, List.mem_append] at hlaunched
      rcases hlaunched with h | h | h | h
      · cases h
      · cases hlaunches _ h
      · cases h
      · cases h
    | @abandoned uses closed stopped huses =>
      have hunderway := huses.underway.launch.start
      have hends : LeftClosed True True (false = true) False [.closeBrowser, .stop] := by
        constructor <;> decide
      have hall := hunderway.leftClosed [⟨.closeBrowser, closed⟩, ⟨.stop, stopped⟩]
        (by simp [Stage.isEnd]) hends
      exact hall.mono id (fun _ => trivial) id id
  | @closed b uses left closed stopped h huses =>
    have hunderway : Underway (b ++ uses) := by
      cases h with
      | opened hfirst => exact hfirst.underway.launch.start.append huses.underway
    have hends : LeftClosed True True (true = true) False [.closeContext, .closeBrowser, .stop] := by
      constructor <;> decide
    have hall := hunderway.leftClosed
      [⟨.closeContext, left⟩, ⟨.closeBrowser, closed⟩, ⟨.stop, stopped⟩] (by simp [Stage.isEnd])
      hends
    exact hall.mono id (fun _ => trivial) id id

/-! ### Opening a session, step by step -/

section Steps

variable {σ : Type}

/-- Stop the driver, and tell why there is no session. -/
def giveUp (failure : Failure) : Act σ Unit := do
  Act.command .stop
  Act.fail (.launch failure)

/-- End the browser, whether or not it agrees, and give up. -/
def abandon (failure : Failure) : Act σ Unit := do
  closeQuietly
  giveUp failure

/-- What the opening of a session does after the launch. -/
def openLaunched (p : Preferences) (o : Options) : Except Failure Unit → Act σ Unit
  | .error failure => giveUp failure
  | .ok () => do
    match ← (openPage p o).attempt with
    | .error failure => abandon failure
    | .ok () => return ()

theorem openSession_eq (p : Preferences) (o : Options) :
    (openSession p o : Act σ Unit) =
      launchFailure (Act.command .start) >>= fun _ =>
        (launch p o).attempt >>= openLaunched p o := rfl

/-! ### What a session can do -/

theorem only_command_leavesReports (c : Command) :
    Only Event.LeavesReports (Act.command c : Act σ Unit) :=
  .ask fun _ => rfl

theorem only_launch (p : Preferences) (o : Options) :
    Only Event.LeavesReports (launch p o : Act σ Unit) := by
  refine (Only.ofExcept _).bind fun _ => (Only.ofExcept _).bind fun _ => ?_
  exact only_command_leavesReports _

/-- Once it is launched, the browser is only used until it is closed. -/
theorem only_openPage (p : Preferences) (o : Options) :
    Only Event.IsWork (openPage p o : Act σ Unit) := by
  refine (Only.ofExcept _).bind fun _ => (Only.ofExcept _).bind fun _ => ?_
  refine (Only.ofExcept _).bind fun _ => (only_command rfl).bind fun _ => ?_
  refine (only_command rfl).bind fun _ => (Only.ofExcept _).bind fun _ => ?_
  exact .ite ((only_command rfl).bind fun _ => only_command rfl) (.pure ())

theorem only_openSession (p : Preferences) (o : Options) :
    Only Event.LeavesReports (openSession p o : Act σ Unit) := by
  have hgiveUp (failure : Failure) : Only Event.LeavesReports (giveUp failure : Act σ Unit) :=
    (only_command_leavesReports _).bind fun _ => .fail _
  have hclose : Only Event.LeavesReports (closeQuietly : Act σ Unit) :=
    (only_command_leavesReports _).attempt.bind fun _ => .pure ()
  rw [openSession_eq]
  refine Only.bind ((only_command_leavesReports _).rescue fun _ => .fail _) fun _ => ?_
  refine (only_launch p o).attempt.bind fun launched => ?_
  cases launched with
  | error failure => exact hgiveUp failure
  | ok =>
    refine (only_openPage p o).leavesReports.attempt.bind fun opened => ?_
    cases opened with
    | ok => exact .pure ()
    | error failure => exact hclose.bind fun _ => hgiveUp failure

theorem only_navigate (url : String) : Only Event.IsWork (navigate url : Act σ Unit) :=
  ((only_command rfl).bind fun _ => only_command rfl).rescue fun _ => .fail _

theorem only_closeSession : Only Event.LeavesReports (closeSession : Act σ Unit) := by
  have hstop : Only Event.LeavesReports (stopQuietly : Act σ Unit) :=
    (only_command_leavesReports _).attempt.bind fun _ => .pure ()
  exact (only_command_leavesReports _).finally_ ((only_command_leavesReports _).finally_ hstop)

end Steps

/-! ### What a session does to the browser -/

section Attempts

variable {σ : Type} (p : Preferences) (o : Options) (host : Host σ) (w : σ)

theorem areUses_of_isWork {α : Type} {x : Act σ α} (h : Only Event.IsWork x) :
    AreUses (attempts (x host w).events) := by
  intro a ha
  exact stage_of_isWork h host w ha

/-- A launch reaches the browser once, unless its options cannot be read. -/
theorem launch_cases :
    (∃ events w', launch p o host w = ⟨.ok (), events, w'⟩ ∧ attempts events = [⟨.launch, true⟩]) ∨
      ∃ failure events w', launch p o host w = ⟨.error failure, events, w'⟩ ∧
        ∀ a ∈ attempts events, a = ⟨.launch, false⟩ := by
  unfold launch
  cases hpause : integerOf o.slowMotion with
  | error failure => exact .inr ⟨failure, [], w, rfl, by simp⟩
  | ok pause =>
    cases hengine : engineOf o.browser with
    | error failure => exact .inr ⟨failure, [], w, rfl, by simp⟩
    | ok engine =>
      let c : Command := .launch engine p.headless (if 0 < pause then some pause else none)
      show (∃ events w', Act.command c host w = _ ∧ _) ∨
        ∃ failure events w', Act.command c host w = _ ∧ _
      rcases command_cases c host w with hlaunched | ⟨failure, events, w', hrefused, hattempts⟩
      · exact .inl hlaunched
      · refine .inr ⟨failure, events, w', hrefused, ?_⟩
        rw [hattempts]
        simp [c, Command.stage]

theorem giveUp_apply (failure : Failure) :
    (giveUp failure host w).result.isOk = false ∧
      ∃ stopped, attempts (giveUp failure host w).events = [⟨.stop, stopped⟩] := by
  constructor
  · rcases h : Act.command .stop host w with ⟨_ | _, events, w'⟩
    · rw [giveUp, bind_eq_of_error h]
      rfl
    · rw [giveUp, bind_eq_of_ok h]
      rfl
  · rw [giveUp, events_bind_of_silent fun _ _ => rfl]
    exact exists_attempts_command .stop host w

theorem closeQuietly_apply :
    closeQuietly host w =
      ⟨.ok (), (Act.command .closeBrowser host w).events, (Act.command .closeBrowser host w).world⟩ := by
  rw [closeQuietly, attempt_bind]
  simp

theorem abandon_apply (failure : Failure) :
    (abandon failure host w).result.isOk = false ∧
      ∃ closed stopped, attempts (abandon failure host w).events =
        [⟨.closeBrowser, closed⟩, ⟨.stop, stopped⟩] := by
  obtain ⟨closed, hclosing⟩ := exists_attempts_command .closeBrowser host w
  obtain ⟨hresult, stopped, hstopping⟩ :=
    giveUp_apply host (Act.command .closeBrowser host w).world failure
  rw [abandon, bind_eq_of_ok (closeQuietly_apply host w)]
  refine ⟨hresult, closed, stopped, ?_⟩
  rw [attempts_append, hclosing, hstopping]
  rfl

/-- After the launch the page is used, and the browser ended if that fails. -/
theorem openLaunched_cases :
    (openLaunched p o (.ok ()) host w).result.isOk = true ∧
        AreUses (attempts (openLaunched p o (.ok ()) host w).events) ∨
      (openLaunched p o (.ok ()) host w).result.isOk = false ∧
        ∃ uses closed stopped, AreUses uses ∧
          attempts (openLaunched p o (.ok ()) host w).events =
            uses ++ [⟨.closeBrowser, closed⟩, ⟨.stop, stopped⟩] := by
  have huses := areUses_of_isWork host w (only_openPage p o)
  rw [openLaunched, attempt_bind]
  rcases hpage : openPage p o host w with ⟨failure | ⟨⟩, events, w'⟩
  all_goals rw [hpage] at huses
  · right
    obtain ⟨hresult, closed, stopped, hattempts⟩ := abandon_apply host w' failure
    refine ⟨hresult, attempts events, closed, stopped, huses, ?_⟩
    rw [attempts_append]
    exact congrArg _ hattempts
  · left
    refine ⟨rfl, ?_⟩
    simpa using huses

/-- Wrapping spares the success of a launch. -/
theorem launchFailure_of_ok {α : Type} {x : Act σ α} {a : α} {events : List Event} {w' : σ}
    (h : x host w = ⟨.ok a, events, w'⟩) : launchFailure x host w = ⟨.ok a, events, w'⟩ :=
  rescue_of_ok h

theorem launchFailure_of_error {α : Type} {x : Act σ α} {failure : Failure} {events : List Event}
    {w' : σ} (h : x host w = ⟨.error failure, events, w'⟩) :
    launchFailure x host w = ⟨.error (.launch failure), events, w'⟩ := by
  rw [launchFailure, rescue_of_error h]
  simp

theorem openSession_opening :
    Opening (openSession p o host w).result.isOk (attempts (openSession p o host w).events) := by
  rw [openSession_eq]
  rcases command_cases .start host w with
    ⟨events₁, w₁, hstart, hstarted⟩ | ⟨failure, events₁, w₁, hstart, hstarted⟩
  · rw [bind_eq_of_ok (launchFailure_of_ok host w hstart), attempt_bind]
    rcases launch_cases p o host w₁ with
      ⟨events₂, w₂, hlaunch, hlaunched⟩ | ⟨failure, events₂, w₂, hlaunch, hlaunched⟩
    · rw [hlaunch, attempts_append, attempts_append, hstarted, hlaunched]
      rcases openLaunched_cases p o host w₂ with
        ⟨hresult, huses⟩ | ⟨hresult, uses, closed, stopped, huses, hattempts⟩
      · rw [hresult]
        exact .opened huses
      · rw [hresult, hattempts]
        exact .abandoned closed stopped huses
    · obtain ⟨hresult, stopped, hstopping⟩ := giveUp_apply host w₂ failure
      rw [hlaunch, attempts_append, attempts_append, hstarted, openLaunched, hresult, hstopping]
      exact .unlaunched stopped hlaunched
  · rw [bind_eq_of_error (launchFailure_of_error host w hstart), hstarted]
    exact .unstarted

-- Each part is closed in any case, so the trace does not depend on which of them fails.
theorem closeSession_attempts :
    ∃ left closed stopped, attempts (closeSession host w).events =
      [⟨.closeContext, left⟩, ⟨.closeBrowser, closed⟩, ⟨.stop, stopped⟩] := by
  obtain ⟨left, hleft⟩ := exists_attempts_command .closeContext host w
  generalize hw₁ : (Act.command .closeContext host w).world = w₁
  obtain ⟨closed, hclosed⟩ := exists_attempts_command .closeBrowser host w₁
  generalize hw₂ : (Act.command .closeBrowser host w₁).world = w₂
  obtain ⟨stopped, hstopped⟩ := exists_attempts_command .stop host w₂
  have hquiet : (stopQuietly host w₂).events = (Act.command .stop host w₂).events := by
    rw [stopQuietly, events_bind_of_silent fun _ _ => rfl]
    rfl
  refine ⟨left, closed, stopped, ?_⟩
  rw [closeSession, events_finally, events_finally, hw₁, hw₂, hquiet, attempts_append,
    attempts_append, hleft, hclosed, hstopped]
  rfl

end Attempts

end PageScript.Browser
