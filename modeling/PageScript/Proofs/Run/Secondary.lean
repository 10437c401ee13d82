import PageScript.Proofs.File.Save
import PageScript.Proofs.Lockstep
import PageScript.Proofs.Run.Closing
import PageScript.Proofs.Run.Publication

/-!
# Secondary failures

Of what a run asks for, the picture of a failure and the closing of its session are secondary: a
refusal is told on the console and has no other effect.  `run_spares_secondary` states this of two
runs side by side.  They go through the stages of a run in lockstep; up to the publication they
differ in the artifacts of the report, and there only in the page that shows them.
-/

namespace PageScript

open PageScript.Act PageScript.Browser PageScript.Twins

variable {σ : Type} {t : Twins σ}

/-- The same report with other artifacts. -/
def Report.withArtifacts (r : Report) (artifacts : List Report.Artifact) : Report :=
  { r with artifacts }

/-! ### The picture and the closing -/

namespace Run

/-- Whether or not there is a picture, the report is the same but for its artifacts. -/
theorem pictureFailure_result (directory : Option File.Path) (report : Report) (host : Host σ)
    (w : σ) :
    ∃ artifacts, (pictureFailure directory report host w).result =
      .ok (report.withArtifacts artifacts) := by
  cases directory with
  | none => exact ⟨report.artifacts, rfl⟩
  | some directory =>
    rw [pictureFailure]
    rcases htaken : takePicture directory report host w with ⟨failure | r, events, w'⟩
    · rw [rescue_of_error htaken]
      exact ⟨report.artifacts, rfl⟩
    · rw [rescue_of_ok htaken]
      obtain ⟨_, _, -, htaken⟩ := exists_of_bind_result (congrArg Outcome.result htaken)
      obtain ⟨_, _, -, htaken⟩ := exists_of_bind_result htaken
      obtain ⟨_, _, -, htaken⟩ := exists_of_bind_result htaken
      obtain ⟨_, _, -, htaken⟩ := exists_of_bind_result htaken
      cases htaken
      exact ⟨_, rfl⟩

theorem abreast_screenshot (path : File.Path) :
    t.Abreast (screenshot path : Act σ Unit) (screenshot path) := by
  have hdirectory : MadeOf (fun r => r.isSecondary = false)
      (Act.ask (.makeDirectories path.parent) : Act σ Unit) := .ask rfl
  exact (lockstep_of_madeOf hdirectory).bind_abreast fun _ _ _ => abreast_secondary rfl

theorem abreast_pictureFailure (directory : Option File.Path) (report : Report) :
    t.Abreast (pictureFailure directory report : Act σ Report)
      (pictureFailure directory report) := by
  cases directory with
  | none => exact (lockstep_pure rfl : t.Lockstep Eq _ _).abreast
  | some directory =>
    have htake : t.Abreast (takePicture directory report : Act σ Report)
        (takePicture directory report) := by
      refine (lockstep_of_madeOf .now).bind_abreast fun time _ htime => ?_
      subst htime
      refine (lockstep_of_madeOf (.ofExcept _)).bind_abreast fun seconds _ hseconds => ?_
      subst hseconds
      have htold (path : File.Path) : Remarks
          (Act.say ("[run] failure screenshot: " ++ path.text) >>= fun _ =>
            pure (report.attach "screenshot" path.text) : Act σ Report) :=
        (remarks_say (by decide) _).bind fun _ => remarks_ofExcept (.ok _)
      exact (abreast_screenshot _).bind_remarks (fun _ => htold _) fun _ => htold _
    refine Abreast.bind_remarks (x := (takePicture directory report).attempt) htake ?_ ?_
    all_goals
      intro result
      cases result with
      | ok r => exact remarks_ofExcept (.ok r)
      | error failure => exact (remarks_say (by decide) _).bind fun _ => remarks_ofExcept (.ok _)

theorem abreast_closeSession : t.Abreast (closeSession : Act σ Unit) closeSession := by
  have hclose (c : Command) (h : (Request.command c).isSecondary = true) :
      t.Abreast (Act.command c : Act σ Unit) (Act.command c) := abreast_secondary h
  have hstop : t.Abreast (stopQuietly : Act σ Unit) stopQuietly :=
    Abreast.bind_remarks (x := (Act.command .stop).attempt) (hclose .stop rfl)
      (fun _ => remarks_ofExcept (.ok ())) fun _ => remarks_ofExcept (.ok ())
  exact (hclose _ rfl).finally_ ((hclose _ rfl).finally_ hstop)

theorem lockstep_closeQuietly :
    t.Lockstep Eq (Run.closeQuietly : Act σ Unit) Run.closeQuietly := by
  have habreast : t.Abreast (Run.closeQuietly : Act σ Unit) Run.closeQuietly := by
    refine Abreast.bind_remarks (x := closeSession.attempt) abreast_closeSession ?_ ?_
    all_goals
      intro result
      cases result with
      | ok => exact remarks_ofExcept (.ok ())
      | error failure => exact remarks_say (by decide) _
  refine habreast.lockstep fun w w' => ?_
  rw [closeQuietly_result, closeQuietly_result]
  exact .ok rfl

/-! ### Up to the publication -/

/-- Endings that are the same but for the artifacts of the report. -/
def Ending.Alike (e e' : Ending) : Prop :=
  ∃ artifacts, e' = { e with report := e.report.withArtifacts artifacts }

/-- Settlements that are the same but for the artifacts of the report. -/
def Settlement.Alike (s s' : Settlement) : Prop :=
  ∃ artifacts, s' = { s with report := s.report.map (·.withArtifacts artifacts) }

theorem Ending.Alike.refl (e : Ending) : e.Alike e := ⟨e.report.artifacts, rfl⟩

theorem lockstep_pictureFailure (directory : Option File.Path) (report : Report) :
    t.Lockstep (fun r r' => ∃ artifacts, r' = r.withArtifacts artifacts)
      (pictureFailure directory report : Act σ Report) (pictureFailure directory report) := by
  refine (abreast_pictureFailure directory report).lockstep fun w w' => ?_
  obtain ⟨artifacts, h⟩ := pictureFailure_result directory report t.host w
  obtain ⟨artifacts', h'⟩ := pictureFailure_result directory report t.twin w'
  rw [h, h']
  exact .ok ⟨artifacts', rfl⟩

/-- What is made of ordinary requests has no part in the difference between the twins. -/
theorem lockstep_of_ordinary {α : Type} {x : Act σ α} (h : MadeOf (·.isOrdinary) x) :
    t.Lockstep Eq x x :=
  lockstep_of_madeOf (h.mono fun _ => Request.isSecondary_of_isOrdinary)

theorem lockstep_work {maker : AgentMaker σ} (hmaker : maker.Plain) (o : Options) (p : Preferences)
    (args : List Argument) (report : Report) :
    t.Lockstep Ending.Alike (work maker o p args report) (work maker o p args report) := by
  have hnavigate : MadeOf (·.isOrdinary) (navigate p.url : Act σ Unit) := by
    refine MadeOf.rescue ?_ fun _ => .fail _
    exact MadeOf.bind (.ask rfl) fun _ => .ask rfl
  have hstart : MadeOf (·.isOrdinary) (startAgent maker o) :=
    (hmaker.making o).rescue fun _ => .fail _
  refine (lockstep_of_ordinary (.say _)).bind fun _ _ _ => ?_
  refine (lockstep_of_ordinary hnavigate).bind fun _ _ _ => ?_
  refine (lockstep_of_ordinary (.say _)).bind fun _ _ _ => ?_
  refine (lockstep_of_ordinary hstart).canGive.bind fun agent _ hagent => ?_
  obtain ⟨rfl, hagent⟩ := hagent
  have hacting := hmaker.acting (canGive_of_startAgent hagent)
  have hwalk : MadeOf (·.isOrdinary) (walk agent report args) :=
    Walk.run_of_compositional (compositional_madeOf _) hacting madeOf_saveAnswer { report } args
  refine (lockstep_of_ordinary hwalk).bind fun w _ hw => ?_
  subst hw
  split
  · refine (lockstep_pictureFailure o.reports w.report).bind fun r _ hr => ?_
    obtain ⟨artifacts, rfl⟩ := hr
    exact lockstep_pure ⟨artifacts, rfl⟩
  · exact lockstep_pure (.refl _)

theorem lockstep_workGuarded {maker : AgentMaker σ} (hmaker : maker.Plain) (o : Options)
    (p : Preferences) (args : List Argument) (report : Report) :
    t.Lockstep Ending.Alike (workGuarded maker o p args report)
      (workGuarded maker o p args report) := by
  refine (lockstep_work hmaker o p args report).rescue fun failure => ?_
  exact (lockstep_of_ordinary (.say _)).bind fun _ _ _ => lockstep_pure (.refl _)

theorem lockstep_settleWith (report : Report) (artifacts : List Report.Artifact)
    (outcome : Except Failure Nat) :
    t.Lockstep Settlement.Alike (settleWith report outcome)
      (settleWith (report.withArtifacts artifacts) outcome) :=
  (lockstep_emit (.closed report artifacts) rfl).bind fun _ _ _ => lockstep_pure ⟨artifacts, rfl⟩

theorem lockstep_settleSession {maker : AgentMaker σ} (hmaker : maker.Plain) (o : Options)
    (p : Preferences) (args : List Argument) (report : Report) :
    t.Lockstep Settlement.Alike (settleSession maker o p args report)
      (settleSession maker o p args report) := by
  refine (lockstep_workGuarded hmaker o p args report).attempt.bind fun result result' hresult => ?_
  refine lockstep_closeQuietly.bind fun _ _ _ => ?_
  cases hresult with
  | @ok ending ending' h =>
    obtain ⟨artifacts, rfl⟩ := h
    exact lockstep_settleWith (ending.report.close ending.status ending.error) artifacts _
  | error failure => exact lockstep_settleWith (report.close "failed" none) report.artifacts _

theorem lockstep_settleUnopened (report : Report) (failure : Failure) :
    t.Lockstep Settlement.Alike (settleUnopened report failure : Act σ Settlement)
      (settleUnopened report failure) := by
  unfold settleUnopened
  split
  · refine (lockstep_of_ordinary (.say _)).bind fun _ _ _ => ?_
    exact lockstep_settleWith (report.close "failed" (some failure.message)) report.artifacts _
  · exact lockstep_pure ⟨[], rfl⟩

end Run

/-! ### The opening -/

namespace Browser

theorem lockstep_launch (p : Preferences) (o : Options) :
    t.Lockstep Eq (launch p o : Act σ Unit) (launch p o) := by
  refine lockstep_of_madeOf ?_
  exact (MadeOf.ofExcept _).bind fun _ => (MadeOf.ofExcept _).bind fun _ => .ask rfl

theorem lockstep_openPage (p : Preferences) (o : Options) :
    t.Lockstep Eq (openPage p o : Act σ Unit) (openPage p o) := by
  refine lockstep_of_madeOf ?_
  refine (MadeOf.ofExcept _).bind fun _ => (MadeOf.ofExcept _).bind fun _ => ?_
  refine (MadeOf.ofExcept _).bind fun _ => MadeOf.bind (.ask rfl) fun _ => ?_
  refine MadeOf.bind (.ask rfl) fun _ => (MadeOf.ofExcept _).bind fun _ => ?_
  exact .ite (MadeOf.bind (.ask rfl) fun _ => .ask rfl) (.pure ())

theorem lockstep_launchFailure {x : Act σ Unit} (h : t.Lockstep Eq x x) :
    t.Lockstep Eq (launchFailure x) (launchFailure x) :=
  h.rescue fun _ => lockstep_fail _

/-- A session is opened without any secondary request, unless it is not opened. -/
theorem lockstepIfOk_openSession (p : Preferences) (o : Options) :
    t.LockstepIfOk Eq (openSession p o : Act σ Unit) (openSession p o) := by
  have hgiveUp (failure : Failure) (w : σ) (a : Unit) :
      (giveUp failure t.host w).result ≠ .ok a := by
    intro hresult
    obtain ⟨_, _, -, hresult⟩ := exists_of_bind_result hresult
    cases hresult
  have hstart : t.Lockstep Eq (Act.command .start : Act σ Unit) (Act.command .start) :=
    lockstep_of_madeOf (.ask rfl)
  rw [openSession_eq]
  refine (lockstep_launchFailure hstart).ifOk.bind fun _ _ _ => ?_
  refine (lockstep_launch p o).attempt.ifOk.bind fun _ _ hlaunched => ?_
  cases hlaunched with
  | error failure => exact lockstepIfOk_of_fails (hgiveUp failure)
  | ok =>
    refine (lockstep_openPage p o).attempt.ifOk.bind fun _ _ hopened => ?_
    cases hopened with
    | ok => exact (lockstep_pure rfl).ifOk
    | error failure =>
      refine lockstepIfOk_of_fails fun w a hresult => ?_
      obtain ⟨_, w', -, hresult⟩ := exists_of_bind_result hresult
      exact hgiveUp failure w' a hresult

theorem lockstep_openSession (ht : t.Identical) (p : Preferences) (o : Options) :
    t.Lockstep Eq (openSession p o : Act σ Unit) (openSession p o) := by
  have hcommand (c : Command) : t.Lockstep Eq (Act.command c : Act σ Unit) (Act.command c) :=
    lockstep_ask (ht (.command c))
  have hgiveUp (failure : Failure) :
      t.Lockstep Eq (giveUp failure : Act σ Unit) (giveUp failure) :=
    (hcommand _).bind fun _ _ _ => lockstep_fail _
  have hclose : t.Lockstep Eq (closeQuietly : Act σ Unit) closeQuietly :=
    (hcommand _).attempt.bind fun _ _ _ => lockstep_pure rfl
  rw [openSession_eq]
  refine (lockstep_launchFailure (hcommand _)).bind fun _ _ _ => ?_
  refine (lockstep_launch p o).attempt.bind fun _ _ hlaunched => ?_
  cases hlaunched with
  | error failure => exact hgiveUp failure
  | ok =>
    refine (lockstep_openPage p o).attempt.bind fun _ _ hopened => ?_
    cases hopened with
    | ok => exact lockstep_pure rfl
    | error failure => exact hclose.bind fun _ _ _ => hgiveUp failure

end Browser

namespace Run

/-! ### The publication -/

theorem page_withArtifacts (r : Report) (artifacts : List Report.Artifact) (total : Float)
    (lengths : List Float) :
    SameResult (fun s s' => r.page total lengths = .ok s ∧
        Report.page (r.withArtifacts artifacts) total lengths = .ok s')
      (r.page total lengths) (Report.page (r.withArtifacts artifacts) total lengths) := by
  unfold Report.page Report.withArtifacts
  dsimp only
  split
  · exact .ok ⟨rfl, rfl⟩
  · exact .error _

/-- Publishing reports with different artifacts: the pages differ, and nothing else. -/
theorem lockstep_writePage {r : Report} {artifacts : List Report.Artifact} {total : Float}
    {lengths : List Float} {s s' : String} (hs : r.page total lengths = .ok s)
    (hs' : Report.page (r.withArtifacts artifacts) total lengths = .ok s') (directory : File.Path)
    (line : String) :
    t.LockstepToEnd Eq
      (Act.ask (.write (directory.child Report.pageName) s) >>= fun _ => Act.say line)
      (Act.ask (.write (directory.child Report.pageName) s') >>= fun _ => Act.say line) := by
  intro w w' hw
  have hanswer := t.page directory s s' hw
  have hrequest (refusal : Option Failure) :
      Alike [.request (.write (directory.child Report.pageName) s) refusal]
        [.request (.write (directory.child Report.pageName) s') refusal] :=
    .event (.page hs hs' _ refusal) rfl
  have hwrite : Match (fun _ _ => True) Eq
      (Act.ask (.write (directory.child Report.pageName) s) t.host w)
      (Act.ask (.write (directory.child Report.pageName) s') t.twin w') := by
    rcases hhost : t.host.answer (.write (directory.child Report.pageName) s) w with
      ⟨failure | a, u⟩ <;>
      rcases htwin : t.twin.answer (.write (directory.child Report.pageName) s') w' with
        ⟨failure' | a', u'⟩ <;>
      rw [hhost, htwin] at hanswer <;> cases hanswer <;>
      simp only [Act.ask, hhost, htwin]
    · exact ⟨.error failure, hrequest _, trivial⟩
    · exact ⟨.ok rfl, hrequest _, trivial⟩
  exact hwrite.bind (fun _ _ _ _ => ⟨.ok rfl, .refl _, trivial⟩) fun _ _ _ => trivial

/-- The page is all that shows the artifacts, and whether it can be written does not depend on
them. -/
theorem lockstep_publish (r : Report) (artifacts : List Report.Artifact) (directory : File.Path) :
    t.LockstepToEnd Eq (r.publish directory : Act σ Unit)
      ((r.withArtifacts artifacts).publish directory) := by
  have hdurations : t.Lockstep Eq (Report.durations r.steps) (Report.durations r.steps) :=
    lockstep_of_madeOf (Report.madeOf_durations r.steps)
  have hask {r : Request} (hr : r.isSecondary = false) :
      t.Lockstep Eq (Act.ask r : Act σ r.Answer) (Act.ask r) := lockstep_of_madeOf (.ask hr)
  refine (hask rfl).bindToEnd fun _ _ _ => ?_
  refine (lockstep_of_madeOf .now).bindToEnd fun time _ htime => ?_
  subst htime
  refine hdurations.bindToEnd fun lengths _ hlengths => ?_
  subst hlengths
  refine (hask rfl).bindToEnd fun _ _ _ => ?_
  refine hdurations.bindToEnd fun lengths _ hlengths => ?_
  subst hlengths
  refine (lockstep_ofExcept (page_withArtifacts r artifacts _ lengths)).bindToEnd fun s s' hs => ?_
  exact lockstep_writePage hs.1 hs.2 directory _

theorem lockstep_finish {s s' : Settlement} (h : s.Alike s') (directory : Option File.Path) :
    t.LockstepToEnd Eq (s.finish directory : Act σ Nat) (s'.finish directory) := by
  obtain ⟨artifacts, rfl⟩ := h
  obtain ⟨outcome, report⟩ := s
  have hend (w w' : σ) : Match (fun _ _ => True) Eq (Act.ofExcept outcome t.host w : Outcome σ Nat)
      (Act.ofExcept outcome t.twin w') := by
    cases outcome with
    | ok code => exact ⟨.ok rfl, .refl [], trivial⟩
    | error failure => exact ⟨.error failure, .refl [], trivial⟩
  intro w w' hw
  cases report with
  | none => exact hend w w'
  | some report =>
    cases directory with
    | none => exact hend w w'
    | some directory =>
      exact (lockstep_publish report artifacts directory w w' hw).bind
        (fun _ _ _ _ => hend _ _) fun _ _ _ => trivial

/-! ### Whole runs -/

theorem lockstep_prepare (o : Options) (p : Preferences) :
    t.Lockstep Eq (prepare o p : Act σ Report) (prepare o p) := by
  have hpreferences : MadeOf (·.isOrdinary) (sayPreferences p : Act σ Unit) :=
    (MadeOf.say _).bind fun _ => (MadeOf.say _).bind fun _ => (MadeOf.say _).bind fun _ =>
      .ite (.say _) (.pure ())
  refine lockstep_of_ordinary (hpreferences.bind fun _ => ?_)
  exact (MadeOf.now.bind fun _ => .pure _).bind fun _ => (MadeOf.say _).bind fun _ => .pure _

-- Without a session the twins are identical, and with one no secondary request comes before it is
-- open; so the opening is in lockstep either way.
theorem match_settle {maker : AgentMaker σ} (hmaker : maker.Plain) (args : List Argument)
    (o : Options) {w w' : σ} (hw : t.alike w w')
    (hunopened : ¬ HasSession args o t.host w → t.Identical) :
    Match t.alike Settlement.Alike (settle maker args o t.host w)
      (settle maker args o t.twin w') := by
  unfold settle
  cases haccepted : Preferences.ofArguments args with
  | error failure =>
    dsimp only
    split
    · exact ((lockstep_of_ordinary (.say _)).bind fun _ _ _ => lockstep_pure ⟨[], rfl⟩) w w' hw
    · exact lockstep_pure ⟨[], rfl⟩ w w' hw
  | ok p =>
    dsimp only
    have hprepare := lockstep_prepare o p w w' hw
    refine hprepare.bind (fun report report' _ hreport => ?_) fun _ _ hw => hw
    subst hreport
    obtain ⟨lines, hlines⟩ := prepare_apply o p t.host w
    rw [hlines] at hprepare ⊢
    have hopening : Match t.alike Eq (openSession p o t.host (t.host.now w).2)
        (openSession p o t.twin (prepare o p t.twin w').world) := by
      by_cases hopened : (openSession p o t.host (t.host.now w).2).result = .ok ()
      · exact lockstepIfOk_openSession p o _ _ () hprepare.world hopened
      · refine lockstep_openSession (hunopened ?_) p o _ _ hprepare.world
        rintro ⟨p', haccepted', hopened'⟩
        cases haccepted.symm.trans haccepted'
        exact hopened hopened'
    refine Match.bind (x := (openSession p o).attempt) hopening.attempt (fun _ _ _ hresult => ?_)
      fun _ _ hw => hw
    have hworld := hopening.world
    cases hresult with
    | ok => exact lockstep_settleSession hmaker o p args report _ _ hworld
    | error failure => exact lockstep_settleUnopened report failure _ _ hworld

/-- Whether the picture of a failure can be taken, and whether the context, the browser and the
driver agree to be ended, has no effect on what a run comes to.  Two hosts that differ in nothing
else once a session is open, and not at all without one, see the same requests and reports up to
artifacts, and their runs end with the same code or the same failure. -/
theorem run_spares_secondary {maker : AgentMaker σ} (hmaker : maker.Plain) (t : Twins σ)
    (args : List Argument) (o : Options) {w w' : σ} (hw : t.alike w w')
    (hunopened : ¬ HasSession args o t.host w → t.Identical) :
    (run maker args o t.host w).result = (run maker args o t.twin w').result ∧
      Alike (run maker args o t.host w).events (run maker args o t.twin w').events := by
  have hmatch : Match (fun _ _ => True) Eq (run maker args o t.host w)
      (run maker args o t.twin w') := by
    rw [run_eq]
    have hsettle := match_settle hmaker args o hw hunopened
    exact hsettle.bind (fun _ _ _ hs => lockstep_finish hs o.reports _ _ hsettle.world)
      fun _ _ _ => trivial
  exact ⟨hmatch.result.eq, hmatch.trace⟩

/-! ### A browser that cannot be pictured or closed -/

/-- A host that refuses every secondary request, and is like another one otherwise. -/
def refusing (host : Host σ) (failure : Failure) : Host σ :=
  { host with
    answer := fun r w =>
      if r.isSecondary then (.error failure, (host.answer r w).2) else host.answer r w }

/-- A script, played with and without the refusals. -/
def refusingTwins (failure : Failure) : Twins Rehearsal.Script where
  host := Rehearsal.host
  twin := refusing Rehearsal.host failure
  alike := Eq
  now h := by
    subst h
    exact ⟨rfl, rfl⟩
  address h := by
    subst h
    rfl
  wording := rfl
  answer hr h := by
    subst h
    simp [refusing, hr]
  world r h := by
    subst h
    simp only [refusing]
    split <;> rfl
  page directory s s' h := by
    subst h
    exact File.Tree.write_result _ _ s s'

/-- An address, and something that is found not to be so. -/
def letdown : List Argument :=
  [⟨"url", .text "https://example.com"⟩, ⟨"assert", .text "signed in"⟩]

/-- An agent that does not find it so. -/
def signedOut : Rehearsal.Script where
  agent := [.error (.outside .assertion (some "signed out"))]

/-- A run that has a directory for its report. -/
def recorded : Options where
  reports := some (.ofString "out")

/-- The picture is taken on one side only, and on the other side nothing can be closed; the run
comes to the same on both. -/
theorem run_spares_secondary_of_refusing :
    let t := refusingTwins (.browser false "busy")
    let out := run outsideAgent letdown recorded t.host signedOut
    let out' := run outsideAgent letdown recorded t.twin signedOut
    (HasSession letdown recorded t.host signedOut ∧ t.alike signedOut signedOut) ∧
      (out.result = .ok 1 ∧ out'.result = .ok 1 ∧ Alike out.events out'.events) ∧
      (closings out.events).map Report.artifacts = [[⟨"screenshot", "out/fail_0.png"⟩]] ∧
      (closings out'.events).map Report.artifacts = [[]] ∧
      (attempts out'.events).drop 6 =
        [⟨.use, false⟩, ⟨.closeContext, false⟩, ⟨.closeBrowser, false⟩, ⟨.stop, false⟩] := by
  intro t out out'
  have hsession : HasSession letdown recorded t.host signedOut := ⟨_, rfl, by rfl⟩
  obtain ⟨hresult, htrace⟩ := run_spares_secondary plain_outsideAgent t letdown recorded
    (rfl : t.alike signedOut signedOut) fun h => absurd hsession h
  have hcode : (run outsideAgent letdown recorded Rehearsal.host signedOut).result = .ok 1 := by rfl
  refine ⟨⟨hsession, rfl⟩, ⟨hcode, hresult.symm.trans hcode, htrace⟩, ?_, ?_, ?_⟩
  · decide +kernel
  · decide +kernel
  · decide +kernel

end Run
end PageScript
