import PageScript.Proofs.Agent.Conduct
import PageScript.Proofs.Browser.Lifetime
import PageScript.Run

/-!
# The conduct of a run

What the parts of a run can do.  Between the opening and the closing of a session the browser is
only used, provided that the agent does no more than that (`AgentMaker.Modest`), which holds of the
usual agent.  Publishing a report leaves the browser alone.
-/

namespace PageScript

open PageScript.Act PageScript.Browser

variable {σ : Type}

/-! ### Walks -/

namespace Report

variable {P : Request → Prop}

theorem madeOf_progress (r : Report) (a : Argument) : MadeOf P (r.progress a : Act σ _) :=
  MadeOf.now.bind fun _ => (MadeOf.emit rfl).bind fun _ => .pure _

theorem madeOf_finishNow (r : Report) (standing : Standing) (error : Option String) :
    MadeOf P (r.finishNow standing error : Act σ _) :=
  .ite (.pure r) (MadeOf.now.bind fun _ => .pure _)

theorem madeOf_completed (r : Report) (a : Argument) : MadeOf P (r.completed a : Act σ _) := by
  refine (madeOf_finishNow r _ _).bind fun r => ?_
  exact .ite ((MadeOf.emit rfl).bind fun _ => .pure _) (.pure r)

theorem madeOf_failed (r : Report) (a : Argument) (failure : Failure) :
    MadeOf P (r.failed a failure : Act σ _) := by
  refine (madeOf_finishNow r _ _).bind fun r => ?_
  exact (MadeOf.emit rfl).bind fun _ => (MadeOf.emit rfl).bind fun _ => .pure r

end Report

namespace Walk

theorem madeOf_pause (a : Argument) : MadeOf (·.isOrdinary) (pause a : Act σ Unit) := by
  refine .ite (.pure ()) (.ite (.fail _) ?_)
  exact (MadeOf.ofExcept _).bind fun _ => .ask rfl

-- What a walk does by itself is ordinary; what else can be said of it is what can be said of its
-- partners.
section Partners

variable {K : {α : Type} → Act σ α → Prop} (hK : Compositional (·.isOrdinary) K)
  {partners : Partners σ}
  (hagent : ∀ capability instruction, K (partners.agent capability instruction))
  (hkeeper : ∀ path answer, K (partners.keeper path answer))
include hK hagent

theorem consult_of_compositional (capability : Capability) (instruction : String) :
    K (consult partners capability instruction) :=
  hK.rescue (hagent capability instruction) fun _ => hK.fail _

include hkeeper

theorem dispatch_of_compositional (pending : Option String) (a : Argument) :
    K (dispatch partners pending a) := by
  have hconsult := consult_of_compositional hK hagent
  have hkeep (answer : Json) : K (keep partners pending answer) := by
    unfold keep
    split
    · exact hK.pure _
    · exact hK.pure _
    · exact hK.bind (hkeeper _ answer) fun _ => hK.pure _
  unfold dispatch
  split
  · exact hK.pure _
  · exact hK.bind (hK.ofExcept _) fun _ => hK.pure _
  · exact hK.bind ((madeOf_pause a).holds hK) fun _ => hK.pure _
  · refine hK.bind (hK.ofExcept _) fun instruction => ?_
    refine hK.bind (hconsult .query instruction) fun answer => ?_
    exact hK.bind (hkeep answer) fun _ => hK.pure _
  · refine hK.bind (hK.ofExcept _) fun instruction => ?_
    exact hK.bind (hconsult _ instruction) fun _ => hK.pure _

theorem step_of_compositional (w : Walk) (a : Argument) : K (w.step partners a) := by
  have hfailAt (w : Walk) (phase : Phase) (failure : Failure) :
      MadeOf (·.isOrdinary) (w.failAt phase a failure : Act σ Walk) :=
    (Report.madeOf_failed w.report a failure).bind fun _ => .pure _
  have hcompleteAt (w : Walk) (phase : Phase) (pending : Option String) (answer : Json) :
      MadeOf (·.isOrdinary) (w.completeAt phase a pending answer : Act σ Walk) := by
    refine (Report.madeOf_completed w.report a).bind fun _ => ?_
    refine (MadeOf.emit rfl).bind fun _ => ?_
    exact .ite ((MadeOf.emit rfl).bind fun _ => .pure _) (.pure _)
  refine hK.bind ((Report.madeOf_progress w.report a).holds hK) fun report => ?_
  dsimp only
  split
  · exact hK.bind ((hfailAt _ _ _).holds hK) fun _ => hK.pure _
  · refine hK.bind (hK.attempt (dispatch_of_compositional hK hagent hkeeper _ a)) fun result => ?_
    cases result with
    | error failure => exact hK.bind ((hfailAt _ _ failure).holds hK) fun _ => hK.pure _
    | ok out => exact hK.bind ((hcompleteAt _ _ _ _).holds hK) fun _ => hK.pure _

theorem run_of_compositional (w : Walk) (args : List Argument) : K (w.run partners args) := by
  induction args generalizing w with
  | nil => exact hK.pure _
  | cons a rest ih =>
    refine hK.bind (step_of_compositional hK hagent hkeeper w a) fun next => ?_
    show K (if next.2 = true then Walk.run partners next.1 rest else pure next.1)
    split
    · exact ih next.1
    · exact hK.pure _

end Partners

end Walk

theorem madeOf_saveAnswer (path : String) (answer : Json) :
    MadeOf (·.isOrdinary) (saveAnswer path answer : Act σ Unit) := by
  refine MadeOf.bind (.ask rfl) fun _ => ?_
  split
  · exact .fail _
  · exact .ask rfl

/-! ### Reports -/

theorem only_apart {r : Request} (h : r.stage? = none) :
    Only Event.IsApart (Act.ask r : Act σ r.Answer) :=
  .ask fun _ => ⟨by simp [Event.attempt?, h], rfl⟩

theorem isApart_of_isSpeech {e : Event} (h : e.isSpeech = true) : e.IsApart := by
  cases e <;> first | exact ⟨rfl, rfl⟩ | cases h

theorem compositional_isApart :
    Compositional (fun _ => False) fun {α} => Only (σ := σ) (α := α) Event.IsApart :=
  compositional_only (fun _ h => h.elim) fun _ => isApart_of_isSpeech

namespace Report

theorem madeOf_durations {P : Request → Prop} (steps : List Step) :
    MadeOf P (durations steps : Act σ _) := by
  induction steps with
  | nil => exact .pure []
  | cons s rest ih =>
    refine MadeOf.bind ?_ fun _ => ih.bind fun _ => .pure _
    unfold Step.duration
    split
    · exact .ite (.pure _) (MadeOf.now.bind fun _ => .pure _)
    · exact MadeOf.now.bind fun _ => .pure _

theorem only_durations (steps : List Step) : Only Event.IsApart (durations steps : Act σ _) :=
  (madeOf_durations (P := fun _ => False) steps).holds compositional_isApart

theorem only_publishIn (r : Report) (directory : Option File.Path) :
    Only Event.IsApart (r.publishIn directory : Act σ Unit) := by
  cases directory with
  | none => exact .pure ()
  | some directory =>
    refine (only_apart rfl).bind fun _ => Only.now.bind fun _ => ?_
    refine (only_durations r.steps).bind fun _ => (only_apart rfl).bind fun _ => ?_
    refine (only_durations r.steps).bind fun _ => (Only.ofExcept _).bind fun _ => ?_
    exact (only_apart rfl).bind fun _ => only_say _

end Report

/-! ### Runs -/

namespace Run

theorem stage_of_isOrdinary {r : Request} (h : r.isOrdinary = true) :
    r.stage? = none ∨ r.stage? = some .use := by
  cases r with
  | command c => cases c <;> first | exact .inr rfl | cases h
  | _ => first | exact .inl rfl | exact .inr rfl

theorem compositional_isWork :
    Compositional (·.isOrdinary) fun {α} => Only (σ := σ) (α := α) Event.IsWork :=
  compositional_only (fun _ h => Event.isWork_request (stage_of_isOrdinary h))
    fun _ h => (isApart_of_isSpeech h).isWork

/-- What a maker makes, and how, leaves starting and ending the browser to others. -/
structure AgentMaker.Modest (maker : AgentMaker σ) : Prop where
  making (o : Options) : Only Event.IsWork (maker o)
  acting {o : Options} {agent : Capability → String → Act σ Json} (h : CanGive (maker o) agent)
    (capability : Capability) (instruction : String) :
    Only Event.IsWork (agent capability instruction)

/-- What a maker makes, and how, is made of ordinary requests. -/
structure AgentMaker.Plain (maker : AgentMaker σ) : Prop where
  making (o : Options) : MadeOf (·.isOrdinary) (maker o)
  acting {o : Options} {agent : Capability → String → Act σ Json} (h : CanGive (maker o) agent)
    (capability : Capability) (instruction : String) :
    MadeOf (·.isOrdinary) (agent capability instruction)

theorem AgentMaker.Plain.modest {maker : AgentMaker σ} (h : maker.Plain) : maker.Modest where
  making o := (h.making o).holds compositional_isWork
  acting hagent capability instruction :=
    (h.acting hagent capability instruction).holds compositional_isWork

theorem plain_pageAgent : AgentMaker.Plain (pageAgent : AgentMaker σ) where
  making o := (MadeOf.ofExcept _).bind fun _ => (MadeOf.ofExcept _).bind fun _ => .pure _
  acting := by
    rintro o agent ⟨host, w, hagent⟩ capability instruction
    unfold pageAgent at hagent
    cases htimeout : settingOf o.timeout 30000 with
    | error failure =>
      rw [htimeout] at hagent
      cases hagent
    | ok timeout =>
      cases hpatience : settingOf o.patience 60 with
      | error failure =>
        rw [htimeout, hpatience] at hagent
        cases hagent
      | ok patience =>
        rw [htimeout, hpatience] at hagent
        cases hagent
        exact Agent.madeOf_perform (fun _ => Model.madeOf_generate _ _ _) capability instruction

theorem modest_pageAgent : AgentMaker.Modest (pageAgent : AgentMaker σ) := plain_pageAgent.modest

/-- An agent from outside is asked for everything. -/
def outsideAgent : AgentMaker σ := fun _ =>
  return fun capability instruction => Act.ask (.agent capability instruction)

theorem plain_outsideAgent : AgentMaker.Plain (outsideAgent : AgentMaker σ) where
  making _ := .pure _
  acting := by
    rintro _ agent ⟨host, w, hagent⟩ capability instruction
    cases hagent
    exact .ask rfl

theorem modest_outsideAgent : AgentMaker.Modest (outsideAgent : AgentMaker σ) :=
  plain_outsideAgent.modest

theorem only_pictureFailure (directory : Option File.Path) (report : Report) :
    Only Event.IsWork (pictureFailure directory report : Act σ Report) := by
  cases directory with
  | none => exact .pure report
  | some directory =>
    refine Only.rescue ?_ fun _ => (only_say _).isWork.bind fun _ => .pure _
    refine Only.now.bind fun _ => (Only.ofExcept _).bind fun _ => ?_
    refine Only.bind ((only_apart rfl).isWork.bind fun _ => only_command rfl) fun _ => ?_
    exact (only_say _).isWork.bind fun _ => .pure _

theorem canGive_of_startAgent {maker : AgentMaker σ} {o : Options}
    {agent : Capability → String → Act σ Json} (h : CanGive (startAgent maker o) agent) :
    CanGive (maker o) agent := by
  obtain ⟨host, w, hresult⟩ := h
  refine ⟨host, w, ?_⟩
  rcases hmaker : maker o host w with ⟨_ | made, events, w'⟩
  · rw [startAgent, rescue_of_error hmaker] at hresult
    cases hresult
  · rw [startAgent, rescue_of_ok hmaker] at hresult
    exact hresult

theorem only_work {maker : AgentMaker σ} (hmaker : maker.Modest) (o : Options) (p : Preferences)
    (args : List Argument) (report : Report) :
    Only Event.IsWork (work maker o p args report) := by
  refine (only_say _).isWork.bind fun _ => (only_navigate p.url).bind fun _ => ?_
  refine (only_say _).isWork.bind fun _ => ?_
  refine Only.bind_of_canGive ((hmaker.making o).rescue fun _ => .fail _) fun agent hagent => ?_
  have hacting := hmaker.acting (canGive_of_startAgent hagent)
  have hkeeping (path : String) (answer : Json) : Only Event.IsWork (saveAnswer path answer) :=
    (madeOf_saveAnswer (σ := σ) path answer).holds compositional_isWork
  refine Only.bind ?_ fun w => ?_
  · exact Walk.run_of_compositional compositional_isWork hacting hkeeping { report } args
  · split
    · exact (only_pictureFailure o.reports w.report).bind fun _ => .pure _
    · exact .pure _

end Run

end PageScript
