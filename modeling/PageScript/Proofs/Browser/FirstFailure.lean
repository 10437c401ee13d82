import PageScript.Proofs.Browser.Lifetime
import PageScript.Proofs.Except

/-!
# Why a session is not opened

The opening of a session is a list of steps (`openingSteps`), which are taken one after the other up
to the first that fails.  What has been started by then is ended again.  Nothing that the ending
does takes the place of the failure, except that the driver may refuse to be stopped
(`openSession_becomes`).
-/

namespace PageScript.Browser

open PageScript.Act

/-! ### Steps -/

/-- A step of opening: a command, or the failure to read what the command needs. -/
abbrev Step : Type := Except Failure Command

/-- The start of the engine. -/
def launchStep (p : Preferences) (o : Options) : Step := do
  let pause ← integerOf o.slowMotion
  let engine ← engineOf o.browser
  return .launch engine p.headless (if 0 < pause then some pause else none)

/-- The context of the page. -/
def contextStep (p : Preferences) : Step := do
  let width ← sizeOf p.viewport.width
  let height ← sizeOf p.viewport.height
  let scale ← scaleOf p.viewport.scale
  return .newContext width height scale p.userAgent

/-- The timeouts, if there are to be any. -/
def timeoutSteps (o : Options) : List Step :=
  match integerOf o.timeout with
  | .error failure => [.error failure]
  | .ok timeout =>
    if 0 < timeout then [.ok (.setTimeout timeout), .ok (.setOpeningTimeout timeout)] else []

/-- The steps that open a session, in order. -/
def openingSteps (p : Preferences) (o : Options) : List Step :=
  .ok .start :: launchStep p o :: contextStep p :: .ok .newPage :: timeoutSteps o

variable {σ : Type} {host : Host σ} {w : σ} {steps : List Step} {step : Step} {failure : Failure}

/-- Take a step. -/
def takeStep (step : Step) : Act σ Unit := do
  let c ← Act.ofExcept step
  Act.command c

/-- Take steps up to the first that fails. -/
def takeSteps : List Step → Act σ Unit
  | [] => return ()
  | step :: rest => do
    takeStep step
    takeSteps rest

/-- The step at a position fails, after all before it have succeeded. -/
structure FirstFailure (steps : List Step) (host : Host σ) (w : σ) (k : Nat) (failure : Failure) :
    Prop where
  before : (takeSteps (steps.take k) host w).result = .ok ()
  fails : ∃ step, steps[k]? = some step ∧
    (takeStep step host (takeSteps (steps.take k) host w).world).result = .error failure

theorem FirstFailure.cons (hstep : (takeStep step host w).result = .ok ()) {k : Nat}
    (h : FirstFailure steps host (takeStep step host w).world k failure) :
    FirstFailure (step :: steps) host w (k + 1) failure := by
  have htake : takeSteps ((step :: steps).take (k + 1)) host w = _ :=
    bind_of_ok hstep fun _ => takeSteps (steps.take k)
  refine ⟨?_, ?_⟩
  · rw [htake]
    exact h.before
  · rw [htake]
    exact h.fails

/-- Steps that fail have a first that does. -/
theorem exists_firstFailure (h : (takeSteps steps host w).result = .error failure) :
    ∃ k, FirstFailure steps host w k failure := by
  induction steps generalizing w with
  | nil => cases h
  | cons step rest ih =>
    cases hstep : (takeStep step host w).result with
    | error other =>
      rw [takeSteps, bind_of_error hstep] at h
      cases h
      exact ⟨0, rfl, step, rfl, hstep⟩
    | ok =>
      rw [takeSteps, bind_of_ok hstep] at h
      obtain ⟨k, hk⟩ := ih h
      exact ⟨k + 1, hk.cons hstep⟩

/-! ### The opening as steps -/

theorem launch_eq (p : Preferences) (o : Options) :
    (launch p o : Act σ Unit) = takeStep (launchStep p o) := by
  unfold launch launchStep takeStep
  cases integerOf o.slowMotion with
  | error failure => rfl
  | ok pause => cases engineOf o.browser <;> rfl

theorem takeSteps_timeoutSteps (o : Options) :
    (takeSteps (timeoutSteps o) : Act σ Unit) =
      Act.ofExcept (integerOf o.timeout) >>= fun timeout =>
        if 0 < timeout then do
          Act.command (.setTimeout timeout)
          Act.command (.setOpeningTimeout timeout)
        else return () := by
  unfold timeoutSteps
  cases integerOf o.timeout with
  | error failure => rfl
  | ok timeout =>
    refine Eq.trans ?_ (pure_bind_eq timeout _).symm
    dsimp only
    split
    · rw [takeSteps, takeSteps, takeSteps, bind_pure_eq]
      rfl
    · rfl

theorem openPage_eq (p : Preferences) (o : Options) :
    (openPage p o : Act σ Unit) =
      takeSteps (contextStep p :: .ok .newPage :: timeoutSteps o) := by
  unfold openPage contextStep
  rw [takeSteps, takeSteps, takeSteps_timeoutSteps]
  unfold takeStep
  cases sizeOf p.viewport.width with
  | error failure => rfl
  | ok width =>
    cases sizeOf p.viewport.height with
    | error failure => rfl
    | ok height => cases scaleOf p.viewport.scale <;> rfl

/-- Opening a session is starting the driver, taking the steps up to the launch, and then those that
open the page. -/
theorem takeSteps_openingSteps (p : Preferences) (o : Options) :
    (takeSteps (openingSteps p o) : Act σ Unit) =
      Act.command .start >>= fun _ => launch p o >>= fun _ => openPage p o := by
  rw [launch_eq, openPage_eq, openingSteps, takeSteps, takeSteps]
  rfl

/-! ### The driver -/

/-- How the driver refuses to be stopped. -/
def stopRefusal? : Event → Option Failure
  | .request (.command .stop) refusal => refusal
  | _ => none

/-- How the driver has refused to be stopped, each time that it has. -/
def stopRefusals (events : List Event) : List Failure := events.filterMap stopRefusal?

@[simp] theorem stopRefusals_append (events more : List Event) :
    stopRefusals (events ++ more) = stopRefusals events ++ stopRefusals more :=
  List.filterMap_append

theorem stopRefusals_eq_nil {x : Act σ Unit} (h : Only (stopRefusal? · = none) x) (host : Host σ)
    (w : σ) : stopRefusals (x host w).events = [] :=
  List.filterMap_eq_nil_iff.mpr fun e he => h host w e he

theorem only_command_of_ne_stop {c : Command} (h : c ≠ .stop) :
    Only (stopRefusal? · = none) (Act.command c : Act σ Unit) := by
  refine Only.ask fun refusal => ?_
  unfold stopRefusal?
  split
  · next heq =>
    cases heq
    exact absurd rfl h
  · rfl

theorem only_takeSteps (h : .ok .stop ∉ steps) :
    Only (stopRefusal? · = none) (takeSteps steps : Act σ Unit) := by
  induction steps with
  | nil => exact .pure ()
  | cons step rest ih =>
    rw [List.mem_cons, not_or] at h
    refine Only.bind ?_ fun _ => ih h.2
    cases step with
    | error failure => exact .fail failure
    | ok c => exact only_command_of_ne_stop fun hc => h.1 (hc ▸ rfl)

theorem launchStep_ne_stop (p : Preferences) (o : Options) : launchStep p o ≠ .ok .stop := by
  intro h
  obtain ⟨pause, -, h⟩ := bind_eq_ok_iff.mp h
  obtain ⟨engine, -, h⟩ := bind_eq_ok_iff.mp h
  cases h

theorem contextStep_ne_stop (p : Preferences) : contextStep p ≠ .ok .stop := by
  intro h
  obtain ⟨width, -, h⟩ := bind_eq_ok_iff.mp h
  obtain ⟨height, -, h⟩ := bind_eq_ok_iff.mp h
  obtain ⟨scale, -, h⟩ := bind_eq_ok_iff.mp h
  cases h

theorem stop_notMem_timeoutSteps (o : Options) : .ok .stop ∉ timeoutSteps o := by
  unfold timeoutSteps
  split
  · simp
  · split <;> simp

theorem only_launch_apart (p : Preferences) (o : Options) :
    Only (stopRefusal? · = none) (launch p o : Act σ Unit) := by
  have hsteps : .ok .stop ∉ [launchStep p o] := by simpa using (launchStep_ne_stop p o).symm
  rw [launch_eq, ← bind_pure_eq (takeStep _)]
  exact only_takeSteps hsteps

theorem only_openPage_apart (p : Preferences) (o : Options) :
    Only (stopRefusal? · = none) (openPage p o : Act σ Unit) := by
  rw [openPage_eq]
  apply only_takeSteps
  simp [(contextStep_ne_stop p).symm, stop_notMem_timeoutSteps o]

/-! ### What becomes of a failure -/

/-- What an opening comes to, by what its steps have come to and how the driver has refused to be
stopped. -/
inductive Becomes : Except Failure Unit → List Failure → Except Failure Unit → Prop
  | opened : Becomes (.ok ()) [] (.ok ())
  | told (failure : Failure) : Becomes (.error failure) [] (.error (.launch failure))
  | replaced (failure refusal : Failure) : Becomes (.error failure) [refusal] (.error refusal)

section Becomes

variable {refusals : List Failure} {result : Except Failure Unit} {refusal : Failure}

theorem Becomes.eq_launch_iff (h : Becomes (.error failure) refusals result) :
    result = .error (.launch failure) ↔ ∀ refusal ∈ refusals, refusal = .launch failure := by
  cases h with
  | told => simp
  | replaced => simp

theorem Becomes.eq_of_mem (h : Becomes (.error failure) refusals result)
    (hmem : refusal ∈ refusals) : result = .error refusal := by
  cases h with
  | told => cases hmem
  | replaced =>
    cases List.mem_singleton.mp hmem
    rfl

end Becomes

theorem giveUp_becomes (failure : Failure) (host : Host σ) (w : σ) :
    Becomes (.error failure) (stopRefusals (giveUp failure host w).events)
      (giveUp failure host w).result := by
  rcases hstop : host.answer (.command .stop) w with ⟨refusal | ⟨⟩, w'⟩
  · have hrefused : Act.command .stop host w =
        ⟨.error refusal, [.request (.command .stop) (some refusal)], w'⟩ := by
      simp only [Act.command, Act.ask, hstop]
    rw [giveUp, bind_eq_of_error hrefused]
    exact .replaced failure refusal
  · have hstopped : Act.command .stop host w =
        ⟨.ok (), [.request (.command .stop) none], w'⟩ := by
      simp only [Act.command, Act.ask, hstop]
    rw [giveUp, bind_eq_of_ok hstopped]
    exact .told failure

/-- Whether or not the browser agrees to be closed, its driver is stopped. -/
theorem abandon_becomes (failure : Failure) (host : Host σ) (w : σ) :
    Becomes (.error failure) (stopRefusals (abandon failure host w).events)
      (abandon failure host w).result := by
  have hsilent := stopRefusals_eq_nil (only_command_of_ne_stop (c := .closeBrowser) nofun) host w
  rw [abandon, bind_eq_of_ok (closeQuietly_apply host w), stopRefusals_append, hsilent]
  exact giveUp_becomes failure host _

theorem openSession_becomes (p : Preferences) (o : Options) (host : Host σ) (w : σ) :
    Becomes (takeSteps (openingSteps p o) host w).result
      (stopRefusals (openSession p o host w).events) (openSession p o host w).result := by
  have hsilent₁ := stopRefusals_eq_nil (only_command_of_ne_stop (c := .start) nofun) host w
  rw [takeSteps_openingSteps, openSession_eq]
  rcases hstart : Act.command .start host w with ⟨failure | ⟨⟩, events₁, w₁⟩
  all_goals rw [hstart] at hsilent₁
  · rw [bind_eq_of_error hstart, bind_eq_of_error (launchFailure_of_error host w hstart), hsilent₁]
    exact .told failure
  have hsilent₂ := stopRefusals_eq_nil (only_launch_apart p o) host w₁
  rw [bind_eq_of_ok hstart, bind_eq_of_ok (launchFailure_of_ok host w hstart), attempt_bind,
    stopRefusals_append, hsilent₁, stopRefusals_append, hsilent₂]
  rcases hlaunch : launch p o host w₁ with ⟨failure | ⟨⟩, events₂, w₂⟩
  · rw [bind_eq_of_error hlaunch]
    exact giveUp_becomes failure host w₂
  have hsilent₃ := stopRefusals_eq_nil (only_openPage_apart p o) host w₂
  rw [bind_eq_of_ok hlaunch, openLaunched, attempt_bind, stopRefusals_append, hsilent₃]
  rcases hpage : openPage p o host w₂ with ⟨failure | ⟨⟩, events₃, w₃⟩
  · exact abandon_becomes failure host w₃
  · exact .opened

end PageScript.Browser
