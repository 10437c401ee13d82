import PageScript.Proofs.Agent.Steps
import PageScript.Proofs.Model.VerdictGrammar

/-!
# Judging an assertion

An assertion holds if the model's reply to it is a verdict that says so.  Nothing else lets it pass:
a verdict against it, data that are no verdict and a reply without data are failures, each of its
own kind.  While an assertion is judged, nothing is done on the page.

`verify_passes_iff_verdict` states it from the model's reply on.
-/

namespace PageScript.Agent

open PageScript.Act PageScript.Model PageScript.Page

variable {σ : Type} {agent : Agent σ} {host : Host σ} {w v v' : σ}
  {complaint instruction reply : String} {observation : Observation} {seen replied : List Event}
  {data : Json}

theorem judge_eq_ok_iff :
    judge complaint instruction data = .ok () ↔ ∃ thought, IsVerdict data true thought := by
  unfold judge
  cases hcheck : Verdict.check data with
  | error problems =>
    simp [← Verdict.check_eq_ok_iff, hcheck]
  | ok verdict =>
    obtain ⟨passed, thought⟩ := verdict
    cases passed <;> simp [← Verdict.check_eq_ok_iff, hcheck]

theorem judge_of_denial {thought : String} (h : IsVerdict data false thought) :
    judge complaint instruction data = .error (.assertionFailed instruction thought) := by
  rw [judge, Verdict.check_eq_ok_iff.mpr h]
  rfl

/-- What is no verdict is refused with the problems that the check of verdicts has found. -/
theorem judge_of_not_isVerdict (h : ∀ passed thought, ¬ IsVerdict data passed thought) :
    ∃ problems, Verdict.check data = .error problems ∧
      judge complaint instruction data =
        .error (.verdictRejected instruction problems complaint) := by
  cases hcheck : Verdict.check data with
  | error problems => exact ⟨problems, rfl, by rw [judge, hcheck]⟩
  | ok verdict => exact absurd (Verdict.check_eq_ok_iff.mp hcheck) (h _ _)

/-- What an assertion comes to when the model's reply to it is known. -/
theorem verify_apply (hperceive : perceive host w = ⟨.ok observation, seen, v⟩)
    (hcomplete : agent.complete (assertionPrompt observation.prompt instruction) host v =
      ⟨.ok (.string reply), replied, v'⟩) :
    agent.verify instruction host w =
      ⟨extract reply >>= fun data => judge (host.wording "AssertionVerdict" data) instruction data,
        seen ++ replied, v'⟩ := by
  rw [verify, bind_complaint_ofExcept _ "AssertionVerdict" (fun data => data)
      fun text => judge text instruction,
    ask_of_reply (fun page => assertionPrompt page instruction) hperceive hcomplete]

/-- An assertion passes if the model's verdict is for it, and only then. -/
theorem verify_passes_iff_verdict
    (hperceive : perceive host w = ⟨.ok observation, seen, v⟩)
    (hcomplete : agent.complete (assertionPrompt observation.prompt instruction) host v =
      ⟨.ok (.string reply), replied, v'⟩) :
    ∃ result, agent.verify instruction host w = ⟨result, seen ++ replied, v'⟩ ∧
      (∀ c refusal, .request (.command c) refusal ∉ seen) ∧
      (result = .ok () ↔
        ∃ data thought, extract reply = .ok data ∧ IsVerdict data true thought) ∧
      (∀ data thought, extract reply = .ok data → IsVerdict data false thought →
        ∃ failure, result = .error failure ∧ failure.isAgent = true ∧
          failure.isModel = false ∧ failure.message = "Assertion failed: " ++ instruction ++
            if thought = "" then "" else ", reason: " ++ thought) ∧
      (∀ data, extract reply = .ok data → (∀ passed thought, ¬ IsVerdict data passed thought) →
        ∃ failure problems, result = .error failure ∧ failure.isAgent = true ∧
          failure.isModel = false ∧ Verdict.check data = .error problems ∧
          failure.cause? = some (.invalid problems) ∧
          failure.message = "Could not understand the verdict for " ++ Text.quoted instruction ++
            ": " ++ host.wording "AssertionVerdict" data) ∧
      ∀ failure, extract reply = .error failure →
        failure.isModel = true ∧ result = .error failure := by
  refine ⟨_, verify_apply hperceive hcomplete, ?_, ?_, ?_, ?_, ?_⟩
  · intro c refusal hmem
    exact not_command_of_perceive host w c refusal (by rwa [hperceive])
  · rw [bind_eq_ok_iff]
    simp only [judge_eq_ok_iff, exists_and_left]
  · intro data thought hdata hdenied
    rw [hdata]
    exact ⟨_, judge_of_denial hdenied, rfl, rfl, rfl⟩
  · intro data hdata hnone
    obtain ⟨problems, hcheck, hjudge⟩ := judge_of_not_isVerdict hnone
    rw [hdata]
    exact ⟨_, problems, hjudge, rfl, rfl, hcheck, rfl, rfl⟩
  · intro failure hnothing
    rw [hnothing]
    exact ⟨isModel_of_extract hnothing, rfl⟩

/-- The truth value under `pass` counts, whatever stands under `passed`. -/
theorem verify_passes_iff_verdict_denied :
    let agent : Agent Rehearsal.Script := replyingAgent
      "[sic] \x7b\"passed\": true, \"pass\": \"oFf\", \"thought\": \"signed out\"\x7d"
    ∃ failure, (agent.verify "signed in" Rehearsal.host {}).result = .error failure ∧
      failure.message = "Assertion failed: signed in, reason: signed out" := by
  intro agent
  obtain ⟨observation, seen, v, hperceive⟩ : ∃ observation seen v,
      perceive Rehearsal.host {} = ⟨.ok observation, seen, v⟩ := ⟨_, _, _, rfl⟩
  have hcomplete : agent.complete (assertionPrompt observation.prompt "signed in") Rehearsal.host
      v = ⟨.ok (.string _), [], v⟩ := rfl
  obtain ⟨result, hverify, -, -, hdenied, -⟩ := verify_passes_iff_verdict hperceive hcomplete
  have hoff : CountsAs (.string "oFf") false := truth_eq_ok_iff.mp rfl
  obtain ⟨failure, hfailure, -, -, hmessage⟩ := hdenied _ "signed out" rfl
    (.object rfl hoff (.text _))
  exact ⟨failure, by rw [hverify, hfailure], hmessage⟩

end PageScript.Agent
