import PageScript.Proofs.Model.Retries

/-!
# When the client gives a text

The client is meant to give a text or to fail as a model does.  It does so unless the first data
that arrive are not what a server sends, or the number of attempts is none: then it gives what is no
text, or ends with a failure of another family.  `generate_isMeant_iff` states when.
-/

namespace PageScript.Model

variable {σ : Type} {host : Host σ} {ready : σ → Prop} {w : σ} {q : Question}

/-- What a client is meant to come to: a text that is not empty, or a failure of the model. -/
inductive IsMeant : Except Failure Json → Prop
  | text {s : String} (h : s ≠ "") : IsMeant (.ok (.string s))
  | unavailable {failure : Failure} (h : failure.isModel = true) : IsMeant (.error failure)

/-- Data in which the reply is a text, if there is a reply at all. -/
def IsSound (data : Json) : Prop :=
  ∃ fields, data = .object fields ∧
    ∀ reply, Json.get? "response" fields = some reply → reply.holds = true →
      ∃ s, reply = .string s

/-- A number of attempts, or a flag or small number that stands for one attempt. -/
def IsCount : Value → Prop
  | .integer _ | .flag _ => True
  | .decimal x => ¬ 1.0 < x
  | .absent | .text _ => False

theorem isMeant_ok_iff {reply : Json} :
    IsMeant (.ok reply) ↔ ∃ s, s ≠ "" ∧ reply = .string s := by
  constructor
  · rintro (⟨h⟩ | -)
    exact ⟨_, h, rfl⟩
  · rintro ⟨s, h, rfl⟩
    exact .text h

theorem isMeant_error_iff {failure : Failure} :
    IsMeant (.error failure) ↔ failure.isModel = true :=
  ⟨fun | .unavailable h => h, .unavailable⟩

/-- Whatever counts no attempts is refused, and not as a failure of the model. -/
theorem attemptsOf_cases (limit : Value) :
    IsCount limit ∧ (∃ n, attemptsOf limit = .ok n) ∨
      ¬ IsCount limit ∧ ∃ why, attemptsOf limit = .error (.misfit why) := by
  cases limit with
  | absent => exact .inr ⟨id, _, rfl⟩
  | flag b => exact .inl ⟨trivial, _, rfl⟩
  | integer n => exact .inl ⟨trivial, _, rfl⟩
  | decimal x =>
    by_cases h : 1.0 < x
    · exact .inr ⟨not_not_intro h, _, by rw [attemptsOf, if_pos h]⟩
    · exact .inl ⟨h, _, by rw [attemptsOf, if_neg h]⟩
  | text s => exact .inr ⟨id, _, rfl⟩

/-- Of data the client makes what it is meant to exactly if they are sound. -/
theorem isMeant_responseOf_iff (data : Json) : IsMeant (responseOf q data) ↔ IsSound data := by
  have hempty : IsMeant (.error (.emptyReply q.model)) := .unavailable rfl
  cases data with
  | object fields =>
    have hsound : IsSound (.object fields) ↔
        ∀ reply, Json.get? "response" fields = some reply → reply.holds = true →
          ∃ s, reply = .string s := by simp [IsSound]
    rw [hsound, responseOf]
    cases hreply : Json.get? "response" fields with
    | none => simpa [Json.holds] using hempty
    | some reply =>
      by_cases hholds : reply.holds = true
      · simp only [Option.getD_some, hholds, if_true, isMeant_ok_iff, Option.some.injEq, forall_eq',
          forall_const]
        refine exists_congr fun s => and_iff_right_of_imp ?_
        rintro rfl
        simpa [Json.holds] using hholds
      · simpa [hholds] using hempty
  | _ =>
    simp only [responseOf, isMeant_error_iff, IsSound]
    simp [Failure.isModel]

/-! ### The first answer that is not lost -/

section Asked

variable {patience : Value} {attempt more k : Nat} {posted : Except Failure Json}
  {asked : List Request}

theorem not_isLost_ok (r : Response) : ¬ IsLost (.ok r) := nofun

/-- Only one answer can be the first that is not lost. -/
theorem Asked.eq_of_not_lost (h : Asked host q patience attempt more w k posted asked) {j : Nat}
    (hj : j ≤ more) (hbefore : ∀ i < j, IsLost (answerFrom host q patience attempt w i))
    (hlost : ¬ IsLost (answerFrom host q patience attempt w j)) : j = k := by
  have hle : k ≤ j := Nat.le_of_not_lt fun hlt => hlost (h.lost j hlt)
  cases h.ends with
  | lost _ _ hlast => exact Nat.le_antisymm (hlast ▸ hj) hle
  | settled hk _ =>
    refine Nat.le_antisymm (Nat.le_of_not_lt fun hlt => ?_) hle
    exact hk (hbefore k hlt)

/-- Attempts come to what the client is meant to, exactly if the data they bring are sound. -/
theorem Asked.isMeant_iff (h : Asked host q patience attempt more w k posted asked) :
    IsMeant (posted >>= responseOf q) ↔
      ∀ r data, answerFrom host q patience attempt w k = .ok r → ¬ r.IsError →
        Json.read r.body = .ok data → IsSound data := by
  have hends := h.ends
  generalize answerFrom host q patience attempt w k = answer at hends
  have hunavailable (failure : Failure) :
      IsMeant ((.error (.requestFailed failure) : Except Failure Json) >>= responseOf q) :=
    .unavailable rfl
  cases hends with
  | lost hanswer _ _ =>
    subst hanswer
    exact iff_of_true (hunavailable _) nofun
  | settled _ hsettles =>
    cases hsettles with
    | refused failure => exact iff_of_true (hunavailable _) nofun
    | badStatus hstatus =>
      refine iff_of_true (hunavailable _) fun r data hr hfine => ?_
      cases hr
      exact absurd hstatus hfine
    | unreadable hstatus hbody =>
      refine iff_of_true (hunavailable _) fun r data hr _ hread => ?_
      cases hr
      rw [hbody] at hread
      cases hread
    | read hstatus hbody =>
      refine (isMeant_responseOf_iff _).trans ⟨fun hsound r data hr _ hread => ?_, fun hall => ?_⟩
      · cases hr
        rw [hbody] at hread
        cases hread
        exact hsound
      · exact hall _ _ rfl hstatus hbody

end Asked

/-! ### Servers with one answer -/

/-- A server that greets back and answers a question with a body. -/
def answering (body : String) : Rehearsal.Script where
  server := .exchanges [Rehearsal.Script.good "\x7b\x7d", Rehearsal.Script.good body]

theorem isServed_answering (body : String) : (answering body).IsServed := by
  rintro _ ⟨⟩ failure hmem
  simp [Rehearsal.Script.good] at hmem

/-- A question to the usual model. -/
def greetingQuestion : Question := ⟨.text "llama3", "hi", .decimal 0.1, true⟩

/-! ### The client -/

/-- **When the client comes to what it is meant to.**  It gives a text or fails as a model does,
exactly if the server does not greet it, or the limit counts attempts and the first answer that
comes within them is of no use or holds sound data. -/
theorem generate_isMeant_iff (h : host.Serves ready) (hw : ready w) (q : Question)
    (patience limit : Value) :
    let answer := answerFrom host q patience 1 (host.answer greeting w).2
    IsMeant (generate q patience limit host w).result ↔
      (Welcomes (host.answer greeting w).1 →
        IsCount limit ∧
          ∀ n k r data, attemptsOf limit = .ok n → k < n → (∀ i < k, IsLost (answer i)) →
            answer k = .ok r → ¬ r.IsError → Json.read r.body = .ok data → IsSound data) := by
  intro answer
  rcases generate_cases h hw q patience limit with
    ⟨hsilent, hresult, -⟩ | ⟨hwelcomes, ⟨failure, hlimit, hresult⟩ |
      ⟨n, k, posted, asked, hlimit, hasked, hresult, -⟩⟩
  · rw [hresult]
    exact iff_of_true (.unavailable rfl) fun hwelcomes => absurd hwelcomes hsilent
  · rw [hresult]
    rcases attemptsOf_cases limit with ⟨-, n, hn⟩ | ⟨hcount, why, hwhy⟩
    · rw [hn] at hlimit
      cases hlimit
    · rw [hwhy] at hlimit
      cases hlimit
      refine iff_of_false (fun hmeant => ?_) fun hall => hcount (hall hwelcomes).1
      cases isMeant_error_iff.mp hmeant
  · have hcount : IsCount limit := by
      rcases attemptsOf_cases limit with ⟨hcount, -⟩ | ⟨-, why, hwhy⟩
      · exact hcount
      · rw [hwhy] at hlimit
        cases hlimit
    have hone := one_le_of_attemptsOf hlimit
    have hwithin := hasked.within
    rw [hresult, hasked.isMeant_iff]
    constructor
    · intro hsound _
      refine ⟨hcount, fun m j r data hm hj hbefore hanswer => ?_⟩
      rw [hlimit] at hm
      cases hm
      have hlost : ¬ IsLost (answer j) := by
        rw [hanswer]
        exact not_isLost_ok r
      obtain rfl := hasked.eq_of_not_lost (by omega) hbefore hlost
      exact hsound r data hanswer
    · intro hall r data
      exact (hall hwelcomes).2 n k r data hlimit (by omega) hasked.lost

theorem generate_isMeant_iff_of_greeted :
    let script := answering "\x7b\"response\": \"hello\"\x7d"
    let answer := answerFrom Rehearsal.host greetingQuestion (.integer 60) 1
      (Rehearsal.host.answer greeting script).2
    Rehearsal.host.Serves Rehearsal.Script.IsServed ∧ script.IsServed ∧
      (IsMeant (generate greetingQuestion (.integer 60) (.integer 1) Rehearsal.host script).result ↔
        (Welcomes (Rehearsal.host.answer greeting script).1 →
          IsCount (.integer 1) ∧
            ∀ n k r data, attemptsOf (.integer 1) = .ok n → k < n → (∀ i < k, IsLost (answer i)) →
              answer k = .ok r → ¬ r.IsError → Json.read r.body = .ok data → IsSound data)) :=
  ⟨Rehearsal.serves_host, isServed_answering _,
    generate_isMeant_iff Rehearsal.serves_host (isServed_answering _) greetingQuestion (.integer 60)
      (.integer 1)⟩

/-- A list is no answer, and the client stumbles over it; a number it hands on as a text. -/
theorem generate_not_isMeant :
    let asked (body : String) :=
      (generate greetingQuestion (.integer 60) (.integer 1) Rehearsal.host (answering body)).result
    asked "[]" = .error (.unsupported "list" "get") ∧ ¬ IsMeant (asked "[]") ∧
      asked "\x7b\"response\": 5\x7d" = .ok (.integer 5) ∧
      ¬ IsMeant (asked "\x7b\"response\": 5\x7d") := by
  intro asked
  have hlist : asked "[]" = .error (.unsupported "list" "get") := by rfl
  have hnumber : asked "\x7b\"response\": 5\x7d" = .ok (.integer 5) := by rfl
  refine ⟨hlist, fun hmeant => ?_, hnumber, fun hmeant => ?_⟩
  · rw [hlist] at hmeant
    cases isMeant_error_iff.mp hmeant
  · rw [hnumber] at hmeant
    cases hmeant

end PageScript.Model
