import PageScript.Model.Client
import PageScript.Proofs.Act
import PageScript.Rehearsal

/-!
# Attempts at a question

The server is greeted once, and a question is put only if it greets back.  From then on the server's
answers decide: an attempt that is lost on the way is followed by a pause and another attempt, up to
a limit, and the first attempt that is not lost settles the matter.

`answerFrom` is the script by which the server answers the attempts.  `postFrom_law` states what
comes of a question by that script alone, and `generate_retries` what the client does from its
greeting on.
-/

namespace PageScript

open PageScript.Act PageScript.Model

/-! ### Requests and their failures -/

/-- The request that an event shows. -/
def Event.request? : Event → Option Request
  | .request r _ => some r
  | _ => none

/-- The requests that events show, in order. -/
def requests (events : List Event) : List Request := events.filterMap Event.request?

@[simp] theorem requests_append (events more : List Event) :
    requests (events ++ more) = requests events ++ requests more := List.filterMap_append

/-- A kind of transport failure is a case of another. -/
inductive TransportFault.IsA : TransportFault → TransportFault → Prop
  | refl (fault : TransportFault) : IsA fault fault
  | request (fault : TransportFault) : IsA fault .request
  | unconnected : IsA .connectTimeout .connection
  | slowConnection : IsA .connectTimeout .timeout
  | slowAnswer : IsA .readTimeout .timeout
  | unencrypted : IsA .encryption .connection

/-- An exchange is lost where the connection fails or takes too long. -/
def Failure.IsLoss (failure : Failure) : Prop :=
  ∃ fault text, failure = .transport fault text ∧ (fault.IsA .connection ∨ fault.IsA .timeout)

/-- What may pass are exactly the losses. -/
theorem Failure.isPassing_iff {failure : Failure} : failure.isPassing = true ↔ failure.IsLoss := by
  constructor
  · intro h
    cases failure with
    | transport fault text =>
      refine ⟨fault, text, rfl, ?_⟩
      cases fault with
      | connection => exact .inl (.refl _)
      | timeout => exact .inr (.refl _)
      | connectTimeout => exact .inl .unconnected
      | readTimeout => exact .inr .slowAnswer
      | encryption => exact .inl .unencrypted
      | request | status | address | chunking | redirects => cases h
    | _ => cases h
  · rintro ⟨fault, text, rfl, hloss⟩
    rcases hloss with h | h <;> cases h <;> rfl

/-- Surroundings in which a server can be asked and time passes, from any ready state on: a server
refuses by a transport failure if at all, and nothing keeps the program from pausing. -/
structure Host.Serves {σ : Type} (host : Host σ) (ready : σ → Prop) : Prop where
  get {w : σ} (h : ready w) (url : String) (seconds : Float) :
    (∀ failure, (host.answer (.get url seconds) w).1 = .error failure →
      failure.isTransport = true) ∧ ready (host.answer (.get url seconds) w).2
  post {w : σ} (h : ready w) (url : String) (q : Question) (connect : Int) (patience : Value) :
    (∀ failure, (host.answer (.post url q connect patience) w).1 = .error failure →
      failure.isTransport = true) ∧ ready (host.answer (.post url q connect patience) w).2
  sleep {w : σ} (h : ready w) (seconds : Float) :
    (host.answer (.sleep seconds) w).1 = .ok () ∧ ready (host.answer (.sleep seconds) w).2

/-! ### A scripted server -/

namespace Rehearsal

/-- A script whose server refuses by transport failures only. -/
def Script.IsServed (s : Script) : Prop :=
  ∀ answers, s.server = .exchanges answers → ∀ failure, .error failure ∈ answers →
    failure.isTransport = true

theorem Script.IsServed.serve {s : Script} (h : s.IsServed) (asked : Bool) :
    (∀ failure, (s.serve asked).1 = .error failure → failure.isTransport = true) ∧
      (s.serve asked).2.IsServed := by
  unfold Script.serve
  split
  · next answers hserver =>
    cases answers with
    | nil =>
      refine ⟨fun failure hfailure => ?_, fun rest hrest failure hmem => ?_⟩
      · cases hfailure
        rfl
      · cases hrest
        cases hmem
    | cons answer rest =>
      refine ⟨fun failure hfailure => ?_, fun later hlater failure hmem => ?_⟩
      · exact h _ hserver failure (by rw [← hfailure]; exact List.mem_cons_self)
      · cases hlater
        exact h _ hserver failure (List.mem_cons_of_mem _ hmem)
  · next values hserver =>
    split
    · exact ⟨nofun, nofun⟩
    · refine ⟨nofun, fun answers hanswers => ?_⟩
      rw [show s.server = .exchanges answers from hanswers] at hserver
      cases hserver

theorem serves_host : Rehearsal.host.Serves Script.IsServed where
  get h _ _ := h.serve false
  post h _ _ _ _ := h.serve true
  sleep h _ := ⟨rfl, h⟩

/-- A server that is too slow at first, and then out of order. -/
def failingServer : Script where
  server := .exchanges
    [Script.good "\x7b\x7d", .error (.transport .readTimeout "too slow"), .ok ⟨503, none, ""⟩]

theorem isServed_failingServer : failingServer.IsServed := by
  rintro _ ⟨⟩ failure hmem
  obtain rfl : failure = .transport .readTimeout "too slow" := by simpa [Script.good] using hmem
  rfl

end Rehearsal

namespace Model

variable {σ : Type} {host : Host σ} {ready : σ → Prop} {w : σ} {q : Question}
  {patience limit : Value}

/-! ### Statuses -/

/-- A status that says that something is wrong. -/
def Response.IsError (r : Response) : Prop := 400 ≤ r.status ∧ r.status < 600

/-- Who is to blame for such a status. -/
def Response.blame (r : Response) : String := if r.status < 500 then "Client" else "Server"

theorem checkStatus_cases (url : String) (r : Response) :
    ¬ r.IsError ∧ checkStatus url r = .ok () ∨
      r.IsError ∧ checkStatus url r = .error (statusFailure url r.blame r) := by
  unfold checkStatus Response.IsError Response.blame
  split
  · next hclient => exact .inr ⟨by omega, by rw [if_pos hclient.2]⟩
  · next hclient =>
    split
    · next hserver => exact .inr ⟨by omega, by rw [if_neg (by omega)]⟩
    · exact .inl ⟨by omega, rfl⟩

/-! ### The greeting -/

/-- The request by which the server is greeted. -/
abbrev greeting : Request := .get healthAddress healthSeconds

/-- The server greets back. -/
def Welcomes : Except Failure Response → Prop
  | .ok r => ¬ r.IsError
  | .error _ => False

theorem checkHealth_apply (host : Host σ) (w : σ) :
    checkHealth host w =
      ⟨(host.answer greeting w).1 >>= checkStatus healthAddress,
        [.request greeting (refusal? (host.answer greeting w).1)], (host.answer greeting w).2⟩ := by
  rw [checkHealth, bind_ofExcept, ask_apply]

/-- What a server that does not greet back comes to is a transport failure. -/
theorem greeting_cases (h : host.Serves ready) (hw : ready w) :
    Welcomes (host.answer greeting w).1 ∧
        (host.answer greeting w).1 >>= checkStatus healthAddress = .ok () ∨
      ¬ Welcomes (host.answer greeting w).1 ∧ ∃ failure, failure.isTransport = true ∧
        (host.answer greeting w).1 >>= checkStatus healthAddress = .error failure := by
  have hrefusal := (h.get hw healthAddress healthSeconds).1
  cases hanswer : (host.answer greeting w).1 with
  | error failure => exact .inr ⟨id, failure, hrefusal failure hanswer, rfl⟩
  | ok r =>
    rcases checkStatus_cases healthAddress r with ⟨hfine, hok⟩ | ⟨herror, hstatus⟩
    · exact .inl ⟨hfine, hok⟩
    · exact .inr ⟨not_not_intro herror, _, rfl, hstatus⟩

/-- The server is greeted once, and is there if it greets back. -/
theorem isHealthy_apply (h : host.Serves ready) (hw : ready w) :
    ∃ healthy events,
      isHealthy host w = ⟨.ok healthy, events, (host.answer greeting w).2⟩ ∧
      (healthy = true ↔ Welcomes (host.answer greeting w).1) ∧ requests events = [greeting] := by
  rw [isHealthy, attempt_bind, checkHealth_apply]
  rcases greeting_cases h hw with ⟨hwelcome, hok⟩ | ⟨hsilent, failure, htransport, herror⟩
  · rw [hok]
    exact ⟨true, _, rfl, by simpa using hwelcome, rfl⟩
  · simp only [herror, htransport, if_true]
    exact ⟨false, _, rfl, by simpa using hsilent, rfl⟩

/-! ### One attempt -/

/-- The request by which a question is put. -/
abbrev putting (q : Question) (patience : Value) : Request :=
  .post questionAddress q connectSeconds patience

/-- What an answer to a question holds, or what is wrong with it. -/
def contentOf (answer : Except Failure Response) : Except Failure Json := do
  let r ← answer
  checkStatus questionAddress r
  (Json.read r.body).mapError .unreadable

/-- An answer that says that the question was lost. -/
def IsLost (answer : Except Failure Response) : Prop :=
  ∃ failure, answer = .error failure ∧ failure.IsLoss

/-- What an answer settles that is not lost. -/
inductive Settles : Except Failure Response → Except Failure Json → Prop
  | refused (failure : Failure) : Settles (.error failure) (.error (.requestFailed failure))
  | badStatus {r : Response} (hstatus : r.IsError) :
      Settles (.ok r) (.error (.requestFailed (statusFailure questionAddress r.blame r)))
  | unreadable {r : Response} {e : Json.ReadError} (hstatus : ¬ r.IsError)
      (hbody : Json.read r.body = .error e) :
      Settles (.ok r) (.error (.requestFailed (.unreadable e)))
  | read {r : Response} {data : Json} (hstatus : ¬ r.IsError)
      (hbody : Json.read r.body = .ok data) :
      Settles (.ok r) (.ok data)

theorem post_apply (q : Question) (patience : Value) (host : Host σ) (w : σ) :
    post q patience host w =
      ⟨contentOf (host.answer (putting q patience) w).1,
        [.request (putting q patience) (refusal? (host.answer (putting q patience) w).1)],
        (host.answer (putting q patience) w).2⟩ := by
  have hpost : (post q patience : Act σ Json) = Act.ask (putting q patience) >>= fun r =>
      Act.ofExcept (contentOf (.ok r)) := by
    rw [post]
    congr 1
    funext r
    exact (ofExcept_bind _ _).symm
  rw [hpost, bind_ofExcept, ask_apply]
  cases (host.answer (putting q patience) w).1 <;> rfl

/-- An attempt that is lost leads on. -/
theorem tryPost_of_loss {failure : Failure}
    (hanswer : (host.answer (putting q patience) w).1 = .error failure) (hloss : failure.IsLoss)
    (limit : Value) (attempt : Nat) (again : Failure → Act σ Json) :
    let w' := (host.answer (putting q patience) w).2
    ∃ said, requests said = [putting q patience] ∧
      tryPost q patience limit attempt again host w =
        ⟨(again failure host w').result, said ++ (again failure host w').events,
          (again failure host w').world⟩ := by
  intro w'
  have hpost := post_apply q patience host w
  rw [hanswer] at hpost
  have hpassing := Failure.isPassing_iff.mpr hloss
  refine ⟨[.request (putting q patience) (some failure),
    .console ("[Ollama] POST attempt " ++ toString attempt ++ "/" ++ limit.shown ++ " failed: "
      ++ failure.message ++ "\n")], rfl, ?_⟩
  rw [tryPost, attempt_bind, hpost]
  simp only [contentOf, bind, Except.bind, hpassing, if_true]
  rfl

/-- An attempt that is not lost settles the matter. -/
theorem tryPost_of_not_lost (h : host.Serves ready) (hw : ready w)
    (hlost : ¬ IsLost (host.answer (putting q patience) w).1) (limit : Value) (attempt : Nat)
    (again : Failure → Act σ Json) :
    ∃ result refusal w', tryPost q patience limit attempt again host w =
        ⟨result, [.request (putting q patience) refusal], w'⟩ ∧
      Settles (host.answer (putting q patience) w).1 result := by
  have hrefusal := (h.post hw questionAddress q connectSeconds patience).1
  have hpost := post_apply q patience host w
  generalize hanswer : (host.answer (putting q patience) w).1 = answer at hlost hpost hrefusal ⊢
  generalize (host.answer (putting q patience) w).2 = w' at hpost
  -- A failure that does not pass, but is one of the exchange, is wrapped.
  have hfinal {failure : Failure} (hcontent : contentOf answer = .error failure)
      (hpassing : failure.isPassing = false)
      (hkind : (failure.isTransport || failure.isValue) = true) :
      tryPost q patience limit attempt again host w =
        ⟨.error (.requestFailed failure), [.request (putting q patience) (refusal? answer)],
          w'⟩ := by
    rw [hcontent] at hpost
    rw [tryPost, attempt_bind, hpost]
    simp [hpassing, hkind]
  cases answer with
  | error failure =>
    have hloss : ¬ failure.IsLoss := fun hloss => hlost ⟨failure, rfl, hloss⟩
    have hpassing := Bool.eq_false_iff.mpr (mt Failure.isPassing_iff.mp hloss)
    exact ⟨_, _, _, hfinal rfl hpassing (by simp [hrefusal failure rfl]), .refused failure⟩
  | ok r =>
    rcases checkStatus_cases questionAddress r with ⟨hstatus, hok⟩ | ⟨hstatus, herror⟩
    · cases hbody : Json.read r.body with
      | error e =>
        have hcontent : contentOf (.ok r) = .error (.unreadable e) := by
          simp only [contentOf, hok, hbody, bind, Except.bind]
          rfl
        exact ⟨_, _, _, hfinal hcontent rfl rfl, .unreadable hstatus hbody⟩
      | ok data =>
        have hcontent : contentOf (.ok r) = .ok data := by
          simp only [contentOf, hok, hbody, bind, Except.bind]
          rfl
        rw [hcontent] at hpost
        refine ⟨.ok data, none, w', ?_, .read hstatus hbody⟩
        rw [tryPost, attempt_bind, hpost]
        rfl
    · have hcontent : contentOf (.ok r) = .error (statusFailure questionAddress r.blame r) := by
        simp [contentOf, herror, bind, Except.bind]
      exact ⟨_, _, _, hfinal hcontent rfl rfl, .badStatus hstatus⟩

/-! ### Attempts up to a limit -/

/-- The answer to a question, when an attempt and those after it have been answered `i` times, each
time with a pause before the next. -/
def answerFrom (host : Host σ) (q : Question) (patience : Value) (attempt : Nat) (w : σ) :
    (i : Nat) → Except Failure Response
  | 0 => (host.answer (putting q patience) w).1
  | i + 1 =>
    answerFrom host q patience (attempt + 1)
      (host.answer (.sleep (pauseSeconds attempt)) (host.answer (putting q patience) w).2).2 i

/-- What attempts come to, when the last answer to them is lost as well or settles the matter. -/
inductive Ends (exhausted : Prop) (answer : Except Failure Response) :
    Except Failure Json → Prop
  | lost {failure : Failure} (hanswer : answer = .error failure) (hloss : failure.IsLoss)
      (hlast : exhausted) : Ends exhausted answer (.error (.requestFailed failure))
  | settled {result : Except Failure Json} (hlost : ¬ IsLost answer) (h : Settles answer result) :
      Ends exhausted answer result

/-- A question that is put and lost, and the pause after it. -/
def lostAttempt (q : Question) (patience : Value) (attempt : Nat) : List Request :=
  [putting q patience, .sleep (pauseSeconds attempt)]

/-- What is asked and what it comes to, if the last of `k` attempts and one is answered. -/
structure Asked (host : Host σ) (q : Question) (patience : Value) (attempt more : Nat) (w : σ)
    (k : Nat) (result : Except Failure Json) (asked : List Request) : Prop where
  within : k ≤ more
  lost : ∀ i < k, IsLost (answerFrom host q patience attempt w i)
  ends : Ends (k = more) (answerFrom host q patience attempt w k) result
  requests : asked =
    (List.range k).flatMap (fun i => lostAttempt q patience (attempt + i)) ++ [putting q patience]

/-- The first attempt settles the matter. -/
theorem asked_first {attempt more : Nat} {result : Except Failure Json}
    (h : Ends (0 = more) (host.answer (putting q patience) w).1 result) :
    Asked host q patience attempt more w 0 result [putting q patience] :=
  ⟨Nat.zero_le more, by simp, h, rfl⟩

/-- An attempt is lost, and the rest follows a pause. -/
theorem Asked.after_loss {attempt more k : Nat} {result : Except Failure Json}
    {asked : List Request} (hlost : IsLost (host.answer (putting q patience) w).1)
    (h : Asked host q patience (attempt + 1) more
      (host.answer (.sleep (pauseSeconds attempt)) (host.answer (putting q patience) w).2).2
      k result asked) :
    Asked host q patience attempt (more + 1) w (k + 1) result
      (lostAttempt q patience attempt ++ asked) where
  within := Nat.succ_le_succ h.within
  lost i hi := by
    cases i with
    | zero => exact hlost
    | succ i => exact h.lost i (Nat.lt_of_succ_lt_succ hi)
  ends := by
    rw [Nat.add_right_cancel_iff]
    exact h.ends
  requests := by
    rw [h.requests, List.range_succ_eq_map, List.flatMap_cons, List.flatMap_map, List.append_assoc]
    simp only [Nat.add_zero, Nat.add_assoc, Nat.add_comm 1]

/-- There is no attempt after one that is not lost. -/
theorem asked_of_not_lost (h : host.Serves ready) (hw : ready w) (limit : Value)
    (attempt more : Nat) (hlost : ¬ IsLost (host.answer (putting q patience) w).1) :
    Asked host q patience attempt more w 0 (postFrom q patience limit attempt more host w).result
      (requests (postFrom q patience limit attempt more host w).events) := by
  obtain ⟨again, hpostFrom⟩ : ∃ again, (postFrom q patience limit attempt more : Act σ Json) =
      tryPost q patience limit attempt again := by
    cases more <;> exact ⟨_, rfl⟩
  obtain ⟨result, refusal, w', htry, hsettles⟩ :=
    tryPost_of_not_lost h hw hlost limit attempt again
  rw [hpostFrom, htry]
  exact asked_first (.settled hlost hsettles)

/-- From an attempt on, a question is put until it is not lost or there are no more attempts. -/
theorem exists_asked (h : host.Serves ready) (hw : ready w) (limit : Value) (attempt more : Nat) :
    ∃ k, Asked host q patience attempt more w k
      (postFrom q patience limit attempt more host w).result
      (requests (postFrom q patience limit attempt more host w).events) := by
  induction more generalizing attempt w with
  | zero =>
    by_cases hlost : IsLost (host.answer (putting q patience) w).1
    · obtain ⟨failure, hanswer, hloss⟩ := hlost
      obtain ⟨said, hsaid, htry⟩ := tryPost_of_loss hanswer hloss limit attempt
        fun failure => Act.fail (.requestFailed failure)
      rw [postFrom, htry, requests_append, hsaid]
      exact ⟨0, asked_first (.lost hanswer hloss rfl)⟩
    · exact ⟨0, asked_of_not_lost h hw limit attempt 0 hlost⟩
  | succ more ih =>
    by_cases hlost : IsLost (host.answer (putting q patience) w).1
    · obtain ⟨failure, hanswer, hloss⟩ := hlost
      obtain ⟨said, hsaid, htry⟩ := tryPost_of_loss hanswer hloss limit attempt
        fun _ => Act.ask (.sleep (pauseSeconds attempt)) >>= fun _ =>
          postFrom q patience limit (attempt + 1) more
      have hposted := (h.post hw questionAddress q connectSeconds patience).2
      obtain ⟨hslept, hready⟩ := h.sleep hposted (pauseSeconds attempt)
      obtain ⟨k, hk⟩ := ih hready (attempt + 1)
      have hsleep := ask_apply (.sleep (pauseSeconds attempt)) host
        (host.answer (putting q patience) w).2
      rw [hslept] at hsleep
      rw [postFrom, htry, bind_eq_of_ok hsleep, requests_append, hsaid, requests_append]
      exact ⟨k + 1, hk.after_loss ⟨failure, hanswer, hloss⟩⟩
    · exact ⟨0, asked_of_not_lost h hw limit attempt (more + 1) hlost⟩

/-! ### The whole exchange -/

/-- What is asked of a server that is there. -/
def questioning (q : Question) (patience limit : Value) : Act σ Json := do
  let attempts ← Act.ofExcept (attemptsOf limit)
  let data ← postFrom q patience limit 1 (attempts - 1)
  Act.ofExcept (responseOf q data)

theorem generate_eq (q : Question) (patience limit : Value) :
    (generate q patience limit : Act σ Json) = isHealthy >>= fun healthy =>
      if !healthy then Act.fail (.serverUnreachable serverAddress)
      else questioning q patience limit := rfl

/-- A server that is there is asked, if the limit counts anything. -/
theorem questioning_cases (h : host.Serves ready) (hw : ready w) (q : Question)
    (patience limit : Value) :
    (∃ failure, attemptsOf limit = .error failure ∧
        questioning q patience limit host w = ⟨.error failure, [], w⟩) ∨
      ∃ n k posted asked, attemptsOf limit = .ok n ∧
        Asked host q patience 1 (n - 1) w k posted asked ∧
        (questioning q patience limit host w).result = posted >>= responseOf q ∧
        requests (questioning q patience limit host w).events = asked := by
  unfold questioning
  cases attemptsOf limit with
  | error failure => exact .inl ⟨failure, rfl, rfl⟩
  | ok n =>
    obtain ⟨k, hk⟩ : ∃ k, Asked host q patience 1 (n - 1) w k _ _ :=
      exists_asked h hw limit 1 (n - 1)
    refine .inr ⟨n, k, _, _, rfl, hk, ?_, ?_⟩ <;> rw [ofExcept_ok_bind, bind_ofExcept]

/-- What the client does, by the server's greeting and the limit that is given. -/
theorem generate_cases (h : host.Serves ready) (hw : ready w) (q : Question)
    (patience limit : Value) :
    let outcome := generate q patience limit host w
    (¬ Welcomes (host.answer greeting w).1 ∧
        outcome.result = .error (.serverUnreachable serverAddress) ∧
        requests outcome.events = [greeting]) ∨
      Welcomes (host.answer greeting w).1 ∧
        ((∃ failure, attemptsOf limit = .error failure ∧ outcome.result = .error failure) ∨
          ∃ n k posted asked, attemptsOf limit = .ok n ∧
            Asked host q patience 1 (n - 1) (host.answer greeting w).2 k posted asked ∧
            outcome.result = posted >>= responseOf q ∧
            requests outcome.events = greeting :: asked) := by
  intro outcome
  obtain ⟨healthy, events, hhealthy, hwelcomes, hgreeting⟩ := isHealthy_apply h hw
  have houtcome : outcome = _ := congrFun (congrFun (generate_eq q patience limit) host) w
  rw [bind_eq_of_ok hhealthy] at houtcome
  cases healthy with
  | false =>
    refine .inl ⟨by simpa using hwelcomes, congrArg Outcome.result houtcome, ?_⟩
    rw [houtcome, requests_append, hgreeting]
    rfl
  | true =>
    refine .inr ⟨hwelcomes.mp rfl, ?_⟩
    have hready := (h.get hw healthAddress healthSeconds).2
    rcases questioning_cases h hready q patience limit with
      ⟨failure, hlimit, hfails⟩ | ⟨n, k, posted, asked, hlimit, hasked, hresult, hrequests⟩
    · refine .inl ⟨failure, hlimit, (congrArg Outcome.result houtcome).trans ?_⟩
      exact congrArg Outcome.result hfails
    · refine .inr ⟨n, k, posted, asked, hlimit, hasked, ?_, ?_⟩
      · exact (congrArg Outcome.result houtcome).trans hresult
      · rw [houtcome, requests_append, hgreeting]
        exact congrArg (greeting :: ·) hrequests

/-- **When a question is put again.**  The server is greeted exactly once.  If it does not greet
back, nothing more is asked.  Otherwise the same question is put up to as often as it may be, at
least once, with a pause of seven tenths of a second more after each attempt but the last; it is put
again only where the connection fails or takes too long.  The answer to the last attempt decides. -/
theorem generate_retries (h : host.Serves ready) (hw : ready w) (q : Question) (patience : Value)
    (n : Int) :
    let outcome := generate q patience (.integer n) host w
    let answer := answerFrom host q patience 1 (host.answer greeting w).2
    ((¬ Welcomes (host.answer greeting w).1 ∧
        outcome.result = .error (.serverUnreachable serverAddress) ∧
        requests outcome.events = [greeting]) ∨
      Welcomes (host.answer greeting w).1 ∧
        ∃ (attempts k : Nat) (posted : Except Failure Json),
          (attempts : Int) = max 1 n ∧ k < attempts ∧
          (∀ i < k, IsLost (answer i)) ∧
          Ends (k + 1 = attempts) (answer k) posted ∧
          outcome.result = posted >>= responseOf q ∧
          requests outcome.events = greeting ::
            (List.range k).flatMap (fun i =>
              [putting q patience, .sleep (0.7 * Float.ofNat (i + 1))]) ++
            [putting q patience]) ∧
      (Failure.serverUnreachable serverAddress).isModel = true ∧
      ∀ failure, (Failure.requestFailed failure).isModel = true ∧
        (Failure.requestFailed failure).message = "Ollama request failed: " ++ failure.message ∧
        (Failure.requestFailed failure).cause? = some failure := by
  intro outcome answer
  refine ⟨?_, rfl, fun failure => ⟨rfl, rfl, rfl⟩⟩
  rcases generate_cases h hw q patience (.integer n) with
    hsilent | ⟨hwelcomes, ⟨_, hlimit, _⟩ |
      ⟨m, k, posted, asked, hlimit, hasked, hresult, hrequests⟩⟩
  · exact .inl hsilent
  · cases hlimit
  · cases hlimit
    have hwithin := hasked.within
    have hlast : k = max 1 n.toNat - 1 ↔ k + 1 = max 1 n.toNat := by omega
    refine .inr ⟨hwelcomes, max 1 n.toNat, k, posted, by omega, by omega, hasked.lost, ?_, hresult,
      ?_⟩
    · rw [← hlast]
      exact hasked.ends
    · rw [hrequests, hasked.requests]
      simp only [lostAttempt, pauseSeconds, Nat.add_comm 1, List.cons_append]

/-- A question put three times at most, to a server that answers the second time. -/
theorem generate_retries_failingServer :
    let q : Question := ⟨.text "llama3", "hi", .decimal 0.1, true⟩
    let outcome := generate q (.integer 60) (.integer 3) Rehearsal.host Rehearsal.failingServer
    let greeted := Rehearsal.host.answer greeting Rehearsal.failingServer
    let answer := answerFrom Rehearsal.host q (.integer 60) 1 greeted.2
    Rehearsal.host.Serves Rehearsal.Script.IsServed ∧ Rehearsal.failingServer.IsServed ∧
      ((¬ Welcomes greeted.1 ∧
          outcome.result = .error (.serverUnreachable serverAddress) ∧
          requests outcome.events = [greeting]) ∨
        Welcomes greeted.1 ∧
          ∃ (attempts k : Nat) (posted : Except Failure Json),
            (attempts : Int) = max 1 3 ∧ k < attempts ∧
            (∀ i < k, IsLost (answer i)) ∧
            Ends (k + 1 = attempts) (answer k) posted ∧
            outcome.result = posted >>= responseOf q ∧
            requests outcome.events = greeting ::
              (List.range k).flatMap (fun i =>
                [putting q (.integer 60), .sleep (0.7 * Float.ofNat (i + 1))]) ++
              [putting q (.integer 60)]) ∧
      (Failure.serverUnreachable serverAddress).isModel = true ∧
      ∀ failure, (Failure.requestFailed failure).isModel = true ∧
        (Failure.requestFailed failure).message = "Ollama request failed: " ++ failure.message ∧
        (Failure.requestFailed failure).cause? = some failure :=
  ⟨Rehearsal.serves_host, Rehearsal.isServed_failingServer,
    generate_retries Rehearsal.serves_host Rehearsal.isServed_failingServer _ (.integer 60) 3⟩

end Model
end PageScript
