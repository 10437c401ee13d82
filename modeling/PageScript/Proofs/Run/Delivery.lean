import PageScript.Proofs.Agent.Steps
import PageScript.Proofs.Model.Reply
import PageScript.Proofs.Walk.Answer
import PageScript.Proofs.Walk.Course
import PageScript.Proofs.Walk.Pairing
import PageScript.Run

/-!
# From a reply to a file

An answer goes a long way: the model replies with a text, the value in the text is an envelope, what
the envelope holds is the answer, and the answer is written to a file.  `walk_delivers` says that it
arrives unchanged: what is read from the file is what the model has said.
-/

namespace PageScript

open PageScript.Act PageScript.Json PageScript.Model

variable {σ : Type} {host : Host σ} {files : σ → File.Tree} {w : σ} {demand reply : String}
  {d : Json}

/-- An answer that is no text is read back from its written form. -/
theorem read_answerText (h : Legible d) (hd : ∀ s, d ≠ .string s) :
    Json.read (answerText d) = .ok d := by
  have hindented : answerText d = d.indented := by
    cases d with
    | string s => exact absurd rfl (hd s)
    | _ => rfl
  rw [hindented]
  exact read_write regular_indented h

/-! ### The answer to a query -/

/-- The page can be read, and the model replies to a demand without touching the files. -/
def Agent.Replies (agent : Agent σ) (host : Host σ) (files : σ → File.Tree)
    (demand reply : String) (w : σ) : Prop :=
  ∃ observation seen v replied v',
    Page.perceive host w = ⟨.ok observation, seen, v⟩ ∧
    agent.complete (queryPrompt observation.prompt demand) host v =
      ⟨.ok (.string reply), replied, v'⟩ ∧
    files v' = files v

/-- The answer to a query is what the envelope in the reply holds. -/
theorem Agent.Replies.perform_query {agent : Agent σ} (hfiles : host.HasFiles files)
    (h : agent.Replies host files demand reply w) (hd : Legible d)
    (hreply : Says (.object [("data", d)]) reply) :
    ∃ events v, agent.perform .query demand host w = ⟨.ok d, events, v⟩ ∧ files v = files w := by
  obtain ⟨observation, seen, v, replied, v', hperceive, hcomplete, hleft⟩ := h
  have henvelope : Legible (.object [("data", d)]) := .object (by simp) (by simp [hd])
  have hseen : files v = files w := by
    simpa [hperceive] using Page.madeOf_perceive.holds hfiles.compositional w
  refine ⟨seen ++ replied, v', ?_, hleft.trans hseen⟩
  have hask : agent.ask (fun page => queryPrompt page demand) host w =
      ⟨.ok (.object [("data", d)]), seen ++ replied, v'⟩ := by
    rw [Agent.ask_of_reply (fun page => queryPrompt page demand) hperceive hcomplete,
      extract_of_says henvelope hreply]
  rw [Agent.perform, Agent.query, bind_eq_of_ok hask]
  simp [answerOf, Json.get?]

/-! ### The turns -/

namespace Walk

variable {partners : Partners σ} {s : State}

theorem undertake_url (hphase : s.phase = .configuring) (url : Value) (host : Host σ) (w : σ) :
    undertake partners s ⟨"url", url⟩ host w = ⟨.ok (s.pending, .null), [], w⟩ := by
  have hadvance : s.phase.advance "url" = .ok .configuring := by
    rw [hphase]
    rfl
  rw [undertake, hadvance, ofExcept_ok_bind]
  rfl

theorem undertake_queryOutput (s : State) {path : String} (hpath : path ≠ "") (host : Host σ)
    (w : σ) :
    undertake partners s ⟨"query-output", .text path⟩ host w =
      ⟨.ok (some path, .null), [], w⟩ := by
  have htext : requireText ⟨"query-output", .text path⟩ = .ok path :=
    requireText_eq_ok_iff.mpr ⟨rfl, hpath⟩
  rw [undertake, Phase.advance_of_isActionName _ rfl, ofExcept_ok_bind, dispatch,
    ofName?_eq_setPath_iff.mpr rfl]
  dsimp only
  rw [htext, ofExcept_ok_bind]
  rfl

/-- A query with a path pending passes if there is an answer and the keeper takes it. -/
theorem undertake_query {path : String} (hpending : s.pending = some path) (hpath : path ≠ "")
    (hdemand : demand ≠ "") {events kept : List Event} {v v' : σ}
    (hagent : partners.agent .query demand host w = ⟨.ok d, events, v⟩)
    (hkeeper : partners.keeper path d host v = ⟨.ok (), kept, v'⟩) :
    undertake partners s ⟨"query", .text demand⟩ host w =
      ⟨.ok (none, d), events ++ kept, v'⟩ := by
  have htext : requireText ⟨"query", .text demand⟩ = .ok demand :=
    requireText_eq_ok_iff.mpr ⟨rfl, hdemand⟩
  have hconsult : consult partners .query demand host w = ⟨.ok d, events, v⟩ := by
    rw [consult_apply, hagent]
    rfl
  rw [undertake, Phase.advance_of_isActionName _ rfl, ofExcept_ok_bind, dispatch,
    ofName?_eq_query_iff.mpr rfl]
  dsimp only
  rw [htext, ofExcept_ok_bind, bind_eq_of_ok hconsult, hpending, keep_bind_of_some partners hpath,
    bind_eq_of_ok hkeeper]
  simp

/-- Whatever its report, a walk through a sequence ends in a state and leaves the surroundings in
another. -/
def Leads (partners : Partners σ) (host : Host σ) (s : State) (w : σ) (args : List Argument)
    (s' : State) (w' : σ) : Prop :=
  ∀ r, ∃ r' told, run partners ⟨s, r⟩ args host w = ⟨.ok ⟨s', r'⟩, told, w'⟩

theorem Leads.nil (s : State) (w : σ) : Leads partners host s w [] s.finish w :=
  fun r => ⟨r, [], rfl⟩

/-- A walk goes on from where its first argument leaves it. -/
theorem Leads.cons {s' : State} {a : Argument} {rest : List Argument} {pending : Option String}
    {answer : Json} {events : List Event} {v w' : σ}
    (h : undertake partners s a host (host.now w).2 = ⟨.ok (pending, answer), events, v⟩)
    (hrest : Leads partners host (s.complete (s.phaseAfter a.name) pending) (host.now v).2 rest
      s' w') :
    Leads partners host s w (a :: rest) s' w' := by
  intro r
  have hrun := run_cons_of_passed (t := ⟨s, a, [], events, .ok (pending, answer)⟩) h rfl rfl rest r
  obtain ⟨r', told, hafter⟩ := hrest _
  exact ⟨r', _, hrun.trans (by rw [Turn.finish, hafter])⟩

/-- The surroundings after looking at the clock a number of times. -/
def afterLooks (host : Host σ) : Nat → σ → σ
  | 0, w => w
  | n + 1, w => afterLooks host n (host.now w).2

/-- The answer to a query goes to the keeper with the path that an argument before it names.  The
agent is asked after the two looks at the clock of each turn before the query's, and one more. -/
theorem leads_query_output {path : String} (hpath : path ≠ "") (hdemand : demand ≠ "")
    {events kept : List Event} {v w' : σ}
    (hagent : partners.agent .query demand host (afterLooks host 5 w) = ⟨.ok d, events, v⟩)
    (hkeeper : partners.keeper path d host v = ⟨.ok (), kept, w'⟩) (url : Value) :
    Leads partners host {} w
      [⟨"url", url⟩, ⟨"query-output", .text path⟩, ⟨"query", .text demand⟩]
      { phase := .acting, status := .completed, completed := 3 } (host.now w').2 := by
  refine .cons (undertake_url rfl url host _) ?_
  refine .cons (undertake_queryOutput _ hpath host _) ?_
  refine .cons (undertake_query rfl hpath hdemand hagent hkeeper) ?_
  exact .nil _ _

end Walk

/-! ### The walk -/

namespace Run

theorem files_afterLooks (hfiles : host.HasFiles files) (n : Nat) (w : σ) :
    files (Walk.afterLooks host n w) = files w := by
  induction n generalizing w with
  | zero => rfl
  | succ n ih => rw [Walk.afterLooks, ih, hfiles.now]

/-- What the model says in answer to a query arrives in the file that the query is for. -/
theorem walk_delivers (hfiles : host.HasFiles files) (agent : Agent σ) (report : Report)
    (url : Value) {path : String} (hpath : path ≠ "")
    (hcreatable : (files w).Creatable (.ofString path)) (hdemand : demand ≠ "") (hd : Legible d)
    (hreply : Says (.object [("data", d)]) reply)
    (hreplies : agent.Replies host files demand reply (Walk.afterLooks host 5 w)) :
    ∃ walked events v,
      walk agent.perform report
          [⟨"url", url⟩, ⟨"query-output", .text path⟩, ⟨"query", .text demand⟩] host w =
        ⟨.ok walked, events, v⟩ ∧
      walked.state.status = .completed ∧ walked.state.exitCode = 0 ∧
      (files v).textAt (.ofString path) = some (answerText d) ∧
      (∀ s, d = .string s → answerText d = s) ∧
      ((∀ s, d ≠ .string s) → Json.read (answerText d) = .ok d) := by
  obtain ⟨events, v, hquery, hv⟩ := hreplies.perform_query hfiles hd hreply
  have hcreatable' : (files v).Creatable (.ofString path) := by
    rwa [hv, files_afterLooks hfiles]
  obtain ⟨kept, w', hkeeper, htext⟩ := hfiles.saveAnswer_of_creatable hcreatable' hd
  have hleads : Walk.Leads { agent := agent.perform, keeper := saveAnswer } host {} w _ _ _ :=
    Walk.leads_query_output hpath hdemand hquery hkeeper url
  obtain ⟨report', told, hwalk⟩ := hleads report
  refine ⟨_, told, _, hwalk, rfl, rfl, ?_, fun s hs => ?_, read_answerText hd⟩
  · rw [hfiles.now, htext]
  · rw [hs]
    rfl

/-! ### A delivery -/

open PageScript.Rehearsal

/-- An agent that asks a model from outside. -/
def askingAgent : Agent σ where
  complete prompt := do return .string (← Act.ask (.complete prompt))
  timeout := .integer 7000

/-- An answer with equal numbers of different kinds, and names out of order that need escapes. -/
def nestedAnswer : Json :=
  .object
    [("z \"\\\n\x01é𝔸",
      .array [.null, .bool true, .integer 1, .decimal 1.0, .decimal 0.1, .array [], .object []]),
     ("a", .integer (-123456789012345678901234567890)), ("", .string "null")]

/-- A fenced reply in ASCII. -/
def fencedReply : String :=
  String.ofList <| ['\n'] ++ (fence ++ ['j', 's', 'o', 'n'] ++ ['\n'] ++
    inAscii (chars .indented 0 (.object [("data", nestedAnswer)])) ++ ['\n'] ++ fence) ++ [' ']

theorem legible_nestedAnswer : Legible nestedAnswer := by
  have hitems : Legible (.array
      [.null, .bool true, .integer 1, .decimal 1.0, .decimal 0.1, .array [], .object []]) := by
    refine .array (List.forall_mem_cons.mpr ⟨.null, List.forall_mem_cons.mpr ⟨.bool true, ?_⟩⟩)
    refine List.forall_mem_cons.mpr ⟨.integer (by decide), ?_⟩
    refine List.forall_mem_cons.mpr ⟨.decimal rfl, List.forall_mem_cons.mpr ⟨.decimal rfl, ?_⟩⟩
    exact List.forall_mem_cons.mpr ⟨.array nofun, by simpa using .object (by simp) nofun⟩
  refine .object (by decide) (List.forall_mem_cons.mpr ⟨hitems, ?_⟩)
  refine List.forall_mem_cons.mpr ⟨.integer (by decide), ?_⟩
  simpa using .string "null"

theorem says_fencedReply : Says (.object [("data", nestedAnswer)]) fencedReply := by
  have henvelope : Legible (.object [("data", nestedAnswer)]) :=
    .object (by simp) (by simp [legible_nestedAnswer])
  refine says_of_printed henvelope (.ascii regular_indented) ?_
  unfold fencedReply
  rw [String.toList_ofList]
  exact .fenced (List.all_eq_true.mp rfl) (List.all_eq_true.mp rfl) (List.all_eq_true.mp rfl)
    (List.all_eq_true.mp rfl) (List.all_eq_true.mp rfl)

theorem walk_delivers_nestedAnswer :
    let script : Script := { clock := [0, 1, 2, 3, 4, 5, 6], replies := [fencedReply] }
    let report : Report := { url := none, browser := .absent, headed := false, started := 0 }
    ∃ walked events v,
      walk askingAgent.perform report
          [⟨"url", .text "https://example.com"⟩, ⟨"query-output", .text "answers/page.json"⟩,
            ⟨"query", .text "the page"⟩] Rehearsal.host script =
        ⟨.ok walked, events, v⟩ ∧
      walked.state.status = .completed ∧ walked.state.exitCode = 0 ∧
      v.files.textAt (.ofString "answers/page.json") = some (answerText nestedAnswer) ∧
      (∀ s, nestedAnswer = .string s → answerText nestedAnswer = s) ∧
      ((∀ s, nestedAnswer ≠ .string s) → Json.read (answerText nestedAnswer) = .ok nestedAnswer) :=
  walk_delivers hasFiles_host askingAgent _ _ (by decide) (by rfl) (by decide)
    legible_nestedAnswer says_fencedReply ⟨_, _, _, _, _, rfl, rfl, rfl⟩

end Run
end PageScript
