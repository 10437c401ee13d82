import Mathlib.Data.List.Forall2
import PageScript.Proofs.MadeOf
import PageScript.Report.Publish

/-!
# Two runs side by side

Some of what a run asks for only clears up behind it or takes a picture: whether that is refused
should not matter.  `Twins` are two hosts that answer alike except for these secondary requests.
`Twins.Lockstep` says that a computation on the one and a computation on the other come to alike
results, with traces that differ in nothing else; `Twins.Abreast` says it of the traces alone.

Both are proved along the computation.  What is made of primary requests is in lockstep with itself
(`Twins.lockstep_of_madeOf`).
-/

namespace PageScript

open PageScript.Act

/-- What is asked for to clear up or to take a picture. -/
def Request.isSecondary : Request → Bool
  | .command (.screenshot _) | .command .closeContext | .command .closeBrowser | .command .stop =>
    true
  | _ => false

theorem Request.isSecondary_of_isOrdinary {r : Request} (h : r.isOrdinary = true) :
    r.isSecondary = false := by
  cases r with
  | command c => cases c <;> first | rfl | cases h
  | _ => rfl

/-! ### Traces that are alike -/

/-- How the lines begin that tell what has come of secondary requests. -/
def remarkOnsets : List String :=
  ["[run] failure screenshot: ", "[warn] could not take failure screenshot: ",
    "[warn] browser did not close cleanly: "]

namespace Event

/-- Whether an event tells what has come of a secondary request. -/
def isRemark : Event → Bool
  | .console line => remarkOnsets.any fun onset => onset.toList.isPrefixOf line.toList
  | _ => false

theorem isRemark_console {onset : String} (h : onset ∈ remarkOnsets) (rest : String) :
    (console (onset ++ rest)).isRemark = true := by
  rw [isRemark, List.any_eq_true]
  refine ⟨onset, h, ?_⟩
  rw [List.isPrefixOf_iff_prefix, String.toList_append]
  exact List.prefix_append _ _

/-- Events that are the same but for the refusal of a secondary request or for the artifacts of a
report. -/
inductive Alike : Event → Event → Prop
  | refl (e : Event) : Alike e e
  | secondary {r : Request} (h : r.isSecondary = true) (refusal refusal' : Option Failure) :
    Alike (.request r refusal) (.request r refusal')
  | closed (report : Report) (artifacts : List Report.Artifact) :
    Alike (.closed report) (.closed { report with artifacts })
  | page {report : Report} {artifacts : List Report.Artifact} {total : Float}
    {lengths : List Float} {s s' : String} (hs : report.page total lengths = .ok s)
    (hs' : Report.page { report with artifacts } total lengths = .ok s') (path : File.Path)
    (refusal : Option Failure) :
    Alike (.request (.write path s) refusal) (.request (.write path s') refusal)

end Event

/-- Traces that are alike, leaving out the remarks. -/
def Alike (events events' : List Event) : Prop :=
  List.Forall₂ Event.Alike (events.filter fun e => !e.isRemark)
    (events'.filter fun e => !e.isRemark)

theorem Alike.refl (events : List Event) : Alike events events :=
  List.forall₂_same.mpr fun e _ => .refl e

theorem Alike.append {events events' more more' : List Event} (h : Alike events events')
    (hmore : Alike more more') : Alike (events ++ more) (events' ++ more') := by
  unfold Alike
  rw [List.filter_append, List.filter_append]
  exact List.rel_append h hmore

theorem Alike.event {e e' : Event} (h : e.Alike e') (he : e.isRemark = e'.isRemark) :
    Alike [e] [e'] := by
  unfold Alike
  cases hremark : e'.isRemark with
  | true => simp [he, hremark]
  | false => simpa [he, hremark] using h

theorem Alike.append_remarks {events events' remarks remarks' : List Event}
    (h : Alike events events') (hremarks : ∀ e ∈ remarks, e.isRemark = true)
    (hremarks' : ∀ e ∈ remarks', e.isRemark = true) :
    Alike (events ++ remarks) (events' ++ remarks') := by
  have hnone {remarks : List Event} (hremarks : ∀ e ∈ remarks, e.isRemark = true) :
      remarks.filter (fun e => !e.isRemark) = [] :=
    List.filter_eq_nil_iff.mpr fun e he => by simp [hremarks e he]
  refine h.append ?_
  unfold Alike
  rw [hnone hremarks, hnone hremarks']
  exact .nil

/-- Results that are the same failure or related. -/
inductive SameResult {α β : Type} (V : α → β → Prop) : Except Failure α → Except Failure β → Prop
  | ok {a : α} {b : β} (h : V a b) : SameResult V (.ok a) (.ok b)
  | error (failure : Failure) : SameResult V (.error failure) (.error failure)

theorem SameResult.mono {α β : Type} {V W : α → β → Prop} {result : Except Failure α}
    {result' : Except Failure β} (h : SameResult V result result') (hVW : ∀ a b, V a b → W a b) :
    SameResult W result result' := by
  cases h with
  | ok hab => exact .ok (hVW _ _ hab)
  | error failure => exact .error failure

theorem SameResult.and {α β : Type} {V : α → β → Prop} {p : α → Prop} {result : Except Failure α}
    {result' : Except Failure β} (h : SameResult V result result')
    (hp : ∀ a, result = .ok a → p a) : SameResult (fun a b => V a b ∧ p a) result result' := by
  cases h with
  | ok hab => exact .ok ⟨hab, hp _ rfl⟩
  | error failure => exact .error failure

theorem SameResult.eq {α : Type} {result result' : Except Failure α}
    (h : SameResult Eq result result') : result = result' := by
  cases h with
  | ok hab => rw [hab]
  | error failure => rfl

/-! ### Twins -/

/-- Two hosts that answer alike except for secondary requests. -/
structure Twins (σ : Type) where
  host : Host σ
  twin : Host σ
  /-- The states in which the two are alike. -/
  alike : σ → σ → Prop
  now {w w' : σ} (h : alike w w') :
    (host.now w).1 = (twin.now w').1 ∧ alike (host.now w).2 (twin.now w').2
  address {w w' : σ} (h : alike w w') : host.address w = twin.address w'
  wording : host.wording = twin.wording
  answer {r : Request} {w w' : σ} (hr : r.isSecondary = false) (h : alike w w') :
    (host.answer r w).1 = (twin.answer r w').1
  /-- Secondary requests may be refused or not, but lead to no other difference. -/
  world {w w' : σ} (r : Request) (h : alike w w') :
    alike (host.answer r w).2 (twin.answer r w').2
  /-- Whether the page of a report can be written does not depend on what it says. -/
  page {w w' : σ} (directory : File.Path) (s s' : String) (h : alike w w') :
    (host.answer (.write (directory.child Report.pageName) s) w).1 =
      (twin.answer (.write (directory.child Report.pageName) s') w').1

namespace Twins

variable {σ α β γ δ : Type} (t : Twins σ)

/-- Twins that answer alike throughout. -/
def Identical : Prop :=
  ∀ r w w', t.alike w w' → (t.host.answer r w).1 = (t.twin.answer r w').1

/-- Traces that are alike, whatever the results. -/
def Abreast (x : Act σ α) (y : Act σ β) : Prop :=
  ∀ w w', t.alike w w' → Alike (x t.host w).events (y t.twin w').events ∧
    t.alike (x t.host w).world (y t.twin w').world

/-- Related results and traces that are alike; `S` holds of the surroundings afterwards. -/
structure Match (S : σ → σ → Prop) (V : α → β → Prop) (out : Outcome σ α) (out' : Outcome σ β) :
    Prop where
  result : SameResult V out.result out'.result
  trace : Alike out.events out'.events
  world : S out.world out'.world

/-- Computations with outcomes that match. -/
def LockstepTo (S : σ → σ → Prop) (V : α → β → Prop) (x : Act σ α) (y : Act σ β) : Prop :=
  ∀ w w', t.alike w w' → Match S V (x t.host w) (y t.twin w')

/-- Computations with outcomes that match and leave the twins alike. -/
abbrev Lockstep (V : α → β → Prop) (x : Act σ α) (y : Act σ β) : Prop := t.LockstepTo t.alike V x y

/-- Computations with outcomes that match, after which the twins may differ. -/
abbrev LockstepToEnd (V : α → β → Prop) (x : Act σ α) (y : Act σ β) : Prop :=
  t.LockstepTo (fun _ _ => True) V x y

/-- Computations that are in lockstep where the first one gives a result. -/
def LockstepIfOk (V : α → β → Prop) (x : Act σ α) (y : Act σ β) : Prop :=
  ∀ w w' a, t.alike w w' → (x t.host w).result = .ok a → Match t.alike V (x t.host w) (y t.twin w')

variable {t} {S : σ → σ → Prop} {V : α → β → Prop} {W : γ → δ → Prop} {x : Act σ α} {y : Act σ β}
  {f : α → Act σ γ} {g : β → Act σ δ}

/-! ### Putting together what is in lockstep -/

theorem lockstep_pure {a : α} {b : β} (h : V a b) : t.Lockstep V (pure a) (pure b) :=
  fun _ _ hw => ⟨.ok h, .refl [], hw⟩

theorem lockstep_fail (failure : Failure) :
    t.Lockstep V (fail failure : Act σ α) (fail failure : Act σ β) :=
  fun _ _ hw => ⟨.error failure, .refl [], hw⟩

theorem lockstep_ofExcept {result : Except Failure α} {result' : Except Failure β}
    (h : SameResult V result result') : t.Lockstep V (ofExcept result) (ofExcept result') := by
  cases h with
  | ok hab => exact lockstep_pure hab
  | error failure => exact lockstep_fail failure

theorem lockstep_emit {e e' : Event} (h : e.Alike e') (he : e.isRemark = e'.isRemark) :
    t.Lockstep Eq (emit e : Act σ Unit) (emit e') :=
  fun _ _ hw => ⟨.ok rfl, .event h he, hw⟩

theorem lockstep_ask {r : Request}
    (h : ∀ w w', t.alike w w' → (t.host.answer r w).1 = (t.twin.answer r w').1) :
    t.Lockstep Eq (ask r : Act σ r.Answer) (ask r) := by
  intro w w' hw
  have hanswer := h w w' hw
  have hworld := t.world r hw
  rcases hhost : t.host.answer r w with ⟨failure | a, u⟩ <;>
    rcases htwin : t.twin.answer r w' with ⟨failure' | a', u'⟩ <;>
    rw [hhost, htwin] at hanswer hworld <;> cases hanswer <;>
    simp only [Act.ask, hhost, htwin]
  · exact ⟨.error failure, .refl _, hworld⟩
  · exact ⟨.ok rfl, .refl _, hworld⟩

theorem Match.bind {R : σ → σ → Prop} {w w' : σ} (hx : Match R V (x t.host w) (y t.twin w'))
    (hf : ∀ a b, (x t.host w).result = .ok a → V a b →
      Match S W (f a t.host (x t.host w).world) (g b t.twin (y t.twin w').world))
    (hRS : ∀ w w', R w w' → S w w') :
    Match S W ((x >>= f) t.host w) ((y >>= g) t.twin w') := by
  obtain ⟨hresult, htrace, hworld⟩ := hx
  rcases hhost : x t.host w with ⟨failure | a, events, u⟩ <;>
    rcases htwin : y t.twin w' with ⟨failure' | b, events', u'⟩ <;>
    rw [hhost, htwin] at hresult htrace hworld hf <;> cases hresult
  · rw [bind_eq_of_error hhost, bind_eq_of_error htwin]
    exact ⟨.error failure, htrace, hRS _ _ hworld⟩
  · next hab =>
    rw [bind_eq_of_ok hhost, bind_eq_of_ok htwin]
    obtain ⟨hresult, hmore, hworld⟩ := hf a b rfl hab
    exact ⟨hresult, htrace.append hmore, hworld⟩

theorem Match.attempt {out : Outcome σ α} {out' : Outcome σ β} (h : Match S V out out') :
    Match S (SameResult V) (⟨.ok out.result, out.events, out.world⟩ : Outcome σ (Except Failure α))
      ⟨.ok out'.result, out'.events, out'.world⟩ :=
  ⟨.ok h.result, h.trace, h.world⟩

theorem Lockstep.bind (hx : t.Lockstep V x y) (hf : ∀ a b, V a b → t.Lockstep W (f a) (g b)) :
    t.Lockstep W (x >>= f) (y >>= g) :=
  fun w w' hw => (hx w w' hw).bind (fun a b _ hab => hf a b hab _ _ (hx w w' hw).world)
    fun _ _ hw => hw

theorem Lockstep.bindToEnd (hx : t.Lockstep V x y)
    (hf : ∀ a b, V a b → t.LockstepToEnd W (f a) (g b)) : t.LockstepToEnd W (x >>= f) (y >>= g) :=
  fun w w' hw => (hx w w' hw).bind (fun a b _ hab => hf a b hab _ _ (hx w w' hw).world)
    fun _ _ _ => trivial

theorem Lockstep.attempt (h : t.Lockstep V x y) : t.Lockstep (SameResult V) x.attempt y.attempt :=
  fun w w' hw => (h w w' hw).attempt

theorem Lockstep.rescue {y : Act σ β} {p : Failure → Bool} {handler : Failure → Act σ α}
    {handler' : Failure → Act σ β} (h : t.Lockstep V x y)
    (hhandler : ∀ failure, t.Lockstep V (handler failure) (handler' failure)) :
    t.Lockstep V (x.rescue p handler) (y.rescue p handler') := by
  refine h.attempt.bind fun result result' hresult => ?_
  cases hresult with
  | ok hab => exact lockstep_pure hab
  | error failure =>
    dsimp only
    split
    · exact hhandler failure
    · exact lockstep_fail failure

/-- A computation beside itself comes to what it can give. -/
theorem Lockstep.canGive (h : t.Lockstep Eq x x) :
    t.Lockstep (fun a b => a = b ∧ CanGive x a) x x := by
  intro w w' hw
  obtain ⟨hresult, htrace, hworld⟩ := h w w' hw
  exact ⟨hresult.and fun a ha => ⟨t.host, w, ha⟩, htrace, hworld⟩

theorem Lockstep.ifOk (h : t.Lockstep V x y) : t.LockstepIfOk V x y :=
  fun w w' _ hw _ => h w w' hw

theorem LockstepIfOk.bind (hx : t.LockstepIfOk V x y)
    (hf : ∀ a b, V a b → t.LockstepIfOk W (f a) (g b)) :
    t.LockstepIfOk W (x >>= f) (y >>= g) := by
  intro w w' c hw hresult
  rcases hhost : x t.host w with ⟨failure | a, events, u⟩
  · rw [bind_eq_of_error hhost] at hresult
    cases hresult
  · have hmatch := hx w w' a hw (congrArg Outcome.result hhost)
    refine hmatch.bind (fun a' b ha' hab => ?_) fun _ _ hw => hw
    rw [bind_eq_of_ok hhost] at hresult
    rw [hhost] at ha'
    cases ha'
    refine hf a b hab _ _ c hmatch.world ?_
    rw [hhost]
    exact hresult

theorem lockstepIfOk_of_fails (h : ∀ w a, (x t.host w).result ≠ .ok a) : t.LockstepIfOk V x y :=
  fun w _ a _ hresult => absurd hresult (h w a)

theorem Lockstep.abreast (h : t.Lockstep V x y) : t.Abreast x y :=
  fun w w' hw => ⟨(h w w' hw).trace, (h w w' hw).world⟩

/-- Computations that are abreast and always give related results are in lockstep. -/
theorem Abreast.lockstep (h : t.Abreast x y)
    (hresult : ∀ w w', SameResult V (x t.host w).result (y t.twin w').result) :
    t.Lockstep V x y :=
  fun w w' hw => ⟨hresult w w', (h w w' hw).1, (h w w' hw).2⟩

/-- What is made of requests with the same answers is in lockstep with itself. -/
theorem compositional_lockstep {P : Request → Prop}
    (hP : ∀ r, P r → ∀ w w', t.alike w w' → (t.host.answer r w).1 = (t.twin.answer r w').1) :
    Compositional P fun {α} (x : Act σ α) => t.Lockstep Eq x x where
  pure _ := lockstep_pure rfl
  fail := lockstep_fail
  emit _ := lockstep_emit (.refl _) rfl
  ask h := lockstep_ask (hP _ h)
  now := fun _ _ hw => ⟨.ok (t.now hw).1, .refl [], (t.now hw).2⟩
  address := fun _ _ hw => ⟨.ok (t.address hw), .refl [], hw⟩
  complaint schema data := fun _ _ hw =>
    ⟨.ok (congrFun (congrFun t.wording schema) data), .refl [], hw⟩
  attempt h := by
    intro w w' hw
    obtain ⟨hresult, htrace, hworld⟩ := h w w' hw
    exact ⟨.ok hresult.eq, htrace, hworld⟩
  bind_of_canGive hx hf := hx.canGive.bind fun a b hab => by
    obtain ⟨rfl, ha⟩ := hab
    exact hf a ha

theorem lockstep_of_madeOf (h : MadeOf (fun r => r.isSecondary = false) x) : t.Lockstep Eq x x :=
  h.holds (compositional_lockstep fun _ hr _ _ => t.answer hr)

/-! ### Putting together what is abreast -/

theorem abreast_secondary {r : Request} (h : r.isSecondary = true) :
    t.Abreast (ask r : Act σ r.Answer) (ask r) := by
  intro w w' hw
  have hworld := t.world r hw
  have hrequest (refusal refusal' : Option Failure) :
      PageScript.Alike [.request r refusal] [.request r refusal'] :=
    .event (.secondary h refusal refusal') rfl
  rcases hhost : t.host.answer r w with ⟨failure | a, u⟩ <;>
    rcases htwin : t.twin.answer r w' with ⟨failure' | a', u'⟩ <;>
    rw [hhost, htwin] at hworld <;>
    simp only [Act.ask, hhost, htwin] <;>
    exact ⟨hrequest _ _, hworld⟩

theorem Abreast.attempt_bind {f : Except Failure α → Act σ γ} {g : Except Failure β → Act σ δ}
    (hx : t.Abreast x y) (hf : ∀ result result', t.Abreast (f result) (g result')) :
    t.Abreast (x.attempt >>= f) (y.attempt >>= g) := by
  intro w w' hw
  obtain ⟨htrace, hworld⟩ := hx w w' hw
  obtain ⟨hmore, hworld⟩ := hf (x t.host w).result (y t.twin w').result _ _ hworld
  exact ⟨htrace.append hmore, hworld⟩

theorem Lockstep.bind_abreast (hx : t.Lockstep V x y)
    (hf : ∀ a b, V a b → t.Abreast (f a) (g b)) : t.Abreast (x >>= f) (y >>= g) := by
  intro w w' hw
  obtain ⟨hresult, htrace, hworld⟩ := hx w w' hw
  rcases hhost : x t.host w with ⟨failure | a, events, u⟩ <;>
    rcases htwin : y t.twin w' with ⟨failure' | b, events', u'⟩ <;>
    rw [hhost, htwin] at hresult htrace hworld <;> cases hresult
  · rw [bind_eq_of_error hhost, bind_eq_of_error htwin]
    exact ⟨htrace, hworld⟩
  · next hab =>
    rw [bind_eq_of_ok hhost, bind_eq_of_ok htwin]
    obtain ⟨hmore, hworld⟩ := hf a b hab u u' hworld
    exact ⟨htrace.append hmore, hworld⟩

/-- A computation that does nothing but make remarks. -/
def Remarks (x : Act σ α) : Prop :=
  ∀ host w, (x host w).world = w ∧ ∀ e ∈ (x host w).events, e.isRemark = true

theorem remarks_ofExcept (result : Except Failure α) : Remarks (ofExcept result : Act σ α) := by
  have hnil : ∀ e ∈ ([] : List Event), e.isRemark = true := by simp
  cases result with
  | ok a => exact fun _ _ => ⟨rfl, hnil⟩
  | error failure => exact fun _ _ => ⟨rfl, hnil⟩

theorem remarks_say {onset : String} (h : onset ∈ remarkOnsets) (rest : String) :
    Remarks (say (onset ++ rest) : Act σ Unit) := by
  refine fun host w => ⟨rfl, fun e he => ?_⟩
  have he : e = .console (onset ++ rest ++ "\n") := List.mem_singleton.mp he
  rw [he, String.append_assoc]
  exact Event.isRemark_console h _

theorem Remarks.bind (hx : Remarks x) (hf : ∀ a, Remarks (f a)) : Remarks (x >>= f) := by
  intro host w
  obtain ⟨hworld, hevents⟩ := hx host w
  rcases hhost : x host w with ⟨failure | a, events, u⟩ <;> rw [hhost] at hworld hevents
  · rw [bind_eq_of_error hhost]
    exact ⟨hworld, hevents⟩
  · rw [bind_eq_of_ok hhost]
    refine ⟨(hf a host u).1.trans hworld, fun e he => ?_⟩
    rcases List.mem_append.mp he with he | he
    · exact hevents e he
    · exact (hf a host u).2 e he

theorem Abreast.bind_remarks (hx : t.Abreast x y) (hf : ∀ a, Remarks (f a))
    (hg : ∀ b, Remarks (g b)) : t.Abreast (x >>= f) (y >>= g) := by
  -- Where a computation stops, nothing is said, which is a remark too.
  have hbind {ε ζ : Type} {z : Act σ ε} {k : ε → Act σ ζ} (hk : ∀ a, Remarks (k a))
      (host : Host σ) (w : σ) : ∃ remarks, (∀ e ∈ remarks, e.isRemark = true) ∧
        ((z >>= k) host w).events = (z host w).events ++ remarks ∧
        ((z >>= k) host w).world = (z host w).world := by
    rcases hz : z host w with ⟨failure | a, events, u⟩
    · exact ⟨[], by simp, by rw [bind_eq_of_error hz]; simp⟩
    · refine ⟨(k a host u).events, (hk a host u).2, ?_⟩
      rw [bind_eq_of_ok hz]
      exact ⟨rfl, (hk a host u).1⟩
  intro w w' hw
  obtain ⟨htrace, hworld⟩ := hx w w' hw
  obtain ⟨remarks, hremarks, hevents, hleft⟩ := hbind hf t.host w (z := x)
  obtain ⟨remarks', hremarks', hevents', hleft'⟩ := hbind hg t.twin w' (z := y)
  rw [hevents, hevents', hleft, hleft']
  exact ⟨htrace.append_remarks hremarks hremarks', hworld⟩

theorem Abreast.finally_ {cleanup : Act σ Unit} (hx : t.Abreast x x)
    (hcleanup : t.Abreast cleanup cleanup) :
    t.Abreast (x.finally_ cleanup) (x.finally_ cleanup) :=
  hx.attempt_bind fun result result' =>
    hcleanup.bind_remarks (fun _ => remarks_ofExcept result) fun _ => remarks_ofExcept result'

end Twins
end PageScript
