import PageScript.Proofs.CommandLine.Rejection
import PageScript.Proofs.Preferences.Oversize
import PageScript.Proofs.Run.Stages
import PageScript.Rehearsal

/-!
# Bad command lines are told

A command line that is read gives preferences, or a failure of an argument, which a run tells before
it ends with exit code one.  The exception is an infinite width or height: a decimal text can be
read as one, and the failure that follows is none of an argument, so that the run does not tell it.
-/

namespace PageScript

open PageScript.Number

/-! ### The numbers of a command line -/

/-- A raw text is read as a defined number, if it is read as a number with places. -/
theorem Value.defined_of_ofRaw {raw : String} {x : Float} (h : ofRaw raw = .ok (.decimal x)) :
    Defined x := by
  obtain ⟨found, htrimmed, hvalue⟩ := map_eq_ok_iff.mp h
  cases found with
  | none => cases hvalue
  | some v =>
    obtain rfl : v = .decimal x := hvalue
    unfold ofTrimmed? at htrimmed
    dsimp only at htrimmed
    split at htrimmed
    · cases htrimmed
    · split at htrimmed
      · cases htrimmed
      · split at htrimmed
        · obtain ⟨n, -, hn⟩ := map_eq_ok_iff.mp htrimmed
          cases hn
        · obtain ⟨d, -, hd⟩ := Option.map_eq_some_iff.mp (Except.ok.inj htrimmed)
          cases hd
          exact d.defined_toFloat

/-- Before its raw value is read, an argument has no number. -/
def Argument.IsRaw (a : Argument) : Prop := a.value.isNumber = false

theorem Argument.IsRaw.defined {a b : Argument} (ha : a.IsRaw) (h : a.coerced = .ok b) {x : Float}
    (hx : b.value = .decimal x) : Defined x := by
  obtain ⟨v, hv, rfl⟩ := map_eq_ok_iff.mp h
  obtain rfl : v = .decimal x := hx
  unfold IsRaw at ha
  cases hvalue : a.value with
  | text raw =>
    rw [hvalue] at hv
    exact Value.defined_of_ofRaw hv
  | integer | decimal =>
    rw [hvalue] at ha
    cases ha
  | absent | flag =>
    rw [hvalue] at hv
    cases hv

namespace CommandLine

theorem isRaw_aloneValue (name : String) : Argument.IsRaw ⟨name, aloneValue name⟩ := by
  unfold aloneValue
  split <;> rfl

theorem isRaw_gluedValue (name raw : String) : Argument.IsRaw ⟨name, gluedValue name raw⟩ := by
  by_cases h : raw = "--"
  · rw [gluedValue, if_pos h]
    exact isRaw_aloneValue name
  · rw [gluedValue, if_neg h]
    rfl

theorem isRaw_of_mem_known {argv : List String} {a : Argument} (h : a ∈ (scan argv).known) :
    a.IsRaw := by
  fun_induction scan argv with
  | case1 | case2 => cases h
  | case3 text hdashes name hspelled =>
    cases List.mem_singleton.mp h
    exact isRaw_aloneValue name
  | case4 text hdashes name hspelled next more hvalue ih =>
    rcases List.mem_cons.mp h with rfl | h
    · rfl
    · exact ih h
  | case5 text hdashes name hspelled next more hvalue ih =>
    rcases List.mem_cons.mp h with rfl | h
    · exact isRaw_aloneValue name
    · exact ih h
  | case6 text rest hdashes hspelled name raw hglued ih =>
    rcases List.mem_cons.mp h with rfl | h
    · exact isRaw_gluedValue name raw
    · exact ih h
  | case7 text rest hdashes hspelled hglued ih => exact ih h

theorem isRaw_of_mem_rawLeftovers {texts : List String} {a : Argument}
    (h : a ∈ rawLeftovers texts) : a.IsRaw := by
  fun_induction rawLeftovers texts with
  | case1 => cases h
  | case4 =>
    cases List.mem_singleton.mp h
    rfl
  | case2 _ _ _ ih | case3 _ _ _ _ _ _ _ ih | case5 _ _ _ _ _ _ _ ih | case6 _ _ _ _ _ _ _ ih =>
    rcases List.mem_cons.mp h with rfl | h
    · rfl
    · exact ih h

/-- What is read from a command line holds no undefined number. -/
theorem definedValues_of_read {argv : List String} {args : List Argument}
    (h : read argv = .ok args) : Preferences.DefinedValues args := by
  obtain ⟨-, known, kept, hknown, hkept, rfl⟩ := read_eq_ok_iff.mp h
  intro b hb x hx
  rcases List.mem_append.mp hb with hb | hb
  · obtain ⟨a, ha, hcoerced⟩ := exists_of_mapM_eq_ok hknown hb
    exact (isRaw_of_mem_known ha).defined hcoerced hx
  · obtain ⟨a, ha, hcoerced⟩ := exists_of_mapM_eq_ok hkept hb
    exact (isRaw_of_mem_rawLeftovers ha).defined hcoerced hx

end CommandLine

namespace Run

open Preferences (Oversized)

variable {σ : Type}

/-- Preferences, or a failure of an argument. -/
def IsSettled (result : Except Failure Preferences) : Prop :=
  (∃ p, result = .ok p) ∨ ∃ failure, result = .error failure ∧ failure.isArgument = true

theorem not_isSettled_number (issue : Issue) : ¬ IsSettled (.error (.number issue)) := by
  rintro (⟨p, hp⟩ | ⟨failure, hfailure, hargument⟩)
  · cases hp
  · cases hfailure
    cases hargument

/-- **Bad command lines are told, unless a size is infinite.**  The arguments that are read from a
command line give preferences or a failure of an argument if and only if they are not oversized.
The run then tells the failure and ends with exit code one, without doing anything else.  Of
oversized arguments it tells nothing, and it has no exit code. -/
theorem run_refusal_iff {argv : List String} {args : List Argument}
    (h : CommandLine.read argv = .ok args) :
    (IsSettled (Preferences.ofArguments args) ↔ ¬ Oversized args) ∧
      ∀ (maker : AgentMaker σ) (o : Options) (host : Host σ) (w : σ),
        (∀ failure, Preferences.ofArguments args = .error failure → ¬ Oversized args →
          run maker args o host w =
            ⟨.ok 1, [.console ("[error] " ++ failure.message ++ "\n")], w⟩) ∧
        (Oversized args → run maker args o host w = ⟨.error (.number .infinite), [], w⟩) := by
  have hdefined := CommandLine.definedValues_of_read h
  refine ⟨⟨?_, ?_⟩, ?_⟩
  · intro hsettled hover
    rw [Preferences.ofArguments_of_oversized hdefined hover] at hsettled
    exact not_isSettled_number _ hsettled
  · intro hsmall
    cases hargs : Preferences.ofArguments args with
    | ok p => exact .inl ⟨p, rfl⟩
    | error failure =>
      exact .inr ⟨failure, rfl, Preferences.isArgument_of_ofArguments hdefined hsmall hargs⟩
  · intro maker o host w
    constructor
    · intro failure hargs hsmall
      have hargument := Preferences.isArgument_of_ofArguments hdefined hsmall hargs
      rw [run_of_refused hargs, if_pos hargument]
    · intro hover
      rw [run_of_refused (Preferences.ofArguments_of_oversized hdefined hover)]
      rfl

/-- A width alone gives no preferences, and the run says so. -/
theorem run_refusal_of_width :
    let args : List Argument := [⟨"viewport-width", .decimal 9.5⟩]
    CommandLine.read ["--viewport-width", "9.5"] = .ok args ∧ ¬ Oversized args ∧
      run pageAgent args {} Rehearsal.host {} =
        ⟨.ok 1, [.console ("[error] " ++ (Failure.urlRequired .absent).message ++ "\n")], {}⟩ := by
  intro args
  have hread : CommandLine.read ["--viewport-width", "9.5"] = .ok args := rfl
  have hargs : Preferences.ofArguments args = .error (.urlRequired .absent) := rfl
  obtain ⟨hsettled, hrun⟩ := run_refusal_iff (σ := Rehearsal.Script) hread
  have hsmall : ¬ Oversized args := hsettled.mp (.inr ⟨_, hargs, rfl⟩)
  exact ⟨hread, hsmall, (hrun pageAgent {} Rehearsal.host {}).1 _ hargs hsmall⟩

/-- An address that is fine, and a width beyond the range of numbers. -/
theorem not_isSettled_of_infinite_width :
    let args : List Argument := [⟨"url", .text "x"⟩, ⟨"viewport-width", .decimal (1.0 / 0.0)⟩]
    CommandLine.read ["--url", "x", "--viewport-width", "1e999"] = .ok args ∧
      Preferences.ofArguments args = .error (.number .infinite) ∧
      ¬ IsSettled (Preferences.ofArguments args) := by
  intro args
  have hargs : Preferences.ofArguments args = .error (.number .infinite) := rfl
  refine ⟨rfl, hargs, ?_⟩
  rw [hargs]
  exact not_isSettled_number _

end Run
end PageScript
