import PageScript.Proofs.Json.Lines
import PageScript.Proofs.Text.Trim
import PageScript.Report.Notice

/-!
# The texts of the notices

What stands in a notice, character by character: the line that announces an argument
(`Announces`), the two lines with its name and its value (`Notes`), and the lines with an answer
(`Json.Rendered`).  The notices of a report are these texts.
-/

namespace PageScript

open PageScript.Text

/-! ### Announcements -/

/-- The line that announces an argument, with its name and its value, ends before the blanks. -/
inductive Announces (a : Argument) : String → Prop
  | upTo {shown line : String} {blanks : List Char} (hshown : a.value.Printed shown)
    (h : "[run] " ++ a.name ++ " " ++ shown = line ++ String.ofList blanks)
    (hblanks : ∀ c ∈ blanks, isBlank c = true)
    (hline : ∀ c ∈ line.toList.getLast?, isBlank c = false) : Announces a line

theorem announces_announcement (a : Argument) : Announces a (Report.announcement a) := by
  have hannounces {shown : String} (hshown : a.value.Printed shown) :
      Announces a (trimEnd ("[run] " ++ a.name ++ " " ++ shown)) := by
    obtain ⟨blanks, hblanks, hcut⟩ :=
      exists_blanks_trimRight ("[run] " ++ a.name ++ " " ++ shown).toList
    refine .upTo hshown ?_ hblanks fun c hc => ?_
    · rw [trimEnd, ← String.ofList_append, ← hcut, String.ofList_toList]
    · rw [trimEnd, String.toList_ofList] at hc
      exact not_isBlank_of_getLast_trimRight hc
  unfold Report.announcement
  split
  · next habsent => exact hannounces (habsent ▸ .absent)
  · next hgiven => exact hannounces (Value.printed_shown hgiven)

/-! ### Names and values -/

/-- What stands below the name of an argument: nothing where the value is absent, a text as it is,
and a flag or a number as in JSON. -/
inductive Value.Below : Value → String → Prop
  | absent : Below absent ""
  | text (s : String) : Below (text s) s
  | yes : Below (flag true) "true"
  | no : Below (flag false) "false"
  | integer (n : Int) : Below (integer n) (toString n)
  | decimal (x : Float) : Below (decimal x) (Number.Layout.data.write x)

/-- A notice of an argument has its name and its value, and for a sleep of some time the unit. -/
inductive Notes (a : Argument) : String → Prop
  | step {body : String} (h : a.name ≠ "sleep" ∨ a.value = .absent ∨ a.value = .text "")
    (hbody : a.value.Below body) : Notes a ("- " ++ a.name ++ "\n  " ++ body)
  | time {time : String} (hname : a.name = "sleep") (hgiven : a.value ≠ .absent)
    (hnonempty : a.value ≠ .text "") (htime : a.value.Printed time) :
    Notes a ("- sleep\n  " ++ time ++ "ms")

theorem noticeText_of_stepText {name body : String} {value : Json}
    (h : stepText name value = name ++ "\n  " ++ body) :
    noticeText name value = "- " ++ name ++ "\n  " ++ body := by
  rw [noticeText, h, ← String.append_assoc, ← String.append_assoc]

theorem compact_integer (n : Int) : (Json.integer n).compact = toString n := by
  rw [← Number.writeInt_eq_toString]
  exact String.ofList_toList

theorem compact_decimal (x : Float) : (Json.decimal x).compact = Number.Layout.data.write x :=
  String.ofList_toList

/-- A value stands as it is below every name but that of a sleep. -/
theorem exists_below {name : String} (hname : name ≠ "sleep") (v : Value) :
    ∃ body, v.Below body ∧ noticeText name v.toJson = "- " ++ name ++ "\n  " ++ body := by
  cases v with
  | absent => exact ⟨"", .absent, noticeText_of_stepText rfl⟩
  | text s =>
    refine ⟨s, .text s, noticeText_of_stepText ?_⟩
    simp only [Value.toJson, stepText, hname, false_and, if_false]
  | flag b =>
    have hstep : stepText name (.bool b) = name ++ "\n  " ++ (Json.bool b).compact := by
      simp only [stepText, hname, if_false]
    cases b
    · exact ⟨"false", .no, noticeText_of_stepText hstep⟩
    · exact ⟨"true", .yes, noticeText_of_stepText hstep⟩
  | integer n =>
    refine ⟨toString n, .integer n, noticeText_of_stepText ?_⟩
    simp only [Value.toJson, stepText, hname, if_false, compact_integer]
  | decimal x =>
    refine ⟨Number.Layout.data.write x, .decimal x, noticeText_of_stepText ?_⟩
    simp only [Value.toJson, stepText, hname, if_false, compact_decimal]

theorem notes_noticeText (a : Argument) : Notes a (noticeText a.name a.value.toJson) := by
  obtain ⟨name, value⟩ := a
  by_cases hname : name = "sleep"
  · subst hname
    -- A flag and a number are never left without the unit.
    have htime (hgiven : value ≠ .absent) (hnonempty : value ≠ .text "")
        (hstep : stepText "sleep" value.toJson = "sleep\n  " ++ (value.shown ++ "ms")) :
        Notes ⟨"sleep", value⟩ (noticeText "sleep" value.toJson) := by
      have hnotice := Notes.time (a := ⟨"sleep", value⟩) rfl hgiven hnonempty
        (Value.printed_shown hgiven)
      rw [noticeText_of_stepText hstep]
      rwa [String.append_assoc] at hnotice
    cases value with
    | absent => exact noticeText_of_stepText rfl ▸ .step (.inr (.inl rfl)) .absent
    | text s =>
      by_cases hs : s = ""
      · subst hs
        exact noticeText_of_stepText rfl ▸ .step (.inr (.inr rfl)) (.text "")
      · refine htime (by simp) (by simpa using hs) ?_
        simp only [Value.toJson, stepText, ne_eq, hs, not_false_eq_true, and_self, if_true]
        rfl
    | flag | integer | decimal => exact htime (by simp) (by simp) rfl
  · obtain ⟨body, hbody, hnotice⟩ := exists_below hname value
    rw [hnotice]
    exact .step (.inl hname) hbody

/-- The notice of a failure has the name with a remark, and the value as it is. -/
theorem exists_failed (a : Argument) :
    ∃ body, a.value.Below body ∧
      noticeText (a.name ++ " - Failed") a.value.toJson =
        "- " ++ a.name ++ " - Failed\n  " ++ body := by
  have hname : a.name ++ " - Failed" ≠ "sleep" := by
    intro h
    have hlength := congrArg String.length h
    rw [String.length_append] at hlength
    have hremark : a.name.length + 9 = 5 := hlength
    omega
  obtain ⟨body, hbody, hnotice⟩ := exists_below hname a.value
  have hremark : " - Failed" ++ "\n  " = " - Failed\n  " := rfl
  refine ⟨body, hbody, ?_⟩
  rw [hnotice, ← hremark, ← String.append_assoc, ← String.append_assoc]

/-! ### Answers -/

/-- What stands below the name of an answer: nothing for null, a text as it is, and anything else
in its lines. -/
inductive Json.Rendered : Json → String → Prop
  | null : Rendered null ""
  | string (s : String) : Rendered (string s) s
  | lines {v : Json} {lines : List String} (hnull : v ≠ null) (hstring : ∀ s, v ≠ string s)
    (h : Lines v lines) : Rendered v ("\n".intercalate lines)

theorem exists_rendered (answer : Json) :
    ∃ body, answer.Rendered body ∧ noticeText "answer" answer = "- answer\n  " ++ body := by
  have hlaid (hnull : answer ≠ .null) (hstring : ∀ s, answer ≠ .string s)
      (hstep : stepText "answer" answer = "answer\n  " ++ answer.indented) :
      ∃ body, answer.Rendered body ∧ noticeText "answer" answer = "- answer\n  " ++ body := by
    obtain ⟨lines, hlines, hindented⟩ := answer.exists_lines
    rw [hindented] at hstep
    exact ⟨_, .lines hnull hstring hlines, noticeText_of_stepText hstep⟩
  cases answer with
  | null => exact ⟨"", .null, noticeText_of_stepText rfl⟩
  | string s => exact ⟨s, .string s, noticeText_of_stepText rfl⟩
  | bool b => exact hlaid (by simp) (by simp) (by cases b <;> rfl)
  | integer | decimal | array | object => exact hlaid (by simp) (by simp) rfl

end PageScript
