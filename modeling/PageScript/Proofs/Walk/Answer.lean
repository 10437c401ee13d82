import PageScript.Proofs.Agent.Conduct
import PageScript.Proofs.File.Save
import PageScript.Proofs.Json.Lexemes
import PageScript.Proofs.Walk.Log
import PageScript.Rehearsal
import PageScript.Walk.Answer

/-!
# Surroundings with files

`Host.HasFiles host files` says that a tree of files is part of the surroundings: directories are
made and texts written in it, and neither the clock nor reading the page touches it.  There an
answer that is saved becomes the text of a file (`saveAnswer_of_creatable`).
-/

namespace PageScript

open PageScript.Act

variable {σ α : Type}

/-! ### Answers with a written form -/

namespace Json

/-- A value that holds an integer of more than 4300 digits. -/
inductive HoldsLongInteger : Json → Prop
  | integer {n : Int} (h : 4300 < (Nat.toDigits 10 n.natAbs).length) : HoldsLongInteger (integer n)
  | item {items : List Json} {v : Json} (hv : v ∈ items) (h : HoldsLongInteger v) :
    HoldsLongInteger (array items)
  | field {fields : Fields} {name : String} {v : Json} (hv : (name, v) ∈ fields)
    (h : HoldsLongInteger v) : HoldsLongInteger (object fields)

theorem overlongItem_iff (items : List Json) :
    overlongItem items = true ↔ ∃ v ∈ items, v.overlong = true := by
  induction items with
  | nil => simp [overlongItem]
  | cons v items ih => simp [overlongItem, ih]

theorem overlongField_iff (fields : Fields) :
    overlongField fields = true ↔ ∃ field ∈ fields, field.2.overlong = true := by
  induction fields with
  | nil => simp [overlongField]
  | cons field fields ih => simp [overlongField, ih]

theorem HoldsLongInteger.overlong {v : Json} (h : v.HoldsLongInteger) : v.overlong = true := by
  induction h with
  | integer h => exact decide_eq_true h
  | item hv _ ih =>
    rw [Json.overlong]
    exact (overlongItem_iff _).mpr ⟨_, hv, ih⟩
  | field hv _ ih =>
    rw [Json.overlong]
    exact (overlongField_iff _).mpr ⟨_, hv, ih⟩

theorem holdsLongInteger_of_overlong {v : Json} (h : v.overlong = true) : v.HoldsLongInteger := by
  induction v using Json.ind with
  | integer n => exact .integer (of_decide_eq_true h)
  | array items ih =>
    rw [Json.overlong] at h
    obtain ⟨v, hv, h⟩ := (overlongItem_iff items).mp h
    exact .item hv (ih v hv h)
  | object fields ih =>
    rw [Json.overlong] at h
    obtain ⟨field, hfield, h⟩ := (overlongField_iff fields).mp h
    exact .field hfield (ih field hfield h)
  | null | bool | decimal | string => simp [Json.overlong] at h

/-- A value that outlives being written has no such integer. -/
theorem Legible.not_overlong {v : Json} (h : Legible v) : v.overlong = false := by
  induction h with
  | integer h => simpa [Json.overlong] using h
  | array _ ih =>
    rw [Json.overlong, ← Bool.not_eq_true, overlongItem_iff]
    rintro ⟨v, hv, hlong⟩
    simp [ih v hv] at hlong
  | object _ _ ih =>
    rw [Json.overlong, ← Bool.not_eq_true, overlongField_iff]
    rintro ⟨field, hfield, hlong⟩
    simp [ih field hfield] at hlong
  | null | bool | decimal | string => simp [Json.overlong]

end Json

/-- An answer is refused if it holds an integer that is too long, and only then. -/
theorem answerRefusal_eq_none_iff (answer : Json) :
    answerRefusal answer = none ↔ ¬ answer.HoldsLongInteger := by
  have hiff : answer.overlong = true ↔ answer.HoldsLongInteger :=
    ⟨Json.holdsLongInteger_of_overlong, Json.HoldsLongInteger.overlong⟩
  rw [← hiff, answerRefusal]
  split
  · next h => simp [h]
  · next h => simp [h]

/-! ### Files -/

/-- Surroundings with a tree of files. -/
structure Host.HasFiles (host : Host σ) (files : σ → File.Tree) : Prop where
  now (w : σ) : files (host.now w).2 = files w
  reading {r : Request} (h : r.isReading = true) (w : σ) : files (host.answer r w).2 = files w
  makeDirectories (p : File.Path) (w : σ) :
    ((host.answer (.makeDirectories p) w).1, files (host.answer (.makeDirectories p) w).2) =
      (files w).makeDirectories p
  write (p : File.Path) (text : String) (w : σ) :
    ((host.answer (.write p text) w).1, files (host.answer (.write p text) w).2) =
      (files w).write p text

variable {host : Host σ} {files : σ → File.Tree}

namespace Host.HasFiles

/-- What is made of readings leaves the files alone. -/
theorem compositional (h : host.HasFiles files) :
    Compositional (·.isReading) fun {α} (x : Act σ α) => ∀ w, files (x host w).world = files w where
  pure _ _ := rfl
  fail _ _ := rfl
  emit _ _ := rfl
  ask hr w := by rw [ask_apply, h.reading hr]
  now := h.now
  address _ := rfl
  complaint _ _ _ := rfl
  attempt hx := hx
  bind_of_canGive {α β} {x} {f} hx hf w := by
    rcases hresult : x host w with ⟨failure | a, events, w'⟩
    · rw [bind_eq_of_error hresult]
      simpa [hresult] using hx w
    · rw [bind_eq_of_ok hresult, hf a ⟨host, w, by rw [hresult]⟩]
      simpa [hresult] using hx w

/-- Saving an answer is saving its written form, if it has one. -/
theorem saveAnswer_apply (h : host.HasFiles files) (path : String) (answer : Json) (w : σ) :
    ((saveAnswer path answer host w).result, files (saveAnswer path answer host w).world) =
      (files w).save (.ofString path) (answerText answer) (answerRefusal answer) := by
  have hmake := h.makeDirectories (File.Path.ofString path).parent w
  rw [saveAnswer, File.Tree.save, ← hmake]
  rcases hanswer : host.answer (.makeDirectories (File.Path.ofString path).parent) w with
    ⟨failure | ⟨⟩, w'⟩
  · rw [bind_eq_of_error (show Act.ask _ host w = ⟨.error failure, _, w'⟩ by rw [Act.ask, hanswer])]
  · rw [bind_eq_of_ok (show Act.ask _ host w = ⟨.ok (), _, w'⟩ by rw [Act.ask, hanswer])]
    dsimp only
    cases answerRefusal answer with
    | some failure => rfl
    | none =>
      dsimp only
      rw [ask_apply, h.write]

/-- An answer that is saved under a creatable path is the text of its file. -/
theorem saveAnswer_of_creatable (h : host.HasFiles files) {path : String} {w : σ}
    (hcreatable : (files w).Creatable (.ofString path)) {answer : Json}
    (hanswer : Json.Legible answer) :
    ∃ kept w', saveAnswer path answer host w = ⟨.ok (), kept, w'⟩ ∧
      (files w').textAt (.ofString path) = some (answerText answer) := by
  have hsave := h.saveAnswer_apply path answer w
  rw [answerRefusal, if_neg (by simp [hanswer.not_overlong])] at hsave
  have hresult := hcreatable.save_result (answerText answer)
  have htext := File.Tree.textAt_save hresult
  rw [← hsave] at hresult htext
  exact ⟨_, _, by rw [← hresult], htext⟩

end Host.HasFiles

namespace Rehearsal

theorem files_ruled {α : Type} (s : Script) (text : String) (answer : Except Failure α) :
    (s.ruled text answer).2.files = s.files := by
  unfold Script.ruled
  dsimp only
  split <;> rfl

/-- A rehearsal keeps its files in the tree of its script. -/
theorem hasFiles_host : Host.HasFiles Rehearsal.host Script.files where
  now s := by
    show s.now.2.files = s.files
    unfold Script.now
    split <;> rfl
  reading {r} h s := by
    cases r with
    | title => exact files_ruled s _ _
    | count l => exact files_ruled s _ _
    | innerText l => exact files_ruled s _ _
    | attributeOf l name => exact files_ruled s _ _
    | _ => cases h
  makeDirectories _ _ := rfl
  write _ _ _ := rfl

end Rehearsal
end PageScript
