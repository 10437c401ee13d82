import PageScript.Page.Perception
import PageScript.Proofs.Act
import PageScript.Proofs.Except
import PageScript.Proofs.Json.Printing
import PageScript.Proofs.Schema.Stability
import PageScript.Rehearsal

/-!
# Observations in a prompt

A model is shown an observation as a text.  Whatever the page holds, and whichever of its readings
have failed, the text says all there is to the observation: it is read as data, and the check makes
the same observation of the data (`perceive_survives_prompt`).

Only the flags could stand in the way, as they are any fields; those of an observation of a page are
one truth value.
-/

namespace PageScript

open PageScript.Act PageScript.Json PageScript.Schema

namespace Schema

theorem legible_ofText? (s : Option String) : Legible (ofText? s) := by
  cases s with
  | none => exact .null
  | some s => exact .string s

theorem legible_dump {fields : Json.Fields} (hnames : (fields.map Prod.fst).Nodup)
    (hvalues : ∀ field ∈ fields, Legible field.2) (sparse : Bool) :
    Legible (dump sparse fields) := by
  refine .object (nodup_written hnames sparse) fun field hfield => ?_
  exact hvalues field (mem_written.mp hfield).1

end Schema

namespace Page

theorem Element.legible_dump (sparse : Bool) (e : Element) : Legible (e.dump sparse) :=
  Schema.legible_dump (by simp) (by simp [legible_ofText?]) sparse

theorem Observation.legible_dump {o : Observation} (h : Legible (.object o.flags))
    (sparse : Bool) : Legible (o.dump sparse) := by
  have htexts : Legible (.array (o.texts.map .string)) := .array (by simp [Legible.string])
  have helements (es : List Element) : Legible (.array (es.map (·.dump sparse))) :=
    .array (by simp [Element.legible_dump])
  refine Schema.legible_dump (by simp) ?_ sparse
  simp [Legible.string, legible_ofText?, htexts, helements, h]

theorem Observation.check_read_prompt {o : Observation} (h : Legible (.object o.flags)) :
    ∃ data, Json.read o.prompt = .ok data ∧ Observation.check data = .ok o :=
  ⟨o.dump true, read_write regular_compact (o.legible_dump h true), o.check_dump true⟩

variable {σ : Type} {host : Host σ} {w : σ} {o : Observation}

/-- The flags of an observation say whether there is a dialog, and nothing else. -/
theorem exists_flags_of_perceive (h : (perceive host w).result = .ok o) :
    ∃ dialog, o.flags = [("modal_open", .bool dialog)] := by
  obtain ⟨title, w₁, -, h⟩ := exists_of_bind_result h
  obtain ⟨dialog, w₂, -, h⟩ := exists_of_bind_result h
  obtain ⟨texts, w₃, -, h⟩ := exists_of_bind_result h
  obtain ⟨url, w₄, -, h⟩ := exists_of_bind_result h
  obtain ⟨buttons, w₅, -, h⟩ := exists_of_bind_result h
  obtain ⟨inputs, w₆, -, h⟩ := exists_of_bind_result h
  cases h
  exact ⟨dialog, rfl⟩

/-- An observation of a page comes back from its text as it was. -/
theorem perceive_survives_prompt (h : (perceive host w).result = .ok o) :
    ∃ data, Json.read o.prompt = .ok data ∧ Observation.check data = .ok o := by
  obtain ⟨dialog, hflags⟩ := exists_flags_of_perceive h
  apply Observation.check_read_prompt
  rw [hflags]
  exact .object (by simp) (by simp [Legible.bool])

/-- A page whose title cannot be read, with marks in its texts and an attribute that is empty. -/
theorem perceive_survives_prompt_of_marks :
    let button : Rehearsal.Element := ⟨"", [("id", some ""), ("name", some "\\\"\u2028é𝔸")]⟩
    let script : Rehearsal.Script := {
      page := { texts := [("body", "say \"no\"\n\x7b\x7d\x01\n\n\tx")]
                elements := [(buttonLocator.text, [button])] }
      rules := [⟨"title", .browser false "closed", 0, none⟩] }
    ∃ o, (perceive Rehearsal.host script).result = .ok o ∧
      o.title = none ∧ o.texts = ["say \"no\"", "\x7b\x7d\x01"] ∧
      o.buttons = [{ role := some "button", id := some "", name := some "\\\"\u2028é𝔸"
                     hint := some "[name='\\\"\u2028é𝔸']" }] ∧
      ∃ data, Json.read o.prompt = .ok data ∧ Observation.check data = .ok o := by
  intro button script
  have hseen : ((perceive Rehearsal.host script).result.toOption.map
      fun o => (o.title, o.texts, o.buttons)) = some (none, ["say \"no\"", "\x7b\x7d\x01"],
        [{ role := some "button", id := some "", name := some "\\\"\u2028é𝔸"
           hint := some "[name='\\\"\u2028é𝔸']" }]) := by
    decide +kernel
  obtain ⟨o, hperceive, hfields⟩ := toOption_map_eq_some_iff.mp hseen
  simp only [Prod.mk.injEq] at hfields
  obtain ⟨htitle, htexts, hbuttons⟩ := hfields
  exact ⟨o, hperceive, htitle, htexts, hbuttons, perceive_survives_prompt hperceive⟩

end Page
end PageScript
