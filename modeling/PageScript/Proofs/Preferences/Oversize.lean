import PageScript.Proofs.Number.Defined
import PageScript.Proofs.Preferences.Grammar

/-!
# Sizes without a whole part

The grammar of preferences supposes finite sizes.  This is what happens without that: an infinite
width or height has no whole part, and a sequence with one is refused with the failure of a number,
which is no failure of an argument.  The sizes are made once the names are accepted and neither flag
nor size is repeated, so the failure hides whatever is wrong with address and user agent.
-/

namespace PageScript.Preferences

open PageScript.Number

variable {v : Value} {args : List Argument} {failure : Failure}

/-! ### One size -/

/-- Bits that mean an infinite number. -/
def IsInfinite (x : Float) : Prop := ∃ negative, Binary.ofFloat x = .infinite negative

/-- A defined number is finite or has no whole part. -/
theorem isFinite_or_isInfinite {x : Float} (h : Defined x) : IsFinite x ∨ IsInfinite x := by
  cases hbits : Binary.ofFloat x with
  | undefined => exact absurd hbits h.ofFloat_ne_undefined
  | infinite negative => exact .inr ⟨negative, hbits⟩
  | finite negative m e => exact .inl ⟨negative, m, e, hbits⟩

theorem sizeOf_of_isInfinite {x : Float} (h : IsInfinite x) :
    sizeOf (.decimal x) = .error (.number .infinite) := by
  obtain ⟨negative, hbits⟩ := h
  have hwhole : (numberOr defaultSize (.decimal x)).toInt = truncate x := rfl
  rw [sizeOf, hwhole, truncate, hbits]

/-- A value that is an infinite number. -/
def Endless (v : Value) : Prop := ∃ x, v = .decimal x ∧ IsInfinite x

/-- A size is made of every value but an infinite number. -/
theorem sizeOf_cases (h : ∀ x, v = .decimal x → Defined x) :
    ¬ Endless v ∧ (∃ n, sizeOf v = .ok n) ∨
      Endless v ∧ sizeOf v = .error (.number .infinite) := by
  by_cases hv : Endless v
  · obtain ⟨x, rfl, hx⟩ := hv
    exact .inr ⟨⟨x, rfl, hx⟩, sizeOf_of_isInfinite hx⟩
  · have hfinite : ∀ x, v = .decimal x → IsFinite x := by
      intro x hx
      exact (isFinite_or_isInfinite (h x hx)).resolve_right fun hinfinite => hv ⟨x, hx, hinfinite⟩
    obtain ⟨n, hn, -⟩ := exists_sizeOf_eq hfinite
    exact .inl ⟨hv, _, hn⟩

/-! ### The place of the sizes among the rules -/

/-- The names that may not be repeated where the sizes are made. -/
def sizedNames : List String := ["headed", "viewport-width", "viewport-height", "viewport-scale"]

/-- The width and the height. -/
def sizes (args : List Argument) : Except Failure (Value × Value) := do
  let width ← sizeOf (valueIn "viewport-width" args)
  let height ← sizeOf (valueIn "viewport-height" args)
  return (width, height)

/-- The rules for an argument sequence, the sizes among them. -/
theorem ofArguments_eq_sizes (args : List Argument) :
    ofArguments args = (do
      checkNames args
      checkOnce sizedNames args
      let (width, height) ← sizes args
      checkOnce ["url"] args
      let url ← addressOf (valueIn "url" args)
      checkOnce ["user-agent"] args
      return {
        url
        userAgent := userAgentOf (valueIn "user-agent" args)
        viewport :=
          { width, height, scale := numberOr defaultScale (valueIn "viewport-scale" args) }
        headed := (valueIn "headed" args).holds }) := by
  rw [ofArguments]
  congr 1
  funext _
  simp only [valueOf_eq, sizedNames, checkOnce_cons, checkOnce_nil, unless_bind, ok_bind, sizes,
    bind_assoc, pure_bind]

/-- An infinite width or height is given, and no rule in front of the sizes is broken. -/
structure Oversized (args : List Argument) : Prop where
  known : ∀ a ∈ args, isKnownName a.name = true
  once : ∀ name ∈ sizedNames, times name args ≤ 1
  endless : Endless (valueIn "viewport-width" args) ∨ Endless (valueIn "viewport-height" args)

/-- The numbers among the values are defined. -/
def DefinedValues (args : List Argument) : Prop := ∀ a ∈ args, ∀ x, a.value = .decimal x → Defined x

theorem DefinedValues.valueIn (h : DefinedValues args) (name : String) (x : Float)
    (hx : valueIn name args = .decimal x) : Defined x := by
  obtain ⟨a, ha, -, hvalue⟩ := exists_of_valueIn hx nofun
  exact h a ha x hvalue

/-- The width is made first, but it fails like the height. -/
theorem sizes_cases (h : DefinedValues args) :
    ¬ (Endless (valueIn "viewport-width" args) ∨ Endless (valueIn "viewport-height" args)) ∧
        (∃ found, sizes args = .ok found) ∨
      (Endless (valueIn "viewport-width" args) ∨ Endless (valueIn "viewport-height" args)) ∧
        sizes args = .error (.number .infinite) := by
  unfold sizes
  rcases sizeOf_cases (h.valueIn "viewport-width") with ⟨hwidth, n, hn⟩ | ⟨hwidth, herror⟩
  · rw [hn, ok_bind]
    rcases sizeOf_cases (h.valueIn "viewport-height") with ⟨hheight, m, hm⟩ | ⟨hheight, herror⟩
    · rw [hm]
      exact .inl ⟨by simp [hwidth, hheight], (n, m), rfl⟩
    · rw [herror]
      exact .inr ⟨.inr hheight, rfl⟩
  · rw [herror]
    exact .inr ⟨.inl hwidth, rfl⟩

theorem ofArguments_of_oversized (h : DefinedValues args) (hover : Oversized args) :
    ofArguments args = .error (.number .infinite) := by
  have hsizes : sizes args = .error (.number .infinite) := by
    rcases sizes_cases h with ⟨hsmall, -⟩ | ⟨-, hsizes⟩
    · exact absurd hover.endless hsmall
    · exact hsizes
  rw [ofArguments_eq_sizes, (checkNames_eq_ok_iff args).mpr hover.known, ok_bind,
    checkOnce_eq_ok_iff.mpr hover.once, ok_bind, hsizes]
  rfl

/-- A sequence whose sizes are finite, or that breaks a rule in front of them, is accepted, or it is
refused for an argument. -/
theorem isArgument_of_ofArguments (h : DefinedValues args) (hsmall : ¬ Oversized args)
    (hargs : ofArguments args = .error failure) : failure.isArgument = true := by
  rw [ofArguments_eq_sizes] at hargs
  rcases bind_eq_error_iff.mp hargs with hnames | ⟨⟨⟩, hnames, hargs⟩
  · obtain ⟨a, -, rfl⟩ := checkNames_eq_error_iff.mp hnames
    rfl
  rcases bind_eq_error_iff.mp hargs with honce | ⟨⟨⟩, honce, hargs⟩
  · obtain ⟨name, -, rfl⟩ := checkOnce_eq_error_iff.mp honce
    rfl
  rcases sizes_cases h with ⟨-, found, hsizes⟩ | ⟨hendless, -⟩
  · rw [hsizes, ok_bind] at hargs
    rcases bind_eq_error_iff.mp hargs with hurl | ⟨⟨⟩, -, hargs⟩
    · obtain ⟨name, -, rfl⟩ := checkOnce_eq_error_iff.mp hurl
      rfl
    rcases bind_eq_error_iff.mp hargs with haddress | ⟨url, -, hargs⟩
    · obtain rfl | rfl := addressOf_eq_error haddress
      · rfl
      · rfl
    rcases bind_eq_error_iff.mp hargs with hagent | ⟨⟨⟩, -, hargs⟩
    · obtain ⟨name, -, rfl⟩ := checkOnce_eq_error_iff.mp hagent
      rfl
    · cases hargs
  · have hknown := (checkNames_eq_ok_iff args).mp hnames
    exact absurd ⟨hknown, checkOnce_eq_ok_iff.mp honce, hendless⟩ hsmall

end PageScript.Preferences
