import PageScript.Preferences
import PageScript.Proofs.Except

/-!
# Why preferences are refused

Each rule for preferences has failures of its own.  So the failure of an argument sequence says
which rule it breaks: an unknown name is reported exactly if there is one, and then for the first
(`ofArguments_eq_unknownArgument_iff`).
-/

namespace PageScript.Preferences

variable {name : String} {v : Value} {args : List Argument} {failure : Failure}

/-! ### The failures of the rules -/

theorem valueOf_eq_error (h : valueOf name args = .error failure) :
    ∃ count, failure = .duplicateArgument name count := by
  simp only [valueOf, findOnly] at h
  split at h
  · cases h
  · cases h
  · cases h
    exact ⟨_, rfl⟩

theorem sizeOf_eq_error (h : sizeOf v = .error failure) : ∃ issue, failure = .number issue := by
  simp only [sizeOf] at h
  split at h
  · cases h
  · cases h
    exact ⟨_, rfl⟩

theorem addressOf_eq_error (h : addressOf v = .error failure) :
    failure = .urlRequired v ∨ failure = .wrongType "url" "string" v := by
  simp only [addressOf] at h
  split at h
  · split at h
    · cases h
    · cases h
      exact .inr rfl
  · cases h
    exact .inl rfl

/-- The names are checked up to the first that means nothing. -/
theorem checkNames_eq (args : List Argument) :
    checkNames args =
      match args.find? (fun a => !isKnownName a.name) with
      | some a => .error (.unknownArgument a.name a.value)
      | none => .ok () := by
  induction args with
  | nil => rfl
  | cons a args ih =>
    rw [checkNames, List.find?_cons]
    cases h : isKnownName a.name with
    | true => exact ih
    | false => rfl

/-! ### The failure of a sequence -/

/-- The failures that are left once the names are accepted. -/
inductive IsLater : Failure → Prop
  | duplicate (name : String) (count : Nat) : IsLater (.duplicateArgument name count)
  | number (issue : Number.Issue) : IsLater (.number issue)
  | missing (v : Value) : IsLater (.urlRequired v)
  | notText (v : Value) : IsLater (.wrongType "url" "string" v)

theorem isLater_of_valueOf (h : valueOf name args = .error failure) : IsLater failure := by
  obtain ⟨count, rfl⟩ := valueOf_eq_error h
  exact .duplicate name count

theorem isLater_of_sizeOf (h : sizeOf v = .error failure) : IsLater failure := by
  obtain ⟨issue, rfl⟩ := sizeOf_eq_error h
  exact .number issue

theorem isLater_of_addressOf (h : addressOf v = .error failure) : IsLater failure := by
  obtain rfl | rfl := addressOf_eq_error h
  · exact .missing v
  · exact .notText v

theorem isLater_of_ofArguments (hnames : checkNames args = .ok ())
    (h : ofArguments args = .error failure) : IsLater failure := by
  simp only [ofArguments, hnames, bind_eq_error_iff] at h
  -- one alternative for each rule, in the order in which they are looked at
  obtain h | ⟨_, _, h⟩ := h
  · cases h
  obtain h | ⟨_, _, h⟩ := h
  · exact isLater_of_valueOf h
  obtain h | ⟨_, _, h⟩ := h
  · exact isLater_of_valueOf h
  obtain h | ⟨_, _, h⟩ := h
  · exact isLater_of_valueOf h
  obtain h | ⟨_, _, h⟩ := h
  · exact isLater_of_valueOf h
  obtain h | ⟨_, _, h⟩ := h
  · exact isLater_of_sizeOf h
  obtain h | ⟨_, _, h⟩ := h
  · exact isLater_of_sizeOf h
  obtain h | ⟨_, _, h⟩ := h
  · exact isLater_of_valueOf h
  obtain h | ⟨_, _, h⟩ := h
  · exact isLater_of_addressOf h
  obtain h | ⟨_, _, h⟩ := h
  · exact isLater_of_valueOf h
  · cases h

/-- **Unknown names come first.**  A sequence is refused for an unknown name exactly if it has one,
and then for the first. -/
theorem ofArguments_eq_unknownArgument_iff {value : Value} :
    ofArguments args = .error (.unknownArgument name value) ↔
      args.find? (fun a => !isKnownName a.name) = some ⟨name, value⟩ := by
  have hcheck := checkNames_eq args
  cases hfind : args.find? (fun a => !isKnownName a.name) with
  | none =>
    rw [hfind] at hcheck
    refine ⟨fun h => ?_, nofun⟩
    cases isLater_of_ofArguments hcheck h
  | some a =>
    rw [hfind] at hcheck
    have hargs : ofArguments args = .error (.unknownArgument a.name a.value) := by
      rw [ofArguments, hcheck]
      rfl
    rw [hargs]
    constructor
    · intro h
      cases h
      rfl
    · intro h
      cases h
      rfl

/-- A sequence with a name that means nothing is refused for such a name, and no other sequence
is. -/
theorem exists_unknownArgument_iff :
    (∃ name value, ofArguments args = .error (.unknownArgument name value)) ↔
      ∃ a ∈ args, isKnownName a.name = false := by
  simp only [ofArguments_eq_unknownArgument_iff]
  constructor
  · rintro ⟨name, value, hfind⟩
    have hname := List.find?_some hfind
    exact ⟨⟨name, value⟩, List.mem_of_find?_eq_some hfind, by simpa using hname⟩
  · rintro ⟨a, ha, hname⟩
    obtain ⟨found, hfound⟩ := Option.isSome_iff_exists.mp
      (List.find?_isSome (p := fun a => !isKnownName a.name) |>.mpr ⟨a, ha, by simpa using hname⟩)
    exact ⟨found.name, found.value, hfound⟩

end PageScript.Preferences
