import Mathlib.Data.List.TakeWhile
import PageScript.Address

/-!
# Targets stay on the origin

An absolute address has exactly one *origin*, its text before the third slash
(`isOrigin_iff_eq_origin`).  A target that is not absolute is put behind the origin of the page, with
one slash between them (`resolve_eq`), and what comes out has the same origin again
(`IsOrigin.append`).  So it neither matters what stands behind the origin of the page nor how many
slashes stand in front of the target, and targets can be read one after the other: each leads to
where it would have led from the first page.
-/

namespace PageScript.Address

/-- Characters that begin as those of an absolute address do. -/
def IsWeb (cs : List Char) : Prop := "http://".toList <+: cs ∨ "https://".toList <+: cs

/-- The text before the third slash, which is the whole text if no third slash comes. -/
structure IsOrigin (cs o : List Char) : Prop where
  slashes : o.count '/' = 2
  ends : o = cs ∨ o ++ ['/'] <+: cs

instance : DecidablePred IsWeb := fun cs => inferInstanceAs (Decidable (_ <+: cs ∨ _ <+: cs))

/-- A target that says something and is not absolute. -/
structure IsRelative (target : String) : Prop where
  ne_empty : target ≠ ""
  not_isWeb : ¬ IsWeb target.toList

variable {cs o : List Char}

theorem isAbsoluteChars_iff : isAbsoluteChars cs = true ↔ IsWeb cs := by
  simp [isAbsoluteChars, schemes, IsWeb]

theorem isAbsolute_iff {s : String} : isAbsolute s = true ↔ IsWeb s.toList := isAbsoluteChars_iff

theorem IsWeb.append (h : IsWeb cs) (rest : List Char) : IsWeb (cs ++ rest) :=
  h.imp (·.trans (List.prefix_append ..)) (·.trans (List.prefix_append ..))

/-! ### The origin -/

/-- The slashes of a text in front are counted off. -/
theorem beforeSlash_append (front : List Char) (n : Nat) (cs : List Char) :
    beforeSlash (front.count '/' + n) (front ++ cs) = front ++ beforeSlash n cs := by
  induction front with
  | nil => simp
  | cons c front ih =>
    rw [List.cons_append, List.cons_append, ← ih, List.count_cons]
    by_cases hc : c = '/'
    · rw [if_pos (by simpa using hc), Nat.add_right_comm, beforeSlash, if_pos hc]
    · rw [if_neg (by simpa using hc), Nat.add_zero]
      cases front.count '/' + n with
      | zero => rw [beforeSlash, if_neg hc]
      | succ m => rw [beforeSlash, if_neg hc]

theorem beforeSlash_zero (cs : List Char) : beforeSlash 0 cs = cs.takeWhile (· != '/') := by
  induction cs with
  | nil => rfl
  | cons c cs ih =>
    rw [beforeSlash, List.takeWhile_cons, ih]
    by_cases hc : c = '/' <;> simp [hc]

/-- Behind two slashes the origin goes on up to the next one. -/
theorem origin_append {front : List Char} (hcount : front.count '/' = 2) (rest : List Char) :
    origin (front ++ rest) = front ++ rest.takeWhile (· != '/') := by
  have hbefore := beforeSlash_append front 0 rest
  rwa [hcount, beforeSlash_zero] at hbefore

theorem IsWeb.exists_scheme (h : IsWeb cs) :
    ∃ scheme rest, cs = scheme ++ rest ∧ IsWeb scheme ∧ scheme.count '/' = 2 := by
  rcases h with ⟨rest, rfl⟩ | ⟨rest, rfl⟩
  · exact ⟨_, rest, rfl, .inl (List.prefix_refl _), by decide⟩
  · exact ⟨_, rest, rfl, .inr (List.prefix_refl _), by decide⟩

theorem IsWeb.origin (h : IsWeb cs) : IsWeb (origin cs) := by
  obtain ⟨scheme, rest, rfl, hweb, hcount⟩ := h.exists_scheme
  rw [origin_append hcount]
  exact hweb.append _

/-- What an origin is cut off from has it as its origin. -/
theorem IsOrigin.origin_eq (h : IsOrigin cs o) : origin cs = o := by
  rcases h.ends with rfl | ⟨tail, rfl⟩
  · simpa using origin_append h.slashes []
  · rw [List.append_assoc, origin_append h.slashes]
    simp

theorem isOrigin_origin (h : IsWeb cs) : IsOrigin cs (origin cs) := by
  obtain ⟨scheme, rest, rfl, -, hcount⟩ := h.exists_scheme
  have hnone : (rest.takeWhile (· != '/')).count '/' = 0 :=
    List.count_eq_zero.mpr fun hmem => by simpa using List.mem_takeWhile_imp hmem
  rw [origin_append hcount]
  refine ⟨by rw [List.count_append, hcount, hnone], ?_⟩
  have hrest := List.takeWhile_append_dropWhile (p := (· != '/')) (l := rest)
  cases htail : rest.dropWhile (· != '/') with
  | nil =>
    rw [htail, List.append_nil] at hrest
    exact .inl (by rw [hrest])
  | cons c tail =>
    have hc : c = '/' := by
      have hhead := List.head?_dropWhile_not (· != '/') rest
      rw [htail] at hhead
      simpa using hhead
    refine .inr ⟨tail, ?_⟩
    rw [htail, hc] at hrest
    rw [List.append_assoc, List.append_assoc, List.singleton_append, hrest]

/-- An absolute address has one origin. -/
theorem isOrigin_iff_eq_origin (h : IsWeb cs) : IsOrigin cs o ↔ o = origin cs :=
  ⟨fun ho => ho.origin_eq.symm, fun ho => ho ▸ isOrigin_origin h⟩

/-- An origin stays the origin whatever stands behind a slash. -/
theorem IsOrigin.append (h : IsOrigin cs o) (rest : List Char) : IsOrigin (o ++ '/' :: rest) o :=
  ⟨h.slashes, .inr ⟨rest, by simp⟩⟩

/-! ### Targets -/

theorem resolve_empty (base : Option String) : resolve base "" = "" := if_pos rfl

theorem resolve_of_isWeb {target : String} (h : IsWeb target.toList) (base : Option String) :
    resolve base target = target := by
  have hne : target ≠ "" := by
    rintro rfl
    exact absurd (isAbsolute_iff.mpr h) (by decide)
  rw [resolve.eq_def, if_neg hne, if_pos (isAbsolute_iff.mpr h)]

/-- Without the address of a page that is absolute, targets stand for themselves. -/
theorem resolve_of_not_isWeb {base : Option String} (h : ∀ page ∈ base, ¬ IsWeb page.toList)
    (target : String) : resolve base target = target := by
  by_cases hempty : target = ""
  · rw [hempty, resolve_empty]
  by_cases hweb : IsWeb target.toList
  · exact resolve_of_isWeb hweb base
  rw [resolve.eq_def, if_neg hempty, if_neg (mt isAbsolute_iff.mp hweb)]
  cases base with
  | none => rfl
  | some page => exact if_neg (mt isAbsolute_iff.mp (h page rfl))

section Relative

variable {page target : String} (hpage : IsWeb page.toList)
include hpage

/-- A relative target is put behind the origin of the page. -/
theorem resolve_eq (htarget : IsRelative target) :
    resolve (some page) target =
      String.ofList (origin page.toList ++ '/' :: target.toList.dropWhile (· == '/')) := by
  rw [resolve, if_neg htarget.ne_empty, if_neg (mt isAbsolute_iff.mp htarget.not_isWeb)]
  exact if_pos (isAbsolute_iff.mpr hpage)

/-- A relative target leads to an absolute address. -/
theorem isWeb_resolve (htarget : IsRelative target) :
    IsWeb (resolve (some page) target).toList := by
  rw [resolve_eq hpage htarget, String.toList_ofList]
  exact hpage.origin.append _

/-- A relative target leads to an address with the origin of the page. -/
theorem isOrigin_resolve (htarget : IsRelative target) :
    IsOrigin (resolve (some page) target).toList (origin page.toList) := by
  rw [resolve_eq hpage htarget, String.toList_ofList]
  exact (isOrigin_origin hpage).append _

end Relative

theorem resolve_resolve (base : Option String) (target : String) :
    resolve base (resolve base target) = resolve base target := by
  by_cases hbase : ∀ page ∈ base, ¬ IsWeb page.toList
  · rw [resolve_of_not_isWeb hbase, resolve_of_not_isWeb hbase]
  obtain ⟨page, hmem, hpage⟩ : ∃ page ∈ base, IsWeb page.toList := by simpa using hbase
  obtain rfl := Option.mem_def.mp hmem
  by_cases hempty : target = ""
  · rw [hempty, resolve_empty, resolve_empty]
  by_cases hweb : IsWeb target.toList
  · rw [resolve_of_isWeb hweb, resolve_of_isWeb hweb]
  · exact resolve_of_isWeb (isWeb_resolve hpage ⟨hempty, hweb⟩) _

/-- A target with slashes in front. -/
def slashed (n : Nat) (target : String) : String :=
  String.ofList (List.replicate n '/' ++ target.toList)

/-- Slashes in front do not make a target absolute. -/
theorem IsRelative.slashed {target : String} (h : IsRelative target) (n : Nat) :
    IsRelative (slashed n target) := by
  cases n with
  | zero => rwa [Address.slashed, List.replicate_zero, List.nil_append, String.ofList_toList]
  | succ n =>
    constructor
    · intro hempty
      simpa [Address.slashed] using congrArg String.toList hempty
    · rw [Address.slashed, String.toList_ofList, List.replicate_succ, List.cons_append, IsWeb]
      simp [List.cons_prefix_cons]

theorem resolve_slashed {page target : String} (hpage : IsWeb page.toList)
    (htarget : IsRelative target) (n : Nat) :
    resolve (some page) (slashed n target) = resolve (some page) target := by
  have hslashes : ∀ c ∈ List.replicate n '/', (c == '/') = true := fun c hc =>
    beq_iff_eq.mpr (List.eq_of_mem_replicate hc)
  rw [resolve_eq hpage htarget, resolve_eq hpage (htarget.slashed n), slashed,
    String.toList_ofList, List.dropWhile_append_of_pos hslashes]

/-- Reading a target against the address of a page a second time changes nothing, and an absolute
target stands for itself.  From a page with an absolute address a relative target leads to the
origin, one slash and the target without the slashes in front: nothing else of the page matters, no
number of slashes leaves the origin, and from there a next target leads to where it leads from the
page. -/
theorem resolve_stays_on_origin (base : Option String) (target : String) :
    resolve base (resolve base target) = resolve base target ∧
    (IsWeb target.toList → resolve base target = target) ∧
    ∀ page ∈ base, IsWeb page.toList →
      ∃ o, (∀ o', IsOrigin page.toList o' ↔ o' = o) ∧
        (IsRelative target →
          resolve base target = String.ofList (o ++ '/' :: target.toList.dropWhile (· == '/')) ∧
          (∀ rest, resolve (some (String.ofList (o ++ '/' :: rest))) target = resolve base target) ∧
          (∀ n, resolve base (slashed n target) = resolve base target) ∧
          IsOrigin (resolve base target).toList o ∧
          ∀ next, IsRelative next →
            resolve (some (resolve base target)) next = resolve base next) := by
  refine ⟨resolve_resolve base target, (resolve_of_isWeb · base), ?_⟩
  rintro page rfl hpage
  have hsame {other next : String} (hother : IsWeb other.toList)
      (ho : IsOrigin other.toList (origin page.toList)) (hnext : IsRelative next) :
      resolve (some other) next = resolve (some page) next := by
    rw [resolve_eq hother hnext, resolve_eq hpage hnext, ho.origin_eq]
  refine ⟨origin page.toList, fun _ => isOrigin_iff_eq_origin hpage, fun htarget =>
    ⟨resolve_eq hpage htarget, fun rest => hsame ?_ ?_ htarget, resolve_slashed hpage htarget,
      isOrigin_resolve hpage htarget, fun next hnext =>
        hsame (isWeb_resolve hpage htarget) (isOrigin_resolve hpage htarget) hnext⟩⟩
  · rw [String.toList_ofList]
    exact hpage.origin.append _
  · rw [String.toList_ofList]
    exact (isOrigin_origin hpage).append rest

/-- Many slashes in front, and a second target behind the first. -/
theorem resolve_stays_on_origin_of_slashes :
    IsWeb "https://a.org/b?c".toList ∧ IsRelative "///d" ∧ IsRelative "/e/f" ∧
      resolve (some (resolve (some "https://a.org/b?c") "///d")) "/e/f" = "https://a.org/e/f" := by
  have hpage : IsWeb "https://a.org/b?c".toList := by decide
  have hfirst : IsRelative "///d" := ⟨by decide, by decide⟩
  have hnext : IsRelative "/e/f" := ⟨by decide, by decide⟩
  obtain ⟨-, -, hrelative⟩ := resolve_stays_on_origin (some "https://a.org/b?c") "///d"
  obtain ⟨o, -, hstays⟩ := hrelative _ rfl hpage
  obtain ⟨-, -, -, -, hchain⟩ := hstays hfirst
  refine ⟨hpage, hfirst, hnext, ?_⟩
  rw [hchain _ hnext]
  decide

end PageScript.Address
