import Mathlib.Tactic.Ring
import PageScript.Proofs.File.History
import PageScript.Proofs.Walk.Answer

/-!
# Answers saved one after the other

Answers go to files as texts, so what is known of texts that are saved holds of answers.  `Archives`
says what comes of a list of them: whatever was saved before, the next save is settled by what is in
its way, and in the end each file holds the answer that was last saved under its names.  It holds in
all surroundings with files, from an empty working directory (`saveEach_archives`).

Plain names are not enough for a save to succeed where nothing is in its way: together they may be
too long for a path, and the answer may hold an integer that is too long to be written.  Either is
found only when the directories above are there (`saveAnswer_goesAstray`).
-/

namespace PageScript

open PageScript.Act PageScript.File PageScript.File.Tree PageScript.File.Path

variable {σ : Type} {host : Host σ} {files : σ → File.Tree} {w : σ}

/-- Save answers under names, one after the other, whatever comes of each. -/
def saveEach : List (List String × Json) → Act σ (List (Except Failure Unit))
  | [] => return []
  | (names, answer) :: rest => do
    let result ← (saveAnswer ("/".intercalate names) answer).attempt
    return result :: (← saveEach rest)

/-- Answers as texts that are to be saved. -/
def savingsOf (calls : List (List String × Json)) : List Saving :=
  calls.map fun call => ⟨call.1, answerText call.2, answerRefusal call.2⟩

/-- Names under which something can be saved. -/
def PlainCall (call : List String × Json) : Prop := call.1 ≠ [] ∧ ∀ name ∈ call.1, IsPlain name

/-- What comes of saving answers one after the other. -/
structure Archives (host : Host σ) (files : σ → File.Tree) (w : σ)
    (calls : List (List String × Json)) : Prop where
  /-- Whatever was saved before, a save is settled by what is in its way. -/
  each : ∀ before names answer after, calls = before ++ (names, answer) :: after →
    let v := (saveEach before host w).world
    let outcome := saveAnswer ("/".intercalate names) answer host v
    (files v).Settles names (answerText answer) (¬ answer.HoldsLongInteger) outcome.result
      (files outcome.world)
  /-- In the end a file holds the answer that was last saved under its names, and a directory leads
  to an answer that was saved, to a path that was too long, or to where an integer was too long. -/
  ends : ∃ results, (saveEach calls host w).result = .ok results ∧
    let t := files (saveEach calls host w).world
    (∀ names text, t.entryAt names = some (.file text) ↔
      ((successes calls results).reverse.lookup names).map answerText = some text) ∧
    ∀ names, names ≠ [] → t.entryAt names = some .directory →
      ∃ call ∈ calls, names <+: call.1 ∧ names ≠ call.1 ∧
        (call ∈ successes calls results ∨ ¬ Fits call.1 ∨ call.2.HoldsLongInteger)

namespace Host.HasFiles

variable {calls : List (List String × Json)}

/-- Saving an answer under plain names is saving its text there. -/
theorem saveAnswer_below (h : host.HasFiles files) {names : List String} {answer : Json}
    (hplain : PlainCall (names, answer)) (w : σ) :
    ((saveAnswer ("/".intercalate names) answer host w).result,
        files (saveAnswer ("/".intercalate names) answer host w).world) =
      (files w).save (below names) (answerText answer) (answerRefusal answer) := by
  rw [h.saveAnswer_apply, ofString_intercalate hplain.1 hplain.2]

/-- An answer whose path alone is too long, or that cannot be written, is refused when its directory
has been made. -/
theorem saveAnswer_strays (h : host.HasFiles files) {dir : List String} {name : String}
    {answer : Json} {w : σ} (hgrounded : (files w).Grounded)
    (hplain : PlainCall (dir ++ [name], answer))
    (hlost : ¬ Fits (dir ++ [name]) ∨ answer.HoldsLongInteger) (hfits : Fits dir)
    (hfree : ¬ (files w).FileOn dir) :
    (saveAnswer ("/".intercalate (dir ++ [name])) answer host w).result ≠ .ok () ∧
      (files (saveAnswer ("/".intercalate (dir ++ [name])) answer host w).world).entryAt dir =
        some .directory := by
  have hrefused : ¬ Fits (dir ++ [name]) ∨ answerRefusal answer ≠ none := by
    rwa [ne_eq, answerRefusal_eq_none_iff, not_not]
  obtain ⟨failure, t', hsave, hopens⟩ :=
    hgrounded.save_strays hplain.2 hrefused hfits hfree (answerText answer)
  obtain ⟨hresult, hfiles⟩ := Prod.ext_iff.mp (h.saveAnswer_below hplain w)
  rw [hsave] at hresult hfiles
  dsimp only at hresult hfiles
  rw [hresult, hfiles]
  exact ⟨nofun, hopens.onWay dir List.prefix_rfl⟩

/-- Saving answers is saving their texts. -/
theorem saveEach_apply (h : host.HasFiles files) (hplain : ∀ call ∈ calls, PlainCall call) (w : σ) :
    (saveEach calls host w).result = .ok ((files w).saveAll (savingsOf calls)).1 ∧
      files (saveEach calls host w).world = ((files w).saveAll (savingsOf calls)).2 := by
  induction calls generalizing w with
  | nil => exact ⟨rfl, rfl⟩
  | cons call calls ih =>
    obtain ⟨names, answer⟩ := call
    obtain ⟨hresult, hfiles⟩ := Prod.ext_iff.mp (h.saveAnswer_below (hplain _ (.head _)) w)
    dsimp only at hresult hfiles
    obtain ⟨hresults, hworld⟩ := ih (fun call hcall => hplain call (.tail _ hcall))
      (saveAnswer ("/".intercalate names) answer host w).world
    rw [hfiles] at hresults hworld
    rw [saveEach, attempt_bind, bind_of_ok hresults, hresult]
    exact ⟨rfl, hworld⟩

theorem plain_savingsOf (hplain : ∀ call ∈ calls, PlainCall call) :
    ∀ s ∈ savingsOf calls, s.names ≠ [] ∧ ∀ name ∈ s.names, IsPlain name := by
  intro s hs
  obtain ⟨call, hcall, rfl⟩ := List.mem_map.mp hs
  exact hplain call hcall

/-- An answer that succeeds is a text that does. -/
theorem successes_savingsOf (calls : List (List String × Json))
    (results : List (Except Failure Unit)) :
    successes (savingsOf calls) results = savingsOf (successes calls results) := by
  induction calls generalizing results with
  | nil => rfl
  | cons call calls ih =>
    cases results with
    | nil => rfl
    | cons result results =>
      rw [savingsOf, List.map_cons, ← savingsOf, successes_cons, successes_cons, ih]
      cases result <;> rfl

theorem lookup_savingsOf (names : List String) (calls : List (List String × Json)) :
    ((savingsOf calls).map Saving.entry).lookup names = (calls.lookup names).map answerText := by
  induction calls with
  | nil => rfl
  | cons call calls ih =>
    obtain ⟨key, answer⟩ := call
    rw [savingsOf, List.map_cons, List.map_cons, ← savingsOf, Saving.entry, List.lookup_cons,
      List.lookup_cons, ih]
    cases names == key <;> rfl

end Host.HasFiles

open Host.HasFiles in
/-- From an empty working directory, answers saved one after the other are archived. -/
theorem saveEach_archives (hfiles : host.HasFiles files) (hbare : (files w).Bare)
    {calls : List (List String × Json)} (hplain : ∀ call ∈ calls, PlainCall call) :
    Archives host files w calls where
  each := by
    intro before names answer after hcalls v outcome
    subst hcalls
    have hbefore : ∀ call ∈ before, PlainCall call := fun call hcall =>
      hplain call (List.mem_append_left _ hcall)
    have hcall : PlainCall (names, answer) := hplain _ (by simp)
    -- The saves before have kept the tree in order.
    have hshelf := hbare.shelf.saveAll (plain_savingsOf hbefore)
    rw [← (hfiles.saveEach_apply hbefore w).2] at hshelf
    have hsettles := hshelf.grounded.save_settles hcall.1 hcall.2 (answerText answer)
      (answerRefusal answer)
    rwa [answerRefusal_eq_none_iff, ← hfiles.saveAnswer_below hcall] at hsettles
  ends := by
    obtain ⟨hresults, hworld⟩ := hfiles.saveEach_apply hplain w
    refine ⟨_, hresults, ?_⟩
    have hshelf := hbare.shelf.saveAll (plain_savingsOf hplain)
    rw [← hworld] at hshelf
    refine ⟨fun names text => ?_, fun names hne hdirectory => ?_⟩
    · have hreverse (calls : List (List String × Json)) :
          (savingsOf calls).reverse = savingsOf calls.reverse := List.map_reverse.symm
      rw [hshelf.file_iff, List.nil_append, successes_savingsOf, ← List.map_reverse, hreverse,
        lookup_savingsOf]
    · rcases hshelf.directory names hne hdirectory with ⟨entry, hentry, hbelow⟩ |
        ⟨stray, hstray, hbelow⟩
      · rw [List.nil_append, successes_savingsOf] at hentry
        obtain ⟨s, hs, rfl⟩ := List.mem_map.mp hentry
        obtain ⟨call, hcall, rfl⟩ := List.mem_map.mp hs
        exact ⟨call, mem_of_mem_successes hcall, hbelow.1, hbelow.2, .inl hcall⟩
      · obtain ⟨s, hs, rfl⟩ := List.mem_map.mp hstray
        obtain ⟨hs, hlost⟩ := List.mem_filter.mp hs
        replace hlost : s.MayStray := of_decide_eq_true hlost
        obtain ⟨call, hcall, rfl⟩ := List.mem_map.mp hs
        rw [Saving.MayStray, ne_eq, answerRefusal_eq_none_iff, not_not] at hlost
        exact ⟨call, hcall, hbelow.1, hbelow.2, .inr hlost⟩

/-! ### An archive -/

namespace Rehearsal

/-- The second and the fourth answer cannot be saved: there is a file and then a directory in the
way.  The last one takes the place of the first. -/
def archivedAnswers : List (List String × Json) :=
  [(["out"], .integer 1), (["out", "page"], .null), (["pages", "home"], .string "title"),
    (["pages"], .bool true), (["out"], .array [.integer 2])]

theorem bare_empty : Tree.empty.Bare where
  here := by decide
  nothing names hne := by
    obtain ⟨name, names, rfl⟩ := List.exists_cons_of_ne_nil hne
    simp [entryAt, Tree.lookup, Tree.empty]

theorem saveEach_archives_archivedAnswers :
    Tree.empty.Bare ∧ (∀ call ∈ archivedAnswers, PlainCall call) ∧
      Archives Rehearsal.host Script.files {} archivedAnswers := by
  have hplain : ∀ call ∈ archivedAnswers, PlainCall call := by
    unfold PlainCall
    decide
  exact ⟨bare_empty, hplain, saveEach_archives hasFiles_host bare_empty hplain⟩

/-- The length of equal texts with a separator between any two. -/
theorem size_intercalate_replicate (separator name : String) (n : Nat) :
    (separator.intercalate (List.replicate (n + 1) name)).utf8ByteSize =
      (n + 1) * name.utf8ByteSize + n * separator.utf8ByteSize := by
  induction n with
  | zero => simp
  | succ n ih =>
    rw [List.replicate_succ, List.replicate_succ, String.intercalate_cons_cons,
      ← List.replicate_succ, String.utf8ByteSize_append, String.utf8ByteSize_append, ih]
    ring

/-- A name of 240 letters. -/
@[irreducible] def longName : String := "".intercalate (List.replicate 24 "aaaaaaaaaa")

theorem size_longName : longName.utf8ByteSize = 240 := by
  rw [longName, size_intercalate_replicate]
  rfl

theorem isPlain_longName : IsPlain longName := by
  refine ⟨?_, fun c hc => ?_, by rw [size_longName]; decide⟩
  · intro hmem
    have hsize := size_longName
    simp only [List.mem_cons, List.not_mem_nil, or_false] at hmem
    rcases hmem with heq | heq | heq <;>
      · rw [heq] at hsize
        exact absurd hsize (by decide)
  · rw [longName, String.toList_intercalate] at hc
    rcases mem_intercalate hc with hc | ⟨piece, hpiece, hc⟩
    · cases hc
    · rw [List.map_replicate] at hpiece
      rw [List.eq_of_mem_replicate hpiece] at hc
      rw [List.eq_of_mem_replicate (show c ∈ List.replicate 10 'a' from hc)]
      decide

/-- Sixteen long names. -/
def deepNames : List String := List.replicate 16 longName

/-- In an empty working directory nothing is in the way of a call, and yet it fails, and leaves a
directory behind that was missing. -/
structure GoesAstray (dir : List String) (name : String) (answer : Json) : Prop where
  plain : PlainCall (dir ++ [name], answer)
  notDirectory : Tree.empty.entryAt (dir ++ [name]) ≠ some .directory
  notBlocked : ¬ Tree.empty.Blocked (dir ++ [name])
  fails : (saveAnswer ("/".intercalate (dir ++ [name])) answer Rehearsal.host {}).result ≠ .ok ()
  missing : Tree.empty.entryAt dir = none
  left : (saveAnswer ("/".intercalate (dir ++ [name])) answer Rehearsal.host {}).world.files.entryAt
    dir = some .directory

theorem goesAstray_of_lost {dir : List String} {name : String} {answer : Json} (hdir : dir ≠ [])
    (hplain : ∀ n ∈ dir ++ [name], IsPlain n) (hfits : Fits dir)
    (hlost : ¬ Fits (dir ++ [name]) ∨ answer.HoldsLongInteger) : GoesAstray dir name answer := by
  have hcall : PlainCall (dir ++ [name], answer) := ⟨by simp, hplain⟩
  have hfree : ¬ Tree.empty.FileOn dir := bare_empty.not_fileOn dir
  obtain ⟨hfails, hleft⟩ := hasFiles_host.saveAnswer_strays (w := {})
    bare_empty.shelf.grounded hcall hlost hfits hfree
  refine ⟨hcall, ?_, mt blocked_concat_iff.mp hfree, hfails, bare_empty.nothing _ hdir, hleft⟩
  rw [bare_empty.nothing _ hcall.1]
  simp

/-- Seventeen long names make too long a path, and an integer of 4301 digits has no written form. -/
theorem saveAnswer_goesAstray :
    Tree.empty.Bare ∧ GoesAstray deepNames longName (.integer 1) ∧
      GoesAstray ["out"] "page" (.integer (10 ^ 4300)) := by
  have hplain : ∀ n ∈ deepNames ++ [longName], IsPlain n := by
    intro name hname
    have hlong : name = longName := by simpa [deepNames] using hname
    rw [hlong]
    exact isPlain_longName
  have hdeep : deepNames ≠ [] := by simp [deepNames]
  have hfits : Fits deepNames := by
    rw [Fits, text_below hdeep fun n hn => hplain n (List.mem_append_left _ hn), deepNames,
      size_intercalate_replicate, size_longName]
    decide
  have hlong : ¬ Fits (deepNames ++ [longName]) := by
    rw [Fits, text_below (by simp) hplain, deepNames, ← List.replicate_succ',
      size_intercalate_replicate, size_longName]
    decide
  have hinteger : Json.HoldsLongInteger (.integer (10 ^ 4300)) := by
    refine .integer ?_
    rw [Int.natAbs_pow, show (10 : Int).natAbs = 10 from rfl, ← Nat.not_le,
      Nat.length_toDigits_le_iff (by decide) (by decide), Nat.not_lt]
  exact ⟨bare_empty, goesAstray_of_lost hdeep hplain hfits (.inl hlong),
    goesAstray_of_lost (by simp) (by decide) (by decide) (.inr hinteger)⟩

end Rehearsal
end PageScript
