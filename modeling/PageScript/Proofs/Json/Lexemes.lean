import PageScript.Json.Printer
import PageScript.Json.Reader

/-!
# The tokens of a value

`lexemes v` are the tokens of which a JSON text for `v` consists, whatever its gaps and escapes.
`State.takes_lexemes` says that the reader gathers the value from them, provided that it is legible:
of two fields with one name, for instance, the reader would keep one.
-/

namespace PageScript.Json

open PageScript.Number

mutual
/-- The tokens of a value. -/
def lexemes : Json → List Token
  | null => [.literal .null]
  | bool b => [.literal (.bool b)]
  | integer n => [.literal (.integer n)]
  | decimal x => [.literal (.decimal x)]
  | string s => [.text s]
  | array [] => [.openArray, .closeArray]
  | array (item :: items) => .openArray :: (lexemes item ++ (itemLexemes items ++ [.closeArray]))
  | object [] => [.openObject, .closeObject]
  | object ((name, value) :: fields) =>
    .openObject :: .text name :: .colon ::
      (lexemes value ++ (fieldLexemes fields ++ [.closeObject]))

/-- The tokens of the further items of an array. -/
def itemLexemes : List Json → List Token
  | [] => []
  | item :: items => .comma :: (lexemes item ++ itemLexemes items)

/-- The tokens of the further fields of an object. -/
def fieldLexemes : List (String × Json) → List Token
  | [] => []
  | (name, value) :: fields =>
    .comma :: .text name :: .colon :: (lexemes value ++ fieldLexemes fields)
end

/-- A number whose written form is read back. -/
def ReadsBack (x : Float) : Prop := read (decimal x).compact = .ok (.decimal x)

/-- Values that outlive being written: whole numbers are within the digit limit, other numbers are
read back, and no object names a field twice. -/
inductive Legible : Json → Prop
  | null : Legible null
  | bool (b : Bool) : Legible (bool b)
  | integer {n : Int} (h : (Nat.toDigits 10 n.natAbs).length ≤ digitLimit) : Legible (integer n)
  | decimal {x : Float} (h : ReadsBack x) : Legible (decimal x)
  | string (s : String) : Legible (string s)
  | array {items : List Json} (h : ∀ v ∈ items, Legible v) : Legible (array items)
  | object {fields : Fields} (hnames : (fields.map Prod.fst).Nodup)
    (h : ∀ field ∈ fields, Legible field.2) : Legible (object fields)

/-- The first token of a value does not close anything. -/
theorem lexemes_ne_close (v : Json) : ∃ t ts, lexemes v = t :: ts ∧ t ≠ .closeArray := by
  cases v with
  | array items => cases items <;> exact ⟨_, _, rfl, nofun⟩
  | object fields => cases fields <;> exact ⟨_, _, rfl, nofun⟩
  | _ => exact ⟨_, _, rfl, nofun⟩

namespace State

/-- Wherever its tokens stand, reading them leads from one state to another. -/
def Takes (s : State) (ts : List Token) (s' : State) : Prop :=
  ∀ tokens : List (Nat × Token), tokens.map Prod.snd = ts → s.run tokens = .ok s'

variable {s u v : State} {t : Token} {ts us : List Token}

theorem Takes.nil (s : State) : s.Takes [] s := by
  intro tokens h
  rw [List.map_eq_nil_iff.mp h]
  rfl

theorem Takes.cons (h : ∀ offset, s.step offset t = .ok u) (hu : u.Takes ts v) :
    s.Takes (t :: ts) v := by
  intro tokens htokens
  obtain ⟨⟨offset, _⟩, rest, rfl, rfl, hrest⟩ := List.map_eq_cons_iff.mp htokens
  rw [run, h offset]
  exact hu rest hrest

theorem Takes.append (h : s.Takes ts u) (hu : u.Takes us v) : s.Takes (ts ++ us) v := by
  intro tokens htokens
  obtain ⟨first, second, rfl, hfirst, hsecond⟩ := List.map_eq_append_iff.mp htokens
  rw [run_append, h first hfirst]
  exact hu second hsecond

/-- What is read where a value must come is read as a first item as well. -/
theorem Takes.first_item {stack : List Frame} {v : Json}
    (h : (⟨.value, .array [] :: stack⟩ : State).Takes (lexemes v) s) :
    (⟨.itemOrClose, stack⟩ : State).Takes (lexemes v) s := by
  obtain ⟨t, ts, hlexemes, ht⟩ := lexemes_ne_close v
  rw [hlexemes] at h ⊢
  intro tokens htokens
  obtain ⟨⟨offset, _⟩, rest, rfl, rfl, hrest⟩ := List.map_eq_cons_iff.mp htokens
  rw [← h _ htokens, run, run]
  congr 1
  rename_i t
  cases t <;> first | rfl | exact absurd rfl ht

theorem takes_items {items : List Json} {stack : List Frame}
    (h : ∀ v ∈ items, ∀ stack, (⟨.value, stack⟩ : State).Takes (lexemes v) ⟨.after v, stack⟩)
    (before : List Json) (item : Json) :
    (⟨.after item, .array before :: stack⟩ : State).Takes (itemLexemes items ++ [.closeArray])
      ⟨.after (.array ((item :: before).reverse ++ items)), stack⟩ := by
  induction items generalizing before item with
  | nil =>
    rw [itemLexemes, List.append_nil]
    exact .cons (fun _ => rfl) (.nil _)
  | cons next items ih =>
    rw [itemLexemes, List.cons_append, List.append_assoc]
    refine .cons (u := ⟨.value, .array (item :: before) :: stack⟩) (fun _ => rfl) ?_
    refine (h next (.head _) _).append ?_
    have hrest := ih (fun v hv => h v (.tail _ hv)) (item :: before) next
    rwa [List.reverse_cons, List.append_assoc, List.singleton_append] at hrest

theorem takes_fields {fields : Fields} {stack : List Frame}
    (h : ∀ field ∈ fields, ∀ stack,
      (⟨.value, stack⟩ : State).Takes (lexemes field.2) ⟨.after field.2, stack⟩)
    (before : Fields) (name : String) (value : Json)
    (hnames : ((before ++ (name, value) :: fields).map Prod.fst).Nodup) :
    (⟨.after value, .object before name :: stack⟩ : State).Takes
      (fieldLexemes fields ++ [.closeObject])
      ⟨.after (.object (before ++ (name, value) :: fields)), stack⟩ := by
  have hnew : name ∉ before.map Prod.fst := by
    rw [List.map_append, List.nodup_append] at hnames
    exact fun hmem => hnames.2.2 name hmem name (.head _) rfl
  induction fields generalizing before name value with
  | nil =>
    rw [fieldLexemes, ← put_of_notMem hnew]
    exact .cons (fun _ => rfl) (.nil _)
  | cons next fields ih =>
    obtain ⟨name', value'⟩ := next
    rw [fieldLexemes, List.cons_append, List.cons_append, List.cons_append, List.append_assoc]
    refine .cons (u := ⟨.name (put name value before), stack⟩) (fun _ => rfl) ?_
    rw [put_of_notMem hnew]
    refine .cons (u := ⟨.colon (before ++ [(name, value)]) name', stack⟩) (fun _ => rfl) ?_
    refine .cons (u := ⟨.value, .object (before ++ [(name, value)]) name' :: stack⟩)
      (fun _ => rfl) ?_
    refine (h _ (.head _) _).append ?_
    have hbefore : before ++ (name, value) :: (name', value') :: fields =
        before ++ [(name, value)] ++ (name', value') :: fields := by
      rw [List.append_assoc, List.singleton_append]
    rw [hbefore] at hnames ⊢
    refine ih (fun field hfield => h field (.tail _ hfield)) _ _ _ hnames ?_
    rw [List.map_append, List.nodup_append] at hnames
    exact fun hmem => hnames.2.2 name' hmem name' (.head _) rfl

/-- The reader gathers a value from its tokens. -/
theorem takes_lexemes {v : Json} (h : Legible v) (stack : List Frame) :
    (⟨.value, stack⟩ : State).Takes (lexemes v) ⟨.after v, stack⟩ := by
  induction h generalizing stack with
  | null | bool | integer | decimal | string => exact .cons (fun _ => rfl) (.nil _)
  | @array items _ ih =>
    cases items with
    | nil => exact .cons (fun _ => rfl) (.cons (fun _ => rfl) (.nil _))
    | cons item items =>
      refine .cons (u := ⟨.itemOrClose, stack⟩) (fun _ => rfl) ?_
      refine (ih item (.head _) _).first_item.append ?_
      exact takes_items (fun v hv => ih v (.tail _ hv)) [] item
  | @object fields hnames _ ih =>
    cases fields with
    | nil => exact .cons (fun _ => rfl) (.cons (fun _ => rfl) (.nil _))
    | cons field fields =>
      obtain ⟨name, value⟩ := field
      refine .cons (u := ⟨.nameOrClose, stack⟩) (fun _ => rfl) ?_
      refine .cons (u := ⟨.colon [] name, stack⟩) (fun _ => rfl) ?_
      refine .cons (u := ⟨.value, .object [] name :: stack⟩) (fun _ => rfl) ?_
      refine (ih _ (.head _) _).append ?_
      exact takes_fields (fun field hfield => ih field (.tail _ hfield)) [] name value hnames

end State
end PageScript.Json
