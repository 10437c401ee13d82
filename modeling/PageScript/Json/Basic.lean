/-!
# JSON values

Whole numbers and numbers with a fraction or exponent are told apart, so `1` and `1.0` are
different values.  An object is a list of fields in the order of their first appearance, and a
name stands for one field only: `put` replaces the value of a name that is already there.
-/

namespace PageScript

/-- A JSON value. -/
inductive Json
  | null
  | bool (b : Bool)
  | integer (n : Int)
  | decimal (x : Float)
  | string (s : String)
  | array (items : List Json)
  | object (fields : List (String × Json))
  deriving Inhabited

namespace Json

/-- The fields of an object. -/
abbrev Fields : Type := List (String × Json)

/-- Give a name a value: in its old place if the name is there, else at the end. -/
def put (name : String) (value : Json) : Fields → Fields
  | [] => [(name, value)]
  | (key, old) :: rest =>
    if key = name then (key, value) :: rest else (key, old) :: put name value rest

/-- The value of a name. -/
def get? (name : String) : Fields → Option Json
  | [] => none
  | (key, value) :: rest => if key = name then some value else get? name rest

/-- The kinds of values, by the names used in messages. -/
def kind : Json → String
  | null => "NoneType"
  | bool _ => "bool"
  | integer _ => "int"
  | decimal _ => "float"
  | string _ => "str"
  | array _ => "list"
  | object _ => "dict"

/-- Nothing, false, zero and the empty text, list and object count as no; all else as yes. -/
def holds : Json → Bool
  | null => false
  | bool b => b
  | integer n => n != 0
  | decimal x => x != 0.0
  | string s => s != ""
  | array items => !items.isEmpty
  | object fields => !fields.isEmpty

/-! ### Induction -/

/-- What holds of every value, if it holds of an array or object whenever it holds of all that is in
it.  The recursor speaks of lists and fields as well, so the members are gone through here once. -/
@[elab_as_elim]
theorem ind {motive : Json → Prop} (null : motive null) (bool : ∀ b, motive (bool b))
    (integer : ∀ n, motive (integer n)) (decimal : ∀ x, motive (decimal x))
    (string : ∀ s, motive (string s))
    (array : ∀ items : List Json, (∀ v ∈ items, motive v) → motive (array items))
    (object : ∀ fields : List (String × Json),
      (∀ field ∈ fields, motive field.2) → motive (object fields))
    (v : Json) : motive v := by
  refine @Json.rec motive (fun items => ∀ v ∈ items, motive v)
    (fun fields => ∀ field ∈ fields, motive field.2) (fun field => motive field.2)
    null bool integer decimal string array object ?_ ?_ ?_ ?_ ?_ v
  · exact fun _ h => by cases h
  · intro item items hitem hitems v hv
    rcases List.mem_cons.mp hv with rfl | hv
    · exact hitem
    · exact hitems v hv
  · exact fun _ h => by cases h
  · intro first fields hfirst hfields field hfield
    rcases List.mem_cons.mp hfield with rfl | hfield
    · exact hfirst
    · exact hfields field hfield
  · exact fun _ _ h => h

/-! ### Fields -/

@[simp] theorem get?_nil (name : String) : get? name [] = none := rfl

@[simp] theorem get?_put_self (name : String) (value : Json) (fields : Fields) :
    get? name (put name value fields) = some value := by
  induction fields with
  | nil => simp [put, get?]
  | cons field rest ih =>
    simp only [put]
    split
    · next h => simp [get?, h]
    · next h => simp [get?, h, ih]

/-- Putting a name leaves the other names alone. -/
theorem get?_put_of_ne {name other : String} (h : name ≠ other) (value : Json)
    (fields : Fields) : get? other (put name value fields) = get? other fields := by
  induction fields with
  | nil => simp [put, get?, h]
  | cons field rest ih =>
    simp only [put]
    split
    · next hk => simp [get?, hk, h]
    · simp [get?, ih]

/-- Putting a new name adds it behind the others. -/
theorem put_of_notMem {name : String} {fields : Fields} (h : name ∉ fields.map Prod.fst)
    (value : Json) : put name value fields = fields ++ [(name, value)] := by
  induction fields with
  | nil => rfl
  | cons field rest ih =>
    simp only [List.map_cons, List.mem_cons, not_or] at h
    simp [put, Ne.symm h.1, ih h.2]

end Json
end PageScript
