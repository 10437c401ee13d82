import PageScript.CommandLine.Token
import PageScript.Value.Coercion

/-!
# What the switches leave over

Texts of a command line that belong to no switch are kept as arguments, so that they can be
refused by name.  A text with two dashes in front takes the value behind its first equals sign, or
else the next text unless that has two dashes too, or else the flag.  Any other text becomes a name
without a value and without the dashes in front.
-/

namespace PageScript.CommandLine

/-- The characters behind two dashes. -/
def behindDashes? : List Char → Option (List Char)
  | '-' :: '-' :: body => some body
  | _ => none

/-- A text without the dashes in front, unless nothing else is left. -/
def withoutDashes (text : String) : String :=
  let rest := text.toList.dropWhile (· == '-')
  if rest.isEmpty then text else String.ofList rest

/-- An argument with the value of a raw text. -/
def argumentOfRaw (name raw : String) : Except Number.Issue Argument :=
  (Value.ofRaw raw).map (⟨name, ·⟩)

/-- The arguments of the texts that are left over. -/
def leftovers : List String → Except Number.Issue (List Argument)
  | [] => .ok []
  | text :: rest =>
    match behindDashes? text.toList with
    | none => (leftovers rest).map (⟨withoutDashes text, .absent⟩ :: ·)
    | some body =>
      match assignment? body with
      | some (name, raw) => do
        let a ← argumentOfRaw (String.ofList name) (String.ofList raw)
        return a :: (← leftovers rest)
      | none =>
        match rest with
        | [] => .ok [⟨String.ofList body, .flag true⟩]
        | next :: more =>
          if (behindDashes? next.toList).isSome then
            (leftovers (next :: more)).map (⟨String.ofList body, .flag true⟩ :: ·)
          else do
            let a ← argumentOfRaw (String.ofList body) next
            return a :: (← leftovers more)

end PageScript.CommandLine
