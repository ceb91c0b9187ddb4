import EnvLint.Json.Show
import EnvLint.Text.Blank

/-! # Message templates

    A slot is a name in double braces; the name is not empty and holds no brace.
    Slots are filled from the left, all at once: what is filled in is not looked
    at again, and a slot without a value stays as it is. -/

namespace EnvLint.Template

/-- Whether a character is a brace. -/
def isBrace (c : Char) : Bool := c == '{' || c == '}'

/-- The name of a slot after its opening braces. -/
def slotName (cs : List Char) : List Char := cs.takeWhile fun c => !isBrace c

/-- The name of a slot after its opening braces, and what follows its closing
    ones. -/
def slot? (cs : List Char) : Option (List Char × List Char) :=
  match cs.dropWhile fun c => !isBrace c with
  | '}' :: '}' :: after => if (slotName cs).isEmpty then none else some (slotName cs, after)
  | _ => none

/-- What follows a slot is shorter than the slot. -/
theorem slot?_length {cs name after : List Char} (h : slot? cs = some (name, after)) :
    after.length < cs.length := by
  unfold slot? at h
  split at h
  · next rest hdrop =>
    have hle := (List.dropWhile_sublist (l := cs) fun c => !isBrace c).length_le
    rw [hdrop] at hle
    split at h
    · cases h
    · simp only [Option.some.injEq, Prod.mk.injEq] at h
      obtain ⟨-, rfl⟩ := h
      simp only [List.length_cons] at hle
      omega
  · cases h

/-- The value of a slot: blanks around its name do not count. -/
def value? (data : List (String × Json)) (name : List Char) : Option (List Char) :=
  (Json.lookup (String.ofList (Text.trim name)) data).map fun v => v.text.toList

/-- What stands in place of a slot. -/
def filling (data : List (String × Json)) (name : List Char) : List Char :=
  (value? data name).getD ('{' :: '{' :: name ++ ['}', '}'])

/-- Fills the slots of a template. -/
def fill (data : List (String × Json)) : List Char → List Char
  | '{' :: '{' :: rest =>
      match _h : slot? rest with
      | some (name, after) => filling data name ++ fill data after
      | none => '{' :: fill data ('{' :: rest)
  | c :: rest => c :: fill data rest
  | [] => []
termination_by cs => cs.length
decreasing_by
  all_goals simp_wf
  have := slot?_length _h
  omega

/-- Fills the slots of a template; without data it stays as it is. -/
def interpolate (template : String) (data : List (String × Json)) : String :=
  if data.isEmpty then template else String.ofList (fill data template.toList)

end EnvLint.Template
