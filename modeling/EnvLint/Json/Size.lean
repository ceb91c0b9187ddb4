import EnvLint.Json.Basic

/-! # Size of a document

    The number of values in a document, itself included: a bound on every walk
    that visits each value at most once. -/

namespace EnvLint.Json

mutual

/-- Number of values in a document, itself included. -/
def size : Json → Nat
  | .arr items => 1 + sizeItems items
  | .obj fields => 1 + sizeFields fields
  | _ => 1

/-- Number of values in a list of documents. -/
def sizeItems : List Json → Nat
  | [] => 0
  | v :: vs => v.size + sizeItems vs

/-- Number of values in a list of fields. -/
def sizeFields : List (String × Json) → Nat
  | [] => 0
  | (_, v) :: fs => v.size + sizeFields fs

end

mutual

/-- The whole numbers in a document, in order. -/
def integers : Json → List Int
  | .int n => [n]
  | .arr items => integersOfItems items
  | .obj fields => integersOfFields fields
  | _ => []

/-- The whole numbers in a list of documents. -/
def integersOfItems : List Json → List Int
  | [] => []
  | v :: vs => v.integers ++ integersOfItems vs

/-- The whole numbers in a list of fields. -/
def integersOfFields : List (String × Json) → List Int
  | [] => []
  | (_, v) :: fs => v.integers ++ integersOfFields fs

end

theorem size_pos (v : Json) : 0 < v.size := by
  cases v <;> simp only [size] <;> omega

theorem sizeItems_append (items more : List Json) :
    sizeItems (items ++ more) = sizeItems items + sizeItems more := by
  induction items with
  | nil => rw [List.nil_append, sizeItems, Nat.zero_add]
  | cons v items ih => rw [List.cons_append, sizeItems, sizeItems, ih, Nat.add_assoc]

/-- Items that are left out make a list no larger. -/
theorem sizeItems_filter_le (p : Json → Bool) (items : List Json) :
    sizeItems (items.filter p) ≤ sizeItems items := by
  induction items with
  | nil => exact Nat.le_refl _
  | cons v items ih =>
      rw [List.filter_cons]
      by_cases hp : p v = true
      · rw [if_pos hp, sizeItems, sizeItems]
        exact Nat.add_le_add_left ih _
      · rw [if_neg hp, sizeItems]
        exact Nat.le_trans ih (Nat.le_add_left _ _)

/-- Number of values under a key; none if there is no such field. -/
def sizeUnder (fields : List (String × Json)) (key : String) : Nat :=
  ((lookup key fields).map size).getD 0

/-- The value under a key and the fields of other keys are parts of an object. -/
theorem sizeUnder_add_le (fields : List (String × Json)) (key : String) :
    sizeUnder fields key + sizeFields (fields.filter fun f => f.1 != key) ≤ sizeFields fields := by
  induction fields with
  | nil => exact Nat.le_refl _
  | cons field fields ih =>
      obtain ⟨k, v⟩ := field
      by_cases hk : k = key
      · have hunder : sizeUnder ((k, v) :: fields) key = v.size := by
          simp [sizeUnder, lookup, hk]
        have hfilter : ((k, v) :: fields).filter (fun f => f.1 != key)
            = fields.filter fun f => f.1 != key := by
          simp [hk]
        rw [hunder, hfilter, sizeFields]
        omega
      · have hunder : sizeUnder ((k, v) :: fields) key = sizeUnder fields key := by
          simp [sizeUnder, lookup, hk]
        have hfilter : ((k, v) :: fields).filter (fun f => f.1 != key)
            = (k, v) :: fields.filter fun f => f.1 != key := by
          simp [hk]
        rw [hunder, hfilter, sizeFields, sizeFields]
        omega

/-- A key is looked up the same when the fields of another key are left out. -/
theorem lookup_filter_ne {key other : String} (fields : List (String × Json))
    (h : other ≠ key) :
    lookup other (fields.filter fun f => f.1 != key) = lookup other fields := by
  have hpred : (fun f : String × Json => decide ((f.1 != key) = true ∧ (f.1 == other) = true))
      = fun f => f.1 == other := by
    funext f
    by_cases hf : f.1 = other
    · simp [hf, h]
    · simp [hf]
  rw [lookup, lookup, List.find?_filter, hpred]

end EnvLint.Json
