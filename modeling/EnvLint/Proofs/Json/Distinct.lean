import EnvLint.Json.Decode
import EnvLint.Proofs.Dictionary
import EnvLint.Proofs.Outcome

/-! # Keys of decoded documents

    A key that an object repeats is merged when the object is read, so in a
    decoded document the keys of every object are distinct (`distinct_decode`).
    The induction is on the fuel of the three readers at once, since each of them
    calls another with less. -/

namespace EnvLint.Json

/-- Documents in which the keys of every object are distinct. -/
inductive Distinct : Json → Prop where
  | null : Distinct .null
  | bool (b : Bool) : Distinct (.bool b)
  | int (n : Int) : Distinct (.int n)
  | float (x : Decimal.Binary64) : Distinct (.float x)
  | str (s : String) : Distinct (.str s)
  | arr {items : List Json} (hitems : ∀ v ∈ items, Distinct v) : Distinct (.arr items)
  | obj {fields : List (String × Json)} (hkeys : (fields.map Prod.fst).Nodup)
      (hfields : ∀ f ∈ fields, Distinct f.2) : Distinct (.obj fields)

/-! ## Merged fields -/

/-- The fields of an object are a dictionary, in which a field is looked up. -/
theorem lookup_eq_valueOf (key : String) (fields : List (String × Json)) :
    lookup key fields = valueOf fields key := rfl

/-- Setting a field assigns its name. -/
theorem setField_eq_assign (fields : List (String × Json)) (key : String) (v : Json) :
    setField fields key v = assign fields key v := by
  induction fields with
  | nil => rfl
  | cons f fields ih => rw [setField, assign, ih]

/-- Fields merged into an object one by one leave its keys distinct. -/
theorem distinct_foldl_setField {before written : List (String × Json)}
    (hbefore : Distinct (.obj before)) (hwritten : ∀ f ∈ written, Distinct f.2) :
    Distinct (.obj (written.foldl (fun fields f => setField fields f.1 f.2) before)) := by
  induction written generalizing before with
  | nil => exact hbefore
  | cons f written ih =>
      rw [List.forall_mem_cons] at hwritten
      refine ih ?_ hwritten.2
      cases hbefore with
      | obj hkeys hfields =>
          show Distinct (.obj (setField before f.1 f.2))
          rw [setField_eq_assign]
          refine .obj (nodup_assign hkeys _ _) ?_
          intro g hg
          rcases mem_assign hg with rfl | hold
          · exact hwritten.1
          · exact hfields g hold

/-- An object that is read has distinct keys if its fields do below. -/
theorem distinct_mergeFields {written : List (String × Json)}
    (h : ∀ f ∈ written, Distinct f.2) : Distinct (.obj (mergeFields written)) :=
  distinct_foldl_setField (.obj List.nodup_nil (List.forall_mem_nil _)) h

/-! ## Readers -/

theorem distinct_readMagnitude {start cs rest : List Char} {negative : Bool} {v : Json}
    (h : readMagnitude start negative cs = .ok (v, rest)) : Distinct v := by
  rw [readMagnitude] at h
  split at h
  · cases h
  · split at h
    · split at h
      · cases h
      · cases h
        exact .int _
    · cases h
      exact .float _

theorem distinct_of_mem_constants {c : String × Json} (h : c ∈ constants) : Distinct c.2 := by
  simp only [constants, List.mem_cons, List.not_mem_nil, or_false] at h
  rcases h with rfl | rfl | rfl | rfl | rfl | rfl
  · exact .null
  · exact .bool true
  · exact .bool false
  · exact .float _
  · exact .float _
  · exact .float _

/-- Constants and numbers have no keys. -/
theorem distinct_readScalar {cs rest : List Char} {v : Json}
    (h : readScalar cs = .ok (v, rest)) : Distinct v := by
  rw [readScalar.eq_def] at h
  split at h
  next found hfound =>
    cases h
    obtain ⟨word, hword, hread⟩ := List.exists_of_findSome?_eq_some hfound
    rw [readWord] at hread
    split at hread
    · cases hread
      exact distinct_of_mem_constants hword
    · cases hread
  next =>
    split at h
    · exact distinct_readMagnitude h
    · exact distinct_readMagnitude h

/-- What the three readers read with some fuel is distinct. -/
structure ReadsDistinct (fuel : Nat) : Prop where
  value : ∀ {cs rest v}, readValue fuel cs = .ok (v, rest) → Distinct v
  items : ∀ {cs rest vs}, readItems fuel cs = .ok (vs, rest) → ∀ v ∈ vs, Distinct v
  fields : ∀ {cs rest fs}, readFields fuel cs = .ok (fs, rest) → ∀ f ∈ fs, Distinct f.2

/-- With one unit of fuel more, values read have distinct keys: the parts were read with
    less. -/
theorem ReadsDistinct.value_succ {fuel : Nat} (ih : ReadsDistinct fuel) {cs rest : List Char}
    {v : Json} (h : readValue (fuel + 1) cs = .ok (v, rest)) : Distinct v := by
  cases cs with
  | nil =>
      rw [readValue] at h
      · cases h
      · intro hzero
        cases hzero
  | cons c cs =>
      rw [readValue] at h
      split at h
      · obtain ⟨⟨s, after⟩, -, h⟩ := bind_eq_ok_iff.mp h
        cases h
        exact .str _
      · split at h
        · split at h
          · cases h
            exact .arr (List.forall_mem_nil _)
          · obtain ⟨⟨items, after⟩, hitems, h⟩ := bind_eq_ok_iff.mp h
            cases h
            exact .arr (ih.items hitems)
        · split at h
          · split at h
            · cases h
              exact .obj List.nodup_nil (List.forall_mem_nil _)
            · obtain ⟨⟨fields, after⟩, hfields, h⟩ := bind_eq_ok_iff.mp h
              cases h
              exact distinct_mergeFields (ih.fields hfields)
          · exact distinct_readScalar h

/-- With one unit of fuel more, the items of a list have distinct keys. -/
theorem ReadsDistinct.items_succ {fuel : Nat} (ih : ReadsDistinct fuel) {cs rest : List Char}
    {vs : List Json} (h : readItems (fuel + 1) cs = .ok (vs, rest)) : ∀ v ∈ vs, Distinct v := by
  rw [readItems] at h
  obtain ⟨⟨v, after⟩, hv, h⟩ := bind_eq_ok_iff.mp h
  dsimp only at h
  split at h
  · cases h
    exact List.forall_mem_singleton.mpr (ih.value hv)
  · obtain ⟨⟨vs, after⟩, hvs, h⟩ := bind_eq_ok_iff.mp h
    cases h
    exact List.forall_mem_cons.mpr ⟨ih.value hv, ih.items hvs⟩
  · cases h

/-- With one unit of fuel more, the values of written fields have distinct keys; that the
    fields have is a matter of merging them. -/
theorem ReadsDistinct.fields_succ {fuel : Nat} (ih : ReadsDistinct fuel) {cs rest : List Char}
    {fs : List (String × Json)} (h : readFields (fuel + 1) cs = .ok (fs, rest)) :
    ∀ f ∈ fs, Distinct f.2 := by
  rw [readFields.eq_def] at h
  split at h
  next _ cs heq =>
    cases heq
    obtain ⟨⟨k, after⟩, -, h⟩ := bind_eq_ok_iff.mp h
    dsimp only at h
    split at h
    · obtain ⟨⟨v, after⟩, hv, h⟩ := bind_eq_ok_iff.mp h
      dsimp only at h
      split at h
      · cases h
        exact List.forall_mem_singleton.mpr (ih.value hv)
      · obtain ⟨⟨fs, after⟩, hfs, h⟩ := bind_eq_ok_iff.mp h
        cases h
        exact List.forall_mem_cons.mpr ⟨ih.value hv, ih.fields hfs⟩
      · cases h
    · cases h
  next => cases h

/-- The three readers give distinct keys with any fuel. -/
theorem readsDistinct (fuel : Nat) : ReadsDistinct fuel := by
  induction fuel with
  | zero =>
      refine ⟨?_, ?_, ?_⟩
      · intro cs rest v h
        rw [readValue] at h
        cases h
      · intro cs rest vs h
        rw [readItems] at h
        cases h
      · intro cs rest fs h
        rw [readFields] at h
        · cases h
        · rintro _ _ ⟨⟩
  | succ fuel ih => exact ⟨ih.value_succ, ih.items_succ, ih.fields_succ⟩

/-- In a decoded document the keys of every object are distinct. -/
theorem distinct_decode {text : String} {v : Json} (h : decode text = .ok v) : Distinct v := by
  rw [decode] at h
  split at h
  next hread =>
    cases h
    rw [readDocument.eq_def] at hread
    split at hread
    · cases hread
    · obtain ⟨⟨v, rest⟩, hv, hread⟩ := bind_eq_ok_iff.mp hread
      dsimp only at hread
      split at hread
      · cases hread
        exact (readsDistinct _).value hv
      · cases hread
  next => cases h

end EnvLint.Json
