import Mathlib.Data.List.Nodup

/-! # Dictionaries

    The entries of a directory, the fields of an object and the rules of a
    configuration are dictionaries: lists of named values, in which a known name
    is changed in its place and a new one goes to the end.  What holds of all of
    them is said here of `valueOf` and `assign`, of which each is a case. -/

namespace EnvLint

variable {α : Type}

/-- The value of a name. -/
def valueOf (items : List (String × α)) (name : String) : Option α :=
  (items.find? fun item => item.1 == name).map Prod.snd

/-- Gives a name a value. -/
def assign (items : List (String × α)) (name : String) (value : α) : List (String × α) :=
  match items with
  | [] => [(name, value)]
  | item :: rest =>
      if item.1 == name then (name, value) :: rest else item :: assign rest name value

/-! ## Values -/

theorem valueOf_cons (item : String × α) (rest : List (String × α)) (name : String) :
    valueOf (item :: rest) name = if item.1 = name then some item.2 else valueOf rest name := by
  by_cases h : item.1 = name
  · simp [valueOf, h]
  · simp [valueOf, h]

theorem assign_cons (item : String × α) (rest : List (String × α)) (name : String) (value : α) :
    assign (item :: rest) name value =
      if item.1 = name then (name, value) :: rest else item :: assign rest name value := by
  by_cases h : item.1 = name
  · simp [assign, h]
  · simp [assign, h]

/-- Just the names that stand nowhere have no value. -/
theorem valueOf_eq_none_iff {items : List (String × α)} {name : String} :
    valueOf items name = none ↔ name ∉ items.map Prod.fst := by
  induction items with
  | nil => simp [valueOf]
  | cons item rest ih =>
      rw [valueOf_cons, List.map_cons, List.mem_cons, not_or]
      by_cases h : item.1 = name
      · simp [h]
      · rw [if_neg h, ih]
        exact (and_iff_right (Ne.symm h)).symm

/-- A value that is found stands in the list under its name. -/
theorem mem_of_valueOf {items : List (String × α)} {name : String} {value : α}
    (h : valueOf items name = some value) : (name, value) ∈ items := by
  obtain ⟨item, hitem, rfl⟩ := Option.map_eq_some_iff.mp h
  have hname : item.1 = name := by simpa using List.find?_some hitem
  rw [← hname]
  exact List.mem_of_find?_eq_some hitem

/-- Under distinct names, what stands in the list is what is found. -/
theorem valueOf_of_mem {items : List (String × α)} (hnames : (items.map Prod.fst).Nodup)
    {name : String} {value : α} (h : (name, value) ∈ items) : valueOf items name = some value := by
  induction items with
  | nil => cases h
  | cons item rest ih =>
      rw [List.map_cons, List.nodup_cons] at hnames
      rw [valueOf_cons]
      rcases List.mem_cons.mp h with rfl | hlater
      · rw [if_pos rfl]
      · have hne : item.1 ≠ name := by
          rintro rfl
          exact hnames.1 (List.mem_map.mpr ⟨_, hlater, rfl⟩)
        rw [if_neg hne]
        exact ih hnames.2 hlater

/-- Assigning gives one name its value and leaves every other name what it had. -/
theorem valueOf_assign (items : List (String × α)) (name other : String) (value : α) :
    valueOf (assign items name value) other =
      if name = other then some value else valueOf items other := by
  induction items with
  | nil => exact valueOf_cons (name, value) [] other
  | cons item rest ih =>
      rw [assign_cons, valueOf_cons item]
      by_cases h : item.1 = name
      · rw [if_pos h, valueOf_cons, h]
        by_cases hother : name = other
        · rw [if_pos hother, if_pos hother]
        · rw [if_neg hother, if_neg hother, if_neg hother]
      · rw [if_neg h, valueOf_cons, ih]
        by_cases hother : item.1 = other
        · rw [if_pos hother, if_pos hother, if_neg]
          rintro rfl
          exact h hother
        · rw [if_neg hother, if_neg hother]

/-- A value that is given already changes nothing. -/
theorem assign_of_valueOf {items : List (String × α)} {name : String} {value : α}
    (h : valueOf items name = some value) : assign items name value = items := by
  induction items with
  | nil => cases h
  | cons item rest ih =>
      rw [valueOf_cons] at h
      rw [assign_cons]
      by_cases hname : item.1 = name
      · rw [if_pos hname] at h
        cases h
        rw [if_pos hname, ← hname]
      · rw [if_neg hname] at h
        rw [if_neg hname, ih h]

/-! ## Other names -/

/-- Assigning brings in one item and no other. -/
theorem mem_assign {items : List (String × α)} {name : String} {value : α} {item : String × α}
    (h : item ∈ assign items name value) : item = (name, value) ∨ item ∈ items := by
  induction items with
  | nil => exact Or.inl (List.mem_singleton.mp h)
  | cons first rest ih =>
      rw [assign_cons] at h
      by_cases hname : first.1 = name
      · rw [if_pos hname] at h
        exact (List.mem_cons.mp h).imp_right (List.mem_cons_of_mem first)
      · rw [if_neg hname] at h
        rcases List.mem_cons.mp h with rfl | hrest
        · exact Or.inr List.mem_cons_self
        · exact (ih hrest).imp_right (List.mem_cons_of_mem first)

/-- Distinct names stay distinct. -/
theorem nodup_assign {items : List (String × α)} (h : (items.map Prod.fst).Nodup)
    (name : String) (value : α) : ((assign items name value).map Prod.fst).Nodup := by
  induction items with
  | nil => exact List.nodup_singleton name
  | cons item rest ih =>
      obtain ⟨hnew, hrest⟩ := List.nodup_cons.mp h
      rw [assign_cons]
      by_cases hname : item.1 = name
      · rw [if_pos hname, List.map_cons]
        exact List.nodup_cons.mpr ⟨hname ▸ hnew, hrest⟩
      · rw [if_neg hname, List.map_cons]
        refine List.nodup_cons.mpr ⟨?_, ih hrest⟩
        intro hmem
        obtain ⟨other, hother, heq⟩ := List.mem_map.mp hmem
        rcases mem_assign hother with rfl | hold
        · exact hname heq.symm
        · exact hnew (List.mem_map.mpr ⟨other, hold, heq⟩)

/-- The other names keep their values and their order. -/
theorem filter_assign (items : List (String × α)) (name : String) (value : α) :
    (assign items name value).filter (fun item => item.1 != name)
      = items.filter fun item => item.1 != name := by
  induction items with
  | nil => simp [assign]
  | cons item rest ih =>
      rw [assign_cons]
      by_cases hname : item.1 = name
      · simp [hname]
      · rw [if_neg hname, List.filter_cons, List.filter_cons, ih]

end EnvLint
