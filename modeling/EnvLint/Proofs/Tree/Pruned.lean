import EnvLint.Proofs.Repetition
import EnvLint.Proofs.Tree.Traversal

/-! # Pruned trees

    Most fields of a node are never looked at: ranges, tokens, comments, type
    annotations.  `prune` deletes them in every node that a walk reaches.  What
    is left is the fields that hold children and a few that are inspected
    wherever they stand.

    * `get?_prune`: which fields of a pruned node are left, and what they hold;
    * `childKeys_prune`, `children_prune`: a pruned node has the pruned children
      of the node, in the same order, also where its own fields give that order;
    * `events_prune`: so the walk of a pruned tree makes the same visits, to
      pruned nodes. -/

namespace EnvLint.Tree

/-! ## Pruning -/

/-- Fields that are looked at although they need not hold children. -/
def inspectedKeys : List String := ["type", "loc", "name", "value", "computed", "id", "init"]

/-- Whether a field of a node is kept. -/
def IsKept (n : Json) (key : String) : Prop := key ∈ childKeys n ∨ key ∈ inspectedKeys

instance (n : Json) (key : String) : Decidable (IsKept n key) :=
  inferInstanceAs (Decidable (_ ∨ _))

mutual

/-- A node without the fields that nothing looks at; a value that is no node stays
    as it is. -/
def prune : Json → Json
  | .obj fields =>
      if isNode (.obj fields) then .obj (pruneFields (childKeys (.obj fields)) fields)
      else .obj fields
  | v => v

/-- The fields of a node that are kept, given its child fields; what a child field
    holds is pruned in turn, a list item by item. -/
def pruneFields (keys : List String) : List (String × Json) → List (String × Json)
  | [] => []
  | (key, v) :: rest =>
      if key ∈ keys then
        (key, match v with
          | .arr items => .arr (pruneItems items)
          | v => prune v) :: pruneFields keys rest
      else if key ∈ inspectedKeys then (key, v) :: pruneFields keys rest
      else pruneFields keys rest

/-- The items of a list that a child field holds. -/
def pruneItems : List Json → List Json
  | [] => []
  | v :: rest => prune v :: pruneItems rest

end

/-- What a child field holds, pruned: a list is pruned item by item. -/
def pruneHeld : Json → Json
  | .arr items => .arr (items.map prune)
  | v => prune v

theorem pruneItems_eq_map (items : List Json) : pruneItems items = items.map prune := by
  induction items with
  | nil => rw [pruneItems, List.map_nil]
  | cons v rest ih => rw [pruneItems, ih, List.map_cons]

/-- What becomes of a field: its nodes are pruned if it holds children, it stays if it is
    inspected, and it is dropped otherwise. -/
theorem pruneFields_cons (keys : List String) (key : String) (v : Json)
    (rest : List (String × Json)) :
    pruneFields keys ((key, v) :: rest) =
      if key ∈ keys then (key, pruneHeld v) :: pruneFields keys rest
      else if key ∈ inspectedKeys then (key, v) :: pruneFields keys rest
      else pruneFields keys rest := by
  cases v with
  | arr items => rw [pruneFields, pruneItems_eq_map, pruneHeld]
  | null | bool | int | float | str | obj => rfl

/-- What is no node stays as it is. -/
theorem prune_of_not_isNode {v : Json} (h : isNode v = false) : prune v = v := by
  cases v with
  | obj fields => rw [prune, h, if_neg Bool.false_ne_true]
  | null | bool | int | float | str | arr => rfl

theorem prune_of_isNode {fields : List (String × Json)} (h : isNode (.obj fields) = true) :
    prune (.obj fields) = .obj (pruneFields (childKeys (.obj fields)) fields) := by
  rw [prune, if_pos h]

/-- Only objects are nodes. -/
theorem exists_fields_of_isNode {v : Json} (h : isNode v = true) : ∃ fields, v = .obj fields := by
  cases v with
  | obj fields => exact ⟨fields, rfl⟩
  | null | bool | int | float | str | arr => exact Bool.noConfusion h

/-- An object stays an object. -/
theorem exists_pruneHeld_obj (fields : List (String × Json)) :
    ∃ kept, pruneHeld (.obj fields) = .obj kept := by
  by_cases h : isNode (.obj fields) = true
  · exact ⟨_, prune_of_isNode h⟩
  · exact ⟨_, prune_of_not_isNode (Bool.eq_false_iff.mpr h)⟩

/-! ## Fields of a pruned node -/

/-- The keys that are left are the kept ones, in order. -/
theorem map_fst_pruneFields (keys : List String) (fields : List (String × Json)) :
    (pruneFields keys fields).map Prod.fst
      = (fields.map Prod.fst).filter fun key => decide (key ∈ keys ∨ key ∈ inspectedKeys) := by
  induction fields with
  | nil => rfl
  | cons field fields ih =>
      obtain ⟨key, v⟩ := field
      rw [pruneFields_cons, List.map_cons, List.filter_cons, ← ih]
      by_cases hchild : key ∈ keys
      · simp [hchild]
      · by_cases hinspected : key ∈ inspectedKeys
        · simp [hchild, hinspected]
        · simp [hchild, hinspected]

theorem lookup_cons (key other : String) (v : Json) (rest : List (String × Json)) :
    Json.lookup key ((other, v) :: rest) =
      if other = key then some v else Json.lookup key rest := by
  by_cases h : other = key
  · simp [Json.lookup, h]
  · simp [Json.lookup, h]

/-- A child field is pruned, another kept field stays, and any other is deleted. -/
theorem lookup_pruneFields (keys : List String) (fields : List (String × Json)) (key : String) :
    Json.lookup key (pruneFields keys fields) =
      if key ∈ keys then (Json.lookup key fields).map pruneHeld
      else if key ∈ inspectedKeys then Json.lookup key fields
      else none := by
  induction fields with
  | nil => simp [pruneFields, Json.lookup]
  | cons field fields ih =>
      obtain ⟨other, v⟩ := field
      rw [pruneFields_cons, lookup_cons]
      by_cases hkey : other = key
      · subst hkey
        by_cases hchild : other ∈ keys
        · simp [hchild, lookup_cons]
        · by_cases hinspected : other ∈ inspectedKeys
          · simp [hchild, hinspected, lookup_cons]
          · simp [hchild, hinspected, ih]
      · rw [if_neg hkey, ← ih]
        by_cases hchild : other ∈ keys
        · simp [hchild, lookup_cons, hkey]
        · by_cases hinspected : other ∈ inspectedKeys
          · simp [hchild, hinspected, lookup_cons, hkey]
          · simp [hchild, hinspected]

/-- A child field of a pruned node is pruned, another kept field stays, and any other
    is deleted. -/
theorem get?_prune {n : Json} (h : isNode n = true) (key : String) :
    (prune n).get? key =
      if key ∈ childKeys n then (n.get? key).map pruneHeld
      else if key ∈ inspectedKeys then n.get? key
      else none := by
  obtain ⟨fields, rfl⟩ := exists_fields_of_isNode h
  rw [prune_of_isNode h]
  exact lookup_pruneFields _ fields key

/-- No row of the table names a field that never holds children. -/
theorem not_mem_nonChildKeys_of_mem_table :
    ∀ row ∈ childKeyTable, ∀ key ∈ row.2, key ∉ nonChildKeys := by
  decide

/-- Fields that never hold children are no child fields. -/
theorem not_mem_childKeys {key : String} (h : key ∈ nonChildKeys) (n : Json) :
    key ∉ childKeys n := by
  intro hmem
  rw [childKeys] at hmem
  split at hmem
  next keys hkeys =>
    obtain ⟨type, -, hknown⟩ := Option.bind_eq_some_iff.mp hkeys
    obtain ⟨row, hfind, rfl⟩ := Option.map_eq_some_iff.mp hknown
    exact not_mem_nonChildKeys_of_mem_table row (List.mem_of_find?_eq_some hfind) key hmem h
  next =>
    rw [ownChildKeys, List.mem_filter] at hmem
    simp [h] at hmem

/-- Type and position of a node are never pruned. -/
theorem get?_prune_of_mem {key : String} (hnever : key ∈ nonChildKeys)
    (hinspected : key ∈ inspectedKeys) (v : Json) : (prune v).get? key = v.get? key := by
  by_cases hnode : isNode v = true
  · rw [get?_prune hnode, if_neg (not_mem_childKeys hnever v), if_pos hinspected]
  · rw [prune_of_not_isNode (by simpa using hnode)]

theorem get?_type_prune (v : Json) : (prune v).get? "type" = v.get? "type" :=
  get?_prune_of_mem (by decide) (by decide) v

theorem get?_loc_prune (v : Json) : (prune v).get? "loc" = v.get? "loc" :=
  get?_prune_of_mem (by decide) (by decide) v

@[simp] theorem typeOf?_prune (v : Json) : typeOf? (prune v) = typeOf? v := by
  rw [typeOf?, typeOf?, get?_type_prune]

@[simp] theorem hasType_prune (v : Json) (name : String) :
    hasType (prune v) name = hasType v name := by
  rw [hasType, hasType, typeOf?_prune]

@[simp] theorem isNode_prune (v : Json) : isNode (prune v) = isNode v := by
  rw [isNode, isNode, typeOf?_prune]

/-! ## Children of a pruned node -/

/-- A pruned node has the child fields of the node. -/
theorem childKeys_prune (n : Json) : childKeys (prune n) = childKeys n := by
  by_cases hnode : isNode n = true
  · cases hknown : (typeOf? n).bind knownChildKeys with
    | some keys => simp [childKeys, hknown]
    | none =>
        obtain ⟨fields, rfl⟩ := exists_fields_of_isNode hnode
        have hkeys : childKeys (.obj fields) = ownChildKeys (.obj fields) := by
          rw [childKeys, hknown]
        have hpruned : childKeys (prune (.obj fields)) = ownChildKeys (prune (.obj fields)) := by
          rw [childKeys, typeOf?_prune, hknown]
        rw [hpruned, prune_of_isNode hnode, ownChildKeys, fieldsOf, map_fst_pruneFields,
          eraseDups_filter, List.filter_filter, hkeys, ownChildKeys, fieldsOf]
        -- a field that may hold children is a child field, so it was kept
        refine List.filter_congr ?_
        intro key hmem
        by_cases hnever : key ∈ nonChildKeys
        · simp [hnever]
        · have hown : key ∈ ownChildKeys (.obj fields) :=
            List.mem_filter.mpr ⟨hmem, by simpa using hnever⟩
          rw [ownChildKeys, fieldsOf] at hown
          simp only [hown, true_or, decide_true, Bool.and_true]
  · rw [prune_of_not_isNode (by simpa using hnode)]

/-- The nodes that a pruned value holds are the pruned ones. -/
theorem nodesIn_pruneHeld (v : Json) : nodesIn (pruneHeld v) = (nodesIn v).map prune := by
  cases v with
  | arr items =>
      rw [pruneHeld, nodesIn, nodesIn, List.filter_map]
      simp only [Function.comp_def, isNode_prune]
  | obj fields =>
      by_cases hnode : isNode (.obj fields) = true
      · have hpruned := hnode
        rw [← isNode_prune, prune_of_isNode hnode] at hpruned
        simp [pruneHeld, prune_of_isNode hnode, nodesIn, hnode, hpruned]
      · simp [pruneHeld, prune_of_not_isNode (Bool.eq_false_iff.mpr hnode), nodesIn, hnode]
  | null | bool | int | float | str => rfl

/-- The children of a pruned node are the pruned children. -/
theorem children_prune {n : Json} (h : isNode n = true) :
    children (prune n) = (children n).map prune := by
  rw [children, children, childKeys_prune, List.map_flatMap]
  refine List.flatMap_congr ?_
  intro key hkey
  rw [nodesUnder, nodesUnder, get?_prune h, if_pos hkey]
  cases n.get? key with
  | none => rfl
  | some v => exact nodesIn_pruneHeld v

/-- A value holds nodes only. -/
theorem isNode_of_mem_nodesIn {v c : Json} (h : c ∈ nodesIn v) : isNode c = true := by
  rw [nodesIn.eq_def] at h
  split at h
  next items => exact (List.mem_filter.mp h).2
  next =>
    split at h
    next hnode =>
      rw [List.mem_singleton.mp h]
      exact hnode
    next => exact absurd h List.not_mem_nil

/-- Children are nodes. -/
theorem isNode_of_mem_children {n c : Json} (h : c ∈ children n) : isNode c = true := by
  obtain ⟨key, -, hunder⟩ := List.mem_flatMap.mp h
  rw [nodesUnder] at hunder
  cases hget : n.get? key with
  | none =>
      rw [hget] at hunder
      exact absurd hunder List.not_mem_nil
  | some v =>
      rw [hget] at hunder
      exact isNode_of_mem_nodesIn hunder

/-! ## The walk of a pruned tree -/

/-- The same visit in the pruned tree. -/
def Visit.prune (visit : Visit) : Visit := ⟨visit.phase, Tree.prune visit.node⟩

/-- What a visit shows of itself: its phase and the type of its node. -/
def Visit.label (visit : Visit) : Phase × Option String := (visit.phase, typeOf? visit.node)

@[simp] theorem Visit.label_prune (visit : Visit) : visit.prune.label = visit.label := by
  rw [label, label, Visit.prune, typeOf?_prune]

/-- The traversal of a pruned node makes the same visits, to pruned nodes. -/
theorem events_prune {n : Json} (h : isNode n = true) :
    events (prune n) = (events n).map Visit.prune := by
  induction n using children_induction with
  | step n ih =>
      have hchildren : (children (prune n)).flatMap events
          = ((children n).flatMap events).map Visit.prune := by
        rw [children_prune h, List.flatMap_map, List.map_flatMap]
        refine List.flatMap_congr ?_
        intro c hc
        exact ih c hc (isNode_of_mem_children hc)
      rw [events_eq, events_eq, hchildren, List.map_cons, List.map_append]
      rfl

/-- The nodes of a pruned tree are the pruned nodes. -/
theorem nodes_prune {n : Json} (h : isNode n = true) : nodes (prune n) = (nodes n).map prune := by
  rw [← flatMap_entered_events, ← flatMap_entered_events, events_prune h, List.flatMap_map,
    List.map_flatMap]
  refine List.flatMap_congr ?_
  rintro ⟨phase, c⟩ -
  cases phase with
  | enter => rfl
  | leave => rfl

/-- The walk of a pruned tree makes the same visits, to pruned nodes; a root that is
    no node has no walk, and pruning does not touch it. -/
theorem walk_prune (root : Json) :
    walk (prune root) = (walk root).map (List.map Visit.prune) := by
  by_cases hnode : isNode root = true
  · have hpruned : isNode (prune root) = true := by
      rw [isNode_prune, hnode]
    rw [walk_eq_ok_events hnode, walk_eq_ok_events hpruned, events_prune hnode]
    rfl
  · have hnot : isNode root = false := Bool.eq_false_iff.mpr hnode
    rw [prune_of_not_isNode hnot, walk_eq_error hnot]
    rfl

/-- The walk of a pruned tree shows the same phases and types. -/
theorem map_label_walk_prune (root : Json) :
    (walk (prune root)).map (List.map Visit.label) = (walk root).map (List.map Visit.label) := by
  rw [walk_prune]
  cases walk root with
  | error fault => rfl
  | ok visits =>
      show Except.ok ((visits.map Visit.prune).map Visit.label)
        = Except.ok (visits.map Visit.label)
      rw [List.map_map]
      simp only [Function.comp_def, Visit.label_prune]

/-- In each node, pruning deletes exactly the fields that are not kept. -/
theorem map_fst_fieldsOf_prune {n : Json} (h : isNode n = true) :
    (fieldsOf (prune n)).map Prod.fst
      = ((fieldsOf n).map Prod.fst).filter fun key => decide (IsKept n key) := by
  obtain ⟨fields, rfl⟩ := exists_fields_of_isNode h
  rw [prune_of_isNode h]
  exact map_fst_pruneFields _ fields

end EnvLint.Tree
