import EnvLint.Tree.Walk
import Mathlib.Data.List.Nodup

/-! # The walk is the recursive traversal

    The walk runs on a stack of pending visits.  This file compares it with the
    traversal that a reader has in mind: enter a node, traverse its children in
    order, leave the node.  The route:

    * `visits_eq_flatMap`: whatever is on the stack, the visits still to come
      are the traversals of the pending visits one after another;
    * `events_nested`: the visits of a traversal nest like brackets;
    * `tour_at`: with the address of every visit written beside it, each
      address that leads to a node is entered once and left once, and no other
      address is visited. -/

namespace EnvLint.Tree

/-! ## The recursive traversal -/

/-- The visits of a tree: enter the root, traverse its children, leave the root. -/
def events (n : Json) : List Visit :=
  ⟨.enter, n⟩ :: ((children n).attach.flatMap fun c => events c.1) ++ [⟨.leave, n⟩]
termination_by n.size
decreasing_by exact size_lt_of_mem_children c.2

/-- The nodes of a tree, each before the nodes below it. -/
def nodes (n : Json) : List Json :=
  n :: (children n).attach.flatMap fun c => nodes c.1
termination_by n.size
decreasing_by exact size_lt_of_mem_children c.2

/-- A node is entered before its children are visited and left after them. -/
theorem events_eq (n : Json) :
    events n = ⟨.enter, n⟩ :: ((children n).flatMap events ++ [⟨.leave, n⟩]) := by
  rw [events, List.flatMap_subtype (g := events) fun _ _ => rfl, List.unattach_attach,
    List.cons_append]

theorem nodes_eq (n : Json) : nodes n = n :: (children n).flatMap nodes := by
  rw [nodes, List.flatMap_subtype (g := nodes) fun _ _ => rfl, List.unattach_attach]

/-- What holds of a node once it holds of its children holds of every value. -/
theorem children_induction {motive : Json → Prop}
    (step : ∀ n, (∀ c ∈ children n, motive c) → motive n) (n : Json) : motive n := by
  induction hsize : n.size using Nat.strongRecOn generalizing n with
  | ind size ih =>
      refine step n ?_
      intro c hc
      exact ih c.size (hsize ▸ size_lt_of_mem_children hc) c rfl

/-! ## The stack -/

/-- What a pending visit stands for: the traversal of a node that is to be entered,
    or one visit that leaves a node. -/
def Visit.unfold (visit : Visit) : List Visit :=
  match visit.phase with
  | .enter => events visit.node
  | .leave => [visit]

/-- The visits from a stack are the traversals of what is pending, in order. -/
theorem visits_eq_flatMap (pending : List Visit) :
    visits pending = pending.flatMap Visit.unfold := by
  -- the induction follows the walk: each visit, then what it leaves on the stack
  induction pending using visits.induct with
  | case1 => rw [visits, List.flatMap_nil]
  | case2 visit pending ih =>
      obtain ⟨phase, n⟩ := visit
      rw [visits, ih, List.flatMap_cons]
      cases phase with
      | leave => rfl
      | enter =>
          -- the scheduled children are the middle of the node's own traversal
          have hunfold : (Visit.mk .enter n).unfold = events n := rfl
          have hschedule : (Visit.mk .enter n).schedule pending
              = (children n).map (Visit.mk .enter) ++ ⟨.leave, n⟩ :: pending := rfl
          have hchildren : ((children n).map (Visit.mk .enter)).flatMap Visit.unfold
              = (children n).flatMap events := by
            rw [List.flatMap_map]
            rfl
          have hleave : (Visit.mk .leave n).unfold = [⟨.leave, n⟩] := rfl
          rw [hunfold, hschedule, List.flatMap_append, hchildren, List.flatMap_cons, hleave,
            events_eq]
          simp

/-- The walk of a node makes the visits of the recursive traversal. -/
theorem walk_eq_ok_events {root : Json} (h : isNode root = true) :
    walk root = .ok (events root) := by
  obtain ⟨type, htype⟩ := Option.isSome_iff_exists.mp h
  have hvisits : visits [⟨.enter, root⟩] = events root := by
    rw [visits_eq_flatMap, List.flatMap_singleton]
    rfl
  rw [walk, typeOf, htype, hvisits]
  rfl

/-- What is no node cannot be walked. -/
theorem walk_eq_error {root : Json} (h : isNode root = false) :
    walk root = .error ⟨root.kind⟩ := by
  have htype : typeOf? root = none := by
    simpa [isNode] using h
  rw [walk, typeOf, htype]
  rfl

/-- The node that a visit enters. -/
def Visit.entered (visit : Visit) : List Json :=
  match visit.phase with
  | .enter => [visit.node]
  | .leave => []

/-- A traversal enters the nodes of the tree in order. -/
theorem flatMap_entered_events (n : Json) : (events n).flatMap Visit.entered = nodes n := by
  induction n using children_induction with
  | step n ih =>
      have hchildren : ((children n).flatMap events).flatMap Visit.entered
          = (children n).flatMap nodes := by
        rw [List.flatMap_assoc]
        exact List.flatMap_congr ih
      rw [events_eq, nodes_eq, List.flatMap_cons, List.flatMap_append, hchildren]
      show [n] ++ ((children n).flatMap nodes ++ []) = n :: (children n).flatMap nodes
      rw [List.append_nil, List.singleton_append]

/-! ## Brackets -/

/-- Visits that nest like brackets: each node that is entered is left again, after
    all that was entered in between. -/
inductive Nested : List Visit → Prop where
  | nil : Nested []
  | node (n : Json) {inside rest : List Visit} :
      Nested inside → Nested rest →
      Nested (⟨.enter, n⟩ :: inside ++ ⟨.leave, n⟩ :: rest)

/-- Nested visits one after the other are nested. -/
theorem Nested.append {xs ys : List Visit} (hx : Nested xs) (hy : Nested ys) :
    Nested (xs ++ ys) := by
  induction hx with
  | nil => exact hy
  | @node n inside rest hinside _ _ ihrest =>
      have h := Nested.node n hinside ihrest
      simpa using h

/-- A traversal nests like brackets. -/
theorem events_nested (n : Json) : Nested (events n) := by
  induction n using children_induction with
  | step n ih =>
      have hflat : ∀ cs : List Json, (∀ c ∈ cs, Nested (events c)) →
          Nested (cs.flatMap events) := by
        intro cs hcs
        induction cs with
        | nil => exact Nested.nil
        | cons c cs ihcs =>
            rw [List.flatMap_cons]
            refine Nested.append (hcs c (by simp)) (ihcs ?_)
            intro d hd
            exact hcs d (by simp [hd])
      have h := Nested.node n (hflat (children n) ih) Nested.nil
      rw [events_eq]
      simpa using h

/-- The last visit of a traversal leaves its root. -/
theorem events_getLast? (n : Json) : (events n).getLast? = some ⟨.leave, n⟩ := by
  rw [events_eq, ← List.cons_append, List.getLast?_concat]

/-! ## Addresses -/

/-- Where a child stands in its node: a field, and a place if the field holds a
    list. -/
structure Slot where
  /-- The field. -/
  key : String
  /-- The place in the list that the field holds. -/
  index : Option Nat
deriving DecidableEq, Repr

/-- The node at a place of a value: the value itself without a place, an item of a
    list with one. -/
def nodeIn (held : Json) (index : Option Nat) : Option Json :=
  match held, index with
  | .arr items, some i => items[i]?.filter isNode
  | .arr _, none => none
  | held, none => if isNode held then some held else none
  | _, some _ => none

/-- The child at a slot; only child fields have slots. -/
def childAt (n : Json) (slot : Slot) : Option Json :=
  if slot.key ∈ childKeys n then (n.get? slot.key).bind (nodeIn · slot.index) else none

/-- The node that is reached through slots from the root. -/
def nodeAt (root : Json) : List Slot → Option Json
  | [] => some root
  | slot :: address => (childAt root slot).bind (nodeAt · address)

/-- The nodes that a value holds, each with its place. -/
def placedIn : Json → List (Option Nat × Json)
  | .arr items => (items.zipIdx.filter fun e => isNode e.1).map fun e => (some e.2, e.1)
  | v => if isNode v then [(none, v)] else []

/-- The nodes under a key, each with its slot. -/
def slotsUnder (n : Json) (key : String) : List (Slot × Json) :=
  ((n.get? key).map fun held => (placedIn held).map fun e => (⟨key, e.1⟩, e.2)).getD []

/-- The children of a node, each with its slot. -/
def slots (n : Json) : List (Slot × Json) :=
  (childKeys n).flatMap (slotsUnder n)

/-- The nodes that a field holds, each with its place, are the nodes that it holds. -/
theorem map_snd_placedIn (held : Json) : (placedIn held).map Prod.snd = nodesIn held := by
  cases held with
  | arr items =>
      have hfilter : (items.zipIdx.filter fun e => isNode e.1).map Prod.fst
          = (items.zipIdx.map Prod.fst).filter isNode := by
        rw [List.filter_map]
        rfl
      rw [placedIn, nodesIn, List.map_map]
      show (items.zipIdx.filter fun e => isNode e.1).map Prod.fst = items.filter isNode
      rw [hfilter, List.zipIdx_map_fst]
  | null | bool | int | float | str | obj =>
      simp only [placedIn, nodesIn]
      split <;> rfl

/-- A value holds a node at a place. -/
theorem mem_placedIn {held c : Json} {index : Option Nat} :
    (index, c) ∈ placedIn held ↔ nodeIn held index = some c := by
  cases held with
  | arr items =>
      cases index with
      | none => simp [placedIn, nodeIn]
      | some i =>
          -- in a list the index counts all items, those that are no nodes included
          simp only [placedIn, nodeIn, List.mem_map, List.mem_filter, Option.filter_eq_some_iff,
            List.mem_zipIdx_iff_getElem?]
          constructor
          · rintro ⟨⟨x, j⟩, ⟨hget, hnode⟩, heq⟩
            cases heq
            exact ⟨hget, hnode⟩
          · rintro ⟨hget, hnode⟩
            exact ⟨(c, i), ⟨hget, hnode⟩, rfl⟩
  | null | bool | int | float | str | obj =>
      simp only [placedIn]
      cases index with
      | none =>
          simp only [nodeIn]
          split
          · simp [eq_comm]
          · simp
      | some i =>
          simp only [nodeIn]
          split <;> simp

/-- No two nodes of a field have the same place. -/
theorem nodup_placedIn (held : Json) : ((placedIn held).map Prod.fst).Nodup := by
  cases held with
  | arr items =>
      have hindex : (items.zipIdx.map Prod.snd).Nodup := by
        rw [List.zipIdx_map_snd]
        exact List.nodup_range'
      have hkept : ((items.zipIdx.filter fun e => isNode e.1).map Prod.snd).Nodup :=
        hindex.sublist (List.filter_sublist.map _)
      have hsome := hkept.map fun _ _ => Option.some.inj
      rw [List.map_map] at hsome
      rw [placedIn, List.map_map]
      exact hsome
  | null | bool | int | float | str | obj =>
      simp only [placedIn]
      split <;> simp

/-- The slots under a key are those of the nodes under it. -/
theorem map_snd_slotsUnder (n : Json) (key : String) :
    (slotsUnder n key).map Prod.snd = nodesUnder n key := by
  rw [slotsUnder, nodesUnder]
  cases n.get? key with
  | none => rfl
  | some held =>
      show ((placedIn held).map fun e => (Slot.mk key e.1, e.2)).map Prod.snd = nodesIn held
      rw [List.map_map, ← map_snd_placedIn]
      rfl

/-- The slots of a node are those of its children. -/
theorem map_snd_slots (n : Json) : (slots n).map Prod.snd = children n := by
  rw [slots, children, List.map_flatMap]
  exact congrArg (List.flatMap · (childKeys n)) (funext (map_snd_slotsUnder n))

/-- The slots under a key are those of its field. -/
theorem mem_slotsUnder {n c : Json} {key : String} {slot : Slot} :
    (slot, c) ∈ slotsUnder n key ↔
      slot.key = key ∧ (n.get? key).bind (nodeIn · slot.index) = some c := by
  rw [slotsUnder]
  cases n.get? key with
  | none => simp
  | some held =>
      show (slot, c) ∈ (placedIn held).map (fun e => (Slot.mk key e.1, e.2)) ↔
        slot.key = key ∧ nodeIn held slot.index = some c
      rw [List.mem_map]
      constructor
      · rintro ⟨⟨index, d⟩, hmem, heq⟩
        cases heq
        exact ⟨rfl, mem_placedIn.mp hmem⟩
      · rintro ⟨rfl, hnode⟩
        exact ⟨(slot.index, c), mem_placedIn.mpr hnode, rfl⟩

/-- The slots of a node are exactly those that hold a child. -/
theorem mem_slots {n c : Json} {slot : Slot} :
    (slot, c) ∈ slots n ↔ childAt n slot = some c := by
  rw [slots, List.mem_flatMap, childAt]
  constructor
  · rintro ⟨key, hkey, hmem⟩
    obtain ⟨rfl, hget⟩ := mem_slotsUnder.mp hmem
    rw [if_pos hkey]
    exact hget
  · intro h
    by_cases hkey : slot.key ∈ childKeys n
    · rw [if_pos hkey] at h
      exact ⟨slot.key, hkey, mem_slotsUnder.mpr ⟨rfl, h⟩⟩
    · rw [if_neg hkey] at h
      cases h

/-- No slot is used twice. -/
theorem nodup_slots (n : Json) : ((slots n).map Prod.fst).Nodup := by
  rw [slots, List.map_flatMap, List.nodup_flatMap]
  constructor
  · intro key _
    rw [slotsUnder]
    cases n.get? key with
    | none => exact List.nodup_nil
    | some held =>
        have hslot : Function.Injective (Slot.mk key) := by
          intro i j h
          exact (Slot.mk.inj h).2
        have h := (nodup_placedIn held).map hslot
        rw [List.map_map] at h
        show (((placedIn held).map fun e => (Slot.mk key e.1, e.2)).map Prod.fst).Nodup
        rw [List.map_map]
        exact h
  · -- slots under different keys differ in their key
    refine (childKeys_nodup n).imp ?_
    intro key other hne slot hslot hother
    obtain ⟨⟨s, c⟩, hmem, rfl⟩ := List.mem_map.mp hslot
    obtain ⟨⟨t, d⟩, hmem', heq⟩ := List.mem_map.mp hother
    have hs := (mem_slotsUnder.mp hmem).1
    have ht := (mem_slotsUnder.mp hmem').1
    rw [show t = s from heq] at ht
    exact hne (hs.symm.trans ht)

/-! ## The tour -/

/-- The traversal of a tree with the address of each visit. -/
def tour (n : Json) : List (List Slot × Visit) :=
  ([], ⟨.enter, n⟩) ::
    ((slots n).attach.flatMap fun e => (tour e.1.2).map fun v => (e.1.1 :: v.1, v.2)) ++
    [([], ⟨.leave, n⟩)]
termination_by n.size
decreasing_by
  refine size_lt_of_mem_children ?_
  rw [← map_snd_slots]
  exact List.mem_map_of_mem e.2

theorem tour_eq (n : Json) :
    tour n = ([], ⟨.enter, n⟩) ::
      ((slots n).flatMap (fun e => (tour e.2).map fun v => (e.1 :: v.1, v.2)) ++
        [([], ⟨.leave, n⟩)]) := by
  rw [tour, List.flatMap_subtype
    (g := fun e : Slot × Json => (tour e.2).map fun v => (e.1 :: v.1, v.2)) fun _ _ => rfl,
    List.unattach_attach, List.cons_append]

/-- Without its addresses the tour is the traversal. -/
theorem map_snd_tour (n : Json) : (tour n).map Prod.snd = events n := by
  induction n using children_induction with
  | step n ih =>
      have hslot : ∀ e ∈ slots n,
          ((tour e.2).map fun v => (e.1 :: v.1, v.2)).map Prod.snd = events e.2 := by
        intro e he
        have hchild : e.2 ∈ children n := by
          rw [← map_snd_slots]
          exact List.mem_map_of_mem he
        rw [List.map_map, ← ih e.2 hchild]
        rfl
      have hmid : ((slots n).flatMap fun e => (tour e.2).map fun v => (e.1 :: v.1, v.2)).map
          Prod.snd = (children n).flatMap events := by
        rw [List.map_flatMap, ← map_snd_slots, List.flatMap_map]
        exact List.flatMap_congr hslot
      rw [tour_eq, events_eq, List.map_cons, List.map_append, hmid]
      rfl

/-- The nodes that a tour visits at an address in a phase, in order. -/
def visitedAt (stops : List (List Slot × Visit)) (phase : Phase) (address : List Slot) :
    List Json :=
  stops.filterMap fun stop =>
    if stop.1 = address ∧ stop.2.phase = phase then some stop.2.node else none

theorem visitedAt_append (xs ys : List (List Slot × Visit)) (phase : Phase)
    (address : List Slot) :
    visitedAt (xs ++ ys) phase address = visitedAt xs phase address ++ visitedAt ys phase address :=
  List.filterMap_append

/-- Behind a slot, an address is visited as often as its rest in the child. -/
theorem visitedAt_behind (stops : List (List Slot × Visit)) (slot : Slot) (phase : Phase)
    (next : Slot) (address : List Slot) :
    visitedAt (stops.map fun stop => (slot :: stop.1, stop.2)) phase (next :: address)
      = if slot = next then visitedAt stops phase address else [] := by
  rw [visitedAt, List.filterMap_map]
  by_cases hslot : slot = next
  · rw [if_pos hslot, visitedAt]
    refine List.filterMap_congr ?_
    intro stop _
    simp [hslot]
  · rw [if_neg hslot, List.filterMap_eq_nil_iff]
    intro stop _
    simp [hslot]

/-- Of distinct keys, one is picked at most once. -/
theorem flatMap_ite_of_nodup {β : Type} (f : Json → List β) (slot : Slot)
    {entries : List (Slot × Json)} (h : (entries.map Prod.fst).Nodup) {c : Json}
    (hc : (slot, c) ∈ entries) :
    (entries.flatMap fun e => if e.1 = slot then f e.2 else []) = f c := by
  induction entries with
  | nil => cases hc
  | cons e entries ih =>
      obtain ⟨s, d⟩ := e
      obtain ⟨hfresh, hrest⟩ := List.nodup_cons.mp h
      rw [List.flatMap_cons]
      rcases List.mem_cons.mp hc with heq | hmem
      · cases heq
        -- no later entry has the same key
        have hnone : (entries.flatMap fun e => if e.1 = slot then f e.2 else []) = [] := by
          rw [List.flatMap_eq_nil_iff]
          intro e he
          refine if_neg ?_
          intro hs
          have hkey : e.1 ∈ entries.map Prod.fst := List.mem_map_of_mem he
          exact hfresh (hs ▸ hkey)
        rw [if_pos rfl, hnone, List.append_nil]
      · have hne : s ≠ slot := by
          intro hs
          have hkey : slot ∈ entries.map Prod.fst := List.mem_map_of_mem hmem
          exact hfresh (hs ▸ hkey)
        rw [if_neg hne, List.nil_append]
        exact ih hrest hmem

/-- An address behind a slot is visited in the child at that slot only. -/
theorem visitedAt_tour_cons (root : Json) (phase : Phase) (slot : Slot) (address : List Slot) :
    visitedAt (tour root) phase (slot :: address)
      = (slots root).flatMap fun e =>
          if e.1 = slot then visitedAt (tour e.2) phase address else [] := by
  have hroot : ∀ visit : Visit, visitedAt [([], visit)] phase (slot :: address) = [] := by
    intro visit
    rfl
  have hmid : visitedAt ((slots root).flatMap fun e =>
        (tour e.2).map fun v => (e.1 :: v.1, v.2)) phase (slot :: address)
      = (slots root).flatMap fun e =>
          if e.1 = slot then visitedAt (tour e.2) phase address else [] := by
    rw [visitedAt, List.filterMap_flatMap]
    refine List.flatMap_congr ?_
    intro e _
    exact visitedAt_behind (tour e.2) e.1 phase slot address
  rw [tour_eq, ← List.singleton_append, visitedAt_append, visitedAt_append, hroot, hroot, hmid,
    List.nil_append, List.append_nil]

/-- In each phase, an address is visited once if it leads to a node, and then that
    node is visited; any other address is not visited. -/
theorem tour_at (root : Json) (phase : Phase) (address : List Slot) :
    visitedAt (tour root) phase address = (nodeAt root address).toList := by
  induction address generalizing root with
  | nil =>
      -- every address below the root starts with a slot, so none is empty
      have hmid : visitedAt ((slots root).flatMap fun e =>
          (tour e.2).map fun v => (e.1 :: v.1, v.2)) phase [] = [] := by
        rw [visitedAt, List.filterMap_eq_nil_iff]
        intro stop hstop
        obtain ⟨e, -, hmem⟩ := List.mem_flatMap.mp hstop
        obtain ⟨v, -, rfl⟩ := List.mem_map.mp hmem
        simp
      rw [tour_eq, ← List.singleton_append, visitedAt_append, visitedAt_append, hmid]
      cases phase <;> rfl
  | cons slot address ih =>
      rw [visitedAt_tour_cons, nodeAt]
      cases hchild : childAt root slot with
      | some c =>
          -- the slot is used once, so one child alone answers for the address
          rw [flatMap_ite_of_nodup (fun d => visitedAt (tour d) phase address) slot
            (nodup_slots root) (mem_slots.mpr hchild), ih c]
          rfl
      | none =>
          -- no child stands at the slot
          show _ = []
          rw [List.flatMap_eq_nil_iff]
          rintro ⟨s, d⟩ hmem
          refine if_neg ?_
          intro hs
          rw [show s = slot from hs, mem_slots, hchild] at hmem
          cases hmem

/-- **The walk on a stack is the recursive traversal.**  A value that is no node has
    no walk.  The walk of a node enters it, traverses the nodes that its child
    fields hold, in order, and leaves it last; its visits nest like brackets.
    Beside its visits one can write addresses so that, in each phase, an address
    is visited once with the node it leads to, and not at all if it leads to
    none. -/
theorem walk_eq_traversal (root : Json) :
    walk root = (if isNode root then .ok (events root) else .error ⟨root.kind⟩) ∧
    (∀ n, events n = ⟨.enter, n⟩ :: ((children n).flatMap events ++ [⟨.leave, n⟩])) ∧
    (∀ n, children n = (childKeys n).flatMap fun key => ((n.get? key).map nodesIn).getD []) ∧
    Nested (events root) ∧
    (events root).getLast? = some ⟨.leave, root⟩ ∧
    ∃ stops : List (List Slot × Visit), stops.map Prod.snd = events root ∧
      ∀ phase address, visitedAt stops phase address = (nodeAt root address).toList := by
  refine ⟨?_, events_eq, fun _ => rfl, events_nested root, events_getLast? root,
    tour root, map_snd_tour root, tour_at root⟩
  by_cases h : isNode root = true
  · rw [if_pos h]
    exact walk_eq_ok_events h
  · rw [if_neg h]
    exact walk_eq_error (Bool.not_eq_true _ ▸ h)

end EnvLint.Tree
