import ComponentDocs.Proofs.DocumentLeaves
import Mathlib.Algebra.BigOperators.Group.Finset.Basic
import Mathlib.Logic.Relation

/-!
# Documents as trees

A document is a graph, and `Document.unfold` shows a node of it as a tree. The tree stops at the
containers on the way from its root, and a bound on the steps makes it end. Two unfoldings of a node
agree when both bounds leave room for the nodes that are not on the way, and when the two ways agree on
the nodes that can be reached (`unfold_congr`). The bound of `Document.valueAt` leaves that room
(`room_lt_depth`).

So a node as a field is its value from inside (`holds_fieldAt`): a list gives its members, which are
those that its tree shows unless the list contains itself, and everything else gives its value.
-/

set_option autoImplicit false

namespace ComponentDocs

/-- Whether a value is a list or a tuple. -/
def Value.isSequence : Value → Bool
  | list _ | tuple _ => true
  | _ => false

namespace Yaml.Document

/-! ## Room -/

/-- The members that a node lists, and the node itself. -/
def weight : Option Cell → Nat
  | some (.list items) => items.length + 1
  | some (.map entries) => entries.length + 1
  | some (.pairs items) => items.length + 1
  | _ => 1

/-- What the nodes that are not on the way take of the bound of an unfolding. -/
def room (d : Document) (path : List Step) : Nat :=
  3 * ∑ n ∈ Finset.range d.cells.size, if (n, none) ∈ path then 0 else weight (d.cells.getD n none)

theorem room_cons_pair (d : Document) (path : List Step) (owner place : Nat) :
    d.room ((owner, some place) :: path) = d.room path := by
  simp [room]

/-- A node on the way leaves its room to its members. -/
theorem room_cons_node {d : Document} {path : List Step} {n : Nat} {c : Cell}
    (hcell : d.cells.getD n none = some c) (h : (n, none) ∉ path) :
    d.room ((n, none) :: path) + 3 * weight (some c) = d.room path := by
  have hn : n < d.cells.size := by
    by_contra hn
    simp [Array.getD_eq_getD_getElem?, Nat.not_lt.1 hn] at hcell
  have hmem : n ∈ Finset.range d.cells.size := Finset.mem_range.2 hn
  have hothers : ∀ m ∈ (Finset.range d.cells.size).erase n,
      (if (m, none) ∈ (n, none) :: path then 0 else weight (d.cells.getD m none)) =
        if (m, none) ∈ path then 0 else weight (d.cells.getD m none) := by
    intro m hm
    simp [Finset.ne_of_mem_erase hm]
  rw [room, room, ← Finset.sum_erase_add _ _ hmem, ← Finset.sum_erase_add _ _ hmem,
    Finset.sum_congr rfl hothers, if_pos List.mem_cons_self, if_neg h, hcell, Nat.add_zero,
    Nat.mul_add]

theorem foldl_weight (cells : Array (Option Cell)) :
    cells.foldl (fun sum c => sum + weight c) 0 =
      ∑ n ∈ Finset.range cells.size, weight (cells.getD n none) := by
  refine Array.foldl_induction
    (motive := fun i sum => sum = ∑ n ∈ Finset.range i, weight (cells.getD n none)) ?_ ?_
  · simp
  · intro i sum hsum
    rw [Finset.sum_range_succ, hsum]
    simp [Array.getD_eq_getD_getElem?]

/-- The bound of an unfolding leaves room for all nodes. -/
theorem room_lt_depth (d : Document) : d.room [] + 1 < d.depth := by
  have hdepth : d.depth =
      3 * (d.cells.foldl (fun sum c => sum + weight c) 0 + d.cells.size + 2) := rfl
  have hroom : d.room [] = 3 * d.cells.foldl (fun sum c => sum + weight c) 0 := by
    simp [room, foldl_weight]
  omega

/-! ## Ways -/

/-- The nodes that what is built for a node refers to. -/
def members : Option Cell → List Nat
  | some (.list items) => items
  | some (.map entries) => entries.map Prod.snd
  | some (.pairs items) => items.flatMap fun p => [p.1, p.2]
  | _ => []

/-- A node refers to another one. -/
def Refers (d : Document) (n m : Nat) : Prop :=
  m ∈ members (d.cells.getD n none)

/-- Two ways agree on all nodes that can be reached from a node. -/
def SameWay (d : Document) (n : Nat) (path path' : List Step) : Prop :=
  ∀ m, Relation.ReflTransGen d.Refers n m → ∀ place, (m, place) ∈ path ↔ (m, place) ∈ path'

/-- Where ways agree, both stop at a container or neither does. -/
theorem ite_contains_congr {path path' : List Step} {s : Step} (h : s ∈ path ↔ s ∈ path')
    {stop v w : Value} (hnew : s ∉ path → s ∉ path' → v = w) :
    (if path.contains s then stop else v) = if path'.contains s then stop else w := by
  simp only [List.contains_iff_mem]
  by_cases hmem : s ∈ path
  · rw [if_pos hmem, if_pos (h.1 hmem)]
  · have hmem' : s ∉ path' := by rwa [← h]
    rw [if_neg hmem, if_neg hmem', hnew hmem hmem']

theorem SameWay.cons {d : Document} {n : Nat} {path path' : List Step}
    (h : d.SameWay n path path') (s : Step) : d.SameWay n (s :: path) (s :: path') := by
  intro m hm place
  rw [List.mem_cons, List.mem_cons, h m hm place]

theorem SameWay.member {d : Document} {n m : Nat} {path path' : List Step}
    (h : d.SameWay n path path') (hm : d.Refers n m) : d.SameWay m path path' :=
  fun k hk => h k (.head hm hk)

/-- What is left for the members of a node that is on neither way. -/
theorem SameWay.descend {d : Document} {n : Nat} {path path' : List Step} {c : Cell}
    (h : d.SameWay n path path') (hcell : d.cells.getD n none = some c)
    (hnew : (n, none) ∉ path) (hnew' : (n, none) ∉ path') :
    d.room ((n, none) :: path) + 3 * weight (some c) = d.room path ∧
      d.room ((n, none) :: path') + 3 * weight (some c) = d.room path' ∧
      ∀ m ∈ members (some c), d.SameWay m ((n, none) :: path) ((n, none) :: path') := by
  refine ⟨room_cons_node hcell hnew, room_cons_node hcell hnew', ?_⟩
  intro m hm
  rw [← hcell] at hm
  exact (h.member hm).cons _

-- The five parts of an unfolding call each other, and so do their laws. The induction is on the first
-- bound. A list of members is judged with the room for all of them, since each takes a step.
mutual

/-- Two unfoldings of a node agree when both have enough room and their ways agree on the nodes that
can be reached. -/
theorem unfold_congr (d : Document) {path path' : List Step} {n : Nat} :
    ∀ (fuel fuel' : Nat), d.room path < fuel → d.room path' < fuel' → d.SameWay n path path' →
      unfold d fuel path n = unfold d fuel' path' n
  | 0, _, h, _, _ => by cases h
  | _, 0, _, h, _ => by cases h
  | fuel + 1, fuel' + 1, hfuel, hfuel', hway => by
      unfold unfold
      cases hcell : d.cells.getD n none with
      | none => rfl
      | some cell =>
          cases cell with
          | leaf v => rfl
          | set keys => rfl
          -- a container has more room than its members need, as it is not on the way itself
          | list items =>
              refine ite_contains_congr (hway n .refl none) fun hnew hnew' => ?_
              obtain ⟨hroom, hroom', hmembers⟩ := hway.descend hcell hnew hnew'
              rw [weight] at hroom hroom'
              rw [members] at hmembers
              rw [unfoldItems_congr d fuel fuel' (by omega) (by omega) hmembers]
          | map entries =>
              refine ite_contains_congr (hway n .refl none) fun hnew hnew' => ?_
              obtain ⟨hroom, hroom', hmembers⟩ := hway.descend hcell hnew hnew'
              rw [weight] at hroom hroom'
              rw [members] at hmembers
              rw [unfoldEntries_congr d fuel fuel' (by omega) (by omega)
                fun e he => hmembers e.2 (List.mem_map_of_mem he)]
          | pairs items =>
              refine ite_contains_congr (hway n .refl none) fun hnew hnew' => ?_
              obtain ⟨hroom, hroom', hmembers⟩ := hway.descend hcell hnew hnew'
              rw [weight] at hroom hroom'
              rw [members] at hmembers
              rw [unfoldPairs_congr d fuel fuel' (by omega) (by omega)
                (fun place => (hway.cons _) n .refl (some place)) hmembers]
termination_by structural fuel => fuel

theorem unfoldItems_congr (d : Document) {path path' : List Step} {items : List Nat} :
    ∀ (fuel fuel' : Nat), d.room path + items.length < fuel → d.room path' + items.length < fuel' →
      (∀ n ∈ items, d.SameWay n path path') →
      unfoldItems d fuel path items = unfoldItems d fuel' path' items
  | 0, _, h, _, _ => by cases h
  | _, 0, _, h, _ => by cases h
  | fuel + 1, fuel' + 1, hfuel, hfuel', hway => by
      cases items with
      | nil => simp only [unfoldItems]
      | cons n rest =>
          obtain ⟨hn, hrest⟩ := List.forall_mem_cons.1 hway
          rw [List.length_cons] at hfuel hfuel'
          simp only [unfoldItems]
          rw [unfold_congr d fuel fuel' (by omega) (by omega) hn,
            unfoldItems_congr d fuel fuel' (by omega) (by omega) hrest]
termination_by structural fuel => fuel

theorem unfoldEntries_congr (d : Document) {path path' : List Step} {entries : List (Value × Nat)} :
    ∀ (fuel fuel' : Nat), d.room path + entries.length < fuel →
      d.room path' + entries.length < fuel' → (∀ e ∈ entries, d.SameWay e.2 path path') →
      unfoldEntries d fuel path entries = unfoldEntries d fuel' path' entries
  | 0, _, h, _, _ => by cases h
  | _, 0, _, h, _ => by cases h
  | fuel + 1, fuel' + 1, hfuel, hfuel', hway => by
      cases entries with
      | nil => simp only [unfoldEntries]
      | cons e rest =>
          obtain ⟨k, n⟩ := e
          obtain ⟨he, hrest⟩ := List.forall_mem_cons.1 hway
          rw [List.length_cons] at hfuel hfuel'
          simp only [unfoldEntries]
          rw [unfold_congr d fuel fuel' (by omega) (by omega) he,
            unfoldEntries_congr d fuel fuel' (by omega) (by omega) hrest]
termination_by structural fuel => fuel

theorem unfoldPairs_congr (d : Document) {path path' : List Step} {owner place : Nat}
    {items : List (Nat × Nat)} :
    ∀ (fuel fuel' : Nat), d.room path + items.length + 1 < fuel →
      d.room path' + items.length + 1 < fuel' →
      (∀ place, (owner, some place) ∈ path ↔ (owner, some place) ∈ path') →
      (∀ m ∈ items.flatMap fun p => [p.1, p.2], d.SameWay m path path') →
      unfoldPairs d fuel path owner place items = unfoldPairs d fuel' path' owner place items
  | 0, _, h, _, _, _ => by cases h
  | _, 0, _, h, _, _ => by cases h
  | fuel + 1, fuel' + 1, hfuel, hfuel', howner, hway => by
      cases items with
      | nil => simp only [unfoldPairs]
      | cons p rest =>
          obtain ⟨k, v⟩ := p
          rw [List.flatMap_cons, List.forall_mem_append] at hway
          obtain ⟨hp, hrest⟩ := hway
          rw [List.length_cons] at hfuel hfuel'
          simp only [unfoldPairs]
          rw [unfoldPair_congr d fuel fuel' (by omega) (by omega) howner hp,
            unfoldPairs_congr d fuel fuel' (by omega) (by omega) howner hrest]
termination_by structural fuel => fuel

theorem unfoldPair_congr (d : Document) {path path' : List Step} {owner place : Nat}
    {p : Nat × Nat} :
    ∀ (fuel fuel' : Nat), d.room path + 1 < fuel → d.room path' + 1 < fuel' →
      (∀ place, (owner, some place) ∈ path ↔ (owner, some place) ∈ path') →
      (∀ m ∈ [p.1, p.2], d.SameWay m path path') →
      unfoldPair d fuel path owner place p = unfoldPair d fuel' path' owner place p
  | 0, _, h, _, _, _ => by cases h
  | _, 0, _, h, _, _ => by cases h
  | fuel + 1, fuel' + 1, hfuel, hfuel', howner, hway => by
      obtain ⟨k, v⟩ := p
      obtain ⟨hk, hway⟩ := List.forall_mem_cons.1 hway
      have hv := hway v List.mem_cons_self
      simp only [unfoldPair]
      refine ite_contains_congr (howner place) fun _ _ => ?_
      rw [← room_cons_pair d path owner place] at hfuel
      rw [← room_cons_pair d path' owner place] at hfuel'
      rw [unfold_congr d fuel fuel' (by omega) (by omega) (hk.cons _),
        unfold_congr d fuel fuel' (by omega) (by omega) (hv.cons _)]
termination_by structural fuel => fuel

end

/-! ## Nodes as fields -/

/-- A node contains itself, as one of its members or inside of one. -/
def ContainsItself (d : Document) (n : Nat) : Prop :=
  Relation.TransGen d.Refers n n

/-- From the members of a node that does not contain itself there is no way back to it. -/
theorem sameWay_of_not_containsItself {d : Document} {n m : Nat} (h : ¬ d.ContainsItself n)
    (hm : d.Refers n m) : d.SameWay m [(n, none)] [] := by
  intro k hk place
  have hne : k ≠ n := by
    rintro rfl
    exact h (.head' hm hk)
  simp [hne]

theorem length_unfoldItems (d : Document) (path : List Step) {items : List Nat} {fuel : Nat}
    (h : items.length < fuel) : (unfoldItems d fuel path items).length = items.length := by
  induction fuel generalizing items with
  | zero => cases h
  | succ fuel ih =>
      cases items with
      | nil => simp [unfoldItems]
      | cons n rest =>
          rw [unfoldItems, List.length_cons, List.length_cons, ih (Nat.lt_of_succ_lt_succ h)]

theorem length_unfoldPairs (d : Document) (path : List Step) (owner : Nat) {place : Nat}
    {items : List (Nat × Nat)} {fuel : Nat} (h : items.length < fuel) :
    (unfoldPairs d fuel path owner place items).length = items.length := by
  induction fuel generalizing place items with
  | zero => cases h
  | succ fuel ih =>
      cases items with
      | nil => simp [unfoldPairs]
      | cons p rest =>
          obtain ⟨k, v⟩ := p
          rw [unfoldPairs, List.length_cons, List.length_cons, ih (Nat.lt_of_succ_lt_succ h)]

/-- The trees of the members of a list are their values where they do not lead back to the way. -/
theorem unfoldItems_eq_map (d : Document) {path : List Step} {items : List Nat} {fuel : Nat}
    (hfuel : d.room path + items.length < fuel) (hway : ∀ n ∈ items, d.SameWay n path []) :
    unfoldItems d fuel path items = items.map d.valueAt := by
  induction fuel generalizing items with
  | zero => cases hfuel
  | succ fuel ih =>
      cases items with
      | nil => simp only [unfoldItems, List.map_nil]
      | cons n rest =>
          obtain ⟨hn, hrest⟩ := List.forall_mem_cons.1 hway
          have hdepth := d.room_lt_depth
          rw [List.length_cons] at hfuel
          rw [unfoldItems, unfold_congr d fuel d.depth (by omega) (by omega) hn,
            ih (by omega) hrest, List.map_cons, valueAt]

theorem unfoldPairs_eq_map (d : Document) {path : List Step} {owner place : Nat}
    {items : List (Nat × Nat)} {fuel : Nat} (hfuel : d.room path + items.length + 1 < fuel)
    (howner : ∀ place, (owner, some place) ∉ path)
    (hway : ∀ m ∈ items.flatMap fun p => [p.1, p.2], d.SameWay m path []) :
    unfoldPairs d fuel path owner place items =
      ((List.range' place items.length).zip items).map fun p =>
        unfoldPair d d.depth [] owner p.1 p.2 := by
  induction fuel generalizing place items with
  | zero => cases hfuel
  | succ fuel ih =>
      cases items with
      | nil => simp [unfoldPairs]
      | cons p rest =>
          obtain ⟨k, v⟩ := p
          rw [List.flatMap_cons, List.forall_mem_append] at hway
          obtain ⟨hp, hrest⟩ := hway
          have hdepth := d.room_lt_depth
          rw [List.length_cons] at hfuel
          rw [unfoldPairs, unfoldPair_congr d fuel d.depth (by omega) (by omega)
              (fun place => by simp [howner place]) hp,
            ih (by omega) hrest, List.length_cons, List.range'_succ, List.zip_cons_cons,
            List.map_cons]

/-- What is held of a node from inside: the members of a list, and everything else as it is. -/
def Holds (d : Document) (n : Nat) : Field → Prop
  | .single v => v = d.valueAt n ∧ v.isSequence = false
  | .many vs => ∃ ws, d.valueAt n = .list ws ∧ vs.length = ws.length ∧
      (¬ d.ContainsItself n → vs = ws)

/-- A node as a field is its value from inside. -/
theorem holds_fieldAt {d : Document} (hleaves : ScalarLeaves d.cells) (n : Nat) :
    d.Holds n (d.fieldAt n) := by
  obtain ⟨fuel, hfuel⟩ : ∃ fuel, d.depth = fuel + 1 :=
    Nat.exists_eq_succ_of_ne_zero (Nat.ne_zero_of_lt d.room_lt_depth)
  have hdepth := d.room_lt_depth
  have hvalue : d.valueAt n = unfold d (fuel + 1) [] n := by rw [valueAt, hfuel]
  unfold unfold at hvalue
  unfold fieldAt
  cases hcell : d.cells.getD n none with
  | none =>
      rw [hcell] at hvalue
      exact ⟨rfl, by rw [hvalue]; rfl⟩
  | some cell =>
      rw [hcell] at hvalue
      cases cell with
      | leaf v =>
          have hscalar := hleaves n v hcell
          refine ⟨rfl, ?_⟩
          rw [hvalue]
          cases v <;> first | rfl | cases hscalar
      | set keys => exact ⟨rfl, by rw [hvalue]; rfl⟩
      | map entries => exact ⟨rfl, by rw [hvalue]; rfl⟩
      | list items =>
          have hroom := room_cons_node hcell (List.not_mem_nil (a := (n, none)))
          rw [weight] at hroom
          refine ⟨_, hvalue, ?_, ?_⟩
          · rw [List.length_map, length_unfoldItems d _ (by omega)]
          · intro hfree
            refine (unfoldItems_eq_map d (by omega) ?_).symm
            intro m hm
            exact sameWay_of_not_containsItself hfree (by rwa [Refers, hcell])
      | pairs items =>
          have hroom := room_cons_node hcell (List.not_mem_nil (a := (n, none)))
          rw [weight] at hroom
          refine ⟨_, hvalue, ?_, ?_⟩
          · have hlength : items.length < fuel := by omega
            simp [length_unfoldPairs d _ n hlength]
          · intro hfree
            rw [List.range_eq_range']
            refine (unfoldPairs_eq_map d (by omega) (by simp) ?_).symm
            intro m hm
            exact sameWay_of_not_containsItself hfree (by rwa [Refers, hcell])

/-- A field is empty when its value is. -/
theorem Holds.isTruthy_value {d : Document} {n : Nat} {f : Field} (h : d.Holds n f) :
    f.value.isTruthy = (d.valueAt n).isTruthy := by
  cases f with
  | single v =>
      obtain ⟨rfl, -⟩ := h
      rfl
  | many vs =>
      obtain ⟨ws, hvalue, hlength, -⟩ := h
      have hempty : vs.isEmpty = ws.isEmpty := by
        rw [Bool.eq_iff_iff, List.isEmpty_iff_length_eq_zero, List.isEmpty_iff_length_eq_zero,
          hlength]
      rw [hvalue]
      exact congrArg not hempty

/-- A node is a list that contains itself. -/
def IsLoopedList (d : Document) (n : Nat) : Prop :=
  (∃ ws, d.valueAt n = .list ws) ∧ d.ContainsItself n

/-- The content of a field is the value of its node unless that is a list that contains itself. -/
theorem Holds.value_eq {d : Document} {n : Nat} {f : Field} (h : d.Holds n f)
    (hfree : ¬ d.IsLoopedList n) : f.value = d.valueAt n := by
  cases f with
  | single v => exact h.1
  | many vs =>
      obtain ⟨ws, hvalue, -, hsame⟩ := h
      rw [hvalue, Field.value, hsame fun hloop => hfree ⟨⟨ws, hvalue⟩, hloop⟩]

/-- A node whose members are not listed does not contain itself. -/
theorem not_isLoopedList_of_members {d : Document} {n : Nat}
    (h : members (d.cells.getD n none) = []) : ¬ d.IsLoopedList n := by
  rintro ⟨-, hloop⟩
  obtain ⟨m, hm, -⟩ := Relation.TransGen.head'_iff.1 hloop
  rw [Refers, h] at hm
  cases hm

end Yaml.Document

end ComponentDocs
