import ComponentDocs.Component
import ComponentDocs.Proofs.Gathering

/-!
# Records of examples

The examples of a text are gathered in records, which know nothing of the options of an example until
the text is at its end. What comes out is what registering the blocks one by one would have given: the
example of a record with one more block is the example of the record, extended by the block with the
height that it declares (`Record.toExample_add`), and therefore gathering records is gathering examples
(`collect_eq_gather`).
-/

set_option autoImplicit false

namespace ComponentDocs

universe u v w

namespace OrderedMap

variable {κ : Type u} {ν μ : Type v} {β : Type w} [DecidableEq κ]

theorem get?_mapEntries (g : κ → ν → μ) (m : OrderedMap κ ν) (k : κ) :
    (m.mapEntries g).get? k = (m.get? k).map (g k) := by
  show (m.entries.map fun e => (e.1, g e.1 e.2)).lookup k = (m.entries.lookup k).map (g k)
  -- the entries keep their keys, so both searches end at the same one
  induction m.entries with
  | nil => rfl
  | cons e rest ih =>
      rw [List.map_cons, List.lookup_cons, List.lookup_cons]
      by_cases hk : k = e.1
      · subst hk
        simp
      · have hb : (k == e.1) = false := by simpa using hk
        simp only [hb, ih]

/-- A key may be altered before or after all values are computed anew. -/
theorem mapEntries_alter {g : κ → ν → μ} {k : κ} {f : Option ν → ν} {f' : Option μ → μ}
    (h : ∀ old, g k (f old) = f' (old.map (g k))) (m : OrderedMap κ ν) :
    (m.alter k f).mapEntries g = (m.mapEntries g).alter k f' := by
  apply OrderedMap.ext
  show (alterEntries k f m.entries).map (fun e => (e.1, g e.1 e.2)) =
    alterEntries k f' (m.entries.map fun e => (e.1, g e.1 e.2))
  -- the key is altered in the place where it is found, or else behind all entries
  induction m.entries with
  | nil => simp only [alterEntries, List.map_cons, List.map_nil, h, Option.map_none]
  | cons e rest ih =>
      obtain ⟨k', old⟩ := e
      by_cases hk : k' = k
      · subst hk
        simp only [alterEntries, if_pos, List.map_cons, h, Option.map_some]
      · simp only [alterEntries, if_neg hk, List.map_cons, ih]

/-- Items may be gathered before or after all values are computed anew. -/
theorem mapEntries_gather {g : κ → ν → μ} {key : β → κ} {step : β → Option ν → ν}
    {step' : β → Option μ → μ} (h : ∀ x old, g (key x) (step x old) = step' x (old.map (g (key x))))
    (m : OrderedMap κ ν) (xs : List β) :
    (m.gather key step xs).mapEntries g = (m.mapEntries g).gather key step' xs := by
  induction xs generalizing m with
  | nil => rfl
  | cons x xs ih => rw [gather_cons, gather_cons, ih, mapEntries_alter (h x)]

end OrderedMap

namespace Example

/-! ## One block -/

/-- The options that a block gives to its example when it is registered: its height, unless it is
empty. -/
def optionsOf (b : CodeBlock) : List (Text × Value) :=
  match b.height with
  | none => []
  | some h => if h.isEmpty then [] else [(Label.heightKey, .text h)]

/-- What a block does to the example that is registered under its name. -/
def blockStep (b : Text × CodeBlock) (known : Option Example) : Example :=
  (known.getD { name := b.1 }).extend [b.2] (optionsOf b.2)

/-- What a block does to the record of its name. -/
def recordStep (b : Text × CodeBlock) (known : Option Record) : Record :=
  (known.getD {}).add b.2

/-- The first height that counts stays, whether it is kept in a record or among options. -/
theorem Record.options_add (r : Record) (b : CodeBlock) :
    (r.add b).options =
      (optionsOf b).foldl (fun m o => m.insertIfNew o.1 o.2) r.options := by
  unfold add options optionsOf isHeight
  -- an empty height counts for nothing on either side
  rcases r.height with - | (- | ⟨c, old⟩) <;> rcases b.height with - | (- | ⟨d, new⟩) <;> rfl

/-- One more block in a record is one more block registered with the example of the record. -/
theorem Record.toExample_add (name : Text) (r : Record) (b : CodeBlock) :
    (r.add b).toExample name = (r.toExample name).extend [b] (optionsOf b) := by
  unfold toExample extend
  rw [options_add]
  rfl

theorem toExample_recordStep (b : Text × CodeBlock) (known : Option Record) :
    (recordStep b known).toExample b.1 = blockStep b (known.map (Record.toExample b.1)) := by
  rw [recordStep, Record.toExample_add, blockStep]
  cases known with
  | none => rfl
  | some r => rfl

/-! ## All blocks -/

theorem records_eq_gather (segments : List Segment) :
    records segments =
      .gather Prod.fst recordStep .empty (segments.filterMap CodeBlock.ofSegment?) := rfl

/-- The examples of the records are those that registering block by block leaves. -/
theorem collect_eq_gather (segments : List Segment) :
    collect segments =
      .gather Prod.fst blockStep .empty (segments.filterMap CodeBlock.ofSegment?) := by
  rw [collect, records_eq_gather]
  exact OrderedMap.mapEntries_gather toExample_recordStep .empty _

end Example

end ComponentDocs
