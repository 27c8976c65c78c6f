import ComponentDocs.Proofs.HiddenFlags

/-!
# Gathering examples as grouping

The examples of a list of segments are described here without a run over a map of examples
(`Example.IsGrouping`): there is one example for each name among the labels, in order of first
appearance, and it consists of the labelled blocks of that name (`Example.Bundles`). Each block is kept
once, and the first height among them that is not empty is the only option.

The description determines the examples, and gathering finds them
(`collected_examples_are_the_groups`). It makes them of records, of which each holds the first height of
its blocks at all times (`Record.Exact`). The labels may be any: nothing here depends on their being
read from headers.

The records give what registering the blocks one by one would have given (`collect_eq_gather`), and a
block that is registered does to the example of its name what an example with that block alone does
(`blockStep_eq_exampleStep`). So the two ways in which examples grow can take turns
(`addExamples_collect`).
-/

set_option autoImplicit false

namespace ComponentDocs

open Text

/-! ## Labelled blocks -/

/-- The labelled blocks among segments, in order, each with its label. -/
def Segment.labelled (segments : List Segment) : List (Fence × Label) :=
  (fences segments).filterMap fun f => f.label.map fun a => (f, a)

/-- The code block of a fence with the given label. -/
def CodeBlock.ofLabelled (x : Fence × Label) : CodeBlock where
  extension := x.2.extension
  code := x.1.body
  hidden := x.2.hidden
  height := x.2.height

/-- The height that a label states, which may be empty. -/
def Label.statedHeight (a : Label) : Option Text :=
  (a.options.get? heightKey).join

/-- A height counts unless it is empty. -/
theorem Label.height_eq (a : Label) : a.height = a.statedHeight.filter fun h => !h.isEmpty := by
  unfold height statedHeight
  cases a.options.get? heightKey with
  | none => rfl
  | some value =>
      cases value with
      | none => rfl
      | some h => cases h <;> rfl

/-- What is gathered from segments are the code blocks of their labelled blocks. -/
theorem CodeBlock.filterMap_ofSegment? (segments : List Segment) :
    segments.filterMap ofSegment? =
      (Segment.labelled segments).map fun x => (x.2.name, ofLabelled x) := by
  induction segments with
  | nil => rfl
  | cons s rest ih =>
      cases s with
      | text t => exact ih
      | fence f =>
          -- both sides drop the block if it has no label
          rw [Segment.labelled, Segment.fences_fence_cons, List.filterMap_cons, List.filterMap_cons,
            ofSegment?, ofFence?, ih]
          cases f.label with
          | none => rfl
          | some a => rfl

/-- A segment without a label has no code block. -/
theorem CodeBlock.filterMap_filter_label (segments : List Segment) :
    (segments.filter fun s => s.label.isSome).filterMap ofSegment? =
      segments.filterMap ofSegment? := by
  rw [List.filterMap_filter]
  apply List.filterMap_congr
  intro s _
  cases s with
  | text t => rfl
  | fence f =>
      rw [Segment.label, ofSegment?, ofFence?]
      cases f.label with
      | none => rfl
      | some a => rfl

namespace Example

/-! ## Examples as groups of labelled blocks -/

/-- The example of a name consists of the given labelled blocks: one code block for each of them, and
the first height that is not empty for the only option. -/
structure Bundles (name : Text) (parts : List (Fence × Label)) (e : Example) : Prop where
  name_eq : e.name = name
  blocks : e.blocks = parts.map CodeBlock.ofLabelled
  options : e.options.entries =
    heightOptions ((parts.filterMap fun x => x.2.statedHeight).find? fun h => !h.isEmpty)

/-- The examples are the groups of the labelled blocks of segments by name, in order of first
appearance. -/
structure IsGrouping (segments : List Segment) (examples : OrderedMap Text Example) : Prop where
  names : examples.keys = ((Segment.labelled segments).map fun x => x.2.name).eraseDups
  bundles : ∀ name e, examples.get? name = some e →
    e.Bundles name ((Segment.labelled segments).filter fun x => x.2.name = name)

/-- Examples that consist of the same blocks are the same. -/
theorem Bundles.unique {name : Text} {parts : List (Fence × Label)} {e e' : Example}
    (h : e.Bundles name parts) (h' : e'.Bundles name parts) : e = e' := by
  have hname : e.name = e'.name := h.name_eq.trans h'.name_eq.symm
  have hblocks : e.blocks = e'.blocks := h.blocks.trans h'.blocks.symm
  have hoptions : e.options = e'.options := OrderedMap.ext (h.options.trans h'.options.symm)
  cases e
  cases e'
  simp_all

/-- Segments have only one grouping. -/
theorem IsGrouping.unique {segments : List Segment} {examples examples' : OrderedMap Text Example}
    (h : IsGrouping segments examples) (h' : IsGrouping segments examples') :
    examples = examples' := by
  apply OrderedMap.ext_values (h.names.trans h'.names.symm)
  intro name e e' he he'
  exact (h.bundles name e he).unique (h'.bundles name e' he')

/-- The first height of the code blocks is the first one stated by their labels that is not empty. -/
theorem firstHeight_ofLabelled (parts : List (Fence × Label)) :
    CodeBlock.firstHeight (parts.map CodeBlock.ofLabelled) =
      (parts.filterMap fun x => x.2.statedHeight).find? fun h => !h.isEmpty := by
  induction parts with
  | nil => rfl
  | cons x parts ih =>
      have hheight : (CodeBlock.ofLabelled x).height =
          x.2.statedHeight.filter fun h => !h.isEmpty := x.2.height_eq
      unfold CodeBlock.firstHeight at ih ⊢
      rw [List.map_cons, List.findSome?_cons, List.filterMap_cons, ih, hheight]
      -- an empty height is stated and yet passed over by both searches
      cases x.2.statedHeight with
      | none => rfl
      | some h => cases h <;> rfl

/-! ## Records of labelled blocks -/

/-- What holds of a record at all times: its height is the first one that its blocks declare, and it is
not empty. -/
structure Record.Exact (r : Record) : Prop where
  height : r.height = CodeBlock.firstHeight r.blocks
  ne_nil : ∀ h, r.height = some h → h ≠ []

theorem Record.exact_new : ({} : Record).Exact where
  height := rfl
  ne_nil h hh := by cases hh

/-- One more block leaves the height of a record that has one, and else brings its own. -/
theorem Record.Exact.add {r : Record} (hr : r.Exact) {b : CodeBlock}
    (hb : ∀ h, b.height = some h → h ≠ []) : (r.add b).Exact := by
  have hheight : (r.add b).height = r.height.or b.height := by
    unfold Record.add isHeight
    -- neither of the two heights is empty
    rcases hrh : r.height with - | (- | ⟨c, old⟩)
    · rcases hbh : b.height with - | (- | ⟨d, new⟩)
      · rfl
      · exact absurd rfl (hb [] hbh)
      · rfl
    · exact absurd rfl (hr.ne_nil [] hrh)
    · rfl
  refine { height := ?_, ne_nil := ?_ }
  · have hblocks : (r.add b).blocks = r.blocks ++ [b] := rfl
    rw [hheight, hblocks, firstHeight_append, ← hr.height]
    cases hbh : b.height <;> simp [CodeBlock.firstHeight, hbh]
  · intro h hh
    rw [hheight, Option.or_eq_some_iff] at hh
    rcases hh with hh | ⟨-, hh⟩
    · exact hr.ne_nil h hh
    · exact hb h hh

/-- The options of a record say no more than its height. -/
theorem Record.Exact.entries_options {r : Record} (hr : r.Exact) :
    r.options.entries = heightOptions (CodeBlock.firstHeight r.blocks) := by
  rw [← hr.height, Record.options]
  rcases hrh : r.height with - | (- | ⟨c, h⟩)
  · rfl
  · exact absurd rfl (hr.ne_nil [] hrh)
  · rfl

/-- The records of segments hold the first heights, whatever labels the segments have. -/
theorem exact_records {segments : List Segment} {name : Text} {r : Record}
    (h : (records segments).get? name = some r) : r.Exact := by
  have hstep : ∀ b ∈ segments.filterMap CodeBlock.ofSegment?, ∀ known : Option Record,
      (∀ r, known = some r → r.Exact) → (recordStep b known).Exact := by
    intro b hb known hknown
    have hheight : ∀ h, b.2.height = some h → h ≠ [] := by
      rw [CodeBlock.filterMap_ofSegment?] at hb
      obtain ⟨x, -, rfl⟩ := List.mem_map.1 hb
      exact fun h hh => Label.height_ne_nil hh
    refine Record.Exact.add ?_ hheight
    cases known with
    | none => exact Record.exact_new
    | some r => exact hknown r rfl
  rw [records_eq_gather] at h
  refine OrderedMap.forall_get?_gather (P := fun _ r => r.Exact) ?_ ?_ ?_ name r h
  · intro name r hr
    cases hr
  · intro b hb
    exact hstep b hb none (by simp)
  · intro b hb r hr
    exact hstep b hb (some r) (by simpa using hr)

/-- The examples that are gathered from segments are the groups of their labelled blocks. -/
theorem isGrouping_collect (segments : List Segment) : IsGrouping segments (collect segments) where
  names := by
    rw [collect_eq_gather, OrderedMap.keys_gather_empty, CodeBlock.filterMap_ofSegment?,
      List.map_map]
    rfl
  bundles := by
    intro name e he
    have hrecord := he
    rw [collect, OrderedMap.get?_mapEntries] at hrecord
    obtain ⟨r, hr, rfl⟩ := Option.map_eq_some_iff.1 hrecord
    have hblocks : r.blocks = ((Segment.labelled segments).filter fun x => x.2.name = name).map
        CodeBlock.ofLabelled := by
      have hall := blocks_collect he
      rw [CodeBlock.filterMap_ofSegment?, List.filter_map, List.map_map] at hall
      exact hall
    refine { name_eq := rfl, blocks := hblocks, options := ?_ }
    have hoptions := (exact_records hr).entries_options
    rw [hblocks, firstHeight_ofLabelled] at hoptions
    exact hoptions

/-- As many code blocks are gathered as there are labelled blocks. -/
theorem length_blocks_collect (segments : List Segment) :
    ((collect segments).values.flatMap Example.blocks).length =
      (Segment.labelled segments).length := by
  -- gathering puts the code blocks of one name together, which only changes their order
  have hperm : ((collect segments).entries.flatMap fun x => x.2.blocks).Perm
      ([] ++ (segments.filterMap CodeBlock.ofSegment?).flatMap fun b => [b.2]) := by
    rw [collect_eq_gather]
    apply OrderedMap.perm_gather fun (_ : Text) (e : Example) => e.blocks
    · intro b
      exact .refl _
    · intro b e
      exact .refl _
  have hlength := hperm.length_eq
  rw [CodeBlock.filterMap_ofSegment?] at hlength
  simpa [OrderedMap.values, List.flatMap_map, List.length_flatMap] using hlength

/-! ## Gathering blocks and registering examples -/

/-- A block does to the example of its name what an example with that block alone does. -/
theorem blockStep_eq_exampleStep (b : Text × CodeBlock) (old : Option Example) :
    blockStep b old = exampleStep (b.1, blockStep b none) old := by
  have hoptions : (blockStep b none).options.entries = optionsOf b.2 := by
    unfold blockStep optionsOf
    cases b.2.height with
    | none => rfl
    | some h => cases h <;> rfl
  rw [exampleStep, hoptions]
  rfl

/-- Gathering blocks is registering examples of one block each. -/
theorem gather_blockStep (m : OrderedMap Text Example) (bs : List (Text × CodeBlock)) :
    m.gather Prod.fst blockStep bs =
      m.gather Prod.fst exampleStep (bs.map fun b => (b.1, blockStep b none)) := by
  induction bs generalizing m with
  | nil => rfl
  | cons b bs ih =>
      have hstep : blockStep b = exampleStep (b.1, blockStep b none) :=
        funext (blockStep_eq_exampleStep b)
      rw [List.map_cons, OrderedMap.gather_cons, OrderedMap.gather_cons, ih, ← hstep]

/-- Registering the examples of segments on top of others is gathering their blocks there. -/
theorem gather_collect (m : OrderedMap Text Example) (segments : List Segment) :
    m.gather Prod.fst exampleStep (collect segments).entries =
      m.gather Prod.fst blockStep (segments.filterMap CodeBlock.ofSegment?) := by
  -- registering what has been registered elsewhere is the same as doing so at once
  rw [collect_eq_gather, gather_blockStep, Component.gather_examples_gather, gather_blockStep]
  rfl

/-- Registering the examples of two lists of segments one after the other gives the examples of both
together. -/
theorem addExamples_collect (s t : List Segment) :
    ((({} : Component).addExamples (collect s).entries).addExamples (collect t).entries).examples =
      collect (s ++ t) := by
  rw [Component.addExamples_eq, Component.addExamples_eq, collect_eq_gather (s ++ t),
    List.filterMap_append, OrderedMap.gather_append]
  show ((OrderedMap.empty.gather Prod.fst exampleStep (collect s).entries).gather Prod.fst
    exampleStep (collect t).entries) = _
  rw [gather_collect, gather_collect]

/-- Gathering the examples of segments is grouping their labelled blocks, under whatever labels these
have: a map holds the gathered examples exactly if it has one example for each name among the labels, in
order of first appearance, which consists of the labelled blocks of that name. There are as many code
blocks as labelled blocks, and all other segments might as well be missing. The examples of two lists of
segments together are those that a new component has once the examples of each have been registered. -/
theorem collected_examples_are_the_groups :
    (∀ segments : List Segment,
      (∀ examples, IsGrouping segments examples ↔ examples = collect segments) ∧
      ((collect segments).values.flatMap Example.blocks).length =
        (Segment.labelled segments).length ∧
      collect (segments.filter fun s => s.label.isSome) = collect segments) ∧
    ∀ s t : List Segment,
      collect (s ++ t) =
        ((({} : Component).addExamples (collect s).entries).addExamples
          (collect t).entries).examples := by
  refine ⟨fun segments => ⟨fun examples => ⟨?_, ?_⟩, length_blocks_collect segments, ?_⟩, ?_⟩
  · intro h
    exact h.unique (isGrouping_collect segments)
  · rintro rfl
    exact isGrouping_collect segments
  · rw [collect_eq_gather, collect_eq_gather, CodeBlock.filterMap_filter_label]
  · intro s t
    exact (addExamples_collect s t).symm

end Example

end ComponentDocs
