import ComponentDocs.Proofs.FirstCategory

/-!
# Merging as grouping

Merging is described here without a run over a map of groups (`Component.IsGrouping`): there is one
component for each name among the given ones, in order of first appearance, and it combines the
components of that name. Of these, the first gives the name, the first with a category gives the
category, metadata is strung together, and an example combines the examples of its name in the same way,
down to its options (`Example.Combines`).

The description determines the result, and merging gives it (`merged_components_are_the_groups`). The
first component of a group is registered afresh while the others are absorbed, but both are gatherings
of the same entries (`examples_foldl_absorb`), so that no entry has a special place.
-/

set_option autoImplicit false

namespace ComponentDocs

/-! ## Combining examples -/

namespace Example

/-- The example of a name consists of the given parts: their blocks in order, and their options, of
which the first one of each key counts. -/
structure Combines (name : Text) (parts : List Example) (e : Example) : Prop where
  name_eq : e.name = name
  blocks : e.blocks = parts.flatMap Example.blocks
  optionKeys : e.options.keys = (parts.flatMap fun d => d.options.keys).eraseDups
  option : ∀ key, e.options.get? key = parts.findSome? fun d => d.options.get? key

theorem Combines.unique {name : Text} {parts : List Example} {e e' : Example}
    (h : e.Combines name parts) (h' : e'.Combines name parts) : e = e' := by
  have hoptions : e.options = e'.options := by
    refine OrderedMap.ext_views (h.optionKeys.trans h'.optionKeys.symm) fun key => ?_
    rw [h.option, h'.option]
  have hname : e.name = e'.name := h.name_eq.trans h'.name_eq.symm
  have hblocks : e.blocks = e'.blocks := h.blocks.trans h'.blocks.symm
  cases e
  cases e'
  simp_all

/-- Extending an example by others, one after the other. -/
theorem foldl_exampleStep (name : Text) (e : Example) (parts : List Example) :
    parts.foldl (fun old d => some (exampleStep (name, d) old)) (some e) =
      some (e.extend (parts.flatMap Example.blocks)
        (parts.flatMap fun d => d.options.entries)) := by
  induction parts generalizing e with
  | nil => rw [List.foldl_nil, List.flatMap_nil, List.flatMap_nil, extend_nil]
  | cons d parts ih =>
      rw [List.foldl_cons, exampleStep, Option.getD_some, ih, List.flatMap_cons, List.flatMap_cons]
      simp only [extend, List.append_assoc, List.foldl_append]

/-- The first of several values stays. -/
theorem foldl_optionStep (key : Text) (values : List Value) (old : Option Value) :
    values.foldl (fun old v => some (optionStep (key, v) old)) old = old.or values.head? := by
  induction values generalizing old with
  | nil => rw [List.foldl_nil, List.head?_nil, Option.or_none]
  | cons v values ih =>
      rw [List.foldl_cons, ih]
      cases old with
      | none => rfl
      | some w => rfl

/-- An example that is gathered from parts combines them. -/
theorem combines_foldl_exampleStep {name : Text} {parts : List Example} {e : Example}
    (h : parts.foldl (fun old d => some (exampleStep (name, d) old)) none = some e) :
    e.Combines name parts := by
  cases parts with
  | nil => cases h
  | cons d parts =>
      rw [List.foldl_cons, foldl_exampleStep] at h
      have hoptions : e.options = .gather Prod.fst optionStep .empty
          ((d :: parts).flatMap fun d => d.options.entries) := by
        rw [← Option.some.inj h, extend_options, List.flatMap_cons, OrderedMap.gather_append]
        rfl
      refine { name_eq := ?_, blocks := ?_, optionKeys := ?_, option := fun key => ?_ }
      · rw [← Option.some.inj h]
        rfl
      · rw [← Option.some.inj h, List.flatMap_cons]
        rfl
      · rw [hoptions, OrderedMap.keys_gather_flatMap]
      · rw [hoptions, OrderedMap.get?_gather_flatMap, foldl_optionStep, Option.none_or,
          List.head?_filterMap]

end Example

/-! ## Combining components -/

namespace Component

/-- The component consists of the components of a group, of which one is the first. -/
structure Combines (c first : Component) (others : List Component) : Prop where
  name : c.name = first.name
  category : c.category = (((first :: others).find? hasCategory).getD first).category
  metadata : c.metadata = (first :: others).flatMap Component.metadata
  description : c.description =
    others.foldl (fun joined d => joinDescriptions joined d.description) first.description
  exampleNames : c.examples.keys = ((first :: others).flatMap fun d => d.examples.keys).eraseDups
  examples : ∀ name e, c.examples.get? name = some e →
    e.Combines name ((first :: others).filterMap fun d => d.examples.get? name)

/-- The components are the groups of a list by name, in order of first appearance. -/
structure IsGrouping (xs groups : List Component) : Prop where
  names : groups.map groupName = (xs.map groupName).eraseDups
  combines : ∀ c ∈ groups, ∃ first others,
    (xs.filter fun d => d.groupName = c.groupName) = first :: others ∧ c.Combines first others

/-- Components that consist of the same group are the same. -/
theorem Combines.unique {first : Component} {others : List Component} {c c' : Component}
    (h : c.Combines first others) (h' : c'.Combines first others) : c = c' := by
  have hname : c.name = c'.name := h.name.trans h'.name.symm
  have hcategory : c.category = c'.category := h.category.trans h'.category.symm
  have hmetadata : c.metadata = c'.metadata := h.metadata.trans h'.metadata.symm
  have hdescription : c.description = c'.description := h.description.trans h'.description.symm
  have hkeys : c.examples.keys = c'.examples.keys := h.exampleNames.trans h'.exampleNames.symm
  have hexamples : c.examples = c'.examples := by
    refine OrderedMap.ext_values hkeys fun name e e' he he' => ?_
    exact (h.examples name e he).unique (h'.examples name e' he')
  cases c
  cases c'
  simp_all

/-- A list of components has only one grouping. -/
theorem IsGrouping.unique {xs groups groups' : List Component} (h : IsGrouping xs groups)
    (h' : IsGrouping xs groups') : groups = groups' := by
  have hnames : groups.map groupName = groups'.map groupName := h.names.trans h'.names.symm
  have hlength : groups.length = groups'.length := by simpa using congrArg List.length hnames
  refine List.ext_getElem hlength fun i hi hi' => ?_
  -- components in one place have one name, hence one group
  have hname : groups[i].groupName = groups'[i].groupName := by
    have hget := congrArg (fun names => names[i]?) hnames
    simpa [hi, hi'] using hget
  obtain ⟨first, others, hgroup, hc⟩ := h.combines groups[i] (List.getElem_mem hi)
  obtain ⟨first', others', hgroup', hc'⟩ := h'.combines groups'[i] (List.getElem_mem hi')
  rw [hname, hgroup'] at hgroup
  obtain ⟨rfl, rfl⟩ := List.cons.inj hgroup
  exact hc.unique hc'

/-! ## Absorbing the components of a group -/

/-- What absorbing one component after the other makes of a component. The category is left to
`category_foldl_absorb`. -/
theorem foldl_absorb_eq (c : Component) (cs : List Component) :
    cs.foldl absorb c =
      { name := c.name
        category := (cs.foldl absorb c).category
        metadata := c.metadata ++ cs.flatMap Component.metadata
        description := cs.foldl (fun joined d => joinDescriptions joined d.description) c.description
        examples := c.examples.gather Prod.fst exampleStep
          (cs.flatMap fun d => d.examples.entries) } := by
  induction cs generalizing c with
  | nil => simp [OrderedMap.gather]
  | cons d cs ih =>
      rw [List.foldl_cons]
      refine (ih (c.absorb d)).trans ?_
      simp only [absorb_eq, List.flatMap_cons, List.append_assoc, List.foldl_cons,
        OrderedMap.gather_append]

theorem category_fresh (c : Component) : c.fresh.category = c.category := by
  rw [fresh_eq]

/-- The examples of a group are gathered from all of its components alike. -/
theorem examples_foldl_absorb (first : Component) (others : List Component) :
    (others.foldl absorb first.fresh).examples =
      .gather Prod.fst exampleStep .empty
        ((first :: others).flatMap fun d => d.examples.entries) := by
  -- a fresh component is one that has gathered its examples into the empty map
  rw [foldl_absorb_eq, fresh_eq, List.flatMap_cons, OrderedMap.gather_append]

/-- The components of a group that are absorbed by the first one are combined. -/
theorem combines_foldl_absorb (first : Component) (others : List Component) :
    (others.foldl absorb first.fresh).Combines first others where
  name := by rw [name_foldl_absorb, fresh_eq]
  category := by
    rw [category_foldl_absorb, List.find?_cons, List.find?_cons,
      hasCategory_congr (category_fresh first)]
    cases first.hasCategory with
    | true => exact category_fresh first
    | false =>
        cases others.find? hasCategory with
        | none => exact category_fresh first
        | some d => rfl
  metadata := by rw [foldl_absorb_eq, fresh_eq, List.flatMap_cons]
  description := by rw [foldl_absorb_eq, fresh_eq]
  exampleNames := by rw [examples_foldl_absorb, OrderedMap.keys_gather_flatMap]
  examples := by
    intro name e he
    rw [examples_foldl_absorb, OrderedMap.get?_gather_flatMap] at he
    exact Example.combines_foldl_exampleStep he

/-- Once a group has a leader, the others are absorbed. -/
theorem foldl_groupStep (leader : Component) (cs : List Component) :
    cs.foldl (fun old c => some (groupStep c old)) (some leader) =
      some (cs.foldl absorb leader) := by
  induction cs generalizing leader with
  | nil => rfl
  | cons c cs ih => exact ih (leader.absorb c)

/-! ## Merging -/

/-- Merging gives the groups of a list of components. -/
theorem isGrouping_merge (xs : List Component) : IsGrouping xs (merge xs) where
  names := by
    rw [merge_eq, OrderedMap.values, (keyed_groups xs).map_key, OrderedMap.keys_gather_empty]
  combines := by
    intro c hc
    rw [merge_eq] at hc
    obtain ⟨⟨key, c⟩, hentry, rfl⟩ := List.mem_map.1 hc
    have hget : (OrderedMap.gather groupName groupStep .empty xs).get? key = some c :=
      OrderedMap.get?_of_mem_entries hentry
    have hkey : c.groupName = key := keyed_groups xs key c hget
    show ∃ first others, (xs.filter fun d => d.groupName = c.groupName) = first :: others ∧
      c.Combines first others
    rw [hkey]
    rw [OrderedMap.get?_gather] at hget
    -- a component was gathered, so its group is not empty
    cases hgroup : xs.filter fun d => d.groupName = key with
    | nil =>
        rw [hgroup] at hget
        cases hget
    | cons first others =>
        rw [hgroup, List.foldl_cons, foldl_groupStep] at hget
        refine ⟨first, others, rfl, ?_⟩
        rw [← Option.some.inj hget]
        exact combines_foldl_absorb first others

/-- What a component brings to its group, and nothing else, is found in the merged components. -/
theorem perm_merge {γ : Type} (content : Text → Component → List γ)
    (hfresh : ∀ key c, (content key c.fresh).Perm (content key c))
    (habsorb : ∀ key c d, (content key (c.absorb d)).Perm (content key c ++ content key d))
    (xs : List Component) :
    ((merge xs).flatMap fun c => content c.groupName c).Perm
      (xs.flatMap fun c => content c.groupName c) := by
  have hperm : ((OrderedMap.gather groupName groupStep .empty xs).entries.flatMap
      fun e => content e.1 e.2).Perm ([] ++ xs.flatMap fun c => content c.groupName c) :=
    OrderedMap.perm_gather content (fun c => hfresh _ c) (fun c d => habsorb _ d c) .empty xs
  have hgroups : ((merge xs).flatMap fun c => content c.groupName c) =
      (OrderedMap.gather groupName groupStep .empty xs).entries.flatMap
        fun e => content e.1 e.2 := by
    -- the key of a group is also the name of its component
    rw [merge_eq, OrderedMap.values, List.flatMap_map]
    refine List.flatMap_congr fun e he => ?_
    rw [keyed_groups xs e.1 e.2 (OrderedMap.get?_of_mem_entries he)]
  rw [hgroups]
  exact hperm

/-- The metadata of a component, each entry with the name of the component. -/
def placedMetadata (c : Component) : List (Text × MetaEntry) :=
  c.metadata.map fun entry => (c.groupName, entry)

/-- The blocks of examples, each with the name of a component and that of its example. -/
def blocksUnder (name : Text) (examples : List (Text × Example)) : List (Text × Text × CodeBlock) :=
  examples.flatMap fun x => x.2.blocks.map fun b => (name, x.1, b)

/-- The blocks of a component, each with the name of the component and that of its example. -/
def placedBlocks (c : Component) : List (Text × Text × CodeBlock) :=
  blocksUnder c.groupName c.examples.entries

/-- Registering examples adds their blocks. -/
theorem perm_blocksUnder_gather (name : Text) (m : OrderedMap Text Example)
    (es : List (Text × Example)) :
    (blocksUnder name (m.gather Prod.fst exampleStep es).entries).Perm
      (blocksUnder name m.entries ++ blocksUnder name es) := by
  refine OrderedMap.perm_gather (fun key e => e.blocks.map fun b => (name, key, b)) ?_ ?_ m es
  · intro x
    exact .refl _
  · intro x e
    rw [exampleStep, Option.getD_some, extend_blocks, List.map_append]

/-- Merging components is grouping them: a list is the merged one exactly if it has one component for
each name of the given ones, in order of first appearance, which consists of the components of that
name. Every metadata entry and every block of the given components is found in the merged ones as many
times, under the same name and for the same example. -/
theorem merged_components_are_the_groups (xs : List Component) :
    (∀ groups, IsGrouping xs groups ↔ groups = merge xs) ∧
      ((merge xs).flatMap placedMetadata).Perm (xs.flatMap placedMetadata) ∧
      ((merge xs).flatMap placedBlocks).Perm (xs.flatMap placedBlocks) := by
  refine ⟨fun groups => ⟨fun h => h.unique (isGrouping_merge xs), ?_⟩, ?_, ?_⟩
  · rintro rfl
    exact isGrouping_merge xs
  · refine perm_merge (fun name c => c.metadata.map fun entry => (name, entry)) ?_ ?_ xs
    · intro name c
      rw [fresh_eq]
    · intro name c d
      rw [absorb_eq, List.map_append]
  · refine perm_merge (fun name c => blocksUnder name c.examples.entries) ?_ ?_ xs
    · intro name c
      rw [fresh_eq]
      exact perm_blocksUnder_gather name .empty c.examples.entries
    · intro name c d
      rw [absorb_eq]
      exact perm_blocksUnder_gather name c.examples d.examples.entries

/-- A component without a name and one with an empty name share a group, which has the name of the
first. -/
example : (merge [{}, { name := some [] }]).map Component.name = [none] := rfl

end Component

end ComponentDocs
