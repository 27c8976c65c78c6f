import ComponentDocs.Proofs.BlockByBlock
import ComponentDocs.Proofs.PlaceholderLine
import Mathlib.Data.List.Nodup

/-!
# The examples of extracted components

Whatever text or list of files components are extracted from, their examples have a fixed form
(`Example.WellFormed`): an example stands under its own name, has at least one block, each block has a
word for an extension, and the options say no more than the first height that a block declares.

Examples grow in two ways. Gathering the blocks of a text adds one block at a time, and registering or
merging examples appends several blocks with their options. Both are the same extension of an example
(`WellFormed.extend`): the first height of the blocks so far stays the first height of all blocks, and
that is the one which an extension does not overwrite. From this step follow the runs over segments
(`wellFormed_collect`), over examples (`AllWellFormed.gather`) and over components (`wellFormed_merge`).
-/

set_option autoImplicit false

namespace ComponentDocs

open Text

/-! ## The form of an example -/

/-- The form of a block that comes from a labelled fence. -/
structure CodeBlock.WellFormed (b : CodeBlock) : Prop where
  extension : IsWordText b.extension
  height : ∀ h, b.height = some h → h ≠ [] ∧ Solid h

/-- The first height that one of the blocks declares. -/
def CodeBlock.firstHeight (blocks : List CodeBlock) : Option Text :=
  blocks.findSome? CodeBlock.height

namespace Example

/-- The text can be the name of an example. -/
structure IsName (t : Text) : Prop where
  ne_nil : t ≠ []
  no_dot : .char '.' ∉ t
  solid : Solid t

/-- The options of an example: a height if there is one, and nothing else. -/
def heightOptions : Option Text → List (Text × Value)
  | none => []
  | some h => [(Label.heightKey, .text h)]

/-- What holds of an example under a key at all times, also before it has any blocks. -/
structure Consistent (key : Text) (e : Example) : Prop where
  name : e.name = key
  blocks : ∀ b ∈ e.blocks, b.WellFormed
  options : e.options.entries = heightOptions (CodeBlock.firstHeight e.blocks)

/-- The form of an example that stands under a key. -/
structure WellFormed (key : Text) (e : Example) : Prop extends Consistent key e where
  key : IsName key
  blocks_ne_nil : e.blocks ≠ []

/-- All examples of a map have the form. -/
def AllWellFormed (examples : OrderedMap Text Example) : Prop :=
  ∀ x ∈ examples.entries, x.2.WellFormed x.1

/-! ## Extending an example -/

theorem consistent_new (key : Text) : Consistent key { name := key } where
  name := rfl
  blocks b hb := by cases hb
  options := rfl

theorem firstHeight_append (bs cs : List CodeBlock) :
    CodeBlock.firstHeight (bs ++ cs) =
      (CodeBlock.firstHeight bs).or (CodeBlock.firstHeight cs) :=
  List.findSome?_append

/-- An example that has a height keeps it, and one that has none takes that of its extension. -/
theorem entries_options_extend {e : Example} {first second : Option Text}
    (he : e.options.entries = heightOptions first) (blocks : List CodeBlock) :
    (e.extend blocks (heightOptions second)).options.entries =
      heightOptions (first.or second) := by
  cases second with
  | none =>
      rw [Option.or_none]
      exact he
  | some h =>
      have halter : (e.extend blocks (heightOptions (some h))).options.entries =
          OrderedMap.alterEntries Label.heightKey (fun old => old.getD (.text h))
            e.options.entries := rfl
      rw [halter, he]
      cases first with
      | none => rfl
      | some h' => rfl

theorem Consistent.extend {key : Text} {e : Example} (he : e.Consistent key)
    {blocks : List CodeBlock} (hblocks : ∀ b ∈ blocks, b.WellFormed) :
    (e.extend blocks (heightOptions (CodeBlock.firstHeight blocks))).Consistent key where
  name := he.name
  blocks b hb := by
    rcases List.mem_append.1 hb with hb | hb
    · exact he.blocks b hb
    · exact hblocks b hb
  options := by
    rw [entries_options_extend he.options, extend_blocks, firstHeight_append]

/-- What is known under a key, or nothing but the key, becomes well-formed when blocks are added. -/
theorem WellFormed.extend {key : Text} (hkey : IsName key) {known : Option Example}
    (hknown : ∀ e, known = some e → e.WellFormed key) {blocks : List CodeBlock}
    (hne : blocks ≠ []) (hblocks : ∀ b ∈ blocks, b.WellFormed) :
    ((known.getD { name := key }).extend blocks
      (heightOptions (CodeBlock.firstHeight blocks))).WellFormed key := by
  have hold : (known.getD { name := key }).Consistent key := by
    cases known with
    | none => exact consistent_new key
    | some e => exact (hknown e rfl).toConsistent
  refine { hold.extend hblocks with key := hkey, blocks_ne_nil := ?_ }
  rw [extend_blocks]
  exact List.append_ne_nil_of_right_ne_nil _ hne

end Example

/-! ## The examples of segments -/

namespace Label

/-- The name in a header is not empty and has neither dots nor blank characters. -/
theorem isName_of_parse? {header : Text} {a : Label} (h : parse? header = some a) :
    Example.IsName a.name := by
  have hshaped := shaped_of_parse? h
  unfold parse? at h
  simp only at h
  split at h
  case isTrue => cases h
  case isFalse hne =>
      obtain ⟨-, -, -, -, hname, -⟩ := parseTail?_eq_some h
      refine { ne_nil := ?_, no_dot := ?_, solid := hshaped.name }
      · rw [hname]
        simpa using hne
      · intro hdot
        rw [hname] at hdot
        exact absurd (List.mem_takeWhile_imp hdot) (by decide)

/-- A height that is declared is not empty. -/
theorem height_ne_nil {a : Label} {h : Text} (hh : a.height = some h) : h ≠ [] := by
  unfold height at hh
  split at hh
  case h_1 h' _ =>
      split at hh
      case isTrue => cases hh
      case isFalse hne =>
          obtain rfl := Option.some.inj hh
          simpa using hne
  case h_2 => cases hh

end Label

/-- The block of a segment whose label is read is well-formed, and its example has a name. -/
theorem CodeBlock.wellFormed_of_ofSegment? {s : Segment} (hs : s.LabelRead) {name : Text}
    {b : CodeBlock} (h : ofSegment? s = some (name, b)) :
    b.WellFormed ∧ Example.IsName name := by
  cases s with
  | text t => cases h
  | fence f =>
      obtain ⟨a, ha, heq⟩ := Option.map_eq_some_iff.1 (show f.label.map _ = some (name, b) from h)
      obtain ⟨rfl, rfl⟩ := Prod.mk.inj heq
      have hparse := hs.parse?_header ha
      have hshaped := Label.shaped_of_parse? hparse
      refine ⟨{ extension := hshaped.extension, height := fun h hh => ?_ },
        Label.isName_of_parse? hparse⟩
      exact ⟨Label.height_ne_nil hh, hshaped.height h hh⟩

namespace Example

/-- The options of a block are those of an example that has no other block. -/
theorem optionsOf_eq {b : CodeBlock} (hb : b.WellFormed) :
    optionsOf b = heightOptions (CodeBlock.firstHeight [b]) := by
  rw [optionsOf, CodeBlock.firstHeight, List.findSome?_singleton]
  cases hh : b.height with
  | none => rfl
  | some h =>
      have hne : h.isEmpty = false := by simpa using (hb.height h hh).1
      simp only [hne]
      rfl

theorem AllWellFormed.get? {examples : OrderedMap Text Example} (h : AllWellFormed examples)
    {key : Text} {e : Example} (he : examples.get? key = some e) : e.WellFormed key :=
  h (key, e) (OrderedMap.mem_entries_of_get? he)

theorem allWellFormed_of_get? {examples : OrderedMap Text Example}
    (h : ∀ key e, examples.get? key = some e → e.WellFormed key) : AllWellFormed examples :=
  fun x hx => h x.1 x.2 (OrderedMap.get?_of_mem_entries hx)

/-- The examples that are gathered from segments whose labels are read are well-formed. -/
theorem wellFormed_collect {segments : List Segment} (hread : ∀ s ∈ segments, s.LabelRead) :
    AllWellFormed (collect segments) := by
  have hstep : ∀ b ∈ segments.filterMap CodeBlock.ofSegment?, ∀ known : Option Example,
      (∀ e, known = some e → e.WellFormed b.1) → (blockStep b known).WellFormed b.1 := by
    intro b hb known hknown
    obtain ⟨s, hmem, hs⟩ := List.mem_filterMap.1 hb
    obtain ⟨hblock, hname⟩ := CodeBlock.wellFormed_of_ofSegment? (hread s hmem) hs
    rw [blockStep, optionsOf_eq hblock]
    refine WellFormed.extend hname hknown (by simp) ?_
    intro b' hb'
    rw [List.mem_singleton.1 hb']
    exact hblock
  apply allWellFormed_of_get?
  rw [collect_eq_gather]
  apply OrderedMap.forall_get?_gather
  · intro key e he
    cases he
  · intro b hb
    exact hstep b hb none (by simp)
  · intro b hb e he
    exact hstep b hb (some e) (by simpa using he)

/-- Registering well-formed examples on top of others keeps all of them well-formed. -/
theorem AllWellFormed.gather {examples : OrderedMap Text Example} (h : AllWellFormed examples)
    {es : List (Text × Example)} (hes : ∀ x ∈ es, x.2.WellFormed x.1) :
    AllWellFormed (examples.gather Prod.fst exampleStep es) := by
  have hstep : ∀ x ∈ es, ∀ known : Option Example,
      (∀ e, known = some e → e.WellFormed x.1) → (exampleStep x known).WellFormed x.1 := by
    intro x hx known hknown
    have hx := hes x hx
    rw [exampleStep, hx.options]
    exact WellFormed.extend hx.key hknown hx.blocks_ne_nil hx.blocks
  apply allWellFormed_of_get?
  apply OrderedMap.forall_get?_gather
  · intro key e he
    exact h.get? he
  · intro x hx
    exact hstep x hx none (by simp)
  · intro x hx e he
    exact hstep x hx (some e) (by simpa using he)

theorem allWellFormed_empty : AllWellFormed .empty := by
  intro x hx
  cases hx

end Example

/-! ## Components -/

namespace Component

/-- All examples of the component have the form. -/
def WellFormed (c : Component) : Prop :=
  Example.AllWellFormed c.examples

theorem WellFormed.fresh {c : Component} (h : c.WellFormed) : c.fresh.WellFormed := by
  rw [fresh_eq]
  exact Example.allWellFormed_empty.gather h

theorem WellFormed.absorb {c other : Component} (hc : c.WellFormed) (ho : other.WellFormed) :
    (c.absorb other).WellFormed := by
  rw [absorb_eq]
  exact Example.AllWellFormed.gather hc ho

/-- The components of the groups are found in the merged list. -/
theorem exists_get?_of_mem_values {groups : OrderedMap Text Component} {c : Component}
    (h : c ∈ groups.values) : ∃ key, groups.get? key = some c := by
  obtain ⟨x, hx, rfl⟩ := List.mem_map.1 h
  exact ⟨x.1, OrderedMap.get?_of_mem_entries hx⟩

/-- Merging keeps components well-formed. -/
theorem wellFormed_merge {xs : List Component} (h : ∀ c ∈ xs, c.WellFormed) :
    ∀ c ∈ merge xs, c.WellFormed := by
  intro c hc
  rw [merge_eq] at hc
  obtain ⟨key, hkey⟩ := exists_get?_of_mem_values hc
  refine OrderedMap.forall_get?_gather (P := fun _ c => c.WellFormed) ?_ ?_ ?_ key c hkey
  · intro key c hc
    cases hc
  · intro x hx
    exact (h x hx).fresh
  · intro x hx leader hleader
    exact WellFormed.absorb hleader (h x hx)

/-- Merged components have different names. -/
theorem nodup_names_merge (xs : List Component) : ((merge xs).map Component.name).Nodup := by
  -- the names under which components are grouped are the keys, and equal names are grouped together
  have hgroups : ((merge xs).map groupName).Nodup := by
    rw [merge_eq, OrderedMap.values, (keyed_groups xs).map_key]
    exact OrderedMap.nodup _
  have hmap : (merge xs).map groupName =
      ((merge xs).map Component.name).map fun name => name.getD [] := by
    rw [List.map_map]
    rfl
  rw [hmap] at hgroups
  exact List.Nodup.of_map _ hgroups

end Component

/-! ## Results -/

namespace Extraction

/-- What is promised of the components that are found: merging leaves no two of one name, and their
examples have the form. -/
structure Sound (options : ExtractionOptions) (components : List Component) : Prop where
  distinct : options.merge = true → (components.map Component.name).Nodup
  wellFormed : ∀ c ∈ components, c.WellFormed

theorem sound_arrange (options : ExtractionOptions) {components : List Component}
    (h : ∀ c ∈ components, c.WellFormed) : Sound options (arrange options components) := by
  unfold arrange
  split
  case isTrue =>
      exact { distinct := fun _ => Component.nodup_names_merge components,
              wellFormed := Component.wellFormed_merge h }
  case isFalse hmerge => exact { distinct := fun hm => absurd hm hmerge, wellFormed := h }

theorem wellFormed_componentOf (renderable : List Text) (f : FrontMatter) (name : Text) :
    (componentOf renderable f name).WellFormed := by
  unfold componentOf
  simp only [Component.addExamples_eq]
  exact Example.allWellFormed_empty.gather
    (Example.wellFormed_collect fun _ => Segment.labelRead_of_mem_split)

theorem sound_extract {rt : Runtime} {options : ExtractionOptions} {extension : Option Text} {t : Text}
    {components : List Component} (h : extract rt options extension t = .ok components) :
    Sound options components := by
  obtain ⟨found, hfound, rfl⟩ := map_eq_ok_iff.1 h
  refine sound_arrange options fun c hc => ?_
  obtain ⟨block, -, hblock⟩ := exists_block_of_mem hfound hc
  obtain ⟨f, name, -, rfl⟩ := component?_eq_some hblock
  exact wellFormed_componentOf options.renderable f name

theorem sound_load {rt : Runtime} {fs : FileSystem} {options : ExtractionOptions} {files : List Path}
    {components : List Component} (h : Loading.load rt fs options files = .ok components) :
    Sound options components := by
  obtain ⟨found, hfound, rfl⟩ := map_eq_ok_iff.1 h
  refine sound_arrange options fun c hc => ?_
  obtain ⟨file, -, t, own, -, hown, hmem⟩ := Loading.exists_file_of_mem hfound hc
  exact (sound_extract hown).wellFormed c hmem

/-- Whatever text components are extracted from, and whatever files they are loaded from, merged or
not: each of their examples stands under its own name, which is not empty and has neither dots nor
blank characters, has blocks, each with a word for an extension and with no height or one that is
neither empty nor blank anywhere, and has the first of these heights for its only option. Merged
components have different names. -/
theorem results_are_sound :
    (∀ (rt : Runtime) (options : ExtractionOptions) (extension : Option Text) (t : Text)
        (components : List Component),
      extract rt options extension t = .ok components → Sound options components) ∧
    ∀ (rt : Runtime) (fs : FileSystem) (options : ExtractionOptions) (files : List Path)
        (components : List Component),
      Loading.load rt fs options files = .ok components → Sound options components :=
  ⟨fun _ _ _ _ _ h => sound_extract h, fun _ _ _ _ _ h => sound_load h⟩

/-- The heights that blocks declare, by the names of their examples. -/
def declaredHeights (components : List Component) : List (Text × List (Option Text)) :=
  components.flatMap fun c => c.examples.entries.map fun x => (x.1, x.2.blocks.map CodeBlock.height)

/-- Two comments and two files that give blocks to one example of one component: the first block has
no height, and the second one decides. -/
theorem results_of_one_name_are_sound :
    (∃ components,
      extract .own {} (some "js")
        "/*---\nname: a\n---\n```b.html\nx\n```*/ /*---\nname: a\n---\n```b.js height=4\ny\n```*/" =
          .ok components ∧
      declaredHeights components = [(ofString "b", [none, some (ofString "4")])] ∧
      Sound {} components) ∧
    ∃ components,
      Loading.load .own
          { root := .directory
              [("a.md", .file ("---\nname: a\n---\n```b.html\nx\n```".toList.map (.ofNat ·.toNat))),
                ("c.md", .file
                  ("---\nname: a\n---\n```b.js height=4\ny\n```".toList.map (.ofNat ·.toNat)))] }
          {} [.parse "a.md", .parse "c.md"] = .ok components ∧
      declaredHeights components = [(ofString "b", [none, some (ofString "4")])] ∧
      Sound {} components := by
  constructor
  · exact exists_ok_and (by decide +kernel) (results_are_sound.1 _ _ _ _)
  · exact exists_ok_and (by decide +kernel) (results_are_sound.2 _ _ _ _)

end Extraction

end ComponentDocs
