import ComponentDocs.Loading
import ComponentDocs.Proofs.Gathering
import ComponentDocs.Proofs.Trimming

/-!
# Merging in stages

Components may be merged file by file and then across files: the result is that of merging all of
them at once (`merge_merge_append`), field by field and in the same order. The reason is that every
field of a component is combined by an associative operation: the first category that is not empty,
the concatenation of metadata, the joining of descriptions (`joinDescriptions_assoc`), and the
gathering of examples, which in turn gathers blocks and options (`extend_extend`).

Hence loading files with merging switched on is loading them with merging switched off and merging
afterwards (`loadEach_merge`).
-/

set_option autoImplicit false

namespace ComponentDocs

/-! ## Joining descriptions -/

theorem exists_not_blank {t : Text} (h : t.isBlankText = false) :
    ∃ c ∈ t, Text.isBlank c = false := by
  simpa [Text.isBlankText] using h

theorem ne_feed_of_not_blank {c : CodePoint} (h : Text.isBlank c = false) :
    (c == (.char '\n' : CodePoint)) = false := by
  rw [beq_eq_false_iff_ne]
  rintro rfl
  exact absurd h (by decide)

/-- A text that is not blank has a character that is no line feed. -/
theorem exists_ne_feed {t : Text} (h : t.isBlankText = false) :
    ∃ c ∈ t, (c == (.char '\n' : CodePoint)) = false := by
  obtain ⟨c, hc, hblank⟩ := exists_not_blank h
  exact ⟨c, hc, ne_feed_of_not_blank hblank⟩

/-- Taking away line feeds at the back does not make a text blank. -/
theorem isBlankText_trimRight_feed (t : Text) :
    (t.trimRight (· == '\n')).isBlankText = t.isBlankText := by
  have hfeeds : (t.trailing (· == '\n')).all Text.isBlank = true := by
    rw [List.all_eq_true]
    intro c hc
    rw [Text.trailing, List.mem_reverse] at hc
    have heq : c = .char '\n' := by simpa using List.mem_takeWhile_imp hc
    rw [heq]
    decide
  have h := congrArg Text.isBlankText (Text.trimRight_append_trailing (· == '\n') t)
  rw [Text.isBlankText, List.all_append, hfeeds, Bool.and_true] at h
  exact h

theorem joinDescriptions_of_blank_right (a : Text) {b : Text} (hb : b.isBlankText = true) :
    joinDescriptions a b = a := by
  rw [joinDescriptions, if_pos hb]

theorem joinDescriptions_of_blank_left {a b : Text} (ha : a.isBlankText = true)
    (hb : b.isBlankText = false) : joinDescriptions a b = b := by
  rw [joinDescriptions, if_neg (by simp [hb]), if_pos ha]

theorem joinDescriptions_of_not_blank {a b : Text} (ha : a.isBlankText = false)
    (hb : b.isBlankText = false) :
    joinDescriptions a b = a.trimRight (· == '\n') ++ "\n\n" ++ b.trimLeft (· == '\n') := by
  rw [joinDescriptions, if_neg (by simp [hb]), if_neg (by simp [ha])]

/-- Descriptions that are not blank do not become blank by being joined. -/
theorem isBlankText_joinDescriptions {a b : Text} (ha : a.isBlankText = false)
    (hb : b.isBlankText = false) : (joinDescriptions a b).isBlankText = false := by
  have h := isBlankText_trimRight_feed a
  rw [ha, Text.isBlankText] at h
  rw [joinDescriptions_of_not_blank ha hb, Text.isBlankText, List.all_append, List.all_append, h]
  rfl

/-- Joining descriptions is associative. -/
theorem joinDescriptions_assoc (a b c : Text) :
    joinDescriptions (joinDescriptions a b) c = joinDescriptions a (joinDescriptions b c) := by
  cases hc : c.isBlankText with
  | true => rw [joinDescriptions_of_blank_right _ hc, joinDescriptions_of_blank_right _ hc]
  | false =>
      cases hb : b.isBlankText with
      | true => rw [joinDescriptions_of_blank_right a hb, joinDescriptions_of_blank_left hb hc]
      | false =>
          have hbc := isBlankText_joinDescriptions hb hc
          cases ha : a.isBlankText with
          | true =>
              rw [joinDescriptions_of_blank_left ha hb, joinDescriptions_of_blank_left ha hbc]
          | false =>
              have hab := isBlankText_joinDescriptions ha hb
              -- the middle one has a character that is no line feed, so trimming the joined text
              -- at either end does not reach beyond it
              obtain ⟨d, hd, hfeed⟩ := exists_ne_feed hb
              have hleft := Text.mem_trimLeft (p := (· == '\n')) hd hfeed
              have hright := Text.mem_trimRight (p := (· == '\n')) hd hfeed
              rw [joinDescriptions_of_not_blank hab hc, joinDescriptions_of_not_blank ha hbc,
                joinDescriptions_of_not_blank ha hb, joinDescriptions_of_not_blank hb hc,
                Text.trimRight_append_of_mem _ hleft hfeed, List.append_assoc (b.trimRight _),
                Text.trimLeft_append_of_mem hright hfeed, Text.trimLeft_trimRight hd hfeed]
              simp only [List.append_assoc]

/-! ## Gathering examples -/

/-- What an option does to the value under its name: an earlier value stays. -/
def optionStep (o : Text × Value) (old : Option Value) : Value :=
  old.getD o.2

/-- What an example does to the one registered under its name. -/
def exampleStep (e : Text × Example) (old : Option Example) : Example :=
  (old.getD { name := e.1 }).extend e.2.blocks e.2.options.entries

theorem optionStages : OrderedMap.Stages Prod.fst optionStep id where
  key_new _ := rfl
  key_old _ _ _ := rfl
  step_new _ _ := rfl
  step_old _ _ _ := rfl

theorem extend_options (e : Example) (blocks : List CodeBlock) (options : List (Text × Value)) :
    (e.extend blocks options).options = e.options.gather Prod.fst optionStep options := rfl

theorem extend_blocks (e : Example) (blocks : List CodeBlock) (options : List (Text × Value)) :
    (e.extend blocks options).blocks = e.blocks ++ blocks := rfl

/-- Extending by an example that was itself extended is extending twice. -/
theorem extend_extend (e d : Example) (blocks : List CodeBlock) (options : List (Text × Value)) :
    e.extend (d.extend blocks options).blocks (d.extend blocks options).options.entries =
      (e.extend d.blocks d.options.entries).extend blocks options := by
  have hopt := optionStages.gather_entries_gather e.options (w := d.options) (fun _ _ _ => rfl)
    options
  -- the blocks are appended, and the options are gathered in two stages
  rw [List.map_id, List.map_id] at hopt
  rw [extend_blocks, extend_options]
  simp only [Example.extend, List.append_assoc]
  exact congrArg (fun m => { e with blocks := e.blocks ++ (d.blocks ++ blocks), options := m }) hopt

theorem extend_nil (e : Example) : e.extend [] [] = e := by
  simp [Example.extend]

theorem exampleStages : OrderedMap.Stages Prod.fst exampleStep id where
  key_new _ := rfl
  key_old _ _ _ := rfl
  step_new x old := by
    have h := extend_extend (old.getD { name := x.1 }) { name := x.1 } x.2.blocks x.2.options.entries
    rw [show (old.getD { name := x.1 }).extend ({ name := x.1 } : Example).blocks
      ({ name := x.1 } : Example).options.entries = old.getD { name := x.1 } from extend_nil _] at h
    exact h
  step_old x v old := extend_extend _ v x.2.blocks x.2.options.entries

namespace Component

theorem addExamples_eq (c : Component) (es : List (Text × Example)) :
    c.addExamples es = { c with examples := c.examples.gather Prod.fst exampleStep es } := by
  induction es generalizing c with
  | nil => rfl
  | cons e es ih =>
      rw [addExamples, List.foldl_cons, ← addExamples, ih]
      rfl

/-- Gathering the examples of a component that has gathered examples is gathering its earlier ones
and then these. -/
theorem gather_examples_gather (m n : OrderedMap Text Example) (es : List (Text × Example)) :
    m.gather Prod.fst exampleStep (n.gather Prod.fst exampleStep es).entries =
      (m.gather Prod.fst exampleStep n.entries).gather Prod.fst exampleStep es := by
  have h := exampleStages.gather_entries_gather m (w := n) (fun _ _ _ => rfl) es
  rwa [List.map_id, List.map_id] at h

/-! ## Merging components -/

theorem fresh_eq (c : Component) :
    c.fresh = { c with examples := .gather Prod.fst exampleStep .empty c.examples.entries } :=
  addExamples_eq _ _

/-- The category of two components of one name. -/
def joinedCategory (c other : Component) : Option Text :=
  if !c.hasCategory && other.hasCategory then other.category else c.category

theorem absorb_eq (c other : Component) :
    c.absorb other =
      { name := c.name
        category := joinedCategory c other
        metadata := c.metadata ++ other.metadata
        description := joinDescriptions c.description other.description
        examples := c.examples.gather Prod.fst exampleStep other.examples.entries } :=
  addExamples_eq _ _

theorem category_absorb (c other : Component) :
    (c.absorb other).category = joinedCategory c other := by
  rw [absorb_eq]

theorem joinedCategory_of_left {c : Component} (h : c.hasCategory = true) (other : Component) :
    joinedCategory c other = c.category := by
  rw [joinedCategory, h]
  rfl

theorem joinedCategory_of_not_left {c : Component} (h : c.hasCategory = false)
    (other : Component) :
    joinedCategory c other = if other.hasCategory then other.category else c.category := by
  rw [joinedCategory, h, Bool.not_false, Bool.true_and]

theorem hasCategory_congr {c d : Component} (h : c.category = d.category) :
    c.hasCategory = d.hasCategory := by
  rw [hasCategory, hasCategory, h]

theorem hasCategory_absorb (c other : Component) :
    (c.absorb other).hasCategory = (c.hasCategory || other.hasCategory) := by
  have hcat := category_absorb c other
  cases hc : c.hasCategory with
  | true =>
      rw [joinedCategory_of_left hc] at hcat
      rw [hasCategory_congr hcat, hc, Bool.true_or]
  | false =>
      rw [joinedCategory_of_not_left hc] at hcat
      rw [Bool.false_or]
      cases ho : other.hasCategory with
      | true =>
          rw [ho, if_pos rfl] at hcat
          rw [hasCategory_congr hcat, ho]
      | false =>
          rw [ho, if_neg (by simp)] at hcat
          rw [hasCategory_congr hcat, hc]

/-- Of several categories, the first that is not empty wins in whatever order they are compared. -/
theorem joinedCategory_absorb (a b c : Component) :
    joinedCategory a (b.absorb c) = joinedCategory (a.absorb b) c := by
  cases ha : a.hasCategory with
  | true =>
      have hab : (a.absorb b).hasCategory = true := by rw [hasCategory_absorb, ha, Bool.true_or]
      rw [joinedCategory_of_left ha, joinedCategory_of_left hab, category_absorb,
        joinedCategory_of_left ha]
  | false =>
      have hab : (a.absorb b).hasCategory = b.hasCategory := by
        rw [hasCategory_absorb, ha, Bool.false_or]
      rw [joinedCategory_of_not_left ha, hasCategory_absorb, category_absorb]
      cases hb : b.hasCategory with
      | true =>
          rw [hb] at hab
          rw [Bool.true_or, if_pos rfl, joinedCategory_of_left hb, joinedCategory_of_left hab,
            category_absorb, joinedCategory_of_not_left ha, hb, if_pos rfl]
      | false =>
          rw [hb] at hab
          rw [Bool.false_or, joinedCategory_of_not_left hb, joinedCategory_of_not_left hab,
            category_absorb, joinedCategory_of_not_left ha, hb]
          cases c.hasCategory <;> rfl

/-- Absorbing is associative. -/
theorem absorb_absorb (a b c : Component) : a.absorb (b.absorb c) = (a.absorb b).absorb c := by
  rw [absorb_eq a, absorb_eq (a.absorb b), joinedCategory_absorb, absorb_eq b, absorb_eq a b]
  simp only [joinDescriptions_assoc, List.append_assoc, gather_examples_gather]

/-- What the registering of examples afresh changes makes no difference to a second merge. -/
theorem absorb_fresh (a b : Component) : a.absorb b.fresh = a.absorb b := by
  have hex := gather_examples_gather a.examples .empty b.examples.entries
  rw [absorb_eq, absorb_eq, fresh_eq]
  simp only [hex]
  rfl

theorem fresh_fresh (a : Component) : a.fresh.fresh = a.fresh := by
  have hex := gather_examples_gather .empty .empty a.examples.entries
  rw [fresh_eq a.fresh, fresh_eq a]
  simp only [hex]
  rfl

theorem fresh_absorb (a b : Component) : (a.absorb b).fresh = a.fresh.absorb b := by
  have hex := gather_examples_gather .empty a.examples b.examples.entries
  rw [fresh_eq, absorb_eq, absorb_eq a.fresh, fresh_eq a]
  simp only [hex]
  rfl

/-- What a component does to the leader of its group. -/
def groupStep (c : Component) : Option Component → Component
  | none => c.fresh
  | some leader => leader.absorb c

theorem groupName_fresh (c : Component) : c.fresh.groupName = c.groupName := by
  rw [fresh_eq]
  rfl

theorem groupName_absorb (c other : Component) : (c.absorb other).groupName = c.groupName := by
  rw [absorb_eq]
  rfl

theorem componentStages : OrderedMap.Stages groupName groupStep Prod.snd where
  key_new x := groupName_fresh x
  key_old x v hv := (groupName_absorb v x).trans hv
  step_new x old := by
    cases old with
    | none => exact fresh_fresh x
    | some leader => exact absorb_fresh leader x
  step_old x v old := by
    cases old with
    | none => exact fresh_absorb v x
    | some leader => exact absorb_absorb leader v x

theorem merge_eq (xs : List Component) :
    merge xs = (OrderedMap.gather groupName groupStep .empty xs).values := rfl

/-- The components into which others are gathered stand under their names. -/
theorem keyed_groups (xs : List Component) :
    OrderedMap.Keyed groupName Prod.snd (OrderedMap.gather groupName groupStep .empty xs) :=
  componentStages.keyed_gather OrderedMap.keyed_empty xs

/-- Gathering merged components into groups is gathering the components themselves. -/
theorem gather_merge (groups : OrderedMap Text Component) (xs : List Component) :
    groups.gather groupName groupStep (merge xs) = groups.gather groupName groupStep xs :=
  componentStages.gather_gather_empty groups xs

/-- Merging merged lists is merging once. -/
theorem merge_append_merge (xs ys : List Component) :
    merge (merge xs ++ merge ys) = merge (xs ++ ys) := by
  rw [merge_eq (merge xs ++ merge ys), merge_eq (xs ++ ys), OrderedMap.gather_append,
    OrderedMap.gather_append, gather_merge, gather_merge]

theorem merge_merge (xs : List Component) : merge (merge xs) = merge xs := by
  have h := merge_append_merge xs []
  rwa [show merge [] = [] from rfl, List.append_nil, List.append_nil] at h

/-- A list may be merged before another one is appended to it. -/
theorem merge_merge_append (xs ys zs : List Component) (h : merge ys = merge zs) :
    merge (merge xs ++ ys) = merge (xs ++ zs) := by
  rw [← merge_append_merge (merge xs), merge_merge, h, merge_append_merge]

/-- Outcomes that are the same after merging stay so when components are put in front of them, and
these may be merged before. -/
theorem map_merge_append {ε : Type} {x y : Except ε (List Component)}
    (h : x.map merge = y.map merge) (own : List Component) :
    (x.map (merge own ++ ·)).map merge = (y.map (own ++ ·)).map merge := by
  cases x with
  | error e =>
      cases y with
      | error e' => exact h
      | ok zs => cases h
  | ok ys =>
      cases y with
      | error e' => cases h
      | ok zs =>
          have hmerge : merge ys = merge zs := Except.ok.inj h
          exact congrArg Except.ok (merge_merge_append own ys zs hmerge)

end Component

/-! ## Loading files -/

/-- Whether components are merged makes no difference to how those of the single blocks are found. -/
theorem Extraction.componentsOf_merge (rt : Runtime) (options : ExtractionOptions) (merge : Bool)
    (blocks : List Text) :
    componentsOf rt { options with merge := merge } blocks = componentsOf rt options blocks := by
  induction blocks with
  | nil => rfl
  | cons block rest ih =>
      rw [componentsOf, componentsOf, ih]
      rfl

/-- Extracting with merging switched on merges what is extracted without. -/
theorem Extraction.extract_merge (rt : Runtime) (options : ExtractionOptions)
    (extension : Option Text) (t : Text) :
    extract rt { options with merge := true } extension t =
      (extract rt { options with merge := false } extension t).map Component.merge := by
  unfold extract
  rw [componentsOf_merge rt options true, componentsOf_merge rt options false]
  cases componentsOf rt options (documentationBlocks options.markdown extension t) with
  | error e => rfl
  | ok components => rfl

namespace Loading

variable (rt : Runtime) (fs : FileSystem) (options : ExtractionOptions)

theorem loadFile_merge (file : Path) :
    loadFile rt fs { options with merge := true } file =
      (loadFile rt fs { options with merge := false } file).map Component.merge := by
  unfold loadFile
  cases readText fs file with
  | error e => rfl
  | ok t =>
      show (Extraction.extract rt _ _ t).mapError _ = ((Extraction.extract rt _ _ t).mapError _).map _
      rw [Extraction.extract_merge]
      cases Extraction.extract rt { options with merge := false } (some file.suffix) t with
      | error e => rfl
      | ok components => rfl

/-- Files that are merged one by one give the same components after a last merge. -/
theorem loadEach_merge (files : List Path) :
    (loadEach rt fs { options with merge := true } files).map Component.merge =
      (loadEach rt fs { options with merge := false } files).map Component.merge := by
  induction files with
  | nil => rfl
  | cons file rest ih =>
      rw [loadEach, loadEach, loadFile_merge]
      cases loadFile rt fs { options with merge := false } file with
      | error e => rfl
      | ok xs => exact Component.map_merge_append ih xs

/-- Merging the components of each file and then across files is merging once. Loading files with
merging switched on fails exactly as it does with merging switched off, and otherwise gives what that
gives, merged. -/
theorem merging_in_stages_eq_merging_once :
    (∀ xs ys : List Component,
      Component.merge (Component.merge xs ++ Component.merge ys) = Component.merge (xs ++ ys)) ∧
    ∀ (rt : Runtime) (fs : FileSystem) (options : ExtractionOptions) (files : List Path),
      load rt fs { options with merge := true } files =
        (load rt fs { options with merge := false } files).map Component.merge := by
  refine ⟨Component.merge_append_merge, fun rt fs options files => ?_⟩
  rw [load, load]
  show (loadEach rt fs _ files).map Component.merge =
    ((loadEach rt fs _ files).map fun components => components).map Component.merge
  rw [loadEach_merge]
  cases loadEach rt fs { options with merge := false } files with
  | error e => rfl
  | ok components => rfl

end Loading

end ComponentDocs
