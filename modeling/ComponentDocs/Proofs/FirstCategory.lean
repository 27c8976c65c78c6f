import ComponentDocs.Proofs.BlockByBlock
import Mathlib.Data.List.Forall2

/-!
# The category of blocks that share a name

Blocks that declare one name become one component when they are merged. Its category is that of the first
block which states one (`Component.category_foldl_absorb`): a header states its category when it
declares a value that is neither null nor the empty text (`Value.isStated`), since only the empty text
is displayed as nothing (`Value.display_eq_nil_iff`). If no block states a category, the first block
decides between no category and the empty one.

This is not the rule of the first category that is not empty, because zero, false and empty collections
are stated. `category_of_named_blocks` says when the two rules agree.
-/

set_option autoImplicit false

namespace ComponentDocs

/-! ## Values that are displayed as nothing -/

theorem Text.ofNat_ne_nil (n : Nat) : Text.ofNat n ≠ [] := by
  simp [Text.ofNat, Nat.toDigits_ne_nil]

theorem Text.ofInt_ne_nil (n : Int) : Text.ofInt n ≠ [] := by
  unfold Text.ofInt
  split
  · simp
  · exact Text.ofNat_ne_nil _

theorem Text.ofNatPadded_ne_nil (width n : Nat) : Text.ofNatPadded width n ≠ [] :=
  List.append_ne_nil_of_right_ne_nil _ (Text.ofNat_ne_nil n)

theorem Decimal.ofFloat_ne_nil (x : Float) : Decimal.ofFloat x ≠ [] := by
  unfold ofFloat spell
  split
  case isTrue => decide
  case isFalse =>
      simp only
      split
      case isTrue => simp [Text.ofString]
      case isFalse =>
          split
          case isTrue => simp [Text.ofString]
          case isFalse =>
              -- what stands behind the sign has a point or an exponent
              apply List.append_ne_nil_of_right_ne_nil
              split
              case isTrue =>
                  split
                  case isTrue => simp [Text.ofString]
                  case isFalse =>
                      split
                      case isTrue => simp [Text.ofString]
                      case isFalse => simp [Text.ofString]
              case isFalse =>
                  exact List.append_ne_nil_of_right_ne_nil _ (Text.ofNatPadded_ne_nil _ _)

namespace Value

theorem literal_ne_nil (v : Value) : v.literal ≠ [] := by
  cases v with
  | null => simp [literal, Text.ofString]
  | bool b => cases b <;> simp [literal, Text.ofString]
  | int n => exact Text.ofInt_ne_nil n
  | float x => exact Decimal.ofFloat_ne_nil x
  | text t => simp [literal, Text.quoted]
  | bytes octets => simp [literal, Text.quotedBytes, Text.ofString]
  | date d => simp [literal, dateLiteral, Text.ofString]
  | moment m => simp [literal, momentLiteral, Text.ofString]
  | list items => simp [literal, Text.ofString]
  | tuple items => simp [literal, Text.ofString]
  | set items =>
      rw [literal]
      split
      · decide
      · simp [Text.ofString]
  | map entries => simp [literal, Text.ofString]
  | loop kind => cases kind <;> simp [literal, loopLiteral, Text.ofString]

/-- Only the empty text is displayed as nothing. -/
theorem display_eq_nil_iff (v : Value) : v.display = [] ↔ v = .text [] := by
  cases v with
  | text t => simp [display]
  | date d => simp [display, Date.iso, Text.ofString]
  | moment m => simp [display, Moment.iso, Moment.isoLocal]
  | null => simp [display, literal_ne_nil]
  | bool b => simp [display, literal_ne_nil]
  | int n => simp [display, literal_ne_nil]
  | float x => simp [display, literal_ne_nil]
  | bytes octets => simp [display, literal_ne_nil]
  | list items => simp [display, literal_ne_nil]
  | tuple items => simp [display, literal_ne_nil]
  | set items => simp [display, literal_ne_nil]
  | map entries => simp [display, literal_ne_nil]
  | loop kind => simp [display, literal_ne_nil]

/-- Whether a value states something: it is neither null nor the empty text. -/
def isStated : Value → Bool
  | null => false
  | text t => !t.isEmpty
  | _ => true

theorem isStated_of_isTruthy {v : Value} (h : v.isTruthy = true) : v.isStated = true := by
  cases v with
  | null => cases h
  | text t => exact h
  | _ => rfl

end Value

/-! ## Merging components of one name -/

namespace Component

/-- Components of the group of a leader are absorbed by it, one after the other. -/
theorem values_foldl_mergeInto {key : Text} {groups : OrderedMap Text Component}
    {leader : Component} (hgroups : groups.entries = [(key, leader)]) {cs : List Component}
    (hcs : ∀ c ∈ cs, c.groupName = key) :
    (cs.foldl mergeInto groups).values = [cs.foldl absorb leader] := by
  induction cs generalizing groups leader with
  | nil => simp [OrderedMap.values, hgroups]
  | cons c cs ih =>
      rw [List.foldl_cons, List.foldl_cons]
      apply ih
      · show OrderedMap.alterEntries c.groupName _ groups.entries = _
        rw [hgroups, hcs c List.mem_cons_self]
        simp [OrderedMap.alterEntries]
      · intro d hd
        exact hcs d (List.mem_cons_of_mem c hd)

/-- Components of one name are merged into one. -/
theorem merge_of_groupName {first : Component} {cs : List Component}
    (h : ∀ c ∈ cs, c.groupName = first.groupName) :
    merge (first :: cs) = [cs.foldl absorb first.fresh] := by
  rw [merge, List.foldl_cons]
  apply values_foldl_mergeInto _ h
  rfl

theorem name_foldl_absorb (c : Component) (cs : List Component) :
    (cs.foldl absorb c).name = c.name := by
  induction cs generalizing c with
  | nil => rfl
  | cons d cs ih => rw [List.foldl_cons, ih, absorb_eq]

/-- The first component with a category gives it to the whole, and the leader does if there is none. -/
theorem category_foldl_absorb (c : Component) (cs : List Component) :
    (cs.foldl absorb c).category =
      (((c :: cs).find? hasCategory).getD c).category := by
  induction cs generalizing c with
  | nil =>
      rw [List.foldl_nil, List.find?_singleton]
      split
      · rfl
      · rfl
  | cons d cs ih =>
      rw [List.foldl_cons, ih, List.find?_cons, hasCategory_absorb]
      cases hc : c.hasCategory with
      | true =>
          rw [List.find?_cons, hc]
          exact (category_absorb c d).trans (joinedCategory_of_left hc d)
      | false =>
          rw [List.find?_cons, hc, List.find?_cons]
          have hjoined := (category_absorb c d).trans (joinedCategory_of_not_left hc d)
          cases hd : d.hasCategory with
          | true => simpa [hd] using hjoined
          | false =>
              rw [hd] at hjoined
              cases cs.find? hasCategory with
              | none => simpa using hjoined
              | some e => rfl

end Component

/-! ## Blocks of one name -/

namespace Extraction

/-- The first category among those that headers declare which is of a class of values. -/
def firstCategory (p : Value → Bool) (headers : List FrontMatter) : Option Value :=
  headers.findSome? fun f => (f.get? categoryKey).filter p

theorem firstCategory_cons (p : Value → Bool) (f : FrontMatter) (headers : List FrontMatter) :
    firstCategory p (f :: headers) =
      ((f.get? categoryKey).filter p).or (firstCategory p headers) := by
  rw [firstCategory, List.findSome?_cons]
  cases (f.get? categoryKey).filter p with
  | none => rfl
  | some v => rfl

theorem filter_isTruthy_of_isStated {declared : Option Value}
    (h : declared.filter Value.isStated = none) : declared.filter Value.isTruthy = none := by
  rw [Option.filter_eq_none_iff] at h ⊢
  intro v hv htruthy
  exact h v hv (Value.isStated_of_isTruthy htruthy)

/-- Where no category is stated, none is truthy. -/
theorem firstCategory_isTruthy_eq_none {headers : List FrontMatter}
    (h : firstCategory Value.isStated headers = none) :
    firstCategory Value.isTruthy headers = none := by
  rw [firstCategory, List.findSome?_eq_none_iff] at h ⊢
  intro f hf
  exact filter_isTruthy_of_isStated (h f hf)

/-- If the category that is stated first is truthy, it is the first truthy one. -/
theorem firstCategory_isTruthy_eq_some {headers : List FrontMatter} {v : Value}
    (h : firstCategory Value.isStated headers = some v) (hv : v.isTruthy = true) :
    firstCategory Value.isTruthy headers = some v := by
  induction headers with
  | nil => cases h
  | cons f headers ih =>
      rw [firstCategory_cons] at h ⊢
      cases hstated : (f.get? categoryKey).filter Value.isStated with
      | none =>
          rw [hstated, Option.none_or] at h
          rw [filter_isTruthy_of_isStated hstated, Option.none_or]
          exact ih h
      | some w =>
          rw [hstated, Option.some_or] at h
          obtain rfl := Option.some.inj h
          have hdeclared := (Option.filter_eq_some_iff.1 hstated).1
          rw [hdeclared, Option.filter_some_pos hv, Option.some_or]

/-- The category that a header states is the text of its value. -/
theorem categoryOf?_of_isStated {f : FrontMatter} {v : Value}
    (h : (f.get? categoryKey).filter Value.isStated = some v) : categoryOf? f = some v.display := by
  obtain ⟨hv, hstated⟩ := Option.filter_eq_some_iff.1 h
  rw [categoryOf?, hv]
  cases v with
  | null => cases hstated
  | _ => rfl

section Components

variable (renderable : List Text) (name : Text)

theorem category_componentOf (f : FrontMatter) :
    (componentOf renderable f name).category = categoryOf? f := by
  unfold componentOf
  simp only [Component.addExamples_eq]

theorem name_componentOf (f : FrontMatter) :
    (componentOf renderable f name).name = some name := by
  unfold componentOf
  simp only [Component.addExamples_eq]

/-- A component has a category when its header states one. -/
theorem hasCategory_componentOf (f : FrontMatter) :
    (componentOf renderable f name).hasCategory =
      ((f.get? categoryKey).filter Value.isStated).isSome := by
  rw [Component.hasCategory, category_componentOf, categoryOf?]
  cases f.get? categoryKey with
  | none => rfl
  | some v =>
      cases v with
      | null => rfl
      | text t => cases t <;> rfl
      | _ => simp [Value.isStated, Value.display_eq_nil_iff]

/-- The first header that states a category decides the category among the components of headers. -/
theorem category_find?_componentOf (headers : List FrontMatter) (leader : Component) :
    (((headers.map fun f => componentOf renderable f name).find? Component.hasCategory).getD
        leader).category =
      match firstCategory Value.isStated headers with
      | some v => some v.display
      | none => leader.category := by
  induction headers with
  | nil => rfl
  | cons f headers ih =>
      rw [List.map_cons, List.find?_cons, hasCategory_componentOf, firstCategory_cons]
      cases hstated : (f.get? categoryKey).filter Value.isStated with
      | none => exact ih
      | some v =>
          show (componentOf renderable f name).category = some v.display
          rw [category_componentOf, categoryOf?_of_isStated hstated]

end Components

/-- The blocks of a list declare one name, and these are their headers. -/
def Declare (rt : Runtime) (name : Text) (blocks : List Text) (headers : List FrontMatter) : Prop :=
  List.Forall₂ (fun block f => titled rt block = .ok (f, some name)) blocks headers

/-- Blocks that declare a name give one component each. -/
theorem componentsOf_of_declare {rt : Runtime} {options : ExtractionOptions} {name : Text}
    {blocks : List Text} {headers : List FrontMatter} (h : Declare rt name blocks headers) :
    componentsOf rt options blocks =
      .ok (headers.map fun f => componentOf options.renderable f name) := by
  induction h with
  | nil => rfl
  | cons hblock _ ih =>
      rw [componentsOf, component?, hblock, ih]
      rfl

/-- The category of a component whose blocks have the given headers, the first one first. -/
def categoryOfBlocks (first : FrontMatter) (others : List FrontMatter) : Option Text :=
  match firstCategory Value.isStated (first :: others) with
  | some v => some v.display
  | none => categoryOf? first

/-- Blocks of one name are merged into one component with the category that is stated first. -/
theorem merge_componentOf (renderable : List Text) (name : Text) (first : FrontMatter)
    (others : List FrontMatter) :
    ∃ c, Component.merge ((first :: others).map fun f => componentOf renderable f name) = [c] ∧
      c.name = some name ∧ c.category = categoryOfBlocks first others := by
  have hname : ∀ f, (componentOf renderable f name).groupName = name := by
    intro f
    rw [Component.groupName, name_componentOf]
    rfl
  have hgroup : ∀ c ∈ others.map fun f => componentOf renderable f name,
      c.groupName = (componentOf renderable first name).groupName := by
    intro c hc
    obtain ⟨f, -, rfl⟩ := List.mem_map.1 hc
    rw [hname, hname]
  have hfresh : (componentOf renderable first name).fresh.category = categoryOf? first := by
    rw [Component.fresh_eq, category_componentOf]
  refine ⟨_, Component.merge_of_groupName hgroup, ?_, ?_⟩
  · rw [Component.name_foldl_absorb, Component.fresh_eq, name_componentOf]
  · rw [Component.category_foldl_absorb, List.find?_cons, categoryOfBlocks, firstCategory_cons,
      Component.hasCategory_congr (hfresh.trans (category_componentOf renderable name first).symm),
      hasCategory_componentOf]
    cases hstated : (first.get? categoryKey).filter Value.isStated with
    | none =>
        rw [← hfresh]
        exact category_find?_componentOf renderable name others _
    | some v => exact hfresh.trans (categoryOf?_of_isStated hstated)

/-- The category that is stated first is the first truthy one unless another value is stated before it;
if none is stated, the first block must not declare the empty text. -/
theorem categoryOfBlocks_eq_iff (first : FrontMatter) (others : List FrontMatter) :
    categoryOfBlocks first others =
        (firstCategory Value.isTruthy (first :: others)).map Value.display ↔
      match firstCategory Value.isStated (first :: others) with
      | none => first.get? categoryKey ≠ some (.text [])
      | some v => v.isTruthy = true ∨
          ∃ w, firstCategory Value.isTruthy (first :: others) = some w ∧ w.display = v.display := by
  rw [categoryOfBlocks]
  cases hstated : firstCategory Value.isStated (first :: others) with
  | none =>
      rw [firstCategory_isTruthy_eq_none hstated, Option.map_none]
      -- a first block that states nothing declares nothing, null or the empty text
      have hfirst : (first.get? categoryKey).filter Value.isStated = none := by
        rw [firstCategory_cons, Option.or_eq_none_iff] at hstated
        exact hstated.1
      unfold categoryOf?
      cases hdeclared : first.get? categoryKey with
      | none => simp
      | some v =>
          rw [hdeclared, Option.filter_eq_none_iff] at hfirst
          have hv := hfirst v rfl
          cases v with
          | null => simp
          | text t =>
              obtain rfl : t = [] := by simpa [Value.isStated] using hv
              simp
          | _ => exact absurd rfl hv
  | some v =>
      constructor
      · intro h
        right
        obtain ⟨w, hw, hdisplay⟩ := Option.map_eq_some_iff.1 h.symm
        exact ⟨w, hw, hdisplay⟩
      · rintro (htruthy | ⟨w, hw, hdisplay⟩)
        · rw [firstCategory_isTruthy_eq_some hstated htruthy]
          rfl
        · rw [hw, Option.map_some, hdisplay]

/-- Blocks that declare one name, and are read together, become one component when they are merged. Its
category is the text of the first value that is declared for it and is neither null nor the empty text;
if there is none, it is what the first block declares. This is the text of the first truthy value, and no
category without one, exactly if the value that is stated first is truthy, or has the text of the first
truthy one, and if the first block does not declare the empty text where no value is stated. -/
theorem category_of_named_blocks (rt : Runtime) (options : ExtractionOptions)
    (hmerge : options.merge = true) (name : Text) (blocks : List Text) (first : FrontMatter) (others : List FrontMatter)
    (hblocks : Declare rt name blocks (first :: others)) :
    ∃ c, (componentsOf rt options blocks).map (arrange options) = .ok [c] ∧
      (∀ source t, documentationBlocks options.markdown source t = blocks →
        extract rt options source t = .ok [c]) ∧
      c.name = some name ∧
      c.category = categoryOfBlocks first others ∧
      (c.category = (firstCategory Value.isTruthy (first :: others)).map Value.display ↔
        match firstCategory Value.isStated (first :: others) with
        | none => first.get? categoryKey ≠ some (.text [])
        | some v => v.isTruthy = true ∨
            ∃ w, firstCategory Value.isTruthy (first :: others) = some w ∧
              w.display = v.display) := by
  obtain ⟨c, hc, hname, hcategory⟩ := merge_componentOf options.renderable name first others
  have hcomponents : (componentsOf rt options blocks).map (arrange options) = .ok [c] := by
    rw [componentsOf_of_declare hblocks, Except.map, arrange, if_pos hmerge, hc]
  refine ⟨c, hcomponents, ?_, hname, hcategory, ?_⟩
  · intro source t ht
    rw [extract, ht, hcomponents]
  · rw [hcategory]
    exact categoryOfBlocks_eq_iff first others

/-- The name that a header declares and the category that it states. -/
def titles (x : FrontMatter × Option Text) : Option Text × Option Text :=
  (x.2, ((x.1.get? categoryKey).filter Value.isStated).map Value.display)

theorem exists_header (rt : Runtime) (block name : Text) (category : Option Text)
    (h : ((titled rt block).map titles).toOption = some (some name, category)) :
    ∃ f, titled rt block = .ok (f, some name) ∧
      ((f.get? categoryKey).filter Value.isStated).map Value.display = category := by
  obtain ⟨⟨f, declared⟩, hf, htitles⟩ := map_eq_ok_iff.1 (toOption_eq_some_iff.1 h)
  obtain ⟨rfl, hcategory⟩ := Prod.mk.inj htitles
  exact ⟨f, hf, hcategory⟩

open Text in
/-- Of three comments for one component, the first states no category, and the second decides. -/
theorem category_of_second_comment :
    ∃ c, extract .own {} (some "js")
          ("/*---\nname: a\ncategory:\n---*/ /*---\nname: a\ncategory: b\n---*/ " ++
            "/*---\nname: a\ncategory: 0\n---*/") = .ok [c] ∧
      c.name = some (ofString "a") ∧ c.category = some (ofString "b") := by
  obtain ⟨first, hfirst, hnone⟩ :=
    exists_header .own "---\nname: a\ncategory:\n---" "a" none (by decide +kernel)
  obtain ⟨second, hsecond, hb⟩ :=
    exists_header .own "---\nname: a\ncategory: b\n---" "a" (some "b") (by decide +kernel)
  obtain ⟨third, hthird, -⟩ :=
    exists_header .own "---\nname: a\ncategory: 0\n---" "a" (some "0") (by decide +kernel)
  have hdeclare : Declare .own "a" ["---\nname: a\ncategory:\n---", "---\nname: a\ncategory: b\n---",
      "---\nname: a\ncategory: 0\n---"] [first, second, third] :=
    .cons hfirst (.cons hsecond (.cons hthird .nil))
  obtain ⟨c, -, hextract, hname, hcategory, -⟩ :=
    category_of_named_blocks .own {} rfl "a" _ first [second, third] hdeclare
  obtain ⟨v, hv, hdisplay⟩ := Option.map_eq_some_iff.1 hb
  refine ⟨c, hextract _ _ (by decide +kernel), hname, ?_⟩
  rw [hcategory, categoryOfBlocks, firstCategory_cons, Option.map_eq_none_iff.1 hnone,
    firstCategory_cons, hv, Option.none_or, Option.some_or]
  exact congrArg some hdisplay

/-- One block with the category false, one with an empty text, and two of which the first has zero for
its category: the category is in no case that of the first truthy value. -/
theorem category_of_falsy_values :
    ((extract .own {} (some "md") "---\nname: a\ncategory: false\n---\n").map fun cs =>
      cs.map Component.category).toOption = some [some (Text.ofString "False")] ∧
    ((extract .own {} (some "md") "---\nname: a\ncategory: ''\n---\n").map fun cs =>
      cs.map Component.category).toOption = some [some []] ∧
    ((extract .own {} (some "js")
      "/*---\nname: a\ncategory: 0\n---*/ /*---\nname: a\ncategory: b\n---*/").map fun cs =>
      cs.map Component.category).toOption = some [some (Text.ofString "0")] := by
  decide +kernel

end Extraction

end ComponentDocs
