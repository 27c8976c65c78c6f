import ComponentDocs.Proofs.DocumentTrees
import ComponentDocs.Proofs.FirstCategory
import ComponentDocs.Proofs.ReportedFaults

/-!
# The expansion of a header

The header of a block is a mapping, and its keys are told apart by their texts. The metadata of the
component follow the distinct texts in the order in which they appear first (`keyTexts`), each with the
value of the last key that reads so (`lastNode?`): one entry for each member of a list, and one entry
for anything else (`expansion`). The name is the text of such a value, and a header whose name is missing
or empty leaves no component.

All this holds as far as what has to be written can be written. A key, or the name or the category of a
component, may have too many digits or be nested too deeply, and then there is no result at all: the
first of these values decides the error (`keyFault?`, `titleFaultIn?`).
-/

set_option autoImplicit false

namespace ComponentDocs

/-! ## Headers -/

namespace FrontMatter

/-- The header of a block is loaded as a mapping, which consists of keys and the nodes under them. -/
def Loads (rt : Runtime) (block : Text) (d : Yaml.Document) (pairs : List (Value × Nat)) : Prop :=
  ∃ header content, cut? block = some (header, content) ∧ loadHeader rt header = .ok (some d) ∧
    d.mappingAt? d.root = some pairs

/-- The documents of the program's own runtime have scalars for leaves. -/
theorem Loads.scalarLeaves {block : Text} {d : Yaml.Document} {pairs : List (Value × Nat)}
    (h : Loads .own block d pairs) : Yaml.Document.ScalarLeaves d.cells := by
  obtain ⟨header, content, -, hload, -⟩ := h
  rw [loadHeader] at hload
  split at hload
  · cases hload
  · exact Yaml.Document.scalarLeaves_of_load hload

/-- The mapping that the header of a block is loaded as, if it is one. -/
def loaded? (rt : Runtime) (block : Text) : Option (Yaml.Document × List (Value × Nat)) := do
  let (header, _) ← cut? block
  let d ← (loadHeader rt header).toOption.join
  let pairs ← d.mappingAt? d.root
  return (d, pairs)

theorem loads_of_loaded? {rt : Runtime} {block : Text} {d : Yaml.Document}
    {pairs : List (Value × Nat)} (h : loaded? rt block = some (d, pairs)) :
    Loads rt block d pairs := by
  simp only [loaded?, Option.bind_eq_bind, Option.bind_eq_some_iff] at h
  obtain ⟨⟨header, content⟩, hcut, d', hd, pairs', hpairs, h⟩ := h
  obtain ⟨rfl, rfl⟩ := Prod.mk.inj (Option.some.inj h)
  exact ⟨header, content, hcut, toOption_eq_some_iff.1 (Option.join_eq_some_iff.1 hd), hpairs⟩

/-- The distinct texts of the keys of a header, in the order in which they appear first. -/
def keyTexts (pairs : List (Value × Nat)) : List Text :=
  (pairs.map fun p => p.1.display).eraseDups

/-- The node under the last key that reads as a text. -/
def lastNode? (pairs : List (Value × Nat)) (key : Text) : Option Nat :=
  (pairs.filter fun p => p.1.display = key).getLast?.map Prod.snd

/-- The fields of a mapping, by the text of their keys. -/
def fieldsIn (d : Yaml.Document) (pairs : List (Value × Nat)) : OrderedMap Text Field :=
  fieldsOf (pairs.map fun p => (p.1, d.fieldAt p.2))

theorem keys_fieldsIn (d : Yaml.Document) (pairs : List (Value × Nat)) :
    (fieldsIn d pairs).keys = keyTexts pairs := by
  rw [fieldsIn, fieldsOf, OrderedMap.keys_ofList, List.map_map, List.map_map]
  rfl

theorem get?_fieldsIn (d : Yaml.Document) (pairs : List (Value × Nat)) (key : Text) :
    (fieldsIn d pairs).get? key = (lastNode? pairs key).map d.fieldAt := by
  rw [fieldsIn, fieldsOf, OrderedMap.get?_ofList, List.map_map, List.filter_map,
    List.getLast?_map, lastNode?, Option.map_map, Option.map_map]
  rfl

/-- The front matter of a block whose header is a mapping. -/
theorem parse_of_loads {rt : Runtime} {block : Text} {d : Yaml.Document}
    {pairs : List (Value × Nat)} (h : Loads rt block d pairs) :
    ∃ content, parse rt block =
      match keyFault? rt (pairs.map Prod.fst) with
      | none => .ok { fields := fieldsIn d pairs, content }
      | some fault => .error (errorOf fault) := by
  obtain ⟨header, content, hcut, hload, hpairs⟩ := h
  refine ⟨content, ?_⟩
  rw [parse_of_cut hcut, hload]
  show ofDocument rt content (some d) = _
  rw [ofDocument, Option.bind_some, Yaml.Document.entries?, hpairs]
  simp only [Option.map_some, List.map_map]
  rfl

end FrontMatter

/-! ## Components -/

namespace Extraction

open FrontMatter

variable {rt : Runtime} {d : Yaml.Document} {pairs : List (Value × Nat)}

/-- A node gives a header its name: the name is declared, and it is not empty. -/
def Names (d : Yaml.Document) (pairs : List (Value × Nat)) (n : Nat) : Prop :=
  lastNode? pairs nameKey = some n ∧ (d.valueAt n).isTruthy = true

/-- What keeps the name or the category of a header from being written, the name first. -/
def titleFaultIn? (rt : Runtime) (d : Yaml.Document) (pairs : List (Value × Nat)) :
    Option Value.Fault :=
  [nameKey, categoryKey].findSome? fun key =>
    (lastNode? pairs key).bind fun n => (d.valueAt n).displayFault? rt.reach

/-- Neither the name nor the category of a header is a list that contains itself. -/
def TitlesUnlooped (d : Yaml.Document) (pairs : List (Value × Nat)) : Prop :=
  ∀ key ∈ [nameKey, categoryKey], ∀ n ∈ lastNode? pairs key, ¬ d.IsLoopedList n

/-- The metadata that a header expands to. -/
def expansion (d : Yaml.Document) (pairs : List (Value × Nat)) : List MetaEntry :=
  ((keyTexts pairs).filter fun key => key != nameKey && key != categoryKey).flatMap fun key =>
    match (lastNode? pairs key).map d.fieldAt with
    | none => []
    | some (.single v) => [⟨key, v⟩]
    | some (.many vs) => vs.map fun v => ⟨key, v⟩

theorem metadataOf_fieldsIn (d : Yaml.Document) (pairs : List (Value × Nat)) :
    metadataOf (fieldsIn d pairs) = expansion d pairs := by
  have hkeys := (fieldsIn d pairs).flatMap_filter_entries
    (fun key => key != nameKey && key != categoryKey)
    fun key f => f.values.map fun v => MetaEntry.mk key v
  rw [metadataOf, hkeys, keys_fieldsIn, expansion]
  refine List.flatMap_congr fun key _ => ?_
  rw [get?_fieldsIn]
  cases (lastNode? pairs key).map d.fieldAt with
  | none => rfl
  | some f => cases f <;> rfl

theorem metadata_componentOf (renderable : List Text) (name : Text) (f : FrontMatter) :
    (componentOf renderable f name).metadata = metadataOf f.fields := by
  unfold componentOf
  simp only [Component.addExamples_eq]

/-- The component of a block whose front matter can be read. -/
theorem component?_of_parse (options : ExtractionOptions) {block : Text} {f : FrontMatter}
    (h : parse rt block = .ok f) :
    component? rt options block =
      match nameOf? f, titleFault? rt f with
      | none, _ => .ok none
      | some name, none => .ok (some (componentOf options.renderable f name))
      | some _, some fault => .error (errorOf fault) := by
  rw [component?, titled, h]
  simp only [bind, Except.bind]
  cases nameOf? f with
  | none => rfl
  | some name => cases titleFault? rt f <;> rfl

/-- The name of a header whose fields are those of a mapping. -/
theorem nameOf?_eq_some_iff (hleaves : Yaml.Document.ScalarLeaves d.cells) {f : FrontMatter}
    (hfields : ∀ key, f.fields.get? key = (lastNode? pairs key).map d.fieldAt) {name : Text} :
    nameOf? f = some name ↔ ∃ n, Names d pairs n ∧ name = (d.fieldAt n).value.display := by
  -- a list and the list of its members are empty together
  have htruthy : ∀ n, (d.fieldAt n).value.isTruthy = (d.valueAt n).isTruthy :=
    fun n => (Yaml.Document.holds_fieldAt hleaves n).isTruthy_value
  simp only [nameOf?, FrontMatter.get?, hfields, Option.map_eq_some_iff, Option.filter_eq_some_iff]
  constructor
  · rintro ⟨_, ⟨⟨_, ⟨n, hn, rfl⟩, rfl⟩, hv⟩, rfl⟩
    exact ⟨n, ⟨hn, by rwa [← htruthy n]⟩, rfl⟩
  · rintro ⟨n, ⟨hn, hv⟩, rfl⟩
    exact ⟨_, ⟨⟨_, ⟨n, hn, rfl⟩, rfl⟩, by rwa [htruthy n]⟩, rfl⟩

/-- Titles that are no looped lists are written as the values that the document has for them. -/
theorem titleFault?_eq (hleaves : Yaml.Document.ScalarLeaves d.cells)
    (htitles : TitlesUnlooped d pairs) {f : FrontMatter}
    (hfields : ∀ key, f.fields.get? key = (lastNode? pairs key).map d.fieldAt) :
    titleFault? rt f = titleFaultIn? rt d pairs := by
  have htitle : ∀ key ∈ [nameKey, categoryKey],
      ((f.get? key).bind fun v => v.displayFault? rt.reach) =
        (lastNode? pairs key).bind fun n => (d.valueAt n).displayFault? rt.reach := by
    intro key hkey
    rw [FrontMatter.get?, hfields]
    cases hn : lastNode? pairs key with
    | none => rfl
    | some n =>
        have hvalue := (Yaml.Document.holds_fieldAt hleaves n).value_eq (htitles key hkey n hn)
        exact congrArg (fun v => v.displayFault? rt.reach) hvalue
  simp only [titleFault?, titleFaultIn?, List.findSome?_cons, List.findSome?_nil,
    htitle nameKey (by simp), htitle categoryKey (by simp)]

/-- A header is read as far as its keys can be written. -/
theorem exists_frontMatter {block : Text} (h : Loads rt block d pairs)
    (hkeys : keyFault? rt (pairs.map Prod.fst) = none) :
    ∃ f, parse rt block = .ok f ∧
      (∀ key, f.fields.get? key = (lastNode? pairs key).map d.fieldAt) ∧
      metadataOf f.fields = expansion d pairs := by
  obtain ⟨content, hparse⟩ := parse_of_loads h
  rw [hkeys] at hparse
  exact ⟨_, hparse, get?_fieldsIn d pairs, metadataOf_fieldsIn d pairs⟩

section Results

variable (options : ExtractionOptions) {block : Text} (h : Loads rt block d pairs)

include h

theorem component?_of_keyFault {fault : Value.Fault}
    (hfault : keyFault? rt (pairs.map Prod.fst) = some fault) :
    component? rt options block = .error (errorOf fault) := by
  -- the keys are written before anything is done with the fields
  obtain ⟨content, hparse⟩ := parse_of_loads h
  rw [hfault] at hparse
  rw [component?, titled, hparse]
  rfl

variable (hleaves : Yaml.Document.ScalarLeaves d.cells)
  (hkeys : keyFault? rt (pairs.map Prod.fst) = none)

include hleaves hkeys

theorem component?_of_nameless (hnone : ¬ ∃ n, Names d pairs n) :
    component? rt options block = .ok none := by
  obtain ⟨f, hf, hfields, -⟩ := exists_frontMatter h hkeys
  have hname : nameOf? f = none := by
    rw [Option.eq_none_iff_forall_ne_some]
    intro name hname
    obtain ⟨n, hn, -⟩ := (nameOf?_eq_some_iff hleaves hfields).1 hname
    exact hnone ⟨n, hn⟩
  rw [component?_of_parse options hf, hname]

/-- A header with a name gives a component unless a title cannot be written. -/
theorem component?_of_names {n : Nat} (hn : Names d pairs n) :
    ∃ f, (∀ key, f.fields.get? key = (lastNode? pairs key).map d.fieldAt) ∧
      match titleFault? rt f with
      | none => ∃ c, component? rt options block = .ok (some c) ∧
          c.name = some (d.fieldAt n).value.display ∧ c.metadata = expansion d pairs
      | some fault => component? rt options block = .error (errorOf fault) := by
  obtain ⟨f, hf, hfields, hmetadata⟩ := exists_frontMatter h hkeys
  have hname := (nameOf?_eq_some_iff hleaves hfields).2 ⟨n, hn, rfl⟩
  refine ⟨f, hfields, ?_⟩
  rw [component?_of_parse options hf, hname]
  cases titleFault? rt f with
  | none => exact ⟨_, rfl, name_componentOf _ _ _, by rw [metadata_componentOf, hmetadata]⟩
  | some fault => rfl

end Results

/-- What can be seen of a header with a name: the faults of its keys and of its titles, whether the name
and the category have no members and whether the name is not empty, the number of keys, the texts of the
keys, of the name and of its field, and the texts of the metadata. -/
structure View where
  keyFault : Option Value.Fault
  titleFault : Option Value.Fault
  lone : Bool
  named : Bool
  size : Nat
  keys : List Text
  nameText : Text
  fieldText : Text
  metadata : List (Text × Text)
deriving DecidableEq

/-- The view of a header whose name is the value of a node. -/
def viewOf (d : Yaml.Document) (pairs : List (Value × Nat)) (n : Nat) : View where
  keyFault := keyFault? .own (pairs.map Prod.fst)
  titleFault := titleFaultIn? .own d pairs
  lone := [nameKey, categoryKey].all fun key =>
    (lastNode? pairs key).all fun m => (Yaml.Document.members (d.cells.getD m none)).isEmpty
  named := (d.valueAt n).isTruthy
  size := pairs.length
  keys := keyTexts pairs
  nameText := (d.valueAt n).display
  fieldText := (d.fieldAt n).value.display
  metadata := (expansion d pairs).map fun e => (e.key, e.value.display)

/-- Titles without members are no looped lists. -/
theorem titlesUnlooped_of_lone {n : Nat} (h : (viewOf d pairs n).lone = true) :
    TitlesUnlooped d pairs := by
  intro key hkey m hm
  have hlone := List.all_eq_true.1 h key hkey
  rw [Option.mem_def.1 hm] at hlone
  exact Yaml.Document.not_isLoopedList_of_members (List.isEmpty_iff.1 hlone)

/-- The view of the header of a block. -/
def view? (block : Text) : Option View := do
  let (d, pairs) ← loaded? .own block
  let n ← lastNode? pairs nameKey
  return viewOf d pairs n

theorem exists_of_view? (block : Text) (v : View) (h : view? block = some v)
    (hnamed : v.named = true) :
    ∃ d pairs n, Loads .own block d pairs ∧ Names d pairs n ∧ viewOf d pairs n = v := by
  simp only [view?, Option.bind_eq_bind, Option.bind_eq_some_iff] at h
  obtain ⟨⟨d, pairs⟩, hloaded, n, hn, h⟩ := h
  obtain rfl := Option.some.inj h
  exact ⟨d, pairs, n, loads_of_loaded? hloaded, ⟨hn, hnamed⟩, rfl⟩

/-- A block in which a number and a text read the same. -/
def collidingKeys : Text := "---\n1: x\nname: n\n'1': [y, z]\nnone: []\nlast: 2\n---\n"

/-- A block whose name is a list with itself as its only member. -/
def selfNamed : Text := "---\nname: &a [*a]\n---\n"

/-- A block whose category is the power of sixteen with the exponent 3600, written on several lines. -/
def hugeCategory : Text :=
  "---\nname: a\ncategory: !!int \"0x1" ++
    (List.replicate 9 (List.replicate 400 (CodePoint.char '0') ++ "\\\n")).flatten ++
      "\"\n---\n"

end Extraction

end ComponentDocs
