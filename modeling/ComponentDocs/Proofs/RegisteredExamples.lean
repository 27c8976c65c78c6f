import ComponentDocs.Proofs.MergedGroups

/-!
# Runs of registrations

A component receives its examples by registrations, each of which brings blocks and options for one
name. What any number of them leaves behind is described here without the run (`IsRegistered`): the
names that the component had come first and the new ones follow in order of first registration, and
the example of a name continues the one that the component had (`Example.Continues`). Blocks are
appended in the order of the registrations. An option keeps its first value, whatever that value is.

One registration alters what stands under its name and nothing else (`register_eq`). A run is
therefore a gathering (`registerAll_eq`), and the registrations of one name can be taken out of it
(`get?_registerAll_filter`). The description determines the examples, and they meet it
(`runs_leave_registered_examples`).
-/

set_option autoImplicit false

namespace ComponentDocs

/-- What is registered at once: blocks and options for the example of a name. -/
structure Registration where
  name : Text
  blocks : List CodeBlock := []
  options : List (Text × Value) := []

/-! ## One registration -/

/-- What a registration does to the example under its name. -/
def Registration.step (r : Registration) (known : Option Example) : Example :=
  (known.getD { name := r.name }).extend r.blocks r.options

namespace Component

/-- The component behind a registration. -/
def register (c : Component) (r : Registration) : Component :=
  c.addExample r.name r.blocks r.options

/-- The component behind a list of registrations, made one after the other. -/
def registerAll (c : Component) (rs : List Registration) : Component :=
  rs.foldl register c

/-- A registration alters what stands under its name and nothing else. -/
theorem register_eq (c : Component) (r : Registration) :
    c.register r = { c with examples := c.examples.alter r.name r.step } := rfl

/-- A run of registrations is a gathering. -/
theorem registerAll_eq (c : Component) (rs : List Registration) :
    c.registerAll rs =
      { c with examples := c.examples.gather Registration.name Registration.step rs } := by
  induction rs generalizing c with
  | nil => rfl
  | cons r rs ih =>
      rw [registerAll, List.foldl_cons, ← registerAll, ih, register_eq]
      rfl

/-- What stands under a name behind a run is the work of the registrations of that name. -/
theorem get?_registerAll (c : Component) (rs : List Registration) (name : Text) :
    (c.registerAll rs).examples.get? name =
      (rs.filter fun r => r.name = name).foldl (fun known r => some (r.step known))
        (c.examples.get? name) := by
  rw [registerAll_eq]
  exact OrderedMap.get?_gather _ _ _

/-- Registrations of other names might as well be missing. -/
theorem get?_registerAll_filter (c : Component) (rs : List Registration) (name : Text) :
    (c.registerAll rs).examples.get? name =
      (c.registerAll (rs.filter fun r => r.name = name)).examples.get? name := by
  rw [get?_registerAll, get?_registerAll, List.filter_filter]
  simp only [Bool.and_self]

end Component

/-! ## The example of one name -/

namespace Example

/-- An option has the value that it had, or else the first one that is given for it. -/
theorem get?_gather_optionStep (m : OrderedMap Text Value) (options : List (Text × Value))
    (key : Text) :
    (m.gather Prod.fst optionStep options).get? key = (m.get? key).or (options.lookup key) := by
  induction options generalizing m with
  | nil => exact (Option.or_none).symm
  | cons o options ih =>
      rw [OrderedMap.gather_cons, ih, List.lookup_cons]
      by_cases h : key = o.1
      · subst h
        rw [OrderedMap.get?_alter_self, beq_self_eq_true]
        cases m.get? o.1 with
        | none => rfl
        | some v => rfl
      · have hb : (key == o.1) = false := by simpa using h
        rw [OrderedMap.get?_alter_of_ne m (optionStep o) h, hb]

/-- The first value given for an option by one of several registrations. -/
theorem lookup_flatMap_options (rs : List Registration) (key : Text) :
    (rs.flatMap Registration.options).lookup key =
      rs.findSome? fun r => r.options.lookup key := by
  induction rs with
  | nil => rfl
  | cons r rs ih =>
      rw [List.flatMap_cons, List.lookup_append, ih, List.findSome?_cons]
      cases r.options.lookup key with
      | none => rfl
      | some v => rfl

/-- Registrations that meet an example extend it by all that they bring. -/
theorem foldl_registration_step (e : Example) (rs : List Registration) :
    rs.foldl (fun known r => some (r.step known)) (some e) =
      some (e.extend (rs.flatMap Registration.blocks) (rs.flatMap Registration.options)) := by
  induction rs generalizing e with
  | nil => rw [List.foldl_nil, List.flatMap_nil, List.flatMap_nil, extend_nil]
  | cons r rs ih =>
      rw [List.foldl_cons, Registration.step, Option.getD_some, ih, List.flatMap_cons,
        List.flatMap_cons]
      simp only [extend, List.append_assoc, List.foldl_append]

/-- The keys of the options that are known under a name. -/
def knownKeys (known : Option Example) : List Text :=
  known.elim [] fun d => d.options.keys

/-- The example continues what was known under a name by registrations of that name: the blocks of
these follow the known ones, and an option without a value takes the first one that is given. -/
structure Continues (name : Text) (known : Option Example) (rs : List Registration)
    (e : Example) : Prop where
  name_eq : e.name = name
  blocks : e.blocks = known.elim [] Example.blocks ++ rs.flatMap Registration.blocks
  optionKeys : e.options.keys = knownKeys known ++
    ((rs.flatMap fun r => r.options.map Prod.fst).removeAll (knownKeys known)).eraseDups
  option : ∀ key, e.options.get? key =
    (known.bind fun d => d.options.get? key).or (rs.findSome? fun r => r.options.lookup key)

theorem Continues.unique {name : Text} {known : Option Example} {rs : List Registration}
    {e e' : Example} (h : e.Continues name known rs) (h' : e'.Continues name known rs) : e = e' := by
  have hname : e.name = e'.name := h.name_eq.trans h'.name_eq.symm
  have hblocks : e.blocks = e'.blocks := h.blocks.trans h'.blocks.symm
  have hoptions : e.options = e'.options := by
    apply OrderedMap.ext_views (h.optionKeys.trans h'.optionKeys.symm)
    intro key
    rw [h.option, h'.option]
  cases e
  cases e'
  simp_all

/-- Extending an example of a name continues it. -/
theorem continues_extend {name : Text} {e : Example} (hname : e.name = name)
    (rs : List Registration) :
    (e.extend (rs.flatMap Registration.blocks) (rs.flatMap Registration.options)).Continues name
      (some e) rs where
  name_eq := hname
  blocks := rfl
  optionKeys := by
    rw [extend_options, OrderedMap.keys_gather, List.map_flatMap,
      OrderedMap.foldl_addKey_eq_append]
    rfl
  option := by
    intro key
    rw [extend_options, get?_gather_optionStep, lookup_flatMap_options]
    rfl

/-- Whatever is found behind registrations of a name continues what was known. -/
theorem continues_of_foldl {name : Text} {known : Option Example} {rs : List Registration}
    {e : Example} (hknown : ∀ d, known = some d → d.name = name) (hrs : ∀ r ∈ rs, r.name = name)
    (h : rs.foldl (fun known r => some (r.step known)) known = some e) :
    e.Continues name known rs := by
  cases known with
  | some d =>
      rw [foldl_registration_step] at h
      rw [← Option.some.inj h]
      exact continues_extend (hknown d rfl) rs
  | none =>
      cases rs with
      | nil => cases h
      | cons r rs =>
          -- the first registration starts from an example that has only its name
          have hfirst : (r :: rs).foldl (fun known r => some (r.step known))
              (some { name := r.name }) = some e := h
          rw [foldl_registration_step] at hfirst
          have hnew := continues_extend (e := { name := r.name }) (hrs r List.mem_cons_self) (r :: rs)
          rw [Option.some.inj hfirst] at hnew
          exact { name_eq := hnew.name_eq, blocks := hnew.blocks, optionKeys := hnew.optionKeys,
                  option := hnew.option }

end Example

/-! ## Whole runs -/

namespace Component

/-- All examples of the component stand under their own names. -/
def HasNamedExamples (c : Component) : Prop :=
  ∀ name e, c.examples.get? name = some e → e.name = name

/-- The examples are those of the component with registrations made on top of them. -/
structure IsRegistered (c : Component) (rs : List Registration)
    (examples : OrderedMap Text Example) : Prop where
  names : examples.keys =
    c.examples.keys ++ ((rs.map Registration.name).removeAll c.examples.keys).eraseDups
  continues : ∀ name e, examples.get? name = some e →
    e.Continues name (c.examples.get? name) (rs.filter fun r => r.name = name)

theorem IsRegistered.unique {c : Component} {rs : List Registration}
    {examples examples' : OrderedMap Text Example} (h : c.IsRegistered rs examples)
    (h' : c.IsRegistered rs examples') : examples = examples' := by
  apply OrderedMap.ext_values (h.names.trans h'.names.symm)
  intro name e e' he he'
  exact (h.continues name e he).unique (h'.continues name e' he')

theorem isRegistered_registerAll {c : Component} (hc : c.HasNamedExamples)
    (rs : List Registration) : c.IsRegistered rs (c.registerAll rs).examples where
  names := by
    rw [registerAll_eq]
    show (c.examples.gather Registration.name Registration.step rs).keys = _
    rw [OrderedMap.keys_gather, OrderedMap.foldl_addKey_eq_append]
  continues := by
    intro name e he
    rw [get?_registerAll] at he
    refine Example.continues_of_foldl (fun d hd => hc name d hd) ?_ he
    intro r hr
    exact of_decide_eq_true (List.mem_filter.1 hr).2

/-- Behind any run of registrations on a component whose examples stand under their own names, the
examples are described exactly: the names known before come first, then the new ones in order of first
registration; each example stands under its own name and has its earlier blocks, then those of the
registrations of its name in order; each option has its earlier value, or else the first one given for
it. The example of a name is the same as if the registrations of other names had not been made, and
nothing but the examples has changed. -/
theorem runs_leave_registered_examples (c : Component) (hc : c.HasNamedExamples)
    (rs : List Registration) :
    (∀ examples, c.IsRegistered rs examples ↔ examples = (c.registerAll rs).examples) ∧
    (∀ name, (c.registerAll rs).examples.get? name =
      (c.registerAll (rs.filter fun r => r.name = name)).examples.get? name) ∧
    c.registerAll rs = { c with examples := (c.registerAll rs).examples } := by
  refine ⟨fun examples => ⟨?_, ?_⟩, c.get?_registerAll_filter rs, ?_⟩
  · intro h
    exact h.unique (isRegistered_registerAll hc rs)
  · rintro rfl
    exact isRegistered_registerAll hc rs
  · rw [registerAll_eq]

/-- A component with one example, whose height is stated as null. -/
def nullHeight : Component where
  examples := .ofList [("a", { name := "a", options := .ofList [("height", .null)] })]

/-- Registrations for two names in turn, of which the second name is new and has an empty height
first. -/
def turns : List Registration :=
  [⟨"b", [⟨"js", "x", false, none⟩], [("height", .text [])]⟩,
    ⟨"a", [⟨"js", "y", true, none⟩], [("height", .int 4), ("width", .null)]⟩,
    ⟨"b", [⟨"css", "z", false, none⟩], [("height", .int 5)]⟩]

/-- The null and the empty text stay, and the blocks of the second name stand in order. -/
theorem turns_leave_null_and_empty_height :
    nullHeight.HasNamedExamples ∧ nullHeight.IsRegistered turns (nullHeight.registerAll turns).examples ∧
    (nullHeight.registerAll turns).examples.entries.map
        (fun x => (x.1, x.2.blocks.map CodeBlock.code, x.2.height.map Value.display)) =
      [(Text.ofString "a", [Text.ofString "y"], some (Text.ofString "None")),
        (Text.ofString "b", [Text.ofString "x", Text.ofString "z"], some [])] := by
  have hnamed : nullHeight.HasNamedExamples := by
    intro name e he
    have hmem := OrderedMap.mem_of_mem_entries_ofList (OrderedMap.mem_entries_of_get? he)
    obtain ⟨rfl, rfl⟩ := Prod.mk.inj (List.mem_singleton.1 hmem)
    rfl
  exact ⟨hnamed, ((runs_leave_registered_examples nullHeight hnamed turns).1 _).2 rfl, by decide⟩

end Component

end ComponentDocs
