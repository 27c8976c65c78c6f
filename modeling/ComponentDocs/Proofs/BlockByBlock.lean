import ComponentDocs.Loading
import ComponentDocs.Proofs.MergeInStages

/-!
# Extracting block by block

The components of several documentation blocks are found when those of the first block and those of
the others are (`componentsOf_cons_eq_ok`). Every component that is found comes from one of the blocks
(`exists_block_of_mem`), and every component that is loaded from files comes from the text of one of
them (`exists_file_of_mem`).

Blocks and files are read one after the other, and the first one that cannot be read decides
(`appendEach_eq_error_iff`).
-/

set_option autoImplicit false

namespace ComponentDocs

universe u v w

/-! ## Outcomes -/

/-- A computation in two parts has a result when both have one. -/
theorem bind_eq_ok_iff {ε : Type u} {α β : Type v} {x : Except ε α} {f : α → Except ε β} {b : β} :
    x >>= f = .ok b ↔ ∃ a, x = .ok a ∧ f a = .ok b := by
  cases x with
  | error e => simp [bind, Except.bind]
  | ok a => simp [bind, Except.bind]

/-- A computation in two parts fails when one of them does. -/
theorem bind_eq_error_iff {ε : Type u} {α β : Type v} {x : Except ε α} {f : α → Except ε β} {e : ε} :
    x >>= f = .error e ↔ x = .error e ∨ ∃ a, x = .ok a ∧ f a = .error e := by
  cases x with
  | error e' => simp [bind, Except.bind]
  | ok a => simp [bind, Except.bind]

/-- A function that is applied to a result does not change whether there is one. -/
theorem map_eq_ok_iff {ε : Type u} {α : Type v} {β : Type w} {x : Except ε α} {f : α → β} {b : β} :
    x.map f = .ok b ↔ ∃ a, x = .ok a ∧ f a = b := by
  cases x with
  | error e => simp [Except.map]
  | ok a => simp [Except.map]

theorem map_eq_error_iff {ε : Type u} {α : Type v} {β : Type w} {x : Except ε α} {f : α → β}
    {e : ε} : x.map f = .error e ↔ x = .error e := by
  cases x with
  | error e' => simp [Except.map]
  | ok a => simp [Except.map]

theorem mapError_eq_ok_iff {ε : Type u} {ε' : Type w} {α : Type v} {x : Except ε α} {f : ε → ε'}
    {a : α} : x.mapError f = .ok a ↔ x = .ok a := by
  cases x with
  | error e => simp [Except.mapError]
  | ok b => simp [Except.mapError]

theorem toOption_eq_some_iff {ε : Type u} {α : Type v} {x : Except ε α} {a : α} :
    x.toOption = some a ↔ x = .ok a := by
  cases x with
  | error e => simp [Except.toOption]
  | ok b => simp [Except.toOption]

/-- A result that is known in part, and of which something holds whenever there is one. -/
theorem exists_ok_and {ε : Type u} {α : Type v} {β : Type w} {x : Except ε α} {f : α → β} {b : β}
    {P : α → Prop} (h : (x.map f).toOption = some b) (hP : ∀ a, x = .ok a → P a) :
    ∃ a, x = .ok a ∧ f a = b ∧ P a := by
  cases x with
  | error e => cases h
  | ok a => exact ⟨a, rfl, Option.some.inj h, hP a rfl⟩

/-! ## One after the other -/

section AppendEach

variable {ε : Type u} {α : Type w} {β : Type v}

/-- The results of a computation for each of several items, put behind each other. -/
def appendEach (f : α → Except ε (List β)) : List α → Except ε (List β)
  | [] => .ok []
  | x :: rest => do
      let own ← f x
      return own ++ (← appendEach f rest)

/-- The items may be taken in two parts. -/
theorem appendEach_append (f : α → Except ε (List β)) (xs ys : List α) :
    appendEach f (xs ++ ys) = (do return (← appendEach f xs) ++ (← appendEach f ys)) := by
  induction xs with
  | nil =>
      show appendEach f ys = (do return [] ++ (← appendEach f ys))
      cases appendEach f ys with
      | error e => rfl
      | ok results => rfl
  | cons x xs ih =>
      rw [List.cons_append, appendEach, appendEach, ih]
      cases f x with
      | error e => rfl
      | ok own =>
          cases appendEach f xs with
          | error e => rfl
          | ok front =>
              cases appendEach f ys with
              | error e => rfl
              | ok back => exact congrArg Except.ok (List.append_assoc _ _ _).symm

/-- The first item that fails decides the error. -/
theorem appendEach_eq_error_iff {f : α → Except ε (List β)} {xs : List α} {e : ε} :
    appendEach f xs = .error e ↔
      ∃ before x behind, xs = before ++ x :: behind ∧ (∀ y ∈ before, ∃ results, f y = .ok results) ∧
        f x = .error e := by
  induction xs with
  | nil => simp [appendEach]
  | cons y rest ih =>
      rw [appendEach]
      cases hy : f y with
      | error e' =>
          constructor
          · intro h
            obtain rfl : e' = e := Except.error.inj h
            exact ⟨[], y, rest, rfl, by simp, hy⟩
          · rintro ⟨before, x, behind, heq, hbefore, hx⟩
            cases before with
            | nil =>
                obtain ⟨rfl, -⟩ := List.cons.inj heq
                rw [hy] at hx
                exact hx
            | cons y' before =>
                -- the first item fails, so no item that fails comes later
                obtain ⟨rfl, -⟩ := List.cons.inj heq
                obtain ⟨results, hok⟩ := hbefore y List.mem_cons_self
                rw [hy] at hok
                cases hok
      | ok own =>
          have hrest : (do return own ++ (← appendEach f rest)) = .error e ↔
              appendEach f rest = .error e := by
            cases appendEach f rest with
            | error e' => rfl
            | ok others =>
                constructor
                · intro h
                  cases h
                · intro h
                  cases h
          refine hrest.trans (ih.trans ?_)
          constructor
          · rintro ⟨before, x, behind, rfl, hbefore, hx⟩
            refine ⟨y :: before, x, behind, rfl, ?_, hx⟩
            intro y' hy'
            rcases List.mem_cons.1 hy' with rfl | hy'
            · exact ⟨own, hy⟩
            · exact hbefore y' hy'
          · rintro ⟨before, x, behind, heq, hbefore, hx⟩
            cases before with
            | nil =>
                obtain ⟨rfl, -⟩ := List.cons.inj heq
                rw [hy] at hx
                cases hx
            | cons y' before =>
                obtain ⟨rfl, rfl⟩ := List.cons.inj heq
                exact ⟨before, x, behind, rfl,
                  fun y' hy' => hbefore y' (List.mem_cons_of_mem y hy'), hx⟩

end AppendEach

namespace Extraction

variable {rt : Runtime} {options : ExtractionOptions}

theorem componentsOf_eq_appendEach (rt : Runtime) (options : ExtractionOptions)
    (blocks : List Text) :
    componentsOf rt options blocks =
      appendEach (fun block => (component? rt options block).map Option.toList) blocks := by
  induction blocks with
  | nil => rfl
  | cons block rest ih =>
      rw [componentsOf, appendEach, ih]
      cases component? rt options block with
      | error e => rfl
      | ok c => rfl

theorem componentsOf_cons_eq_ok {block : Text} {rest : List Text} {components : List Component}
    (h : componentsOf rt options (block :: rest) = .ok components) :
    ∃ c others, component? rt options block = .ok c ∧ componentsOf rt options rest = .ok others ∧
      components = c.toList ++ others := by
  rw [componentsOf] at h
  obtain ⟨c, hc, h⟩ := bind_eq_ok_iff.1 h
  obtain ⟨others, hothers, h⟩ := bind_eq_ok_iff.1 h
  exact ⟨c, others, hc, hothers, (Except.ok.inj h).symm⟩

/-- Every component comes from a block. -/
theorem exists_block_of_mem {blocks : List Text} {components : List Component}
    (h : componentsOf rt options blocks = .ok components) {c : Component} (hc : c ∈ components) :
    ∃ block ∈ blocks, component? rt options block = .ok (some c) := by
  induction blocks generalizing components with
  | nil =>
      obtain rfl := Except.ok.inj h
      cases hc
  | cons block rest ih =>
      obtain ⟨first, others, hfirst, hothers, rfl⟩ := componentsOf_cons_eq_ok h
      rcases List.mem_append.1 hc with hmem | hmem
      · obtain rfl : first = some c := Option.mem_toList.1 hmem
        exact ⟨block, List.mem_cons_self, hfirst⟩
      · obtain ⟨block', hblock, hcomponent⟩ := ih hothers hmem
        exact ⟨block', List.mem_cons_of_mem block hblock, hcomponent⟩

/-- A component that a block names is made of the front matter of that block. -/
theorem component?_eq_some {block : Text} {c : Component}
    (h : component? rt options block = .ok (some c)) :
    ∃ f name, titled rt block = .ok (f, some name) ∧ c = componentOf options.renderable f name := by
  obtain ⟨⟨f, name⟩, htitled, h⟩ := bind_eq_ok_iff.1 h
  obtain ⟨name, rfl, rfl⟩ := Option.map_eq_some_iff.1 (Except.ok.inj h)
  exact ⟨f, name, htitled, rfl⟩

end Extraction

namespace Loading

variable {rt : Runtime} {fs : FileSystem} {options : ExtractionOptions}

theorem loadEach_eq_appendEach (files : List Path) :
    loadEach rt fs options files = appendEach (loadFile rt fs options) files := by
  induction files with
  | nil => rfl
  | cons file rest ih => rw [loadEach, appendEach, ih]

theorem loadFile_eq_ok {file : Path} {components : List Component}
    (h : loadFile rt fs options file = .ok components) :
    ∃ t, readText fs file = .ok t ∧
      Extraction.extract rt options (some file.suffix) t = .ok components := by
  obtain ⟨t, ht, h⟩ := bind_eq_ok_iff.1 h
  exact ⟨t, ht, mapError_eq_ok_iff.1 h⟩

/-- Every component of several files comes from the text of one of them. -/
theorem exists_file_of_mem {files : List Path} {components : List Component}
    (h : loadEach rt fs options files = .ok components) {c : Component} (hc : c ∈ components) :
    ∃ file ∈ files, ∃ t own, readText fs file = .ok t ∧
      Extraction.extract rt options (some file.suffix) t = .ok own ∧ c ∈ own := by
  induction files generalizing components with
  | nil =>
      obtain rfl := Except.ok.inj h
      cases hc
  | cons file rest ih =>
      rw [loadEach] at h
      obtain ⟨own, hown, h⟩ := bind_eq_ok_iff.1 h
      obtain ⟨others, hothers, h⟩ := bind_eq_ok_iff.1 h
      obtain rfl := Except.ok.inj h
      rcases List.mem_append.1 hc with hmem | hmem
      · obtain ⟨t, ht, hextract⟩ := loadFile_eq_ok hown
        exact ⟨file, List.mem_cons_self, t, own, ht, hextract, hmem⟩
      · obtain ⟨file', hfile, hrest⟩ := ih hothers hmem
        exact ⟨file', List.mem_cons_of_mem file hfile, hrest⟩

end Loading

end ComponentDocs
