import ComponentDocs.Proofs.BlockByBlock

/-!
# The leaves of a document

A document is built node by node: scalars become leaves at once, and collections wait until their
members are there. No step of the construction makes a leaf of anything but a scalar (`Keeps`), so the
leaves of every document that can be loaded are scalars (`scalarLeaves_of_load`).
-/

set_option autoImplicit false

namespace ComponentDocs

universe u v

/-! ## What computations give -/

/-- Every result of a computation has a property. -/
def Gives {ε : Type u} {α : Type v} (P : α → Prop) (x : Except ε α) : Prop :=
  ∀ a, x = .ok a → P a

namespace Gives

variable {ε : Type u} {α β : Type v} {P : α → Prop} {Q : β → Prop}

theorem pure {a : α} (h : P a) : Gives P (Pure.pure a : Except ε α) := by
  intro a' ha
  obtain rfl := Except.ok.inj ha
  exact h

theorem throw (e : ε) : Gives P (MonadExcept.throw e : Except ε α) := by
  intro a ha
  cases ha

theorem bind {x : Except ε α} {f : α → Except ε β} (hx : Gives P x)
    (hf : ∀ a, P a → Gives Q (f a)) : Gives Q (x >>= f) := by
  intro b hb
  obtain ⟨a, ha, hb⟩ := bind_eq_ok_iff.1 hb
  exact hf a (hx a ha) b hb

theorem andThen {x : Except ε α} {f : α → Except ε β} (hf : ∀ a, Gives Q (f a)) :
    Gives Q (x >>= f) :=
  bind (P := fun _ => True) (fun _ _ => trivial) fun a _ => hf a

end Gives

/-- Whether a value has no members. -/
def Value.isScalar : Value → Bool
  | list _ | tuple _ | set _ | map _ | loop _ => false
  | _ => true

namespace Yaml

/-! ## The values of scalars -/

namespace Scalar

variable {t : Text}

theorem gives_bool : Gives (·.isScalar = true) (Scalar.bool t) := by
  unfold Scalar.bool
  split
  · exact .pure rfl
  · exact .throw _

theorem gives_int : Gives (·.isScalar = true) (Scalar.int t) := by
  unfold Scalar.int
  dsimp only
  split
  · exact .throw _
  · repeat' split
    all_goals exact .andThen fun n => .pure rfl

theorem gives_float : Gives (·.isScalar = true) (Scalar.float t) := by
  unfold Scalar.float
  dsimp only
  split
  · exact .throw _
  · split
    · exact .pure rfl
    · -- however the number is spelled, the last thing that happens is that it becomes a value
      split
      · exact .andThen fun x => .pure rfl
      · split
        · exact .andThen fun digits => .andThen fun x => .pure rfl
        · exact .andThen fun x => .pure rfl

theorem gives_binary : Gives (·.isScalar = true) (Scalar.binary t) := by
  unfold Scalar.binary
  split
  · exact .throw _
  · split
    · exact .pure rfl
    · exact .throw _

theorem gives_timestamp : Gives (·.isScalar = true) (Scalar.timestamp t) := by
  unfold Scalar.timestamp
  repeat' split
  all_goals first | exact .pure rfl | exact .throw _

end Scalar

namespace Document

/-- What is built at once is a scalar. -/
theorem gives_leaf? {frames : Nat} {g : Graph} {n : Nat} :
    Gives (fun leaf => ∀ v, leaf = some v → v.isScalar = true) (leaf? frames g n) := by
  have hpure : ∀ v : Value, v.isScalar = true →
      Gives (fun leaf => ∀ v, leaf = some v → v.isScalar = true)
        (pure (some v) : Except Error (Option Value)) := by
    intro v hv
    refine .pure fun w hw => ?_
    obtain rfl := Option.some.inj hw
    exact hv
  unfold leaf?
  dsimp only
  split
  case h_1 => exact .andThen fun _ => hpure _ rfl
  case h_2 => exact .andThen fun _ => .bind Scalar.gives_bool hpure
  case h_3 => exact .andThen fun _ => .bind Scalar.gives_int hpure
  case h_4 => exact .andThen fun _ => .bind Scalar.gives_float hpure
  case h_5 => exact .andThen fun _ => .bind Scalar.gives_binary hpure
  case h_6 =>
      refine .andThen fun _ => ?_
      split
      · exact .bind Scalar.gives_timestamp hpure
      · exact .throw _
  case h_7 => exact .andThen fun _ => hpure _ rfl
  -- the other tags ask for a collection, or for nothing that can be built
  all_goals first | exact .throw _ | exact .pure fun v hv => by cases hv

/-! ## What the steps of the construction keep -/

/-- Every leaf among what is built is a scalar. -/
def ScalarLeaves (cells : Array (Option Cell)) : Prop :=
  ∀ n v, cells.getD n none = some (.leaf v) → v.isScalar = true

theorem scalarLeaves_replicate (size : Nat) : ScalarLeaves (Array.replicate size none) := by
  intro n v h
  rw [Array.getD_eq_getD_getElem?, Array.getElem?_replicate] at h
  split at h
  · cases h
  · cases h

/-- A node may be given anything but a leaf that is no scalar. -/
theorem ScalarLeaves.set {cells : Array (Option Cell)} (h : ScalarLeaves cells) {cell : Cell}
    (hcell : ∀ v, cell = .leaf v → v.isScalar = true) (n : Nat) :
    ScalarLeaves (cells.set! n (some cell)) := by
  intro m v hm
  rw [Array.getD_eq_getD_getElem?, Array.set!_eq_setIfInBounds, Array.getElem?_setIfInBounds] at hm
  split at hm
  · split at hm
    · exact hcell v (Option.some.inj hm)
    · cases hm
  · exact h m v (by rwa [Array.getD_eq_getD_getElem?])

/-- From a state of the construction on, a step leaves scalars as leaves. -/
def KeepsFrom (b : Building) {α : Type} (x : Build α) : Prop :=
  ScalarLeaves b.cells → Gives (fun result => ScalarLeaves result.2.cells) (x.run b)

/-- A step leaves scalars as leaves. -/
def Keeps {α : Type} (x : Build α) : Prop :=
  ∀ b, KeepsFrom b x

section Steps

variable {α β : Type} {b : Building}

theorem KeepsFrom.pure (a : α) : KeepsFrom b (Pure.pure a) :=
  fun hb => .pure hb

theorem KeepsFrom.throw (e : Error) : KeepsFrom b (MonadExcept.throw e : Build α) :=
  fun _ => .throw e

theorem KeepsFrom.bind {x : Build α} {f : α → Build β} (hx : KeepsFrom b x)
    (hf : ∀ a, Keeps (f a)) : KeepsFrom b (x >>= f) := by
  intro hb
  rw [StateT.run_bind]
  exact .bind (hx hb) fun result hresult => hf result.1 result.2 hresult

/-- A step that looks at the state of the construction goes on from that state. -/
theorem Keeps.get {f : Building → Build α} (hf : ∀ b, KeepsFrom b (f b)) : Keeps (get >>= f) :=
  fun b => hf b

/-- A computation that knows nothing of the construction leaves its state alone. -/
theorem KeepsFrom.lift {x : Except Error α} {P : α → Prop} (hx : Gives P x) {f : α → Build β}
    (hf : ∀ a, P a → KeepsFrom b (f a)) : KeepsFrom b (liftM x >>= f) := by
  intro hb r hr
  cases x with
  | error e => cases hr
  | ok a => exact hf a (hx a rfl) hb r hr

theorem KeepsFrom.set {b' : Building} (h : ScalarLeaves b.cells → ScalarLeaves b'.cells) :
    KeepsFrom b (set b') :=
  fun hb => .pure (h hb)

theorem Keeps.modify {f : Building → Building}
    (h : ∀ b, ScalarLeaves b.cells → ScalarLeaves (f b).cells) : Keeps (modify f) :=
  fun b hb => .pure (h b hb)

end Steps

theorem emptyCell_ne_leaf (tag : Tag) (v : Value) : emptyCell tag ≠ .leaf v := by
  cases tag <;> exact Cell.noConfusion

theorem keeps_build (n : Nat) : Keeps (build n) := by
  refine .get fun b => ?_
  split
  · exact .pure ()
  · refine .lift gives_leaf? fun leaf hleaf => ?_
    split
    · refine .set fun hb => hb.set ?_ n
      intro w hw
      obtain rfl := Cell.leaf.inj hw
      exact hleaf _ rfl
    · -- a collection is empty at first, and no leaf
      refine .set fun hb => hb.set ?_ n
      intro w hw
      exact absurd hw (emptyCell_ne_leaf _ w)

theorem keeps_buildAll (ns : List Nat) : Keeps (buildAll ns) := by
  induction ns with
  | nil => exact fun b => .pure ()
  | cons n ns ih => exact fun b => .bind (keeps_build n b) fun _ => ih

theorem keeps_keyValue (n : Nat) : Keeps (keyValue n) := by
  refine .get fun b => ?_
  split
  · exact .pure _
  · exact .throw _

theorem keeps_buildEntries (entries : List (Nat × Nat)) (done : List (Key × Nat)) :
    Keeps (buildEntries entries done) := by
  induction entries generalizing done with
  | nil => exact fun b => .pure done
  | cons e entries ih =>
      obtain ⟨k, v⟩ := e
      refine fun b => .bind (keeps_build k b) fun _ b => .bind (keeps_keyValue k b) fun key => ?_
      exact fun b => .bind (keeps_build v b) fun _ => .get fun b' => ih _ b'

theorem keeps_mappingEntries (n : Nat) : Keeps (mappingEntries n) := by
  refine .get fun b => ?_
  split
  · exact .throw _
  · -- taking over entries changes the graph alone
    refine .lift (P := fun _ => True) (fun _ _ => trivial) fun result _ => ?_
    exact .bind (.set id) fun _ b => .bind (keeps_buildEntries _ _ b) fun _ b => .pure _

theorem keeps_singleEntries (g : Graph) (ns : List Nat) : Keeps (singleEntries g ns) := by
  induction ns with
  | nil => exact fun b => .pure []
  | cons n ns ih =>
      intro b
      unfold singleEntries
      split
      · refine .bind (keeps_build _ b) fun _ b => .bind (keeps_build _ b) fun _ b => ?_
        exact .bind (ih b) fun _ b => .pure _
      · exact .throw _

/-- Filling a collection puts a collection in its place. -/
theorem keeps_place (n : Nat) (cell : Cell) (h : ∀ v, cell ≠ .leaf v) :
    Keeps (modify fun b => { b with cells := b.cells.set! n (some cell) }) :=
  .modify fun _ hb => hb.set (fun v hv => absurd hv (h v)) n

theorem keeps_fill (n : Nat) : Keeps (fill n) := by
  refine .get fun b => ?_
  dsimp only
  split
  · refine .bind (keeps_mappingEntries n b) fun entries => ?_
    exact keeps_place n (.map entries) fun _ => Cell.noConfusion
  · refine .bind (keeps_mappingEntries n b) fun entries => ?_
    exact keeps_place n (.set (Value.inSetOrder (entries.map Prod.fst)))
      fun _ => Cell.noConfusion
  · split
    · next items _ =>
        split
        · refine .bind (keeps_buildAll items b) fun _ => ?_
          exact keeps_place n (.list items) fun _ => Cell.noConfusion
        · refine .bind (keeps_singleEntries b.graph items b) fun entries => ?_
          exact keeps_place n (.pairs entries) fun _ => Cell.noConfusion
    · exact .throw _

theorem keeps_fillAll (fuel : Nat) : Keeps (fillAll fuel) := by
  induction fuel with
  | zero => exact fun b => .pure ()
  | succ fuel ih =>
      refine .get fun b => ?_
      split
      · exact .pure ()
      · refine .bind (Keeps.modify (fun b hb => ?_) b) fun _ b => .bind (keeps_fill _ b) fun _ => ih
        exact hb

/-- The leaves of a document are scalars. -/
theorem scalarLeaves_of_load {frames : Nat} {t : Text} {d : Document}
    (h : load frames t = .ok (some d)) : ScalarLeaves d.cells := by
  unfold load at h
  obtain ⟨node, -, h⟩ := bind_eq_ok_iff.1 h
  cases node with
  | none => cases h
  | some node =>
      obtain ⟨⟨g, root⟩, -, h⟩ := bind_eq_ok_iff.1 h
      obtain ⟨d', hd, h⟩ := bind_eq_ok_iff.1 h
      obtain rfl := Option.some.inj (Except.ok.inj h)
      obtain ⟨⟨_, b⟩, hb, h⟩ := bind_eq_ok_iff.1 hd
      obtain rfl := Except.ok.inj h
      have hkeeps : Keeps (do build root; fillAll (g.size + 1)) :=
        fun b => .bind (keeps_build root b) fun _ => keeps_fillAll _
      exact hkeeps _ (scalarLeaves_replicate g.size) _ hb

end Document

end Yaml

end ComponentDocs
