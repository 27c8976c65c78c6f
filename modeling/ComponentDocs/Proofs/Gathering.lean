import ComponentDocs.OrderedMap

/-!
# Gathering into an ordered map

`gather` writes a list of items into an ordered map, each under its key and each on top of what the
items before it left there. Its two views are `get?_gather`, by which the items of a key are applied to
what stands under it, and `keys_gather_empty`, by which keys stand in order of first appearance. Where
entries are only written, the last one of a key counts (`get?_ofList`). What the items bring along is
neither lost nor doubled (`perm_gather`).

Gathering may be done in stages. Items are gathered into a map of their own first, the entries of
that map are turned into items, and these are gathered into the final map: when one such item does
what all the items of its key do one after the other (`Stages`), nothing is lost on the way
(`gather_entries_gather`). Options, examples and components are three levels of the same law.
-/

set_option autoImplicit false

namespace ComponentDocs.OrderedMap

universe u v w x

variable {κ : Type u} {ν : Type v} {β : Type w} [DecidableEq κ]

/-! ## Views of a map -/

/-- Entries in the same order and with the same values are the same. -/
theorem entries_ext {es fs : List (κ × ν)} (hn : (es.map Prod.fst).Nodup)
    (hk : es.map Prod.fst = fs.map Prod.fst) (hv : ∀ k, es.lookup k = fs.lookup k) : es = fs := by
  induction es generalizing fs with
  | nil =>
      cases fs with
      | nil => rfl
      | cons f fs => simp at hk
  | cons e es ih =>
      cases fs with
      | nil => simp at hk
      | cons f fs =>
          obtain ⟨k, x⟩ := e
          obtain ⟨k', y⟩ := f
          simp only [List.map_cons, List.cons.injEq] at hk
          obtain ⟨rfl, hks⟩ := hk
          obtain ⟨hmem, hn⟩ := List.nodup_cons.1 hn
          have hxy : x = y := by simpa [List.lookup_cons] using hv k
          have habsent : ∀ {gs : List (κ × ν)}, k ∉ gs.map Prod.fst → gs.lookup k = none := by
            intro gs hgs
            rw [List.lookup_eq_none_iff]
            intro g hg
            have hne : k ≠ g.1 := fun he => hgs (he ▸ List.mem_map_of_mem hg)
            simpa using hne
          -- the first key shadows itself in the lookups, but occurs in neither tail
          have htail : ∀ j, es.lookup j = fs.lookup j := by
            intro j
            by_cases hj : j = k
            · subst hj
              rw [habsent hmem, habsent (hks ▸ hmem)]
            · have hb : (j == k) = false := by simpa using hj
              simpa [List.lookup_cons, hb] using hv j
          rw [hxy, ih hn hks htail]

/-- A map is known by the order of its keys and by their values. -/
theorem ext_views {m n : OrderedMap κ ν} (hk : m.keys = n.keys) (hv : ∀ k, m.get? k = n.get? k) :
    m = n :=
  OrderedMap.ext (entries_ext m.nodup hk hv)

theorem get?_eq_none_iff {m : OrderedMap κ ν} {k : κ} : m.get? k = none ↔ k ∉ m.keys := by
  rw [get?, List.lookup_eq_none_iff, keys, List.mem_map]
  constructor
  · rintro h ⟨e, he, rfl⟩
    exact absurd (h e he) (by simp)
  · intro h e he
    have hne : k ≠ e.1 := fun hk => h ⟨e, he, hk.symm⟩
    simpa using hne

/-- Maps with the same keys are the same if no key has two values. -/
theorem ext_values {m n : OrderedMap κ ν} (hk : m.keys = n.keys)
    (hv : ∀ k v w, m.get? k = some v → n.get? k = some w → v = w) : m = n := by
  refine ext_views hk fun k => ?_
  have hnone : m.get? k = none ↔ n.get? k = none := by
    rw [get?_eq_none_iff, get?_eq_none_iff, hk]
  cases hm : m.get? k with
  | none => rw [hnone.1 hm]
  | some v =>
      cases hn : n.get? k with
      | none =>
          rw [hnone.2 hn] at hm
          cases hm
      | some w => rw [hv k v w hm hn]

/-- What holds of all values still holds when it holds of the altered one. -/
theorem forall_get?_alter {P : κ → ν → Prop} {m : OrderedMap κ ν} {k : κ} {f : Option ν → ν}
    (hm : ∀ j v, m.get? j = some v → P j v) (hk : P k (f (m.get? k))) :
    ∀ j v, (m.alter k f).get? j = some v → P j v := by
  intro j v hv
  by_cases hj : j = k
  · subst hj
    rw [get?_alter_self] at hv
    obtain rfl := Option.some.inj hv
    exact hk
  · rw [get?_alter_of_ne m f hj] at hv
    exact hm j v hv

/-- Every entry of a map is found under its key. -/
theorem get?_of_mem_entries {m : OrderedMap κ ν} {e : κ × ν} (he : e ∈ m.entries) :
    m.get? e.1 = some e.2 := by
  obtain ⟨es, hn⟩ := m
  show es.lookup e.1 = some e.2
  induction es with
  | nil => cases he
  | cons d es ih =>
      obtain ⟨k, w⟩ := d
      obtain ⟨hmem, hn⟩ := List.nodup_cons.1 hn
      rcases List.mem_cons.1 he with rfl | he
      · simp
      · have hne : e.1 ≠ k := fun hk => hmem (List.mem_map.2 ⟨e, he, hk⟩)
        have hb : (e.1 == k) = false := by simpa using hne
        rw [List.lookup_cons, hb]
        exact ih hn he

/-- What some of the entries of a map give is what their keys give, looked up one by one. -/
theorem flatMap_filter_entries {γ : Type w} (m : OrderedMap κ ν) (p : κ → Bool)
    (g : κ → ν → List γ) :
    ((m.entries.filter fun e => p e.1).flatMap fun e => g e.1 e.2) =
      (m.keys.filter p).flatMap fun k => (m.get? k).elim [] (g k) := by
  rw [keys, List.filter_map, List.flatMap_map, List.flatMap_def, List.flatMap_def]
  refine congrArg List.flatten (List.map_congr_left fun e he => ?_)
  rw [get?_of_mem_entries (List.mem_filter.1 he).1]
  rfl

/-- What is found under a key is an entry of the map. -/
theorem mem_entries_of_get? {m : OrderedMap κ ν} {k : κ} {w : ν} (h : m.get? k = some w) :
    (k, w) ∈ m.entries := by
  obtain ⟨before, behind, hentries, -⟩ := List.lookup_eq_some_iff.1 h
  rw [hentries]
  exact List.mem_append_right before List.mem_cons_self

/-- A map has at most one entry of a key. -/
theorem filter_entries (m : OrderedMap κ ν) (k : κ) :
    (m.entries.filter fun e => e.1 = k) = ((m.get? k).map fun v => (k, v)).toList := by
  obtain ⟨es, hn⟩ := m
  show (es.filter fun e => e.1 = k) = ((es.lookup k).map fun v => (k, v)).toList
  induction es with
  | nil => rfl
  | cons d es ih =>
      obtain ⟨k', v⟩ := d
      obtain ⟨hmem, hn⟩ := List.nodup_cons.1 hn
      by_cases hk : k' = k
      · subst hk
        have hrest : (es.filter fun e => e.1 = k') = [] := by
          refine List.filter_eq_nil_iff.2 fun e he => ?_
          have hne : e.1 ≠ k' := fun h => hmem (List.mem_map.2 ⟨e, he, h⟩)
          simpa using hne
        rw [List.filter_cons_of_pos (by simp), hrest, List.lookup_cons_self]
        rfl
      · have hb : (k == k') = false := by simpa using Ne.symm hk
        rw [List.filter_cons_of_neg (by simpa using hk), ih hn, List.lookup_cons, hb]

/-! ## Keys in order of first appearance -/

/-- A list of keys with one more, unless it is there. -/
def addKey (ks : List κ) (k : κ) : List κ :=
  if k ∈ ks then ks else ks ++ [k]

theorem mem_foldl_addKey {ks js : List κ} {k : κ} :
    k ∈ js.foldl addKey ks ↔ k ∈ ks ∨ k ∈ js := by
  induction js generalizing ks with
  | nil => simp
  | cons j js ih =>
      rw [List.foldl_cons, ih, addKey]
      split
      case isTrue hj =>
          constructor
          · rintro (h | h)
            · exact Or.inl h
            · exact Or.inr (List.mem_cons_of_mem j h)
          · rintro (h | h)
            · exact Or.inl h
            · rcases List.mem_cons.1 h with rfl | h
              · exact Or.inl hj
              · exact Or.inr h
      case isFalse hj => simp [or_assoc]

/-- Adding keys to keys and then adding one is adding that one to both. -/
theorem foldl_addKey_addKey (ks js : List κ) (k : κ) :
    (addKey js k).foldl addKey ks = addKey (js.foldl addKey ks) k := by
  by_cases h : k ∈ js
  · have hk : k ∈ js.foldl addKey ks := mem_foldl_addKey.2 (Or.inr h)
    rw [addKey, if_pos h, addKey, if_pos hk]
  · rw [addKey, if_neg h, List.foldl_append]
    rfl

/-- Adding keys adds those that are new, in order of first appearance. -/
theorem foldl_addKey_eq_append [BEq κ] [LawfulBEq κ] (ks js : List κ) :
    js.foldl addKey ks = ks ++ (js.removeAll ks).eraseDups := by
  induction js generalizing ks with
  | nil => simp [List.removeAll]
  | cons j js ih =>
      rw [List.foldl_cons, ih, addKey]
      split
      case isTrue hj => simp [List.removeAll, hj]
      case isFalse hj =>
          have hrest : js.removeAll (ks ++ [j]) = (js.removeAll ks).filter fun k => !k == j := by
            rw [List.removeAll, List.removeAll, List.filter_filter]
            refine List.filter_congr fun k _ => ?_
            by_cases hk : k = j
            · simp [hk]
            · simp [hk]
          have hcons : (j :: js).removeAll ks = j :: js.removeAll ks := by simp [List.removeAll, hj]
          rw [hrest, hcons, List.eraseDups_cons, List.append_assoc, List.singleton_append]

theorem keys_alter_eq_addKey (m : OrderedMap κ ν) (k : κ) (f : Option ν → ν) :
    (m.alter k f).keys = addKey m.keys k :=
  keys_alter m k f

/-! ## Gathering -/

/-- The map with a list of items written into it, each under its key. -/
def gather (key : β → κ) (step : β → Option ν → ν) (m : OrderedMap κ ν) (xs : List β) :
    OrderedMap κ ν :=
  xs.foldl (fun m x => m.alter (key x) (step x)) m

section Gather

variable {key : β → κ} {step : β → Option ν → ν}

theorem ofList_eq_gather (es : List (κ × ν)) :
    ofList es = gather Prod.fst (fun e _ => e.2) empty es := rfl

theorem gather_cons (m : OrderedMap κ ν) (x : β) (xs : List β) :
    gather key step m (x :: xs) = gather key step (m.alter (key x) (step x)) xs := rfl

theorem gather_append (m : OrderedMap κ ν) (xs ys : List β) :
    gather key step m (xs ++ ys) = gather key step (gather key step m xs) ys :=
  List.foldl_append

theorem keys_gather (m : OrderedMap κ ν) (xs : List β) :
    (gather key step m xs).keys = (xs.map key).foldl addKey m.keys := by
  induction xs generalizing m with
  | nil => rfl
  | cons x xs ih => rw [gather_cons, ih, keys_alter_eq_addKey, List.map_cons, List.foldl_cons]

/-- The keys of what is gathered are those of the items, in order of first appearance. -/
theorem keys_gather_empty [BEq κ] [LawfulBEq κ] (xs : List β) :
    (gather key step empty xs).keys = (xs.map key).eraseDups := by
  have hall : (xs.map key).removeAll [] = xs.map key := List.filter_eq_self.2 (by simp)
  rw [keys_gather, keys_empty, foldl_addKey_eq_append, List.nil_append, hall]

/-- Under a key stands what the items of that key make of it, one after the other. -/
theorem get?_gather (m : OrderedMap κ ν) (xs : List β) (k : κ) :
    (gather key step m xs).get? k =
      (xs.filter fun x => key x = k).foldl (fun old x => some (step x old)) (m.get? k) := by
  induction xs generalizing m with
  | nil => rfl
  | cons x xs ih =>
      rw [gather_cons, ih]
      by_cases hx : key x = k
      · subst hx
        rw [get?_alter_self, List.filter_cons_of_pos (by simp), List.foldl_cons]
      · rw [get?_alter_of_ne m (step x) (Ne.symm hx), List.filter_cons_of_neg (by simpa using hx)]

/-- What an invariant of the values says of the items, it says of what they are gathered into. -/
theorem forall_get?_gather {P : κ → ν → Prop} {m : OrderedMap κ ν} {xs : List β}
    (hm : ∀ j v, m.get? j = some v → P j v)
    (hnew : ∀ x ∈ xs, P (key x) (step x none))
    (hold : ∀ x ∈ xs, ∀ v, P (key x) v → P (key x) (step x (some v))) :
    ∀ j v, (gather key step m xs).get? j = some v → P j v := by
  induction xs generalizing m with
  | nil => exact hm
  | cons x xs ih =>
      rw [gather_cons]
      refine ih (forall_get?_alter hm ?_) (fun y hy => hnew y (List.mem_cons_of_mem x hy))
        (fun y hy => hold y (List.mem_cons_of_mem x hy))
      cases hx : m.get? (key x) with
      | none => exact hnew x List.mem_cons_self
      | some v => exact hold x List.mem_cons_self v (hm _ v hx)

/-- Items that are changed without changing their keys are gathered into values that are changed in
the same way. -/
theorem get?_gather_map {item : β → β} {value : ν → ν} (hkey : ∀ x, key (item x) = key x)
    (hstep : ∀ x old, step (item x) (old.map value) = value (step x old)) {m m' : OrderedMap κ ν}
    (hm : ∀ k, m'.get? k = (m.get? k).map value) (xs : List β) (k : κ) :
    (gather key step m' (xs.map item)).get? k = ((gather key step m xs).get? k).map value := by
  induction xs generalizing m m' with
  | nil => exact hm k
  | cons x xs ih =>
      rw [List.map_cons, gather_cons, gather_cons]
      refine ih fun j => ?_
      by_cases hj : j = key x
      · subst hj
        rw [hkey, get?_alter_self, get?_alter_self, hm, hstep]
        rfl
      · rw [hkey, get?_alter_of_ne _ _ hj, get?_alter_of_ne _ _ hj, hm]

end Gather

/-! ## Maps of lists -/

section OfList

theorem keys_ofList [BEq κ] [LawfulBEq κ] (es : List (κ × ν)) :
    (ofList es).keys = (es.map Prod.fst).eraseDups := by
  rw [ofList_eq_gather, keys_gather_empty]

omit [DecidableEq κ] in
/-- The last of several values stays. -/
theorem foldl_snd (es : List (κ × ν)) (old : Option ν) :
    es.foldl (fun _ e => some e.2) old = (es.getLast?.map Prod.snd).or old := by
  induction es generalizing old with
  | nil => rfl
  | cons e es ih =>
      rw [List.foldl_cons, ih, List.getLast?_cons]
      cases es.getLast? with
      | none => rfl
      | some e' => rfl

/-- A key has the value of the last entry that was written under it. -/
theorem get?_ofList (es : List (κ × ν)) (k : κ) :
    (ofList es).get? k = (es.filter fun e => e.1 = k).getLast?.map Prod.snd := by
  rw [ofList_eq_gather, get?_gather, get?_empty, foldl_snd, Option.or_none]

/-- The entries of such a map are among those that were written. -/
theorem mem_of_mem_entries_ofList {es : List (κ × ν)} {e : κ × ν}
    (h : e ∈ (ofList es).entries) : e ∈ es := by
  have hget := get?_of_mem_entries h
  rw [get?_ofList] at hget
  obtain ⟨e', hlast, hvalue⟩ := Option.map_eq_some_iff.1 hget
  obtain ⟨hmem, hkey⟩ := List.mem_filter.1 (List.mem_of_getLast? hlast)
  have heq : e' = e := Prod.ext (of_decide_eq_true hkey) hvalue
  exact heq ▸ hmem

omit [DecidableEq κ] in
theorem eraseDups_of_nodup [BEq κ] [LawfulBEq κ] {ks : List κ} (h : ks.Nodup) :
    ks.eraseDups = ks := by
  induction ks with
  | nil => rfl
  | cons k ks ih =>
      obtain ⟨hk, hks⟩ := List.nodup_cons.1 h
      have hrest : (ks.filter fun j => !j == k) = ks := by
        refine List.filter_eq_self.2 fun j hj => ?_
        have hne : j ≠ k := fun heq => hk (heq ▸ hj)
        simpa using hne
      rw [List.eraseDups_cons, hrest, ih hks]

/-- Writing the entries of a map gives the map again. -/
theorem ofList_entries (m : OrderedMap κ ν) : ofList m.entries = m := by
  refine ext_views ?_ fun k => ?_
  · rw [keys_ofList]
    exact eraseDups_of_nodup m.nodup
  · rw [get?_ofList, filter_entries]
    cases m.get? k with
    | none => rfl
    | some v => rfl

end OfList

/-! ## Gathering the entries of several maps -/

section Entries

variable {ω : Type w} {α : Type x} {step : κ × ω → Option ν → ν} (view : α → OrderedMap κ ω)

theorem keys_gather_flatMap [BEq κ] [LawfulBEq κ] (as : List α) :
    (gather Prod.fst step empty (as.flatMap fun a => (view a).entries)).keys =
      (as.flatMap fun a => (view a).keys).eraseDups := by
  rw [keys_gather_empty, List.map_flatMap]
  rfl

/-- Under a key stands what the values of the maps under that key make of it. -/
theorem get?_gather_flatMap (as : List α) (k : κ) :
    (gather Prod.fst step empty (as.flatMap fun a => (view a).entries)).get? k =
      (as.filterMap fun a => (view a).get? k).foldl (fun old v => some (step (k, v) old)) none := by
  rw [get?_gather, get?_empty, List.filter_flatMap]
  generalize (none : Option ν) = old
  induction as generalizing old with
  | nil => rfl
  | cons a as ih =>
      rw [List.flatMap_cons, filter_entries, List.foldl_append, ih, List.filterMap_cons]
      cases (view a).get? k with
      | none => rfl
      | some v => rfl

end Entries

/-! ## Nothing is lost -/

section Content

variable {γ : Type x} {key : β → κ} {step : β → Option ν → ν} (content : κ → ν → List γ)

/-- What an altered entry holds more than before is what the map holds more. -/
theorem perm_alterEntries {k : κ} {f : Option ν → ν} {added : List γ}
    (hnew : (content k (f none)).Perm added)
    (hold : ∀ v, (content k (f (some v))).Perm (content k v ++ added)) (es : List (κ × ν)) :
    ((alterEntries k f es).flatMap fun e => content e.1 e.2).Perm
      ((es.flatMap fun e => content e.1 e.2) ++ added) := by
  induction es with
  | nil => simpa [alterEntries] using hnew
  | cons e es ih =>
      obtain ⟨k', v⟩ := e
      rw [alterEntries, List.flatMap_cons]
      split
      case isTrue h =>
          subst h
          rw [List.flatMap_cons]
          have hswap : (added ++ es.flatMap fun e => content e.1 e.2).Perm
              ((es.flatMap fun e => content e.1 e.2) ++ added) := List.perm_append_comm
          refine ((hold v).append_right _).trans ?_
          rw [List.append_assoc, List.append_assoc]
          exact hswap.append_left _
      case isFalse h =>
          rw [List.flatMap_cons, List.append_assoc]
          exact ih.append_left _

/-- When an item adds its own part to what stands under its key, the map that items are gathered into
holds the parts of all of them, and nothing else. -/
theorem perm_gather {added : β → List γ} (hnew : ∀ x, (content (key x) (step x none)).Perm (added x))
    (hold : ∀ x v, (content (key x) (step x (some v))).Perm (content (key x) v ++ added x))
    (m : OrderedMap κ ν) (xs : List β) :
    ((gather key step m xs).entries.flatMap fun e => content e.1 e.2).Perm
      ((m.entries.flatMap fun e => content e.1 e.2) ++ xs.flatMap added) := by
  induction xs generalizing m with
  | nil => simp [gather]
  | cons x xs ih =>
      rw [gather_cons, List.flatMap_cons, ← List.append_assoc]
      exact (ih _).trans ((perm_alterEntries content (hnew x) (hold x) m.entries).append_right _)

end Content

/-! ## Gathering in stages -/

/-- The entries of a map are items again: an entry has its key, and does to a value what the items
that were gathered into it do one after the other. -/
structure Stages (key : β → κ) (step : β → Option ν → ν) (item : κ × ν → β) : Prop where
  key_new : ∀ x, key (item (key x, step x none)) = key x
  key_old : ∀ x v, key (item (key x, v)) = key x → key (item (key x, step x (some v))) = key x
  step_new : ∀ x old, step (item (key x, step x none)) old = step x old
  step_old : ∀ x v old,
    step (item (key x, step x (some v))) old = step x (some (step (item (key x, v)) old))

/-- The items of a map have the keys of their entries. -/
def Keyed (key : β → κ) (item : κ × ν → β) (m : OrderedMap κ ν) : Prop :=
  ∀ k v, m.get? k = some v → key (item (k, v)) = k

section Stages

variable {key : β → κ} {step : β → Option ν → ν} {item : κ × ν → β}

theorem keyed_empty : Keyed key item (empty : OrderedMap κ ν) := by
  intro k v h
  cases h

theorem Stages.keyed_gather (S : Stages key step item) {m : OrderedMap κ ν} (hm : Keyed key item m)
    (xs : List β) : Keyed key item (gather key step m xs) :=
  forall_get?_gather (P := fun k v => key (item (k, v)) = k) hm (fun x _ => S.key_new x)
    (fun x _ v hv => S.key_old x v hv)

theorem Keyed.map_key {m : OrderedMap κ ν} (hm : Keyed key item m) :
    (m.entries.map item).map key = m.keys := by
  rw [List.map_map]
  refine List.map_congr_left fun e he => ?_
  exact hm e.1 e.2 (get?_of_mem_entries he)

/-- Gathering the entries of a map makes at most one step for each key. -/
theorem get?_gather_entries {m w : OrderedMap κ ν} (hw : Keyed key item w) (k : κ) :
    (gather key step m (w.entries.map item)).get? k =
      match w.get? k with
      | none => m.get? k
      | some v => some (step (item (k, v)) (m.get? k)) := by
  have hfilter : ((w.entries.map item).filter fun x => key x = k) =
      ((w.get? k).map fun v => (k, v)).toList.map item := by
    rw [List.filter_map, ← filter_entries]
    refine congrArg (List.map item) (List.filter_congr fun e he => ?_)
    simp only [Function.comp_apply]
    rw [hw e.1 e.2 (get?_of_mem_entries he)]
  rw [get?_gather, hfilter]
  cases w.get? k with
  | none => rfl
  | some v => rfl

/-- One more item on top of a map is one more item on top of what its entries are gathered into. -/
theorem Stages.gather_entries_alter (S : Stages key step item) (m : OrderedMap κ ν)
    {w : OrderedMap κ ν} (hw : Keyed key item w) (x : β) :
    gather key step m ((w.alter (key x) (step x)).entries.map item) =
      (gather key step m (w.entries.map item)).alter (key x) (step x) := by
  have hw' : Keyed key item (w.alter (key x) (step x)) := S.keyed_gather hw [x]
  -- the new key is appended on both sides if it is new on both; only its own value changes
  refine ext_views ?_ fun k => ?_
  · rw [keys_gather, hw'.map_key, keys_alter_eq_addKey, keys_alter_eq_addKey, keys_gather,
      hw.map_key, foldl_addKey_addKey]
  · rw [get?_gather_entries hw']
    by_cases hk : k = key x
    · subst hk
      rw [get?_alter_self, get?_alter_self, get?_gather_entries hw]
      cases hx : w.get? (key x) with
      | none => exact congrArg some (S.step_new x _)
      | some v => exact congrArg some (S.step_old x v _)
    · rw [get?_alter_of_ne _ _ hk, get?_alter_of_ne _ _ hk, get?_gather_entries hw]

/-- Gathering the entries of a map that items were gathered into is gathering its earlier entries and
then the items. -/
theorem Stages.gather_entries_gather (S : Stages key step item) (m : OrderedMap κ ν)
    {w : OrderedMap κ ν} (hw : Keyed key item w) (xs : List β) :
    gather key step m ((gather key step w xs).entries.map item) =
      gather key step (gather key step m (w.entries.map item)) xs := by
  induction xs generalizing w with
  | nil => rfl
  | cons x xs ih =>
      have hw' : Keyed key item (w.alter (key x) (step x)) := S.keyed_gather hw [x]
      rw [gather_cons, ih hw', S.gather_entries_alter m hw, ← gather_cons]

/-- Items may be gathered into a map of their own first. -/
theorem Stages.gather_gather_empty (S : Stages key step item) (m : OrderedMap κ ν) (xs : List β) :
    gather key step m ((gather key step empty xs).entries.map item) = gather key step m xs :=
  S.gather_entries_gather m keyed_empty xs

end Stages

end ComponentDocs.OrderedMap
