import ComponentDocs.Proofs.HiddenRemoval

/-!
# Where placeholders stand

Placeholders are put between the segments of a text. So that they can be told from plain text that
looks the same, the segments are taken apart into pieces, which know for which example a placeholder
was put there (`Piece`). Where placeholders belong is then a property of the pieces (`IsPlacement`):
without the placeholders they are the segments, each example has one placeholder if it is registered
and one of its blocks can be rendered, and none otherwise, and it stands right before the first such
block.

Removing hidden blocks may shorten plain text and drop what becomes empty (`Remains`). A placeholder
ends in a bracket and one line feed, so it can lose this line feed and nothing else
(`placeholders_stand_once_and_stay`).
-/

set_option autoImplicit false

namespace ComponentDocs.Description

open Text Segment

/-! ## Segments and placeholders -/

/-- A segment of a text, or a placeholder that was put among its segments for an example. -/
inductive Piece where
  | own (s : Segment)
  | tag (name t : Text)

namespace Piece

/-- The piece among the segments. -/
def segment : Piece → Segment
  | own s => s
  | tag _ t => .text t

/-- The segment of the text, unless it is a placeholder. -/
def own? : Piece → Option Segment
  | own s => some s
  | tag _ _ => none

/-- The name of the example whose placeholder it is. -/
def name? : Piece → Option Text
  | own _ => none
  | tag name _ => some name

end Piece

/-- The segment is a block of the named example, with an extension that can be rendered. -/
def Renders (renderable : List Text) (name : Text) (s : Segment) : Prop :=
  ∃ a, s.label = some a ∧ a.name = name ∧ a.extension ∈ renderable

theorem Renders.unique {renderable : List Text} {name name' : Text} {s : Segment}
    (h : Renders renderable name s) (h' : Renders renderable name' s) : name = name' := by
  obtain ⟨a, ha, rfl, -⟩ := h
  obtain ⟨a', ha', rfl, -⟩ := h'
  rw [ha] at ha'
  rw [Option.some.inj ha']

/-- The pieces are the segments with a placeholder right before the first block of each registered
example that can be rendered. -/
structure IsPlacement (examples : OrderedMap Text Example) (renderable : List Text)
    (segments : List Segment) (pieces : List Piece) : Prop where
  own : pieces.filterMap Piece.own? = segments
  once : (pieces.filterMap Piece.name?).Nodup
  names : ∀ name, name ∈ pieces.filterMap Piece.name? ↔
    (∃ e, examples.get? name = some e) ∧ ∃ s ∈ segments, Renders renderable name s
  place : ∀ before name t after, pieces = before ++ .tag name t :: after →
    ∃ e s rest, examples.get? name = some e ∧ t = placeholderTag e ∧ after = .own s :: rest ∧
      Renders renderable name s ∧ ∀ s', .own s' ∈ before → ¬ Renders renderable name s'

/-! ## Placing -/

section Placing

variable {examples : OrderedMap Text Example} {renderable : List Text}

/-- The example that gets a placeholder before a segment, under its name. -/
def nextTag? (examples : OrderedMap Text Example) (renderable tagged : List Text) (s : Segment) :
    Option (Text × Example) :=
  s.label.bind fun a => (placeholderFor? examples renderable tagged a).map fun e => (a.name, e)

/-- The pieces of segments, given the names that have a placeholder already. -/
def placeFrom (examples : OrderedMap Text Example) (renderable : List Text) :
    List Text → List Segment → List Piece
  | _, [] => []
  | tagged, s :: rest =>
      match nextTag? examples renderable tagged s with
      | none => .own s :: placeFrom examples renderable tagged rest
      | some (name, e) =>
          .tag name (placeholderTag e) :: .own s ::
            placeFrom examples renderable (name :: tagged) rest

/-- A label brings a placeholder if its example has none yet and is registered, and its extension can be
rendered. -/
theorem placeholderFor?_eq_some_iff {tagged : List Text} {a : Label} {e : Example} :
    placeholderFor? examples renderable tagged a = some e ↔
      a.name ∉ tagged ∧ a.extension ∈ renderable ∧ examples.get? a.name = some e := by
  rw [placeholderFor?, Option.ite_none_left_eq_some, Bool.or_eq_true, not_or, Bool.not_eq_true',
    Bool.not_eq_false, List.contains_iff_mem, List.contains_iff_mem, and_assoc]

/-- A placeholder is put before a segment that can be rendered, if its example is registered and has
none yet. -/
theorem nextTag?_eq_some_iff {tagged : List Text} {s : Segment} {name : Text} {e : Example} :
    nextTag? examples renderable tagged s = some (name, e) ↔
      Renders renderable name s ∧ name ∉ tagged ∧ examples.get? name = some e := by
  rw [nextTag?, Option.bind_eq_some_iff]
  constructor
  · rintro ⟨a, ha, hmap⟩
    obtain ⟨e', hfor, heq⟩ := Option.map_eq_some_iff.1 hmap
    obtain ⟨rfl, rfl⟩ := Prod.mk.inj heq
    obtain ⟨hfresh, hext, he⟩ := placeholderFor?_eq_some_iff.1 hfor
    exact ⟨⟨a, ha, rfl, hext⟩, hfresh, he⟩
  · rintro ⟨⟨a, ha, rfl, hext⟩, hfresh, he⟩
    refine ⟨a, ha, ?_⟩
    rw [placeholderFor?_eq_some_iff.2 ⟨hfresh, hext, he⟩]
    rfl

/-- A segment without a placeholder is no block of a registered example that still needs one and can be
rendered. -/
theorem not_renders_of_nextTag?_eq_none {tagged : List Text} {s : Segment} {name : Text} {e : Example}
    (hnext : nextTag? examples renderable tagged s = none) (hfresh : name ∉ tagged)
    (he : examples.get? name = some e) : ¬ Renders renderable name s := by
  intro hr
  have hsome := nextTag?_eq_some_iff.2 ⟨hr, hfresh, he⟩
  rw [hnext] at hsome
  cases hsome

/-- Placing gives the segments with placeholders. -/
theorem map_segment_placeFrom (tagged : List Text) (segments : List Segment) :
    (placeFrom examples renderable tagged segments).map Piece.segment =
      insertPlaceholdersFrom examples renderable tagged segments := by
  induction segments generalizing tagged with
  | nil => rfl
  | cons s rest ih =>
      rw [placeFrom, insertPlaceholdersFrom, nextTag?]
      cases s.label with
      | none => exact congrArg (s :: ·) (ih tagged)
      | some a =>
          dsimp only [Option.bind_some]
          cases placeholderFor? examples renderable tagged a with
          | none => exact congrArg (s :: ·) (ih tagged)
          | some e => exact congrArg (.text (placeholderTag e) :: s :: ·) (ih (a.name :: tagged))

/-- Without the placeholders, the pieces are the segments. -/
theorem own_placeFrom (tagged : List Text) (segments : List Segment) :
    (placeFrom examples renderable tagged segments).filterMap Piece.own? = segments := by
  induction segments generalizing tagged with
  | nil => rfl
  | cons s rest ih =>
      rw [placeFrom]
      cases nextTag? examples renderable tagged s with
      | none => exact congrArg (s :: ·) (ih tagged)
      | some x => exact congrArg (s :: ·) (ih (x.1 :: tagged))

/-- Those examples get a placeholder that have none yet, are registered and can be rendered. -/
theorem mem_names_placeFrom {tagged : List Text} {segments : List Segment} {name : Text} :
    name ∈ (placeFrom examples renderable tagged segments).filterMap Piece.name? ↔
      name ∉ tagged ∧ (∃ e, examples.get? name = some e) ∧
        ∃ s ∈ segments, Renders renderable name s := by
  induction segments generalizing tagged with
  | nil => simp [placeFrom]
  | cons s rest ih =>
      rw [placeFrom]
      cases hnext : nextTag? examples renderable tagged s with
      | none =>
          show name ∈ (placeFrom examples renderable tagged rest).filterMap Piece.name? ↔ _
          rw [ih]
          constructor
          · rintro ⟨hfresh, hreg, s', hs', hr⟩
            exact ⟨hfresh, hreg, s', List.mem_cons_of_mem s hs', hr⟩
          · rintro ⟨hfresh, ⟨e, he⟩, s', hs', hr⟩
            rcases List.mem_cons.1 hs' with rfl | hs'
            · -- a block that could be rendered would have got the placeholder
              exact absurd hr (not_renders_of_nextTag?_eq_none hnext hfresh he)
            · exact ⟨hfresh, ⟨e, he⟩, s', hs', hr⟩
      | some x =>
          obtain ⟨first, e⟩ := x
          obtain ⟨hr, hfresh, he⟩ := nextTag?_eq_some_iff.1 hnext
          show name ∈ first :: (placeFrom examples renderable (first :: tagged) rest).filterMap
            Piece.name? ↔ _
          rw [List.mem_cons, ih]
          constructor
          · rintro (rfl | ⟨hfresh', hreg, s', hs', hr'⟩)
            · exact ⟨hfresh, ⟨e, he⟩, s, List.mem_cons_self, hr⟩
            · rw [List.mem_cons, not_or] at hfresh'
              exact ⟨hfresh'.2, hreg, s', List.mem_cons_of_mem s hs', hr'⟩
          · rintro ⟨hfresh', hreg, s', hs', hr'⟩
            by_cases hname : name = first
            · exact Or.inl hname
            · rcases List.mem_cons.1 hs' with rfl | hs'
              · exact absurd (hr'.unique hr) hname
              · refine Or.inr ⟨?_, hreg, s', hs', hr'⟩
                rw [List.mem_cons, not_or]
                exact ⟨hname, hfresh'⟩

/-- No example gets two placeholders. -/
theorem nodup_names_placeFrom (tagged : List Text) (segments : List Segment) :
    ((placeFrom examples renderable tagged segments).filterMap Piece.name?).Nodup := by
  induction segments generalizing tagged with
  | nil => exact List.nodup_nil
  | cons s rest ih =>
      rw [placeFrom]
      cases nextTag? examples renderable tagged s with
      | none => exact ih tagged
      | some x =>
          obtain ⟨first, e⟩ := x
          refine List.nodup_cons.2 ⟨?_, ih (first :: tagged)⟩
          intro hmem
          exact (mem_names_placeFrom.1 hmem).1 List.mem_cons_self

/-- A placeholder stands right before a block of its example that can be rendered, and no such block
stands before it. -/
theorem place_placeFrom {tagged : List Text} {segments : List Segment} {before after : List Piece}
    {name t : Text}
    (h : placeFrom examples renderable tagged segments = before ++ .tag name t :: after) :
    name ∉ tagged ∧ ∃ e s rest, examples.get? name = some e ∧ t = placeholderTag e ∧
      after = .own s :: rest ∧ Renders renderable name s ∧
      ∀ s', .own s' ∈ before → ¬ Renders renderable name s' := by
  -- the names that have a placeholder grow on the way, so freshness is part of what is proved
  induction segments generalizing tagged before with
  | nil =>
      rw [placeFrom] at h
      exact absurd h.symm (List.append_ne_nil_of_right_ne_nil before (List.cons_ne_nil _ _))
  | cons s rest ih =>
      rw [placeFrom] at h
      cases hnext : nextTag? examples renderable tagged s with
      | none =>
          rw [hnext] at h
          cases before with
          | nil => cases h
          | cons p before =>
              obtain ⟨rfl, hrest⟩ := List.cons.inj h
              obtain ⟨hfresh, e, s₁, rest₁, he, ht, hafter, hr, hbefore⟩ := ih hrest
              refine ⟨hfresh, e, s₁, rest₁, he, ht, hafter, hr, ?_⟩
              intro s' hs' hr'
              rcases List.mem_cons.1 hs' with heq | hs'
              · cases heq
                exact not_renders_of_nextTag?_eq_none hnext hfresh he hr'
              · exact hbefore s' hs' hr'
      | some x =>
          obtain ⟨first, e₀⟩ := x
          obtain ⟨hr₀, hfresh₀, he₀⟩ := nextTag?_eq_some_iff.1 hnext
          rw [hnext] at h
          cases before with
          | nil =>
              cases h
              exact ⟨hfresh₀, e₀, s, _, he₀, rfl, rfl, hr₀, by simp⟩
          | cons p before =>
              obtain ⟨rfl, hown⟩ := List.cons.inj h
              cases before with
              | nil => cases hown
              | cons q before =>
                  obtain ⟨rfl, hrest⟩ := List.cons.inj hown
                  obtain ⟨hfresh, e, s₁, rest₁, he, ht, hafter, hr, hbefore⟩ := ih hrest
                  rw [List.mem_cons, not_or] at hfresh
                  refine ⟨hfresh.2, e, s₁, rest₁, he, ht, hafter, hr, ?_⟩
                  intro s' hs' hr'
                  rcases List.mem_cons.1 hs' with heq | hs'
                  · cases heq
                  · rcases List.mem_cons.1 hs' with heq | hs'
                    · -- the block behind the first placeholder is one of another example
                      cases heq
                      exact hfresh.1 (hr'.unique hr₀)
                    · exact hbefore s' hs' hr'

/-- Placing puts placeholders where they belong. -/
theorem isPlacement_placeFrom (examples : OrderedMap Text Example) (renderable : List Text)
    (segments : List Segment) :
    IsPlacement examples renderable segments (placeFrom examples renderable [] segments) where
  own := own_placeFrom [] segments
  once := nodup_names_placeFrom [] segments
  names := by
    intro name
    rw [mem_names_placeFrom]
    exact and_iff_right List.not_mem_nil
  place := by
    intro before name t after h
    exact (place_placeFrom h).2

end Placing

/-! ## Placeholders and hidden blocks -/

/-- What may be left of a segment when hidden blocks are removed: plain text loses line feeds at its
end, or goes away as a whole if it has nothing else; of the blocks, those that are shown stay. -/
inductive Remains : Segment → Option Segment → Prop
  | text {t lost : Text} : (∀ c ∈ lost, c = .char '\n') →
      Remains (.text (t ++ lost)) (some (.text t))
  | feeds {t : Text} : (∀ c ∈ t, c = .char '\n') → Remains (.text t) none
  | shown {f : Fence} : f.hidden = false → Remains (.fence f) (some (.fence f))
  | hidden {f : Fence} : f.hidden = true → Remains (.fence f) none

/-- What may be left of a piece: a placeholder stays, with or without its line feed. -/
inductive Piece.Survives : Piece → Option Segment → Prop
  | own {s : Segment} {left : Option Segment} : Remains s left → Survives (.own s) left
  | whole {name t : Text} : Survives (.tag name t) (some (.text t))
  | shorter {name line : Text} :
      Survives (.tag name (line ++ [.char '\n'])) (some (.text line))

theorem remains_leftOf (n : Nat) (s : Segment) : Remains s (leftOf n s) := by
  cases s with
  | text t =>
      obtain ⟨lost, ht, hfeeds, -⟩ := exists_lost_feeds n t
      rw [leftOf]
      split
      case isTrue hused =>
          rw [eq_nil_of_usedUp hused, List.nil_append] at ht
          exact .feeds (ht ▸ hfeeds)
      case isFalse =>
          have hremains : Remains (.text (chopFeed^[n] t ++ lost)) (some (.text (chopFeed^[n] t))) :=
            .text hfeeds
          rwa [← ht] at hremains
  | fence f =>
      rw [leftOf]
      cases hf : f.hidden with
      | true => exact .hidden hf
      | false => exact .shown hf

/-- A placeholder ends in a bracket and a line feed. -/
theorem placeholderTag_eq_concat (e : Example) :
    ∃ line, placeholderTag e = (line ++ [.char '>']) ++ [.char '\n'] := by
  have hfront : ∃ front, placeholderTag e = front ++ ofString "></example>\n" := ⟨_, rfl⟩
  obtain ⟨front, hfront⟩ := hfront
  have hlast : ofString "></example>\n" =
      (ofString "></example" ++ [.char '>']) ++ [.char '\n'] := rfl
  refine ⟨front ++ ofString "></example", ?_⟩
  rw [hfront, hlast, ← List.append_assoc, ← List.append_assoc]

/-- Whatever number of line feeds is asked for, a placeholder gives no more than its own. -/
theorem survives_placeholderTag (n : Nat) (name : Text) (e : Example) :
    (Piece.tag name (placeholderTag e)).Survives (leftOf n (.text (placeholderTag e))) := by
  obtain ⟨line, hline⟩ := placeholderTag_eq_concat e
  rw [hline]
  cases n with
  | zero =>
      rw [leftOf, usedUp_zero]
      exact .whole
  | succ n =>
      -- behind the line feed stands a bracket, which no further demand can get past
      obtain ⟨hfixed, hused⟩ : chopFeed^[n] (line ++ [.char '>']) = line ++ [.char '>'] ∧
          usedUp n (line ++ [.char '>']) = false := usedUp_of_ne (by simp) n
      rw [leftOf, usedUp_concat (by simp), hused, Function.iterate_succ_apply, chopFeed_concat, hfixed]
      exact .shorter

/-- What removing hidden blocks leaves of the pieces, one by one. -/
theorem survives_remaining {pieces : List Piece}
    (h : ∀ name t, .tag name t ∈ pieces → ∃ e, t = placeholderTag e) :
    List.Forall₂ Piece.Survives pieces (remaining (pieces.map Piece.segment)) := by
  induction pieces with
  | nil => exact .nil
  | cons p pieces ih =>
      have hrest := ih fun name t ht => h name t (List.mem_cons_of_mem p ht)
      refine .cons ?_ hrest
      cases p with
      | own s => exact .own (remains_leftOf _ s)
      | tag name t =>
          obtain ⟨e, rfl⟩ := h name t List.mem_cons_self
          exact survives_placeholderTag _ name e

/-- The segments of a text with placeholders are pieces in which each registered example that can be
rendered has its one placeholder, right before the first of its blocks that can be rendered, and no
other example has one. Removing hidden blocks then leaves all placeholders where they are, as a whole or
without the line feed at their end. -/
theorem placeholders_stand_once_and_stay (examples : OrderedMap Text Example)
    (renderable : List Text) (content : Text) :
    ∃ pieces : List Piece,
      IsPlacement examples renderable (split content) pieces ∧
      insertPlaceholders examples renderable (split content) = pieces.map Piece.segment ∧
      ∃ left : List (Option Segment),
        List.Forall₂ Piece.Survives pieces left ∧
        removeHidden (insertPlaceholders examples renderable (split content)) =
          left.reduceOption := by
  have hplacement := isPlacement_placeFrom examples renderable (split content)
  have hinsert : insertPlaceholders examples renderable (split content) =
      (placeFrom examples renderable [] (split content)).map Piece.segment :=
    (map_segment_placeFrom [] (split content)).symm
  -- what is left of a piece depends on the demands behind it only, so each is followed by itself
  refine ⟨_, hplacement, hinsert, _, survives_remaining ?_, ?_⟩
  · intro name t hmem
    obtain ⟨before, after, hsplit⟩ := List.append_of_mem hmem
    obtain ⟨e, -, -, -, ht, -⟩ := hplacement.place before name t after hsplit
    exact ⟨e, ht⟩
  · rw [← hinsert]
    exact removeHidden_eq _

end ComponentDocs.Description
