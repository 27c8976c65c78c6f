import ComponentDocs.Proofs.SegmentsWithReturns

/-!
# Describing segment by segment

What a list of segments is described as grows from segment to segment (`ofSegments_concat`): plain
text and a block that is shown are appended, the latter behind its placeholder if it has one; a
block that is hidden takes a line feed from the end of what there is, its placeholder included.

Whether a block has a placeholder depends on the labels before it (`isPlaced`): it is the first one
of its example with an extension that can be rendered.
-/

set_option autoImplicit false

namespace ComponentDocs

open Text

namespace Text

/-! ## Taking off a line feed -/

/-- The text without the line feed at its end, if it has one. -/
def chopFeed (t : Text) : Text :=
  if t.getLast? = some (.char '\n') then t.dropLast else t

@[simp] theorem chopFeed_nil : chopFeed [] = [] := rfl

@[simp] theorem chopFeed_concat (t : Text) : chopFeed (t ++ [.char '\n']) = t := by
  rw [chopFeed, if_pos (by simp), List.dropLast_concat]

theorem chopFeed_of_ne {t : Text} (h : t.getLast? ≠ some (.char '\n')) : chopFeed t = t :=
  if_neg h

theorem chopFeed_append (a : Text) {b : Text} (hb : b ≠ []) :
    chopFeed (a ++ b) = a ++ chopFeed b := by
  have hlast : (a ++ b).getLast? = b.getLast? := List.getLast?_append_of_ne_nil a hb
  by_cases hfeed : b.getLast? = some (.char '\n')
  · obtain ⟨x, rfl⟩ := List.getLast?_eq_some_iff.1 hfeed
    rw [← List.append_assoc, chopFeed_concat, chopFeed_concat]
  · rw [chopFeed_of_ne hfeed, chopFeed_of_ne (hlast ▸ hfeed)]

end Text

/-- A block that is shown does not end in a line feed. -/
theorem Fence.WellFormed.getLast?_bare {f : Fence} (hf : f.WellFormed) (a : Text) :
    (a ++ f.bare.render).getLast? ≠ some (.char '\n') := by
  rw [Fence.render, Fence.closing_bare, ← List.append_assoc,
    List.getLast?_append_of_ne_nil _ hf.closing_ne_nil]
  intro hlast
  exact absurd (hf.closing.getLast?_left _ hlast) (by decide)

namespace Description

/-! ## Placeholders -/

/-- The names that have got a placeholder by the end of the given segments, if their examples are
registered. -/
def taggedNames (renderable : List Text) (segments : List Segment) : List Text :=
  ((segments.filterMap Segment.label).filter fun a => renderable.contains a.extension).map Label.name

/-- Whether a placeholder belongs before a segment that follows others: it is a labelled block with
an extension that can be rendered, and the first such block of its name. -/
def isPlaced (renderable : List Text) (before : List Segment) (s : Segment) : Bool :=
  s.label.any fun a =>
    renderable.contains a.extension && !(taggedNames renderable before).contains a.name

/-- The placeholder before a segment, given the names that have one already; empty without one. -/
def placeholder (examples : OrderedMap Text Example) (renderable tagged : List Text) (s : Segment) :
    Text :=
  match s.label.bind (placeholderFor? examples renderable tagged) with
  | none => []
  | some e => placeholderTag e

/-- The labels of the segments name registered examples. -/
def Registered (examples : OrderedMap Text Example) (segments : List Segment) : Prop :=
  ∀ s ∈ segments, ∀ a, s.label = some a → examples.get? a.name ≠ none

theorem registered_collect (segments : List Segment) :
    Registered (Example.collect segments) segments := by
  intro s hs a ha hnone
  have hblock : ∃ b, CodeBlock.ofSegment? s = some (a.name, b) := by
    cases s with
    | text t => cases ha
    | fence f =>
        have hlabel : f.label = some a := ha
        rw [CodeBlock.ofSegment?, CodeBlock.ofFence?, hlabel]
        exact ⟨_, rfl⟩
  obtain ⟨b, hb⟩ := hblock
  rw [Example.collect_eq_gather, OrderedMap.get?_eq_none_iff, OrderedMap.keys_gather,
    OrderedMap.mem_foldl_addKey, not_or] at hnone
  exact hnone.2 (List.mem_map.2 ⟨_, List.mem_filterMap.2 ⟨s, hs, hb⟩, rfl⟩)

section Placeholder

variable {examples : OrderedMap Text Example} {renderable : List Text}

theorem placeholderFor?_congr {tagged tagged' : List Text} (h : ∀ n, n ∈ tagged ↔ n ∈ tagged') :
    placeholderFor? examples renderable tagged = placeholderFor? examples renderable tagged' := by
  funext a
  have hcontains : tagged.contains a.name = tagged'.contains a.name := by
    rw [Bool.eq_iff_iff, List.contains_iff_mem, List.contains_iff_mem]
    exact h a.name
  rw [placeholderFor?, placeholderFor?, hcontains]

theorem placeholder_congr {tagged tagged' : List Text} (h : ∀ n, n ∈ tagged ↔ n ∈ tagged')
    (s : Segment) :
    placeholder examples renderable tagged s = placeholder examples renderable tagged' s := by
  rw [placeholder, placeholder, placeholderFor?_congr h]

theorem placeholderTag_ne_nil (e : Example) : placeholderTag e ≠ [] := by
  simp [placeholderTag, ofString]

theorem insertPlaceholdersFrom_singleton (tagged : List Text) (s : Segment) :
    insertPlaceholdersFrom examples renderable tagged [s] =
      Segment.plain (placeholder examples renderable tagged s) ++ [s] := by
  rw [insertPlaceholdersFrom, placeholder]
  cases hlabel : s.label with
  | none => rfl
  | some a =>
      cases hfor : placeholderFor? examples renderable tagged a with
      | none => simp [hfor, insertPlaceholdersFrom, Segment.plain]
      | some e => simp [hfor, insertPlaceholdersFrom, Segment.plain, placeholderTag_ne_nil]

theorem taggedNames_cons_none {s : Segment} (h : s.label = none) (segments : List Segment) :
    taggedNames renderable (s :: segments) = taggedNames renderable segments := by
  rw [taggedNames, List.filterMap_cons, h]
  rfl

theorem taggedNames_cons_some {s : Segment} {a : Label} (h : s.label = some a)
    (segments : List Segment) :
    taggedNames renderable (s :: segments) =
      if renderable.contains a.extension then a.name :: taggedNames renderable segments
      else taggedNames renderable segments := by
  simp only [taggedNames, List.filterMap_cons, h, List.filter_cons]
  split
  case isTrue => rfl
  case isFalse => rfl

/-- Placeholders are inserted segment by segment. -/
theorem insertPlaceholdersFrom_concat {before : List Segment} (h : Registered examples before)
    (tagged : List Text) (s : Segment) :
    insertPlaceholdersFrom examples renderable tagged (before ++ [s]) =
      insertPlaceholdersFrom examples renderable tagged before ++
        (Segment.plain
          (placeholder examples renderable (taggedNames renderable before ++ tagged) s) ++ [s]) := by
  induction before generalizing tagged with
  | nil => exact insertPlaceholdersFrom_singleton tagged s
  | cons s' before ih =>
      have hrest : Registered examples before := fun s hs => h s (List.mem_cons_of_mem s' hs)
      rw [List.cons_append, insertPlaceholdersFrom, insertPlaceholdersFrom]
      cases ha : s'.label with
      | none =>
          simp only [ih hrest, taggedNames_cons_none ha, List.cons_append]
      | some a =>
          obtain ⟨e, he⟩ := Option.ne_none_iff_exists'.1 (h s' List.mem_cons_self a ha)
          -- the label of `s'` counts among the names before `s`, whichever list it is added to
          by_cases hskip : a.name ∈ tagged ∨ renderable.contains a.extension = false
          · have hfor : placeholderFor? examples renderable tagged a = none := by
              refine if_pos ?_
              rw [Bool.or_eq_true, List.contains_iff_mem, Bool.not_eq_true']
              exact hskip
            have hnames : ∀ n, n ∈ taggedNames renderable (s' :: before) ++ tagged ↔
                n ∈ taggedNames renderable before ++ tagged := by
              intro n
              rw [taggedNames_cons_some ha]
              grind
            simp only [hfor, ih hrest, List.cons_append, placeholder_congr hnames]
          · have hfor : placeholderFor? examples renderable tagged a = some e := by
              rw [placeholderFor?, if_neg, he]
              rw [Bool.or_eq_true, List.contains_iff_mem, Bool.not_eq_true']
              exact hskip
            have hnames : ∀ n, n ∈ taggedNames renderable (s' :: before) ++ tagged ↔
                n ∈ taggedNames renderable before ++ a.name :: tagged := by
              intro n
              rw [taggedNames_cons_some ha]
              grind
            simp only [hfor, ih hrest, List.cons_append, placeholder_congr hnames]

/-- What stands before a block is a placeholder line or nothing. -/
theorem tagged_placeholder (hexamples : Example.AllShaped examples) (tagged : List Text)
    (f : Fence) : f.Tagged (placeholder examples renderable tagged (.fence f)) := by
  unfold placeholder
  split
  case h_1 => exact .bare
  case h_2 e he =>
      obtain ⟨a, ha, hfor⟩ := Option.bind_eq_some_iff.1 he
      unfold placeholderFor? at hfor
      split at hfor
      case isTrue => cases hfor
      case isFalse =>
          obtain ⟨line, hline, hunb⟩ := placeholderTag_eq (hexamples a.name e hfor)
          rw [hline]
          refine .line ?_ hunb
          intro hnone
          rw [Segment.label, hnone] at ha
          cases ha

/-- There is a placeholder before a segment exactly when it is the first one of its name that can be
rendered. -/
theorem placeholder_eq_nil_iff {before : List Segment} {s : Segment} (h : Registered examples [s]) :
    placeholder examples renderable (taggedNames renderable before) s = [] ↔
      isPlaced renderable before s = false := by
  unfold placeholder isPlaced
  cases ha : s.label with
  | none => simp
  | some a =>
      obtain ⟨e, he⟩ := Option.ne_none_iff_exists'.1 (h s List.mem_cons_self a ha)
      rw [Option.bind_some, placeholderFor?, he, Option.any_some]
      cases (taggedNames renderable before).contains a.name with
      | true => simp
      | false =>
          cases renderable.contains a.extension with
          | true => simp [placeholderTag_ne_nil]
          | false => simp

end Placeholder

/-! ## What has been kept -/

/-- What a list of segments is described as. -/
def ofSegments (examples : OrderedMap Text Example) (renderable : List Text)
    (segments : List Segment) : Text :=
  renderSegments (stripLabels (removeHidden (insertPlaceholders examples renderable segments)))

/-- The segments that are kept of a list of segments, last first. -/
def keptOf (examples : OrderedMap Text Example) (renderable : List Text) (segments : List Segment) :
    List Segment :=
  (insertPlaceholders examples renderable segments).foldl keepVisible []

theorem ofSegments_eq_keptText (examples : OrderedMap Text Example) (renderable : List Text)
    (segments : List Segment) :
    ofSegments examples renderable segments = keptText (keptOf examples renderable segments) := rfl

/-- Taking a line feed off segments takes it off their text. -/
theorem keptText_dropFinalFeed {kept : List Segment} (h : ∀ s ∈ kept, s.WellFormed) :
    keptText (dropFinalFeed kept) = chopFeed (keptText kept) := by
  fun_cases dropFinalFeed kept with
  | case1 t before hlast hempty =>
      obtain ⟨line, rfl⟩ := List.getLast?_eq_some_iff.1 hlast
      obtain rfl : line = [] := by simpa using hempty
      rw [keptText_cons]
      exact (chopFeed_concat _).symm
  | case2 t before hlast hempty =>
      obtain ⟨line, rfl⟩ := List.getLast?_eq_some_iff.1 hlast
      rw [List.dropLast_concat, keptText_cons, keptText_cons]
      show keptText before ++ line = chopFeed (keptText before ++ (line ++ [.char '\n']))
      rw [← List.append_assoc, chopFeed_concat]
  | case3 t before hlast =>
      have hne : t ≠ [] := h (.text t) List.mem_cons_self
      rw [keptText_cons]
      show _ = chopFeed (keptText before ++ t)
      rw [chopFeed_append _ hne, chopFeed_of_ne hlast]
      rfl
  | case4 _ htext =>
      cases kept with
      | nil => rfl
      | cons s before =>
          cases s with
          | text t => exact absurd rfl (htext t before)
          | fence f =>
              have hf : f.WellFormed := h (.fence f) List.mem_cons_self
              rw [keptText_cons, render_stripLabel_fence, chopFeed_of_ne (hf.getLast?_bare _)]

theorem wellFormed_dropFinalFeed {kept : List Segment} (h : ∀ s ∈ kept, s.WellFormed) :
    ∀ s ∈ dropFinalFeed kept, s.WellFormed := by
  fun_cases dropFinalFeed kept with
  | case1 t before hlast hempty => exact fun s hs => h s (List.mem_cons_of_mem _ hs)
  | case2 t before hlast hempty =>
      intro s hs
      rcases List.mem_cons.1 hs with rfl | hs
      · simpa [Segment.WellFormed] using hempty
      · exact h s (List.mem_cons_of_mem _ hs)
  | case3 t before hlast => exact h
  | case4 _ htext => exact h

theorem wellFormed_keepVisible {kept : List Segment} (h : ∀ s ∈ kept, s.WellFormed) {s : Segment}
    (hs : s.WellFormed) : ∀ s' ∈ keepVisible kept s, s'.WellFormed := by
  have hcons : ∀ s' ∈ s :: kept, s'.WellFormed := by
    intro s' hs'
    rcases List.mem_cons.1 hs' with rfl | hs'
    · exact hs
    · exact h s' hs'
  cases s with
  | text t => exact hcons
  | fence f =>
      rw [keepVisible]
      split
      case isTrue => exact wellFormed_dropFinalFeed h
      case isFalse => exact hcons

/-! ## One segment more -/

/-- What is described so far with one more segment, and the placeholder before it. -/
def extended (soFar tag : Text) : Segment → Text
  | .text t => soFar ++ t
  | .fence f => if f.hidden then chopFeed (soFar ++ tag) else soFar ++ (tag ++ f.bare.render)

theorem keptText_keepVisible {kept : List Segment} (h : ∀ s ∈ kept, s.WellFormed) (s : Segment) :
    keptText (keepVisible kept s) = extended (keptText kept) [] s := by
  cases s with
  | text t => exact keptText_cons _ _
  | fence f =>
      rw [keepVisible, extended, List.append_nil, List.nil_append]
      split
      case isTrue => exact keptText_dropFinalFeed h
      case isFalse => rw [keptText_cons, render_stripLabel_fence]

section Concat

variable {examples : OrderedMap Text Example} {renderable : List Text} {before : List Segment}

theorem keptOf_concat (h : Registered examples before) (s : Segment) :
    keptOf examples renderable (before ++ [s]) =
      keepVisible ((Segment.plain
        (placeholder examples renderable (taggedNames renderable before) s)).foldl keepVisible
          (keptOf examples renderable before)) s := by
  rw [keptOf, insertPlaceholders, insertPlaceholdersFrom_concat h, List.append_nil,
    List.foldl_append, List.foldl_append]
  rfl

/-- Behind plain text, which may be empty. -/
theorem keptText_foldl_plain {kept : List Segment} (h : ∀ s ∈ kept, s.WellFormed) (t : Text) :
    keptText ((Segment.plain t).foldl keepVisible kept) = keptText kept ++ t ∧
      ∀ s ∈ (Segment.plain t).foldl keepVisible kept, s.WellFormed := by
  cases t with
  | nil => exact ⟨(List.append_nil _).symm, h⟩
  | cons c rest =>
      have hs : (Segment.text (c :: rest)).WellFormed := List.cons_ne_nil c rest
      exact ⟨keptText_cons _ _, wellFormed_keepVisible h hs⟩

theorem wellFormed_keptOf (hreg : Registered examples before) (h : ∀ s ∈ before, s.WellFormed) :
    ∀ s ∈ keptOf examples renderable before, s.WellFormed := by
  induction before using List.reverseRecOn with
  | nil => simp [keptOf, insertPlaceholders, insertPlaceholdersFrom]
  | append_singleton before s ih =>
      have hreg' : Registered examples before := fun s hs => hreg s (List.mem_append_left _ hs)
      have hkept := ih hreg' fun s hs => h s (List.mem_append_left _ hs)
      rw [keptOf_concat hreg']
      exact wellFormed_keepVisible (keptText_foldl_plain hkept _).2 (h s (by simp))

/-- What segments are described as grows by one segment and its placeholder at a time. -/
theorem ofSegments_concat (hreg : Registered examples before) (h : ∀ s ∈ before, s.WellFormed)
    (s : Segment) :
    ofSegments examples renderable (before ++ [s]) =
      extended (ofSegments examples renderable before)
        (placeholder examples renderable (taggedNames renderable before) s) s := by
  have hbefore : ∀ s ∈ keptOf examples renderable before, s.WellFormed := wellFormed_keptOf hreg h
  obtain ⟨htext, hkept⟩ := keptText_foldl_plain hbefore
    (placeholder examples renderable (taggedNames renderable before) s)
  rw [ofSegments_eq_keptText, keptOf_concat hreg, keptText_keepVisible hkept, htext,
    ofSegments_eq_keptText]
  cases s with
  | text t => exact congrArg (· ++ t) (List.append_nil _)
  | fence f => simp only [extended, List.append_nil, List.nil_append, List.append_assoc]

end Concat

end Description

end ComponentDocs
