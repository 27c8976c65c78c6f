import ComponentDocs.Proofs.LaggingRun

/-!
# Descriptions of texts with carriage returns

A text and its counterpart with carriage returns are described segment by segment. Read with single
line feeds, the description of the counterpart grows by whatever a segment adds
(`universalNewlines_extended`): a hidden block takes only the line feed of a carriage return with a
line feed, and the carriage return that is left still ends the line. The description of the text
itself loses the whole end of that line, so that it lags behind (`lagging_described`).

The two have the same lines exactly when this is not seen: where a hidden block without placeholder
follows plain text that ends in a line feed, that one ends a line that is not empty, and nothing
comes behind it (`same_lines_with_returns_iff`).
-/

set_option autoImplicit false

namespace ComponentDocs

open Text

namespace Text

/-! ## Line feeds with their carriage returns -/

/-- A line feed at the end of the text has its carriage return. -/
def Paired (t : Text) : Prop :=
  ∀ x, t = x ++ [.char '\n'] → x.getLast? = some (.char '\r')

theorem paired_of_ne {t : Text} (h : t.getLast? ≠ some (.char '\n')) : Paired t := by
  rintro x rfl
  exact absurd (by simp) h

theorem Paired.append {b : Text} (h : Paired b) (hb : b ≠ []) (a : Text) : Paired (a ++ b) := by
  intro x hx
  obtain ⟨y, c, rfl⟩ : ∃ y c, b = y ++ [c] :=
    ⟨b.dropLast, b.getLast hb, (List.dropLast_concat_getLast hb).symm⟩
  rw [← List.append_assoc] at hx
  obtain ⟨rfl, hc⟩ := List.append_inj' hx rfl
  rw [List.getLast?_append, h y (by rw [hc])]
  rfl

theorem paired_withReturns (t : Text) : Paired (withReturns t) := by
  by_cases hlast : t.getLast? = some (.char '\n')
  · obtain ⟨line, rfl⟩ := List.getLast?_eq_some_iff.1 hlast
    rw [withReturns_append]
    refine Paired.append ?_ (by simp [withReturns_feed_cons]) _
    intro x hx
    have hpair : [CodePoint.char '\r'] ++ [.char '\n'] = x ++ [.char '\n'] := hx
    obtain rfl := List.append_cancel_right hpair
    rfl
  · refine paired_of_ne ?_
    rwa [getLast?_withReturns]

/-- Taking the line feed leaves the carriage return, which is read as the same end of a line. -/
theorem Paired.chopFeed {t : Text} (h : Paired t) :
    universalNewlines (chopFeed t) = universalNewlines t ∧ Paired (Text.chopFeed t) := by
  by_cases hlast : t.getLast? = some (.char '\n')
  · obtain ⟨x, rfl⟩ := List.getLast?_eq_some_iff.1 hlast
    obtain ⟨y, rfl⟩ := List.getLast?_eq_some_iff.1 (h x rfl)
    rw [chopFeed_concat, List.append_assoc, universalNewlines_append y (by simp),
      universalNewlines_append y (by simp)]
    exact ⟨rfl, paired_of_ne (by simp)⟩
  · rw [chopFeed_of_ne hlast]
    exact ⟨rfl, h⟩

theorem Unbroken.getLast?_ne {t : Text} (h : Unbroken t) : t.getLast? ≠ some (.char '\n') :=
  fun hlast => absurd (h _ (List.mem_of_getLast? hlast)) (by decide)

theorem Unbroken.head?_ne {t : Text} (h : Unbroken t) : t.head? ≠ some (.char '\n') :=
  fun hhead => absurd (h _ (List.mem_of_head? hhead)) (by decide)

theorem Unbroken.return_notMem {t : Text} (h : Unbroken t) : .char '\r' ∉ t :=
  fun hmem => absurd (h _ hmem) (by decide)

end Text

namespace Fence

/-- A placeholder is nothing or a line that is not empty. -/
theorem Tagged.eq_nil_or_concat {f : Fence} {g : Text} (h : f.Tagged g) :
    g = [] ∨ ∃ line, g = line ++ [.char '\n'] ∧ line ≠ [] ∧ Unbroken line := by
  cases h with
  | bare => exact Or.inl rfl
  | line _ hunb => exact Or.inr ⟨_, rfl, by simp, unbroken_bracket hunb⟩

theorem Tagged.return_notMem {f : Fence} {g : Text} (h : f.Tagged g) : .char '\r' ∉ g := by
  rcases h.eq_nil_or_concat with rfl | ⟨line, rfl, -, hunb⟩
  · simp
  · rw [List.mem_append, not_or]
    exact ⟨hunb.return_notMem, by simp⟩

theorem Tagged.head?_append_ne {f : Fence} {g x : Text} (h : f.Tagged g)
    (hx : x.head? ≠ some (.char '\n')) : (g ++ x).head? ≠ some (.char '\n') := by
  rcases h.eq_nil_or_concat with rfl | ⟨line, rfl, hne, hunb⟩
  · exact hx
  · obtain ⟨c, rest, rfl⟩ := List.exists_cons_of_ne_nil hne
    exact hunb.head?_ne

/-- A block that is shown has no carriage return if the block itself has none. -/
theorem WellFormed.return_notMem_bare {f : Fence} (hf : f.WellFormed) (h : .char '\r' ∉ f.render) :
    .char '\r' ∉ f.bare.render := by
  cases ha : f.label with
  | none => rwa [bare_of_unlabelled ha]
  | some a =>
      have hword : .char '\r' ∉ a.extension :=
        (hf.extension ha).notMem (by decide)
      rw [bare_of_labelled ha]
      simp only [render, List.mem_append, not_or] at h ⊢
      exact ⟨⟨⟨⟨h.1.1.1.1, hword⟩, h.1.1.2⟩, h.1.2⟩, h.2⟩

end Fence

namespace Description

/-! ## What a segment adds -/

/-- What a segment with a placeholder before it adds to a description. -/
def addition (tag : Text) : Segment → Text
  | .text t => t
  | .fence f => if f.hidden then chopFeed tag else tag ++ f.bare.render

/-- Whether a segment that follows others adds anything to their description: all do but the hidden
blocks without placeholder. -/
def adds (renderable : List Text) (before : List Segment) : Segment → Bool
  | .text _ => true
  | .fence f => !f.hidden || isPlaced renderable before (.fence f)

theorem adds_fence_eq_false_iff {renderable : List Text} {before : List Segment} {f : Fence} :
    adds renderable before (.fence f) = false ↔
      f.hidden = true ∧ isPlaced renderable before (.fence f) = false := by
  rw [adds, Bool.or_eq_false_iff, Bool.not_eq_false']

section Step

variable {tag : Text}

/-- A segment of the counterpart adds, up to the spelling of the ends of lines, what the segment of
the text has to add, and leaves no line feed without its carriage return. -/
theorem universalNewlines_extended {soFar : Text} {s : Segment} (hsoFar : Paired soFar)
    (hs : s.WellFormed) (hreturn : .char '\r' ∉ s.render)
    (htag : ∀ f, s = .fence f → f.Tagged tag) :
    universalNewlines (extended soFar tag s.withReturns) =
        universalNewlines soFar ++ addition tag s ∧
      Paired (extended soFar tag s.withReturns) := by
  cases s with
  | text t =>
      have hreturn : .char '\r' ∉ t := hreturn
      have hne : t.withReturns ≠ [] := mt withReturns_eq_nil_iff.1 hs
      refine ⟨?_, (paired_withReturns t).append hne soFar⟩
      show universalNewlines (soFar ++ t.withReturns) = universalNewlines soFar ++ t
      rw [universalNewlines_append soFar (head?_withReturns_ne t),
        universalNewlines_withReturns hreturn]
  | fence f =>
      have hf : f.WellFormed := hs
      rw [Segment.withReturns, extended, addition, hf.hidden_withReturns]
      cases hh : f.hidden with
      | true =>
          rcases (htag f rfl).eq_nil_or_concat with rfl | ⟨line, rfl, hne, hunb⟩
          · rw [List.append_nil, if_pos rfl, if_pos rfl, chopFeed_nil, List.append_nil]
            exact hsoFar.chopFeed
          · rw [if_pos rfl, if_pos rfl, ← List.append_assoc, chopFeed_concat, chopFeed_concat,
              universalNewlines_append soFar hunb.head?_ne,
              universalNewlines_eq_self hunb.return_notMem]
            exact ⟨rfl, (paired_of_ne hunb.getLast?_ne).append hne soFar⟩
      | false =>
          have hbare : .char '\r' ∉ f.bare.render := hf.return_notMem_bare hreturn
          have hne : f.bare.render.withReturns ≠ [] :=
            mt withReturns_eq_nil_iff.1 (by simp [Fence.render, fenceMark, ofString])
          have hhead := head?_withReturns_ne f.bare.render
          rw [if_neg (by simp), if_neg (by simp), hf.bare_withReturns, Fence.render_withReturns]
          refine ⟨?_, ?_⟩
          · rw [universalNewlines_append soFar ((htag f rfl).head?_append_ne hhead),
              universalNewlines_append tag hhead, universalNewlines_withReturns hbare,
              universalNewlines_eq_self (htag f rfl).return_notMem]
          · rw [← List.append_assoc]
            exact (paired_withReturns _).append hne (soFar ++ tag)

/-- A segment that adds something appends it to what is described so far. -/
theorem extended_eq_append {s : Segment} (h : ∀ f, s = .fence f → f.hidden = true → tag ≠ [])
    (soFar : Text) : extended soFar tag s = soFar ++ addition tag s := by
  cases s with
  | text t => rfl
  | fence f =>
      rw [extended, addition]
      cases hh : f.hidden with
      | true => rw [if_pos rfl, if_pos rfl, chopFeed_append soFar (h f rfl hh)]
      | false => rw [if_neg (by simp), if_neg (by simp)]

theorem addition_ne_nil {s : Segment} (hs : s.WellFormed) (htag : ∀ f, s = .fence f → f.Tagged tag)
    (h : ∀ f, s = .fence f → f.hidden = true → tag ≠ []) : addition tag s ≠ [] := by
  cases s with
  | text t => exact hs
  | fence f =>
      rw [addition]
      cases hh : f.hidden with
      | true =>
          rcases (htag f rfl).eq_nil_or_concat with rfl | ⟨line, rfl, hne, -⟩
          · exact absurd rfl (h f rfl hh)
          · rw [if_pos rfl, chopFeed_concat]
            exact hne
      | false => simp [Fence.render, fenceMark, ofString]

/-- Where a block leaves a line feed at the end, it is hidden and took another one. -/
theorem feeds_of_extended_fence {soFar : Text} {f : Fence} (hf : f.WellFormed) (htag : f.Tagged tag)
    (hlast : (extended soFar tag (.fence f)).getLast? = some (.char '\n')) :
    f.hidden = true ∧ tag = [] ∧ ∃ x, soFar = x ++ [.char '\n'] ++ [.char '\n'] := by
  rw [extended] at hlast
  cases hh : f.hidden with
  | false =>
      rw [hh, if_neg (by simp), ← List.append_assoc] at hlast
      exact absurd hlast (hf.getLast?_bare _)
  | true =>
      rw [hh, if_pos rfl] at hlast
      rcases htag.eq_nil_or_concat with rfl | ⟨line, rfl, hne, hunb⟩
      · rw [List.append_nil] at hlast
        by_cases hfeed : soFar.getLast? = some (.char '\n')
        · obtain ⟨y, rfl⟩ := List.getLast?_eq_some_iff.1 hfeed
          rw [chopFeed_concat] at hlast
          obtain ⟨x, rfl⟩ := List.getLast?_eq_some_iff.1 hlast
          exact ⟨rfl, rfl, x, rfl⟩
        · rw [chopFeed_of_ne hfeed] at hlast
          exact absurd hlast hfeed
      · rw [← List.append_assoc, chopFeed_concat, List.getLast?_append_of_ne_nil _ hne] at hlast
        exact absurd hlast hunb.getLast?_ne

end Step

/-! ## The two descriptions -/

open Segment

/-- What some segments of a text are described as, with the examples of that text. -/
def described (content : Text) (renderable : List Text) (segments : List Segment) : Text :=
  ofSegments (Example.collect (split content)) renderable segments

/-- What their counterparts are described as, with the examples of the counterpart of the text. -/
def counterpart (content : Text) (renderable : List Text) (segments : List Segment) : Text :=
  ofSegments (Example.collect (split content.withReturns)) renderable
    (segments.map Segment.withReturns)

/-- The placeholder before a segment of a text; empty if it has none. -/
def tagBefore (content : Text) (renderable : List Text) (before : List Segment) (s : Segment) :
    Text :=
  placeholder (Example.collect (split content)) renderable (taggedNames renderable before) s

section Runs

variable {content : Text} {renderable : List Text} {before : List Segment} {s : Segment}

theorem taggedNames_map_withReturns (h : ∀ s ∈ before, s.WellFormed) :
    taggedNames renderable (before.map Segment.withReturns) = taggedNames renderable before := by
  have hlabels : (before.map Segment.withReturns).filterMap label = before.filterMap label := by
    rw [List.filterMap_map]
    exact List.filterMap_congr fun s hs => label_withReturns (h s hs)
  rw [taggedNames, hlabels, taggedNames]

/-- The placeholders are the same for the text and its counterpart. -/
theorem placeholder_withReturns {segments : List Segment} (h : ∀ s ∈ segments, s.WellFormed)
    (hs : s.WellFormed) (tagged : List Text) :
    placeholder (Example.collect (segments.map Segment.withReturns)) renderable tagged
        s.withReturns =
      placeholder (Example.collect segments) renderable tagged s := by
  unfold placeholder
  rw [label_withReturns hs]
  cases s.label with
  | none => rfl
  | some a =>
      have hfor : placeholderFor? (Example.collect (segments.map Segment.withReturns)) renderable
            tagged a =
          (placeholderFor? (Example.collect segments) renderable tagged a).map
            Example.withReturns := by
        rw [placeholderFor?, placeholderFor?, Example.get?_collect_withReturns h]
        split
        case isTrue => rfl
        case isFalse => rfl
      rw [Option.bind_some, Option.bind_some, hfor]
      cases placeholderFor? (Example.collect segments) renderable tagged a with
      | none => rfl
      | some e => rfl

theorem tagBefore_withReturns (hreturn : .char '\r' ∉ content)
    (hbefore : ∀ s' ∈ before, s' ∈ split content) (hs : s ∈ split content) :
    placeholder (Example.collect (split content.withReturns)) renderable
        (taggedNames renderable (before.map Segment.withReturns)) s.withReturns =
      tagBefore content renderable before s := by
  rw [split_withReturns hreturn,
    taggedNames_map_withReturns fun s' hs' => wellFormed_of_mem_split (hbefore s' hs'),
    placeholder_withReturns (fun s' => wellFormed_of_mem_split) (wellFormed_of_mem_split hs),
    tagBefore]

/-- The description of the counterpart, segment by segment. -/
theorem counterpart_concat (hreturn : .char '\r' ∉ content) (h : before ++ [s] <+: split content) :
    counterpart content renderable (before ++ [s]) =
      extended (counterpart content renderable before) (tagBefore content renderable before s)
        s.withReturns := by
  have hbefore : ∀ s' ∈ before, s' ∈ split content :=
    fun s' hs' => h.subset (List.mem_append_left [s] hs')
  have hs : s ∈ split content := h.subset (by simp)
  have hmap : ∀ s' ∈ before.map Segment.withReturns, s' ∈ split content.withReturns := by
    intro s' hs'
    obtain ⟨s₀, hs₀, rfl⟩ := List.mem_map.1 hs'
    rw [split_withReturns hreturn]
    exact List.mem_map_of_mem (hbefore s₀ hs₀)
  rw [counterpart, List.map_append, List.map_singleton,
    ofSegments_concat (fun s' hs' => registered_collect _ s' (hmap s' hs'))
      fun s' hs' => wellFormed_of_mem_split (hmap s' hs'),
    tagBefore_withReturns hreturn hbefore hs, counterpart]

theorem tagged_tagBefore (f : Fence) (hf : s = .fence f) :
    f.Tagged (tagBefore content renderable before s) := by
  subst hf
  exact tagged_placeholder (Example.allShaped_collect_split content) _ f

/-- Read with single line feeds, the description of the counterpart grows by what the segments add,
as long as no line feed at its end is without its carriage return. -/
theorem counterpart_step (hreturn : .char '\r' ∉ content) (h : before ++ [s] <+: split content)
    (hpaired : Paired (counterpart content renderable before)) :
    universalNewlines (counterpart content renderable (before ++ [s])) =
        universalNewlines (counterpart content renderable before) ++
          addition (tagBefore content renderable before s) s ∧
      Paired (counterpart content renderable (before ++ [s])) := by
  have hs : s ∈ split content := h.subset (by simp)
  have hreturn' : .char '\r' ∉ s.render := fun hmem => hreturn (mem_of_mem_split hs _ hmem)
  rw [counterpart_concat hreturn h]
  exact universalNewlines_extended hpaired (wellFormed_of_mem_split hs) hreturn'
    fun f => tagged_tagBefore f

/-- No line feed at its end ever is. -/
theorem paired_counterpart (hreturn : .char '\r' ∉ content) (h : before <+: split content) :
    Paired (counterpart content renderable before) := by
  induction before using List.reverseRecOn with
  | nil =>
      refine paired_of_ne ?_
      rintro ⟨⟩
  | append_singleton before s ih =>
      exact (counterpart_step hreturn h (ih ((List.prefix_append _ _).trans h))).2

/-- The description of the text, segment by segment. -/
theorem described_concat (h : before ++ [s] <+: split content) :
    described content renderable (before ++ [s]) =
      extended (described content renderable before) (tagBefore content renderable before s) s := by
  have hmem : ∀ s' ∈ before, s' ∈ split content :=
    fun s' hs' => h.subset (List.mem_append_left [s] hs')
  exact ofSegments_concat (fun s' hs' => registered_collect _ s' (hmem s' hs'))
    (fun s' hs' => wellFormed_of_mem_split (hmem s' hs')) s

theorem tagBefore_eq_nil_iff (hs : s ∈ split content) :
    tagBefore content renderable before s = [] ↔ isPlaced renderable before s = false := by
  refine placeholder_eq_nil_iff ?_
  intro s' hs'
  rw [List.mem_singleton.1 hs']
  exact registered_collect _ s hs

/-- The description of a text lags behind that of its counterpart. -/
theorem lagging_described (hreturn : .char '\r' ∉ content) (renderable : List Text) :
    Lagging (adds renderable)
      (fun before => universalNewlines (counterpart content renderable before))
      (described content renderable) (split content) where
  start := rfl
  added before s h hadds := by
    have hs : s ∈ split content := h.subset (by simp)
    have hpaired : Paired (counterpart content renderable before) :=
      paired_counterpart hreturn ((List.prefix_append _ _).trans h)
    have htag : ∀ f, s = .fence f → f.hidden = true →
        tagBefore content renderable before s ≠ [] := by
      rintro f rfl hh hnil
      rw [tagBefore_eq_nil_iff hs] at hnil
      rw [adds_fence_eq_false_iff.2 ⟨hh, hnil⟩] at hadds
      cases hadds
    refine ⟨_, addition_ne_nil (wellFormed_of_mem_split hs) (fun f => tagged_tagBefore f) htag,
      (counterpart_step hreturn h hpaired).1, ?_⟩
    rw [described_concat h, extended_eq_append htag]
  taken before s h hadds := by
    have hs : s ∈ split content := h.subset (by simp)
    cases s with
    | text t => cases hadds
    | fence f =>
        obtain ⟨hh, hplaced⟩ := adds_fence_eq_false_iff.1 hadds
        have hnil := (tagBefore_eq_nil_iff hs).2 hplaced
        have hpaired : Paired (counterpart content renderable before) :=
          paired_counterpart hreturn ((List.prefix_append _ _).trans h)
        refine ⟨?_, ?_⟩
        · show universalNewlines _ = _
          rw [(counterpart_step hreturn h hpaired).1, hnil, addition, if_pos hh, chopFeed_nil,
            List.append_nil]
        · rw [described_concat h, hnil, extended, if_pos hh, List.append_nil]

theorem described_text {t : Text} (h : before ++ [.text t] <+: split content) :
    described content renderable (before ++ [.text t]) = described content renderable before ++ t :=
  described_concat h

end Runs

/-! ## When the lines are the same -/

/-- The line feeds that hidden blocks take are not missed: where a hidden block without placeholder
follows plain text that ends in a line feed, what is described before that line feed leaves off
within a line, and nothing is added behind the block. -/
def FeedsUnmissed (renderable : List Text) (content : Text) : Prop :=
  ∀ before t f after, split content = before ++ .text t :: .fence f :: after →
    f.hidden = true → t.getLast? = some (.char '\n') →
    isPlaced renderable (before ++ [.text t]) (.fence f) = false →
      isFresh (described content renderable before ++ t.dropLast) = false ∧
        ∀ mid s rest, after = mid ++ s :: rest →
          adds renderable (before ++ .text t :: .fence f :: mid) s = false

section Unmissed

variable {content : Text} {renderable : List Text}

/-- Only plain text ends a description in a line feed: a hidden block could do so if it took one of
two, and that one would be missed. -/
theorem FeedsUnmissed.exists_text (h : FeedsUnmissed renderable content) {before : List Segment}
    (hbefore : before <+: split content)
    (hlast : (described content renderable before).getLast? = some (.char '\n')) :
    ∃ b t, before = b ++ [.text t] ∧ t.getLast? = some (.char '\n') := by
  induction before using List.reverseRecOn with
  | nil => cases hlast
  | append_singleton before s ih =>
      have hs : s ∈ split content := hbefore.subset (by simp)
      cases s with
      | text t =>
          refine ⟨before, t, rfl, ?_⟩
          have hne : t ≠ [] := wellFormed_of_mem_split hs
          rwa [described_text hbefore, List.getLast?_append_of_ne_nil _ hne] at hlast
      | fence f =>
          rw [described_concat hbefore] at hlast
          obtain ⟨hh, htag, x, hx⟩ :=
            feeds_of_extended_fence (wellFormed_of_mem_split hs) (tagged_tagBefore f rfl) hlast
          have hprefix : before <+: split content := (List.prefix_append _ _).trans hbefore
          obtain ⟨b, t, rfl, ht⟩ := ih hprefix (by rw [hx]; simp)
          -- the line feed that the block took was missed, since there was another one before it
          obtain ⟨line, rfl⟩ := List.getLast?_eq_some_iff.1 ht
          obtain ⟨after, hafter⟩ := hbefore
          have hsplit : split content = b ++ .text (line ++ [.char '\n']) :: .fence f :: after := by
            rw [← hafter]
            simp
          have hfresh := (h b _ f after hsplit hh ht ((tagBefore_eq_nil_iff hs).1 htag)).1
          rw [described_text hprefix, ← List.append_assoc] at hx
          rw [List.dropLast_concat, List.append_cancel_right hx, isFresh_concat_feed] at hfresh
          cases hfresh

/-- The line feeds that the run loses are those that hidden blocks take from plain text. -/
theorem unmissed_iff :
    Unmissed (adds renderable) (described content renderable) (split content) ↔
      FeedsUnmissed renderable content := by
  constructor
  · intro h before t f after hsplit hh hlast hplaced
    have hsplit' : split content = (before ++ [.text t]) ++ .fence f :: after := by
      rw [hsplit, List.append_cons]
    have hprefix : before ++ [.text t] <+: split content := by
      rw [hsplit']
      exact List.prefix_append _ _
    obtain ⟨line, rfl⟩ := List.getLast?_eq_some_iff.1 hlast
    have htext : described content renderable (before ++ [.text (line ++ [.char '\n'])]) =
        described content renderable before ++ line ++ [.char '\n'] := by
      rw [described_text hprefix, List.append_assoc]
    obtain ⟨hfresh, hbehind⟩ :=
      h _ _ after hsplit' (adds_fence_eq_false_iff.2 ⟨hh, hplaced⟩) (by rw [htext]; simp)
    rw [htext, List.dropLast_concat] at hfresh
    refine ⟨by rwa [List.dropLast_concat], ?_⟩
    rintro mid s rest rfl
    simpa using hbehind mid s rest rfl
  · intro h before s after hsplit hadds hlast
    have hprefix : before <+: split content := by
      rw [hsplit]
      exact List.prefix_append _ _
    obtain ⟨b, t, rfl, ht⟩ := h.exists_text hprefix hlast
    cases s with
    | text t => cases hadds
    | fence f =>
        obtain ⟨hh, hplaced⟩ := adds_fence_eq_false_iff.1 hadds
        have hsplit' : split content = b ++ .text t :: .fence f :: after := by
          rw [hsplit]
          simp
        obtain ⟨hfresh, hbehind⟩ := h b t f after hsplit' hh ht hplaced
        obtain ⟨line, rfl⟩ := List.getLast?_eq_some_iff.1 ht
        rw [List.dropLast_concat] at hfresh
        refine ⟨?_, ?_⟩
        · rw [described_text hprefix, ← List.append_assoc, List.dropLast_concat]
          exact hfresh
        · rintro mid s rest rfl
          simpa using hbehind mid s rest rfl

end Unmissed

/-- For a text without carriage returns, the description of its counterpart with carriage returns
has the lines of its own description exactly when the line feeds that hidden blocks take are not
missed: a hidden block without placeholder behind plain text that ends in a line feed leaves a
carriage return in the one and nothing in the other. -/
theorem same_lines_with_returns_iff (content : Text) (renderable : List Text)
    (hreturn : .char '\r' ∉ content) :
    lineTexts (ofContent (Example.collect (split content.withReturns)) renderable
        content.withReturns) =
      lineTexts (ofContent (Example.collect (split content)) renderable content) ↔
    FeedsUnmissed renderable content := by
  have hlagging := lagging_described hreturn renderable
  have hwhole : ofContent (Example.collect (split content.withReturns)) renderable
      content.withReturns = counterpart content renderable (split content) := by
    rw [counterpart, ← split_withReturns hreturn]
    rfl
  rw [hwhole, ← lineTexts_universalNewlines, ← unmissed_iff]
  exact hlagging.lineTexts_eq_iff (return_notMem_universalNewlines _)

/-- One hidden block takes the line feed of its placeholder, another one that of the last line. -/
theorem same_lines_behind_placeholder_and_at_end :
    .char '\r' ∉ (ofString "t\n```a.html hidden\nx\n```\nu\n```hidden\ny\n```") ∧
      FeedsUnmissed [ofString "html"] "t\n```a.html hidden\nx\n```\nu\n```hidden\ny\n```" :=
  ⟨by decide, (same_lines_with_returns_iff _ _ (by decide)).1 (by decide)⟩

/-- A hidden block behind a line leaves an empty one there in the text with carriage returns. -/
theorem empty_line_behind_hidden_block :
    .char '\r' ∉ (ofString "t\n```hidden\nx\n```\n") ∧
    lineTexts (ofContent (Example.collect (split (Text.withReturns "t\n```hidden\nx\n```\n"))) []
      (Text.withReturns "t\n```hidden\nx\n```\n")) = [ofString "t", ofString ""] ∧
    lineTexts (ofContent (Example.collect (split "t\n```hidden\nx\n```\n")) []
      "t\n```hidden\nx\n```\n") = [ofString "t"] := by
  decide

end Description

end ComponentDocs
