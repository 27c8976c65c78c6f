import ComponentDocs.Proofs.HiddenFlags
import ComponentDocs.Proofs.RunningDescription
import Mathlib.Data.List.ReduceOption

/-!
# What hidden blocks take with them

Hidden blocks are removed in a run from front to back, in which each of them takes a line feed from
whatever the blocks before it have left last. Seen from the back there is no such dependence: each
segment is asked for as many line feeds as there are hidden blocks behind it whose demand has not been
met on the way (`owed`), and what becomes of it depends on that number only (`leftOf`). Both ways give
the same segments (`removeHidden_eq`), as a run on top of other segments hands the demands that it
cannot meet down to them (`foldl_keepVisible`).

It follows that a description loses nothing but line feeds at the end of plain text, each to a hidden
block of its own behind it (`description_loses_only_line_feeds`).
-/

set_option autoImplicit false

namespace ComponentDocs

open Text

namespace Text

/-- Taking off line feeds takes away nothing else, and at most as many as asked for. -/
theorem exists_lost_feeds (n : Nat) (t : Text) :
    ∃ lost, t = chopFeed^[n] t ++ lost ∧ (∀ c ∈ lost, c = .char '\n') ∧ lost.length ≤ n := by
  induction n generalizing t with
  | zero => exact ⟨[], by simp, by simp, by simp⟩
  | succ n ih =>
      rw [Function.iterate_succ_apply]
      by_cases hlast : t.getLast? = some (.char '\n')
      · obtain ⟨line, rfl⟩ := List.getLast?_eq_some_iff.1 hlast
        obtain ⟨lost, hline, hfeeds, hlength⟩ := ih line
        rw [chopFeed_concat]
        refine ⟨lost ++ [.char '\n'], ?_, ?_, ?_⟩
        · rw [← List.append_assoc, ← hline]
        · intro c hc
          rcases List.mem_append.1 hc with hc | hc
          · exact hfeeds c hc
          · exact List.mem_singleton.1 hc
        · rw [List.length_append, List.length_singleton]
          omega
      · obtain ⟨lost, hline, hfeeds, hlength⟩ := ih t
        rw [chopFeed_of_ne hlast]
        exact ⟨lost, hline, hfeeds, by omega⟩

end Text

namespace Description

open Segment

/-! ## Demands on a segment -/

/-- Whether plain text consists of line feeds and has no more of them than are asked for. -/
def usedUp (n : Nat) (t : Text) : Bool :=
  !t.isEmpty && (chopFeed^[n] t).isEmpty

/-- What is left of a segment that is asked for a number of line feeds. -/
def leftOf (n : Nat) : Segment → Option Segment
  | .text t => if usedUp n t then none else some (.text (chopFeed^[n] t))
  | .fence f => if f.hidden then none else some (.fence f)

/-- How many of the line feeds that a segment is asked for are asked for before it. A block that is
shown, and plain text of which something is left, keep all further demands off. -/
def passedOn (n : Nat) : Segment → Nat
  | .text t => if usedUp n t then n - t.length else 0
  | .fence f => if f.hidden then n + 1 else 0

/-- How many line feeds are asked for before the given segments. -/
def owed : List Segment → Nat
  | [] => 0
  | s :: rest => passedOn (owed rest) s

/-- What is left of each of the segments. -/
def remaining : List Segment → List (Option Segment)
  | [] => []
  | s :: rest => leftOf (owed rest) s :: remaining rest

/-! ## Removing hidden blocks -/

theorem dropFinalFeed_concat (x : Text) (kept : List Segment) :
    dropFinalFeed (.text (x ++ [.char '\n']) :: kept) = plain x ++ kept := by
  have hlast : (x ++ [CodePoint.char '\n']).getLast? = some (.char '\n') := by simp
  refine (if_pos hlast).trans ?_
  rw [List.dropLast_concat, plain]
  split <;> rfl

theorem dropFinalFeed_of_ne {t : Text} (h : t.getLast? ≠ some (.char '\n')) (kept : List Segment) :
    dropFinalFeed (.text t :: kept) = .text t :: kept :=
  if_neg h

theorem usedUp_zero (t : Text) : usedUp 0 t = false := by
  rw [usedUp, Function.iterate_zero_apply]
  cases t.isEmpty <;> rfl

theorem eq_nil_of_usedUp {n : Nat} {t : Text} (h : usedUp n t = true) : chopFeed^[n] t = [] := by
  rw [usedUp, Bool.and_eq_true] at h
  exact List.isEmpty_iff.1 h.2

theorem usedUp_concat {x : Text} (hx : x ≠ []) (n : Nat) :
    usedUp (n + 1) (x ++ [.char '\n']) = usedUp n x := by
  have hempty : x.isEmpty = false := by simpa using hx
  have hconcat : (x ++ [CodePoint.char '\n']).isEmpty = false := by simp
  rw [usedUp, usedUp, Function.iterate_succ_apply, chopFeed_concat, hempty, hconcat]

theorem usedUp_of_ne {t : Text} (h : t.getLast? ≠ some (.char '\n')) (n : Nat) :
    chopFeed^[n] t = t ∧ usedUp n t = false := by
  have hfixed : chopFeed^[n] t = t := Function.iterate_fixed (chopFeed_of_ne h) n
  refine ⟨hfixed, ?_⟩
  rw [usedUp, hfixed]
  cases t.isEmpty <;> rfl

/-- What several demands make of plain text and the segments before it. -/
theorem iterate_dropFinalFeed_text (n : Nat) (t : Text) (kept : List Segment) :
    dropFinalFeed^[n] (.text t :: kept) =
      (leftOf n (.text t)).toList ++ dropFinalFeed^[passedOn n (.text t)] kept := by
  induction n generalizing t with
  | zero =>
      rw [leftOf, passedOn, usedUp_zero]
      rfl
  | succ n ih =>
      rw [Function.iterate_succ_apply]
      by_cases hlast : t.getLast? = some (.char '\n')
      · obtain ⟨x, rfl⟩ := List.getLast?_eq_some_iff.1 hlast
        rw [dropFinalFeed_concat, leftOf, passedOn, Function.iterate_succ_apply chopFeed,
          chopFeed_concat]
        by_cases hx : x = []
        · -- the text was a single line feed, and the other demands reach what lies below
          subst hx
          have hnil : chopFeed^[n] [] = [] := Function.iterate_fixed chopFeed_nil n
          have hused : usedUp (n + 1) [.char '\n'] = true := by
            rw [usedUp, Function.iterate_succ_apply, ← List.nil_append [_], chopFeed_concat, hnil]
            rfl
          rw [List.nil_append, hused]
          rfl
        · have hplain : plain x = [.text x] := if_neg (by simpa using hx)
          rw [hplain, List.singleton_append, ih, leftOf, passedOn, usedUp_concat hx,
            List.length_append, List.length_singleton, Nat.add_sub_add_right]
      · have hdrop : dropFinalFeed (.text t :: kept) = .text t :: kept :=
          dropFinalFeed_of_ne hlast kept
        obtain ⟨hfixed, hused⟩ := usedUp_of_ne hlast (n + 1)
        rw [← Function.iterate_succ_apply, Function.iterate_fixed hdrop, leftOf, passedOn, hused,
          hfixed]
        rfl

/-- A run on top of other segments leaves of each segment what the demands behind it leave, and hands
the demands that are not met down to those other segments. -/
theorem foldl_keepVisible (segments kept : List Segment) :
    segments.foldl keepVisible kept =
      (remaining segments).reduceOption.reverse ++ dropFinalFeed^[owed segments] kept := by
  -- by induction from the front: the segments behind `s` find it, or what a hidden block has left
  -- below it, on top of the others
  induction segments generalizing kept with
  | nil => rfl
  | cons s rest ih =>
      rw [List.foldl_cons, ih, remaining, owed]
      cases s with
      | text t =>
          rw [keepVisible, iterate_dropFinalFeed_text, ← List.append_assoc]
          cases leftOf (owed rest) (.text t) with
          | none => simp
          | some s => simp
      | fence f =>
          rw [keepVisible, leftOf, passedOn]
          cases f.hidden with
          | true =>
              -- the block adds its own demand to those behind it
              rw [if_pos rfl, if_pos rfl, if_pos rfl, List.reduceOption_cons_of_none,
                Function.iterate_succ_apply]
          | false =>
              -- a block on top has no line feed to give, however often it is asked
              have hfixed : dropFinalFeed^[owed rest] (.fence f :: kept) = .fence f :: kept :=
                Function.iterate_fixed rfl _
              rw [if_neg Bool.false_ne_true, if_neg Bool.false_ne_true,
                if_neg Bool.false_ne_true, hfixed]
              simp

/-- Removing hidden blocks leaves of each segment what the demands behind it leave. -/
theorem removeHidden_eq (segments : List Segment) :
    removeHidden segments = (remaining segments).reduceOption := by
  have hnil : dropFinalFeed^[owed segments] [] = [] := Function.iterate_fixed rfl _
  rw [removeHidden, foldl_keepVisible, hnil, List.append_nil, List.reverse_reverse]

/-! ## What a description loses -/

/-- What a segment is described as, were it not for the line feeds that hidden blocks take. -/
def contribution : Segment → Text
  | .text t => t
  | .fence f =>
      if f.hidden then []
      else
        match f.label with
        | none => f.render
        | some a => fenceMark ++ a.extension ++ f.newline ++ f.body ++ f.closing

/-- A segment with what a description keeps of it and what it loses: line feeds at the end of plain
text. -/
structure Trimmed where
  segment : Segment
  kept : Text
  lost : Text
  whole : contribution segment = kept ++ lost
  feeds : ∀ c ∈ lost, c = .char '\n'
  plain : lost ≠ [] → ∃ t, segment = .text t

/-- The text of what is left of a segment, which may be nothing. -/
def shownText (s : Option Segment) : Text :=
  (s.map fun s => (stripLabel s).render).getD []

/-- A segment loses at most as many line feeds as are asked for from it and not before it. -/
theorem exists_trimmed (n : Nat) (s : Segment) :
    ∃ part : Trimmed, part.segment = s ∧ part.kept = shownText (leftOf n s) ∧
      part.lost.length + passedOn n s ≤ n + (fences [s]).countP Fence.hidden := by
  cases s with
  | text t =>
      obtain ⟨lost, ht, hfeeds, hlength⟩ := exists_lost_feeds n t
      refine ⟨⟨.text t, chopFeed^[n] t, lost, ht, hfeeds, fun _ => ⟨t, rfl⟩⟩, rfl, ?_, ?_⟩
      · rw [leftOf]
        split
        case isTrue hused => exact eq_nil_of_usedUp hused
        case isFalse => rfl
      · show lost.length + passedOn n (.text t) ≤ n + 0
        rw [passedOn]
        split
        case isTrue hused =>
            -- the whole text is lost, and what is passed on is asked for beyond its length
            rw [eq_nil_of_usedUp hused, List.nil_append] at ht
            rw [ht]
            omega
        case isFalse => omega
  | fence f =>
      refine ⟨⟨.fence f, contribution (.fence f), [], by simp, by simp, by simp⟩, rfl, ?_, ?_⟩
      · show contribution (.fence f) = shownText (leftOf n (.fence f))
        rw [contribution, leftOf]
        cases f.hidden with
        | true => rfl
        | false =>
            show _ = (stripLabel (.fence f)).render
            rw [stripLabel]
            cases f.label with
            | none => rfl
            | some a => rfl
      · show 0 + passedOn n (.fence f) ≤ n + (fences [.fence f]).countP Fence.hidden
        rw [passedOn]
        cases hf : f.hidden with
        | true => simp [fences, hf]
        | false => simp

/-- Segments lose at most as many line feeds as there are hidden blocks among them that take none from
before them, and so does every end of the list. -/
theorem exists_trimmed_segments (segments : List Segment) :
    ∃ parts : List Trimmed, parts.map Trimmed.segment = segments ∧
      parts.flatMap Trimmed.kept = (remaining segments).flatMap shownText ∧
      ∀ k, ((parts.drop k).flatMap Trimmed.lost).length + owed (segments.drop k) ≤
        (fences (segments.drop k)).countP Fence.hidden := by
  -- what is asked for before the segments is carried along: it is what their hidden blocks have left
  induction segments with
  | nil => exact ⟨[], rfl, rfl, by simp [owed]⟩
  | cons s rest ih =>
      obtain ⟨parts, hsegments, hkept, hlost⟩ := ih
      obtain ⟨part, hsegment, hpart, hcost⟩ := exists_trimmed (owed rest) s
      refine ⟨part :: parts, ?_, ?_, ?_⟩
      · rw [List.map_cons, hsegment, hsegments]
      · rw [remaining, List.flatMap_cons, List.flatMap_cons, hpart, hkept]
      · intro k
        cases k with
        | zero =>
            have hrest := hlost 0
            rw [List.drop_zero, List.drop_zero] at hrest
            rw [List.drop_zero, List.drop_zero, List.flatMap_cons, List.length_append, owed,
              fences_cons, List.countP_append]
            omega
        | succ k => exact hlost k

theorem renderSegments_stripLabels_reduceOption (left : List (Option Segment)) :
    renderSegments (stripLabels left.reduceOption) = left.flatMap shownText := by
  induction left with
  | nil => rfl
  | cons s left ih =>
      cases s with
      | none => exact ih
      | some s =>
          rw [List.reduceOption_cons_of_some, List.flatMap_cons, ← ih]
          rfl

/-- A text is described by its segments and placeholders, one after the other, hidden blocks excepted,
and under bare extensions where there are labels; and line feeds are missing at the end of plain text.
From any segment on there are no more of these than hidden blocks, so without hidden blocks there are
none. -/
theorem description_loses_only_line_feeds (examples : OrderedMap Text Example)
    (renderable : List Text) (content : Text) :
    ∃ parts : List Trimmed,
      parts.map Trimmed.segment = insertPlaceholders examples renderable (split content) ∧
      (insertPlaceholders examples renderable (split content)).flatMap contribution =
        parts.flatMap (fun part => part.kept ++ part.lost) ∧
      ofContent examples renderable content = parts.flatMap Trimmed.kept ∧
      (∀ k, ((parts.drop k).flatMap Trimmed.lost).length ≤
        (fences ((parts.drop k).map Trimmed.segment)).countP Fence.hidden) ∧
      ((∀ f ∈ fences (split content), f.hidden = false) →
        ofContent examples renderable content =
          (insertPlaceholders examples renderable (split content)).flatMap contribution) := by
  obtain ⟨parts, hsegments, hkept, hlost⟩ :=
    exists_trimmed_segments (insertPlaceholders examples renderable (split content))
  have hwhole : (insertPlaceholders examples renderable (split content)).flatMap contribution =
      parts.flatMap fun part => part.kept ++ part.lost := by
    rw [← hsegments, List.flatMap_map]
    apply List.flatMap_congr
    intro part _
    exact part.whole
  have hdescribed : ofContent examples renderable content = parts.flatMap Trimmed.kept := by
    rw [ofContent, removeHidden_eq, renderSegments_stripLabels_reduceOption, hkept]
  have hbound : ∀ k, ((parts.drop k).flatMap Trimmed.lost).length ≤
      (fences ((parts.drop k).map Trimmed.segment)).countP Fence.hidden := by
    intro k
    rw [List.map_drop, hsegments]
    have hk := hlost k
    omega
  refine ⟨parts, hsegments, hwhole, hdescribed, hbound, ?_⟩
  intro hvisible
  -- placeholders are no blocks, so nothing is hidden among the segments with placeholders either
  have hnone : (fences (parts.map Trimmed.segment)).countP Fence.hidden = 0 := by
    rw [hsegments, insertPlaceholders, fences_insertPlaceholdersFrom, List.countP_eq_zero]
    intro f hf
    rw [hvisible f hf]
    exact Bool.false_ne_true
  have hnothing : parts.flatMap Trimmed.lost = [] := by
    have hall := hbound 0
    rw [List.drop_zero, hnone, Nat.le_zero, List.length_eq_zero_iff] at hall
    exact hall
  rw [hdescribed, hwhole]
  apply List.flatMap_congr
  intro part hpart
  rw [List.flatMap_eq_nil_iff.1 hnothing part hpart, List.append_nil]

/-- A text without hidden blocks, with a placeholder in front of a labelled one. -/
theorem description_without_hidden_blocks :
    (∀ f ∈ fences (split "a\n```b.html\nx\n```\n"), f.hidden = false) ∧
    ofContent (Example.collect (split "a\n```b.html\nx\n```\n")) ["html"]
        "a\n```b.html\nx\n```\n" =
      (insertPlaceholders (Example.collect (split "a\n```b.html\nx\n```\n")) ["html"]
        (split "a\n```b.html\nx\n```\n")).flatMap contribution := by
  have hvisible : ∀ f ∈ fences (split "a\n```b.html\nx\n```\n"), f.hidden = false := by
    decide +kernel
  obtain ⟨_, -, -, -, -, hsame⟩ := description_loses_only_line_feeds
    (Example.collect (split "a\n```b.html\nx\n```\n")) ["html"] "a\n```b.html\nx\n```\n"
  exact ⟨hvisible, hsame hvisible⟩

/-- Of two hidden blocks in a row the second takes the line feed between them, and the first one that
before both. -/
example : ofContent .empty [] "a\n```hidden\n```\n```hidden\n```\nb" = ofString "a\nb" := by
  decide +kernel

end Description

end ComponentDocs
