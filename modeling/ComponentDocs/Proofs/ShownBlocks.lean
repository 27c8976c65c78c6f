import ComponentDocs.Proofs.Preparation

/-!
# The blocks that a description shows

A description is read again by whoever renders it. The blocks that are found in it are those of the
text it was made of that are not hidden, in order, with their bodies and closing lines and under bare
headers (`Preparation.fences_split`), because a block that is taken out leaves the end of its closing
line behind (`Preparation.startsBreak_of_startsBreak`).

This rests on two things. Where the closing line of a hidden block ends in a terminator of its own
rather than in a carriage return or line feed, the text before it runs into the text behind it; and
where the opening line of a labelled block does so, its terminator goes away with the label and the
body runs into the header. Texts without the first kind of line show their blocks exactly when they
have none of the second kind (`blocks_shown_iff_opening_lines_end`).
-/

set_option autoImplicit false

namespace ComponentDocs

open Text

namespace Description

/-! ## Reading a prepared text -/

namespace Preparation

/-- A text that begins with the end of a line does not begin with a block. -/
theorem ne_nil_of_startsBreak {q t : Text} {f : Fence}
    (h : startsBreak (q ++ (f.render ++ t)) = true) : q ≠ [] := by
  rintro rfl
  rw [List.nil_append, Fence.render_eq_mark_append, List.append_assoc] at h
  exact absurd h (by simp [startsBreak, fenceMark, ofString, isReturnOrFeed])

/-- A text that is empty or begins with a carriage return or line feed stays so, unless the closing
line of a hidden block ends in another terminator. -/
theorem startsBreak_of_startsBreak {t u : Text} {fs : List Fence} (h : Preparation t fs u)
    (hclosing : ∀ f ∈ fs, f.hidden = true → endsLine f.closing = false)
    (ht : startsBreak t = true) : startsBreak u = true := by
  induction h with
  | rest _ => exact ht
  | @dropped q g kept cut t u f fs _ _ _ hkept _ hm hh _ ih =>
      have hq : q ≠ [] := ne_nil_of_startsBreak ht
      have hbreak := hm.startsBreak_eq_true (hclosing f List.mem_cons_self hh)
      by_cases hnil : kept = []
      · -- the whole text before the block is gone, and its closing line has left its end behind
        rw [hnil, List.nil_append]
        exact ih (fun f' hf' => hclosing f' (List.mem_cons_of_mem f hf')) hbreak
      · rw [startsBreak_append hq] at ht
        rw [startsBreak_append hnil, ← startsBreak_append hnil (b := cut), ← hkept,
          startsBreak_append hq]
        exact ht
  | @shown q g t u f fs _ _ _ _ _ _ _ _ =>
      have hq : q ≠ [] := ne_nil_of_startsBreak ht
      rw [startsBreak_append hq] at ht ⊢
      exact ht

/-- The blocks of a prepared text are those that are shown, under bare headers. -/
theorem fences_split {t u : Text} {fs : List Fence} (h : Preparation t fs u)
    (hclosing : ∀ f ∈ fs, f.hidden = true → endsLine f.closing = false)
    (hopening : ∀ f ∈ fs, f.hidden = false → f.label ≠ none → f.newline ≠ []) :
    Segment.fences (Segment.split u) = (fs.filter fun f => !f.hidden).map Fence.bare := by
  induction h with
  | rest hstray =>
      rw [Segment.split_of_stray hstray, Segment.fences_plain]
      rfl
  | @dropped q g kept cut t u f fs hq hfresh hg hkept _ hm hh hrest ih =>
      have hclosing' : ∀ f' ∈ fs, f'.hidden = true → endsLine f'.closing = false :=
        fun f' hf' => hclosing f' (List.mem_cons_of_mem f hf')
      have hbreak := hm.startsBreak_eq_true (hclosing f List.mem_cons_self hh)
      have hquiet : Quiet (kept ++ cut) := hkept ▸ hg.quiet_append hq hfresh
      rw [List.filter_cons_of_neg (by simp [hh]), ← ih hclosing'
        fun f' hf' => hopening f' (List.mem_cons_of_mem f hf')]
      exact Segment.fences_split_append hquiet.of_append
        (Or.inr (hrest.startsBreak_of_startsBreak hclosing' hbreak))
  | @shown q g t u f fs hq hfresh hg hf hm hh hrest ih =>
      have hclosing' : ∀ f' ∈ fs, f'.hidden = true → endsLine f'.closing = false :=
        fun f' hf' => hclosing f' (List.mem_cons_of_mem f hf')
      have hquiet : Quiet (q ++ g) := hg.quiet_append hq hfresh
      have hstart : isFresh (q ++ g) = true := isFresh_append_of_isFresh hfresh hg.isFresh_eq_true
      -- the bare block meets what follows as the labelled one did, since its closing line is the same
      have hmeets : f.bare.Meets u := by
        rw [Fence.Meets, Fence.closing_bare]
        exact hm.imp_right (hrest.startsBreak_of_startsBreak hclosing')
      have hbare := hf.bare (hopening f List.mem_cons_self hh)
      rw [← List.append_assoc, Segment.fences_split_append hquiet (Or.inl hstart),
        Segment.split_render_append hbare hmeets, Segment.fences_fence_cons,
        List.filter_cons_of_pos (by simp [hh]), List.map_cons, ih hclosing'
          fun f' hf' => hopening f' (List.mem_cons_of_mem f hf')]

end Preparation

open Segment in
/-- Where no closing line of a hidden block ends in a terminator other than carriage return and line
feed, the blocks of a description are those of the text that are shown, with their bodies and closing
lines and under bare headers, exactly when the opening line of every labelled one among them ends in
these two. No block of the description is labelled then. -/
theorem blocks_shown_iff_opening_lines_end (content : Text) (renderable : List Text)
    (hclosing : ∀ f ∈ fences (split content), f.hidden = true → endsLine f.closing = false) :
    (fences (split (ofContent (Example.collect (split content)) renderable content)) =
        ((fences (split content)).filter fun f => !f.hidden).map Fence.bare ↔
      ∀ f ∈ fences (split content), f.hidden = false → f.label ≠ none → f.newline ≠ []) ∧
    ((∀ f ∈ fences (split content), f.hidden = false → f.label ≠ none → f.newline ≠ []) →
      ∀ f ∈ fences (split (ofContent (Example.collect (split content)) renderable content)),
        f.label = none) := by
  have hexamples := Example.allShaped_collect_split content
  have hprepared := preparation_ofContent renderable hexamples content
  refine ⟨⟨?_, hprepared.fences_split hclosing⟩, ?_⟩
  · intro heq f hmem hh hlabel
    -- a block that is found under a bare header is well-formed, so its opening line has its end
    have hbare : f.bare ∈ fences
        (split (ofContent (Example.collect (split content)) renderable content)) := by
      rw [heq]
      exact List.mem_map_of_mem (List.mem_filter.2 ⟨hmem, by simp [hh]⟩)
    exact Fence.newline_ne_nil_of_bare ((layout_split _).wellFormed _ hmem)
      ((layout_split _).wellFormed _ hbare) hlabel
  · intro hopening f hmem
    rw [hprepared.fences_split hclosing hopening] at hmem
    obtain ⟨f', -, rfl⟩ := List.mem_map.1 hmem
    exact f'.label_bare

open Segment in
/-- The blocks of a text with a hidden one and a labelled one that is shown. -/
theorem blocks_shown_of_hidden_and_labelled :
    (∃ f ∈ fences (split "```a.js hidden\nx\n```\n```a.html\ny\n```\n"),
      f.hidden = true ∧ endsLine f.closing = false) ∧
    fences (split (ofContent
        (Example.collect (split "```a.js hidden\nx\n```\n```a.html\ny\n```\n")) [("html" : Text)]
        "```a.js hidden\nx\n```\n```a.html\ny\n```\n")) =
      [⟨"html", "\n", "y\n", "```", none⟩] :=
  ⟨by decide, (blocks_shown_iff_opening_lines_end _ _ (by decide)).1.2 (by decide)⟩

open Segment in
/-- A vertical tabulator that ends the opening line of a labelled block lets a label into the
description, and one that ends the closing line of a hidden block takes the block behind it away. -/
theorem blocks_not_shown_behind_vertical_tabulator :
    (fences (split (ofContent (Example.collect (split "```a.js\x0b.html\nx\n```\n")) []
        "```a.js\x0b.html\nx\n```\n")) =
      [⟨"js.html", "\n", "x\n", "```", some ⟨"js", "html", none, .empty⟩⟩] ∧
      ((fences (split "```a.js\x0b.html\nx\n```\n")).filter fun f => !f.hidden).map Fence.bare =
        [⟨"js", [], ".html\nx\n", "```", none⟩]) ∧
    fences (split (ofContent (Example.collect (split "t\n```hidden\n```\x0b```js\n```\n")) []
        "t\n```hidden\n```\x0b```js\n```\n")) = [] ∧
      ((fences (split "t\n```hidden\n```\x0b```js\n```\n")).filter fun f => !f.hidden).map
        Fence.bare = [⟨"js", "\n", [], "```", none⟩] := by
  decide

end Description

end ComponentDocs
