import ComponentDocs.Proofs.PlaceholderLine

/-!
# Preparing a text block by block

A text is made ready for rendering block by block (`Preparation`): a block that is shown stays behind
the text before it and a placeholder, under a bare header (`Fence.bare`); a block that is hidden goes
away with an end of the text before it and of its placeholder; the rest of the text stays as it is.
This describes every run on every text (`preparation_ofContent`), and what holds of the blocks and of
the length of the result is derived from it alone.
-/

set_option autoImplicit false

namespace ComponentDocs

open Text

/-! ## Blocks under a bare header -/

namespace Fence

/-- The block as it is shown: a labelled one has its extension for a header, and no label any more. -/
def bare (f : Fence) : Fence :=
  match f.label with
  | none => f
  | some a => { f with header := a.extension, label := none }

theorem bare_of_unlabelled {f : Fence} (h : f.label = none) : f.bare = f := by
  rw [bare, h]

theorem bare_of_labelled {f : Fence} {a : Label} (h : f.label = some a) :
    f.bare = { f with header := a.extension, label := none } := by
  rw [bare, h]

theorem body_bare (f : Fence) : f.bare.body = f.body := by
  cases h : f.label with
  | none => rw [bare_of_unlabelled h]
  | some a => rw [bare_of_labelled h]

theorem closing_bare (f : Fence) : f.bare.closing = f.closing := by
  cases h : f.label with
  | none => rw [bare_of_unlabelled h]
  | some a => rw [bare_of_labelled h]

/-- A bare block has no label. -/
theorem label_bare (f : Fence) : f.bare.label = none := by
  cases h : f.label with
  | none =>
      rw [bare_of_unlabelled h]
      exact h
  | some a => rw [bare_of_labelled h]

/-- The extension that a label gives to a well-formed block is a word. -/
theorem WellFormed.extension {f : Fence} (hf : f.WellFormed) {a : Label} (h : f.label = some a) :
    IsWordText a.extension :=
  (Label.shaped_of_parse? (hf.parse?_header h)).extension

/-- A block that is shown is hidden under its bare header only when that is the flag. -/
theorem hidden_bare_iff {f : Fence} (hwf : f.WellFormed) (hf : f.hidden = false) :
    f.bare.hidden = true ↔ ∃ a, f.label = some a ∧ a.extension = Label.hiddenKey := by
  cases h : f.label with
  | none =>
      rw [bare_of_unlabelled h, hf]
      simp
  | some a =>
      have hword := hasHiddenToken_of_word (hwf.extension h)
      rw [bare_of_labelled h]
      constructor
      · intro hh
        exact ⟨a, rfl, hword.1 hh⟩
      · rintro ⟨b, hb, hext⟩
        obtain rfl := Option.some.inj hb
        exact hword.2 hext

/-- A labelled block becomes shorter. -/
theorem WellFormed.length_render_bare_lt {f : Fence} (hf : f.WellFormed) (h : f.label ≠ none) :
    f.bare.render.length < f.render.length := by
  obtain ⟨a, ha⟩ := Option.ne_none_iff_exists'.1 h
  have hlt := Label.length_extension_lt (hf.parse?_header ha)
  rw [bare_of_labelled ha]
  simp only [render, List.length_append]
  omega

theorem WellFormed.length_render_bare_le {f : Fence} (hf : f.WellFormed) :
    f.bare.render.length ≤ f.render.length := by
  by_cases h : f.label = none
  · rw [bare_of_unlabelled h]
  · exact (hf.length_render_bare_lt h).le

theorem render_eq_mark_append (f : Fence) :
    f.render = fenceMark ++ (f.header ++ f.newline ++ (f.body ++ f.closing)) := by
  simp [render]

/-- A well-formed block stays so under its bare header when its opening line ends in a carriage
return or line feed. -/
theorem WellFormed.bare {f : Fence} (hf : f.WellFormed) (h : f.label ≠ none → f.newline ≠ []) :
    f.bare.WellFormed := by
  cases ha : f.label with
  | none =>
      rw [bare_of_unlabelled ha]
      exact hf
  | some a =>
      have hbreak : f.newline ∈ lineBreaks := by
        have hopening := hf.opening
        have hne : f.newline ≠ [] := h (by simp [ha])
        generalize f.header = header at hopening
        generalize f.newline = newline at hopening hne
        cases hopening with
        | feed _ he => exact he
        | other _ _ _ => exact absurd rfl hne
        | last _ => exact absurd rfl hne
      -- only the header changes, and the new one has no terminator of its own
      rw [bare_of_labelled ha]
      refine
        { opening := .feed (hf.extension ha).solid.unbroken hbreak, ended := ?_,
          whole := hf.whole, body_fresh := hf.body_fresh, body_open := hf.body_open,
          closing := hf.closing, closes := hf.closes,
          label_eq := (Label.parse?_eq_none_of_word (hf.extension ha)).symm }
      rw [endsLine_append (h (by simp [ha]))]
      exact endsLine_lineBreak hbreak

/-- Conversely, under a bare header only a carriage return or line feed ends the opening line. -/
theorem newline_ne_nil_of_bare {f : Fence} (hf : f.WellFormed) (hbare : f.bare.WellFormed)
    (h : f.label ≠ none) : f.newline ≠ [] := by
  obtain ⟨a, ha⟩ := Option.ne_none_iff_exists'.1 h
  have hended := hbare.ended
  rw [bare_of_labelled ha] at hended
  intro hnil
  have hword : endsLine a.extension = false := (hf.extension ha).solid.unbroken.endsLine_eq_false
  simp only [hnil, List.append_nil, hword] at hended
  exact absurd hended (by simp)

end Fence

namespace Description

/-! ## Block by block -/

/-- How a text with the given blocks becomes another. Of a hidden block nothing is kept, and of the
text and the placeholder before it a beginning. -/
inductive Preparation : Text → List Fence → Text → Prop
  | rest {t : Text} : Segment.Stray (lines t) → Preparation t [] t
  | dropped {q g kept cut t u : Text} {f : Fence} {fs : List Fence} : Quiet q → isFresh q = true →
      f.Tagged g → q ++ g = kept ++ cut → f.WellFormed → f.Meets t → f.hidden = true →
      Preparation t fs u → Preparation (q ++ (f.render ++ t)) (f :: fs) (kept ++ u)
  | shown {q g t u : Text} {f : Fence} {fs : List Fence} : Quiet q → isFresh q = true →
      f.Tagged g → f.WellFormed → f.Meets t → f.hidden = false →
      Preparation t fs u →
      Preparation (q ++ (f.render ++ t)) (f :: fs) (q ++ (g ++ (f.bare.render ++ u)))

/-! ## The segments kept so far -/

/-- The text of segments, last first, with the labels taken off. -/
def keptText (kept : List Segment) : Text :=
  renderSegments (stripLabels kept.reverse)

theorem keptText_cons (s : Segment) (kept : List Segment) :
    keptText (s :: kept) = keptText kept ++ (stripLabel s).render := by
  simp [keptText, stripLabels, renderSegments]

theorem render_stripLabel_fence (f : Fence) : (stripLabel (.fence f)).render = f.bare.render := by
  rw [stripLabel, Fence.bare]
  cases f.label with
  | none => rfl
  | some a => rfl

/-- Plain text on top of other segments, last text first. -/
def withTexts (texts : List Text) (base : List Segment) : List Segment :=
  texts.map .text ++ base

theorem keptText_withTexts (texts : List Text) (base : List Segment) :
    keptText (withTexts texts base) = keptText base ++ Segment.passedText texts := by
  induction texts with
  | nil => simp [withTexts, Segment.passedText]
  | cons t texts ih =>
      rw [Segment.passedText_cons, ← List.append_assoc, ← ih]
      exact keptText_cons (.text t) (withTexts texts base)

/-- Taking off a line feed leaves a beginning of the text on top. What lies below stays as it is if
it has no line feed to lose. -/
theorem dropFinalFeed_withTexts {base : List Segment} (hbase : dropFinalFeed base = base)
    (texts : List Text) :
    ∃ texts' cut, dropFinalFeed (withTexts texts base) = withTexts texts' base ∧
      Segment.passedText texts = Segment.passedText texts' ++ cut := by
  cases texts with
  | nil => exact ⟨[], [], hbase, rfl⟩
  | cons t texts =>
      have hcons : withTexts (t :: texts) base = .text t :: withTexts texts base := rfl
      rw [hcons, dropFinalFeed, Segment.passedText_cons]
      split
      case isFalse => exact ⟨t :: texts, [], rfl, by rw [Segment.passedText_cons, List.append_nil]⟩
      case isTrue hlast =>
          obtain ⟨line, rfl⟩ := List.getLast?_eq_some_iff.1 hlast
          rw [List.dropLast_concat]
          split
          case isTrue => exact ⟨texts, _, rfl, rfl⟩
          case isFalse =>
              refine ⟨line :: texts, [.char '\n'], rfl, ?_⟩
              rw [Segment.passedText_cons, List.append_assoc]

theorem foldl_keepVisible_plain (t : Text) (texts : List Text) (base : List Segment) :
    ∃ texts', (Segment.plain t).foldl keepVisible (withTexts texts base) = withTexts texts' base ∧
      Segment.passedText texts' = Segment.passedText texts ++ t := by
  cases t with
  | nil => exact ⟨texts, rfl, by rw [List.append_nil]⟩
  | cons c rest => exact ⟨(c :: rest) :: texts, rfl, Segment.passedText_cons _ _⟩

/-! ## Every run is such a preparation -/

section Run

variable {examples : OrderedMap Text Example} (renderable : List Text)

/-- What is made of the segments of a text, on top of plain texts of which an end may be lost to
hidden blocks. -/
theorem preparation_of_layout (hexamples : Example.AllShaped examples) {t : Text}
    {segments : List Segment} (h : Segment.Layout t segments) (tagged texts : List Text)
    (base : List Segment) (hbase : dropFinalFeed base = base) :
    ∃ kept cut u, Preparation t (Segment.fences segments) u ∧
      Segment.passedText texts = kept ++ cut ∧
      keptText ((insertPlaceholdersFrom examples renderable tagged segments).foldl keepVisible
        (withTexts texts base)) = keptText base ++ (kept ++ u) := by
  -- by induction on the layout: `base` ends in the last block that is shown, and `texts` is the plain
  -- text since then, the only part that later hidden blocks can take from
  induction h generalizing tagged texts base with
  | @rest t hstray =>
      have hplain := insertPlaceholdersFrom_plain_append renderable examples tagged t []
      rw [List.append_nil] at hplain
      obtain ⟨texts', hfold, htexts⟩ := foldl_keepVisible_plain t texts base
      refine ⟨Segment.passedText texts, [], t, ?_, by rw [List.append_nil], ?_⟩
      · rw [Segment.fences_plain]
        exact .rest hstray
      · rw [hplain, insertPlaceholdersFrom, List.append_nil, hfold, keptText_withTexts, htexts]
  | @block q t f segments hq hfresh hf hm _ ih =>
      obtain ⟨g, tagged', hg, hinsert⟩ :=
        insertPlaceholdersFrom_block renderable hexamples tagged q f segments
      obtain ⟨texts₁, hfold₁, htexts₁⟩ := foldl_keepVisible_plain q texts base
      obtain ⟨texts₂, hfold₂, htexts₂⟩ := foldl_keepVisible_plain g texts₁ base
      rw [htexts₁, List.append_assoc] at htexts₂
      rw [hinsert, List.foldl_append, hfold₁, List.foldl_append, hfold₂, List.foldl_cons,
        Segment.fences_block]
      cases hh : f.hidden with
      | false =>
          -- the block becomes the base, so that nothing before it can be lost any more
          have hkeep : keepVisible (withTexts texts₂ base) (.fence f) =
              withTexts [] (.fence f :: withTexts texts₂ base) := by
            rw [keepVisible, hh]
            rfl
          obtain ⟨kept, cut, u, hu, hkc, hrun⟩ :=
            ih tagged' [] (.fence f :: withTexts texts₂ base) rfl
          obtain ⟨rfl, rfl⟩ : kept = [] ∧ cut = [] := by
            rw [← List.append_eq_nil_iff]
            exact hkc.symm
          refine ⟨Segment.passedText texts, [], _, .shown hq hfresh hg hf hm hh hu,
            (List.append_nil _).symm, ?_⟩
          rw [hkeep, hrun, keptText_cons, render_stripLabel_fence, keptText_withTexts, htexts₂]
          simp only [List.append_assoc, List.nil_append]
      | true =>
          obtain ⟨texts₃, lost, hdrop, htexts₃⟩ := dropFinalFeed_withTexts hbase texts₂
          have hkeep : keepVisible (withTexts texts₂ base) (.fence f) = withTexts texts₃ base := by
            rw [keepVisible, hh]
            exact hdrop
          obtain ⟨kept, cut, u, hu, hkc, hrun⟩ := ih tagged' texts₃ base hbase
          have hall : Segment.passedText texts ++ (q ++ g) = kept ++ (cut ++ lost) := by
            rw [← htexts₂, htexts₃, hkc, List.append_assoc]
          rw [hkeep, hrun]
          -- what is kept reaches into the text right before this block, or ends earlier
          rcases List.append_eq_append_iff.1 hall with ⟨kept', rfl, hcut⟩ | ⟨cut', htexts, -⟩
          · refine ⟨Segment.passedText texts, [], _, .dropped hq hfresh hg hcut hf hm hh hu,
              (List.append_nil _).symm, ?_⟩
            rw [List.append_assoc]
          · exact ⟨kept, cut', _, .dropped hq hfresh hg (List.nil_append _).symm hf hm hh hu,
              htexts, rfl⟩

/-- A text is made ready for rendering block by block. -/
theorem preparation_ofContent (hexamples : Example.AllShaped examples) (content : Text) :
    Preparation content (Segment.fences (Segment.split content))
      (ofContent examples renderable content) := by
  obtain ⟨kept, cut, u, hu, hkc, hrun⟩ := preparation_of_layout renderable hexamples
    (Segment.layout_split content) [] [] [] rfl
  obtain ⟨rfl, -⟩ : kept = [] ∧ cut = [] := by
    rw [← List.append_eq_nil_iff]
    exact hkc.symm
  have heq : ofContent examples renderable content = u := hrun
  rw [heq]
  exact hu

end Run

end Description

end ComponentDocs
