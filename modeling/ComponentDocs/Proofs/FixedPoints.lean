import ComponentDocs.Proofs.ShownBlocks

/-!
# Texts that are ready for rendering

A text that has neither a label nor a hidden block is ready as it is, and no other text is
(`ofContent_eq_self_iff`). The first is plain; the second has to exclude that what one block loses is
made up for by the placeholders of others. It holds because preparing a text never puts anything in
front of it without changing it (`Preparation.eq_nil_of_eq_append`).

It follows when a second pass changes nothing: whenever the first has left neither labels nor hidden
blocks behind, and, for texts in which the terminators of opening and closing lines are not lost with
their blocks, whenever no block that is shown has the flag of hidden blocks for an extension.
-/

set_option autoImplicit false

namespace ComponentDocs

open Text

/-! ## What a placeholder cannot hold -/

/-- An ending of a line that is not empty has the last character of the line. -/
theorem exists_eq_concat {line w y : Text} {c : CodePoint} (h : line ++ [c] = w ++ y) (hy : y ≠ []) :
    ∃ x, line = w ++ x ∧ y = x ++ [c] := by
  have hlast : w ++ y = (w ++ y.dropLast) ++ [y.getLast hy] := by
    rw [List.append_assoc, List.dropLast_concat_getLast hy]
  obtain ⟨hline, hc⟩ := List.append_inj' (h.trans hlast) rfl
  obtain rfl : c = y.getLast hy := by simpa using hc
  exact ⟨y.dropLast, hline, (List.dropLast_concat_getLast hy).symm⟩

/-- In quiet text the mark of a fence does not stand behind a part that ends a line. -/
theorem Quiet.ne_append_mark {q g : Text} (h : Quiet (q ++ g)) (hne : q ≠ [])
    (hfresh : isFresh q = true) (w b : Text) : q ++ g ≠ (w ++ q) ++ (fenceMark ++ b) := by
  intro heq
  have hno := h _ _ heq
  rw [isFresh_append hne, hfresh] at hno
  exact absurd hno (by simp)

namespace Fence

/-- The text in front of a block, with its placeholder, does not hold that text and the block. -/
theorem Tagged.append_ne {f : Fence} {q g : Text} (hg : f.Tagged g) (hq : Quiet q)
    (hfresh : isFresh q = true) (hf : f.WellFormed) (w x : Text) :
    q ++ g ≠ w ++ (q ++ (f.render ++ x)) := by
  intro heq
  by_cases hnil : q = []
  · subst hnil
    rw [List.nil_append, List.nil_append] at heq
    cases hg with
    | bare => simp [render, fenceMark, ofString] at heq
    | @line line _ hunb =>
        -- the block has a terminator before its closing line, and the placeholder only its last one
        have hsplit : (.char '<' :: line) ++ [.char '\n'] =
            (w ++ (fenceMark ++ (f.header ++ f.newline))) ++ (f.body ++ f.closing ++ x) := by
          rw [heq]
          simp [render]
        obtain ⟨x, hline, -⟩ := exists_eq_concat hsplit (by simp [hf.closing_ne_nil])
        have hbracket : Unbroken (.char '<' :: line) := unbroken_bracket hunb
        rw [hline] at hbracket
        have hended := hf.ended
        rw [hbracket.of_append_left.of_append_right.of_append_right.endsLine_eq_false] at hended
        exact absurd hended (by simp)
  · refine (hg.quiet_append hq hfresh).ne_append_mark hnil hfresh w
      (f.header ++ f.newline ++ (f.body ++ f.closing) ++ x) ?_
    rw [heq, render_eq_mark_append]
    simp only [List.append_assoc]

/-- A labelled block has under its bare header an opening line that closes no fence. -/
theorem closes_opening_bare {f : Fence} (hf : f.WellFormed) (hbare : f.bare.WellFormed)
    (h : f.label ≠ none) :
    closes (fenceMark ++ (f.bare.header ++ f.bare.newline)) = false := by
  obtain ⟨a, ha⟩ := Option.ne_none_iff_exists'.1 h
  have hword := hf.extension ha
  rw [← List.append_assoc, closes_append hbare.opening.isBlank_right, bare_of_labelled ha]
  show closes (fenceMark ++ a.extension) = false
  have htrim : trimRight isBlank (fenceMark ++ a.extension ++ []) = fenceMark ++ a.extension := by
    refine trimRight_append (by simp) fun c hc => hword.solid c ?_
    rw [List.getLast?_append, List.getLast?_eq_some_getLast hword.ne_nil] at hc
    obtain rfl : a.extension.getLast hword.ne_nil = c := by simpa using hc
    exact List.getLast_mem hword.ne_nil
  rw [List.append_nil] at htrim
  rw [closes, htrim]
  simpa using hword.ne_nil

/-- Lines that close no fence, with one more in front, still have none that does in place of the first
behind them. -/
theorem closes_eq_false_of_shift {body more rest : List Text} {line closing : Text}
    (h : body ++ closing :: rest = line :: (body ++ more)) (hline : closes line = false)
    (hbody : ∀ l ∈ body, closes l = false) : closes closing = false := by
  induction body generalizing line with
  | nil =>
      obtain ⟨rfl, -⟩ := List.cons.inj h
      exact hline
  | cons l body ih =>
      obtain ⟨rfl, hrest⟩ := List.cons.inj h
      exact ih hrest hline fun l' hl' => hbody l' (List.mem_cons_of_mem l hl')

/-- A line in front of a bare block does not make the labelled one of it: up to the closing line there
would be one line too many. -/
theorem render_append_ne {f : Fence} (hf : f.WellFormed) (h : f.label ≠ none) {t : Text}
    (hm : f.Meets t) {line : Text} (hline : Unbroken line) (u : Text) :
    f.render ++ t ≠ (line ++ [.char '\n']) ++ (f.bare.render ++ u) := by
  intro heq
  have hfeed : Boundary (line ++ [.char '\n']) (f.bare.render ++ u) :=
    ⟨by rw [isFresh_append (by simp)]; rfl, by simp⟩
  have hlines := congrArg lines heq
  rw [hf.lines_render_append, lines_append hfeed,
    lines_unbroken_append hline (lines_singleton _)] at hlines
  obtain ⟨hopening, hrest⟩ := List.cons.inj hlines
  have hnewline : f.newline ≠ [] := by
    intro hnil
    have hended := hf.ended
    have hlast := congrArg List.getLast? hopening
    rw [hnil, List.append_nil] at hended hlast
    obtain ⟨c, hc, -⟩ := exists_of_endsLine hended
    obtain rfl : c = .char '\n' := by simpa [List.getLast?_append, hc] using hlast
    exact absurd (hf.opening.getLast?_left _ hc) (by decide)
  have hbare := hf.bare fun _ => hnewline
  obtain ⟨e, rest, hclosing, hp, -⟩ := hf.lines_closing hm
  rw [hbare.lines_render_append, hclosing, body_bare] at hrest
  have hno := closes_eq_false_of_shift hrest (closes_opening_bare hf hbare h) hf.body_open
  rw [closes_append hp.isBlank_right, hf.closes] at hno
  exact absurd hno (by simp)

/-- Nor does a placeholder with the text before it: no line of theirs but the last can be the opening
line, and that is excluded by the count of lines. -/
theorem append_bare_ne {f : Fence} (hf : f.WellFormed) (h : f.label ≠ none) {q line : Text}
    (hq : Quiet q) (hfresh : isFresh q = true) (hline : Unbroken line) {z u : Text}
    (hm : f.Meets (z ++ u)) (w : Text) :
    (q ++ ((.char '<' :: line) ++ [.char '\n'])) ++ f.bare.render ≠ (w ++ q) ++ (f.render ++ z) := by
  intro heq
  have hlt := hf.length_render_bare_lt h
  -- the block is longer than the bare one, so that it begins before that does
  obtain ⟨y, -, hy⟩ | ⟨y, hy, hrender⟩ := List.append_eq_append_iff.1 heq
  · have hlen := congrArg List.length hy
    simp only [List.length_append] at hlen
    omega
  · have hyne : y ≠ [] := by
      rintro rfl
      have hlen := congrArg List.length hrender
      simp only [List.length_append, List.nil_append] at hlen
      omega
    have hlast : (q ++ (.char '<' :: line)) ++ [.char '\n'] = (w ++ q) ++ y := by
      rw [← hy, List.append_assoc]
    obtain ⟨x, hx, rfl⟩ := exists_eq_concat hlast hyne
    by_cases hnil : q = []
    · -- its opening line is an ending of the placeholder
      subst hnil
      have hbracket : Unbroken (.char '<' :: line) := unbroken_bracket hline
      rw [List.nil_append] at hx
      rw [hx] at hbracket
      refine render_append_ne hf h hm hbracket.of_append_right u ?_
      rw [← List.append_assoc, hrender, List.append_assoc]
    · -- its mark stands in the text or the placeholder at the start of a line, as it has no line feed
      rw [f.render_eq_mark_append, List.append_assoc] at hrender
      obtain ⟨m, hmark, -⟩ | ⟨m, hmark, -⟩ := List.append_eq_append_iff.1 hrender
      · rw [hmark] at hy
        exact ((Tagged.line h hline).quiet_append hq hfresh).ne_append_mark hnil hfresh w m hy
      · have hfeed : isTerminator (.char '\n') = false :=
          fenceMark_unbroken _ (by rw [hmark]; simp)
        exact absurd hfeed (by decide)

/-- What a block and the text before it are made into holds these two at its very beginning only. -/
theorem Tagged.eq_nil_of_append_bare {f : Fence} {q g : Text} (hg : f.Tagged g) (hq : Quiet q)
    (hfresh : isFresh q = true) (hf : f.WellFormed) {w z u : Text} (hm : f.Meets (z ++ u))
    (heq : q ++ (g ++ f.bare.render) = w ++ (q ++ (f.render ++ z))) : w = [] := by
  cases hg with
  | bare =>
      have hle := hf.length_render_bare_le
      have hlen := congrArg List.length heq
      simp only [List.nil_append, List.length_append] at hlen
      exact List.eq_nil_of_length_eq_zero (by omega)
  | line h hline =>
      refine absurd ?_ (append_bare_ne hf h hq hfresh hline hm w)
      simpa only [List.append_assoc] using heq

end Fence

/-! ## Preparation does not push a text back -/

/-- Of two endings of one text the second is the longer one, unless the first is the second with
something in front. -/
theorem exists_ending {x y t u : Text} (h : x ++ u = y ++ t) (hu : ∀ w, u = w ++ t → w = []) :
    ∃ z, x = y ++ z ∧ t = z ++ u := by
  rcases List.append_eq_append_iff.1 h with ⟨z, rfl, rfl⟩ | ⟨z, rfl, rfl⟩
  · obtain rfl := hu z rfl
    exact ⟨[], by simp, by simp⟩
  · exact ⟨z, rfl, rfl⟩

namespace Description

namespace Preparation

/-- The blocks are well-formed. -/
theorem wellFormed {t u : Text} {fs : List Fence} (h : Preparation t fs u) :
    ∀ f ∈ fs, f.WellFormed := by
  induction h with
  | rest _ => simp
  | dropped _ _ _ _ hf _ _ _ ih => exact List.forall_mem_cons.2 ⟨hf, ih⟩
  | shown _ _ _ hf _ _ _ ih => exact List.forall_mem_cons.2 ⟨hf, ih⟩

/-- A prepared text does not end in the text it was made of, with something in front. -/
theorem eq_nil_of_eq_append {t u w : Text} {fs : List Fence} (h : Preparation t fs u)
    (heq : u = w ++ t) : w = [] := by
  -- the text behind the block is not pushed back, so that the block itself must stand again in what
  -- was made of it and of the text before it
  induction h generalizing w with
  | rest _ => exact List.self_eq_append_left.1 heq
  | @dropped q g kept cut t u f fs hq hfresh hg hkept hf _ _ _ ih =>
      have hsplit : kept ++ u = (w ++ (q ++ f.render)) ++ t := by
        rw [heq]
        simp only [List.append_assoc]
      obtain ⟨z, rfl, -⟩ := exists_ending hsplit fun w => ih
      refine absurd ?_ (hg.append_ne hq hfresh hf w (z ++ cut))
      rw [hkept]
      simp only [List.append_assoc]
  | @shown q g t u f fs hq hfresh hg hf hm _ _ ih =>
      have hsplit : (q ++ (g ++ f.bare.render)) ++ u = (w ++ (q ++ f.render)) ++ t := by
        simpa only [List.append_assoc] using heq
      obtain ⟨z, hz, rfl⟩ := exists_ending hsplit fun w => ih
      refine hg.eq_nil_of_append_bare hq hfresh hf hm ?_
      rw [hz]
      simp only [List.append_assoc]

/-- Preparation changes nothing exactly when no block is labelled or hidden. -/
theorem eq_self_iff {t u : Text} {fs : List Fence} (h : Preparation t fs u) :
    u = t ↔ ∀ f ∈ fs, f.label = none ∧ f.hidden = false := by
  induction h with
  | rest _ => simp
  | @dropped q g kept cut t u f fs hq hfresh hg hkept hf _ hh hrest _ =>
      constructor
      · intro heq
        have hsplit : kept ++ u = (q ++ f.render) ++ t := by
          rw [heq, List.append_assoc]
        obtain ⟨z, rfl, -⟩ := exists_ending hsplit fun w => hrest.eq_nil_of_eq_append
        refine absurd ?_ (hg.append_ne hq hfresh hf [] (z ++ cut))
        rw [hkept]
        simp only [List.append_assoc, List.nil_append]
      · intro hall
        have hvisible := (hall f List.mem_cons_self).2
        rw [hh] at hvisible
        cases hvisible
  | @shown q g t u f fs hq hfresh hg hf hm hh hrest ih =>
      constructor
      · intro heq
        have hsplit : (g ++ f.bare.render) ++ u = f.render ++ t := by
          rw [List.append_assoc]
          exact List.append_cancel_left heq
        obtain ⟨z, hz, rfl⟩ := exists_ending hsplit fun w => hrest.eq_nil_of_eq_append
        cases hg with
        | line _ _ =>
            -- the placeholder begins with an angle bracket where the block begins with its mark
            simp [Fence.render, fenceMark, ofString] at hz
        | bare =>
            have hlabel : f.label = none := by
              refine Decidable.byContradiction fun hne => ?_
              have hlt := hf.length_render_bare_lt hne
              have hlen := congrArg List.length hz
              simp only [List.nil_append, List.length_append] at hlen
              omega
            rw [Fence.bare_of_unlabelled hlabel, List.nil_append, List.self_eq_append_right] at hz
            subst hz
            intro f' hmem
            rcases List.mem_cons.1 hmem with rfl | hmem
            · exact ⟨hlabel, hh⟩
            · exact ih.1 rfl f' hmem
      · intro hall
        have hlabel := (hall f List.mem_cons_self).1
        rw [ih.2 fun f' hf' => hall f' (List.mem_cons_of_mem f hf'), Fence.bare_of_unlabelled hlabel]
        cases hg with
        | bare => rfl
        | line hne _ => exact absurd hlabel hne

end Preparation

open Segment

/-- A text is ready for rendering exactly when no block of it is labelled or hidden. -/
theorem ofContent_eq_self_iff {examples : OrderedMap Text Example} (renderable : List Text)
    (hexamples : Example.AllShaped examples) (t : Text) :
    ofContent examples renderable t = t ↔
      ∀ f ∈ fences (split t), f.label = none ∧ f.hidden = false :=
  (preparation_ofContent renderable hexamples t).eq_self_iff

/-! ## A second pass -/

/-- Blocks that are shown are ready under their bare headers unless one of these is the flag. -/
theorem ready_bare_iff {fs : List Fence} (hfs : ∀ f ∈ fs, f.WellFormed) :
    (∀ f ∈ (fs.filter fun f => !f.hidden).map Fence.bare, f.label = none ∧ f.hidden = false) ↔
      ∀ f ∈ fs, f.hidden = false → ∀ a, f.label = some a → a.extension ≠ Label.hiddenKey := by
  constructor
  · intro hready f hmem hh a ha hext
    have hbare : f.bare ∈ (fs.filter fun f => !f.hidden).map Fence.bare :=
      List.mem_map_of_mem (List.mem_filter.2 ⟨hmem, by simp [hh]⟩)
    have hhidden := (Fence.hidden_bare_iff (hfs f hmem) hh).2 ⟨a, ha, hext⟩
    rw [(hready f.bare hbare).2] at hhidden
    cases hhidden
  · intro hext g hmem
    obtain ⟨f, hf, rfl⟩ := List.mem_map.1 hmem
    obtain ⟨hmem, hvisible⟩ := List.mem_filter.1 hf
    have hh : f.hidden = false := by simpa using hvisible
    refine ⟨f.label_bare, Bool.eq_false_iff.2 fun hhidden => ?_⟩
    obtain ⟨a, ha, heq⟩ := (Fence.hidden_bare_iff (hfs f hmem) hh).1 hhidden
    exact hext f hmem hh a ha heq

/-- A second pass over a text in which no terminator is lost with its block. -/
theorem Preparation.ofContent_eq_self_iff {examples : OrderedMap Text Example}
    (renderable : List Text) (hexamples : Example.AllShaped examples) {t u : Text}
    {fs : List Fence} (h : Preparation t fs u)
    (hclosing : ∀ f ∈ fs, f.hidden = true → endsLine f.closing = false)
    (hopening : ∀ f ∈ fs, f.hidden = false → f.label ≠ none → f.newline ≠ []) :
    ofContent examples renderable u = u ↔
      ∀ f ∈ fs, f.hidden = false → ∀ a, f.label = some a → a.extension ≠ Label.hiddenKey := by
  rw [Description.ofContent_eq_self_iff renderable hexamples, h.fences_split hclosing hopening]
  exact ready_bare_iff h.wellFormed

/-- A second pass changes nothing exactly when the first has left no block that is labelled or hidden.
Where neither the closing line of a hidden block nor the opening line of a labelled one that is shown
ends in a terminator other than carriage return and line feed, this is so exactly when none of the
latter has the flag of hidden blocks for an extension. -/
theorem second_pass_changes_nothing_iff (content : Text) (renderable : List Text) :
    (ofContent (Example.collect (split content)) renderable
          (ofContent (Example.collect (split content)) renderable content) =
        ofContent (Example.collect (split content)) renderable content ↔
      ∀ f ∈ fences (split (ofContent (Example.collect (split content)) renderable content)),
        f.label = none ∧ f.hidden = false) ∧
    ((∀ f ∈ fences (split content), f.hidden = true → endsLine f.closing = false) →
      (∀ f ∈ fences (split content), f.hidden = false → f.label ≠ none → f.newline ≠ []) →
        (ofContent (Example.collect (split content)) renderable
              (ofContent (Example.collect (split content)) renderable content) =
            ofContent (Example.collect (split content)) renderable content ↔
          ∀ f ∈ fences (split content), f.hidden = false →
            ∀ a, f.label = some a → a.extension ≠ Label.hiddenKey)) := by
  have hexamples := Example.allShaped_collect_split content
  have hprepared := preparation_ofContent renderable hexamples content
  constructor
  · exact ofContent_eq_self_iff renderable hexamples _
  · intro hclosing hopening
    exact hprepared.ofContent_eq_self_iff renderable hexamples hclosing hopening

/-- A text with a hidden block and a labelled one whose extension is not the flag. -/
theorem second_pass_behind_hidden_and_labelled :
    ofContent (Example.collect (split "```a.js hidden\nx\n```\n```a.html\ny\n```\n"))
        [("html" : Text)] (ofContent (Example.collect (split "```a.js hidden\nx\n```\n```a.html\ny\n```\n"))
          [("html" : Text)] "```a.js hidden\nx\n```\n```a.html\ny\n```\n") =
      ofContent (Example.collect (split "```a.js hidden\nx\n```\n```a.html\ny\n```\n"))
        [("html" : Text)] "```a.js hidden\nx\n```\n```a.html\ny\n```\n" :=
  ((second_pass_changes_nothing_iff _ _).2 (by decide) (by decide)).2 (by decide)

/-- Three texts that a second pass changes, each of which breaks one of the conditions: a block whose
extension is the flag, a labelled block whose opening line ends in a vertical tabulator, and a hidden
block whose closing line does. -/
theorem second_pass_changes_flag_and_vertical_tabulator :
    ofContent (Example.collect (split "```a.hidden\nx\n```\n")) []
        (ofContent (Example.collect (split "```a.hidden\nx\n```\n")) []
          "```a.hidden\nx\n```\n") ≠
      ofContent (Example.collect (split "```a.hidden\nx\n```\n")) []
        "```a.hidden\nx\n```\n" ∧
    ofContent (Example.collect (split "```a.js\x0b.html\nx\n```\n")) []
        (ofContent (Example.collect (split "```a.js\x0b.html\nx\n```\n")) []
          "```a.js\x0b.html\nx\n```\n") ≠
      ofContent (Example.collect (split "```a.js\x0b.html\nx\n```\n")) []
        "```a.js\x0b.html\nx\n```\n" ∧
    ofContent (Example.collect (split "``\n```hidden\n```\x0b`a.js\nx\n```\n")) []
        (ofContent (Example.collect (split "``\n```hidden\n```\x0b`a.js\nx\n```\n")) []
          "``\n```hidden\n```\x0b`a.js\nx\n```\n") ≠
      ofContent (Example.collect (split "``\n```hidden\n```\x0b`a.js\nx\n```\n")) []
        "``\n```hidden\n```\x0b`a.js\nx\n```\n" := by
  decide

/-! ## Texts with ordinary line ends -/

/-- The terminators other than carriage return and line feed. -/
def otherTerminators : Text :=
  ['\x0b', '\x0c', '\x1c', '\x1d', '\x1e', '\x85', '\u2028', '\u2029']

theorem mem_otherTerminators {c : CodePoint} (hc : isTerminator c = true)
    (ho : isReturnOrFeed c = false) : c ∈ otherTerminators := by
  have hnumber : c.toNat ∈ [10, 11, 12, 13, 28, 29, 30, 0x85, 0x2028, 0x2029] := by
    simp only [isTerminator, Bool.or_eq_true, Bool.and_eq_true, decide_eq_true_eq, beq_iff_eq] at hc
    simp only [List.mem_cons, List.not_mem_nil, or_false]
    omega
  have hall : ∀ n ∈ [10, 11, 12, 13, 28, 29, 30, 0x85, 0x2028, 0x2029],
      isReturnOrFeed (.ofNat n) = false → CodePoint.ofNat n ∈ otherTerminators := by
    decide
  rw [← CodePoint.ofNat_toNat c] at ho ⊢
  exact hall c.toNat hnumber ho

/-- A line that keeps its terminator when it is trimmed has another one. -/
theorem exists_otherTerminator {a e : Text} (h : LineParts a e) (ha : endsLine a = true) :
    ∃ c ∈ a, c ∈ otherTerminators := by
  obtain ⟨c, hl, hc⟩ := exists_of_endsLine ha
  exact ⟨c, List.mem_of_getLast? hl, mem_otherTerminators hc (h.getLast?_left c hl)⟩

/-- A second pass over a text whose lines end in carriage returns and line feeds changes nothing
exactly when no labelled block that is shown has the flag of hidden blocks for an extension. -/
theorem second_pass_with_ordinary_line_ends_iff (content : Text) (renderable : List Text)
    (hcontent : ∀ c ∈ otherTerminators, c ∉ content) :
    ofContent (Example.collect (split content)) renderable
          (ofContent (Example.collect (split content)) renderable content) =
        ofContent (Example.collect (split content)) renderable content ↔
      ∀ f ∈ fences (split content), f.hidden = false →
        ∀ a, f.label = some a → a.extension ≠ Label.hiddenKey := by
  have hexamples := Example.allShaped_collect_split content
  have hprepared := preparation_ofContent renderable hexamples content
  have hlayout := layout_split content
  -- a terminator that stays with a header or a closing line is one of the others
  refine hprepared.ofContent_eq_self_iff renderable hexamples ?_ ?_
  · intro f hf _
    refine Bool.eq_false_iff.2 fun hended => ?_
    obtain ⟨c, hc, hother⟩ := exists_otherTerminator (hlayout.wellFormed f hf).closing hended
    exact hcontent c hother (hlayout.mem_of_mem_render hf c (by simp [Fence.render, hc]))
  · intro f hf _ _ hnil
    have hended := (hlayout.wellFormed f hf).ended
    rw [hnil, List.append_nil] at hended
    obtain ⟨c, hc, hother⟩ := exists_otherTerminator (hlayout.wellFormed f hf).opening hended
    exact hcontent c hother (hlayout.mem_of_mem_render hf c (by simp [Fence.render, hc]))

/-- A text with a block whose extension is the flag, which the second pass takes away. -/
theorem second_pass_removes_flagged_block :
    (∀ c ∈ otherTerminators, c ∉ ("```a.hidden\r\nx\r\n```\r\n" : Text)) ∧
    ofContent (Example.collect (split "```a.hidden\r\nx\r\n```\r\n")) []
        (ofContent (Example.collect (split "```a.hidden\r\nx\r\n```\r\n")) []
          "```a.hidden\r\nx\r\n```\r\n") ≠
      ofContent (Example.collect (split "```a.hidden\r\nx\r\n```\r\n")) []
        "```a.hidden\r\nx\r\n```\r\n" :=
  ⟨by decide,
    fun h => absurd ((second_pass_with_ordinary_line_ends_iff _ _ (by decide)).1 h) (by decide)⟩

end Description

end ComponentDocs
