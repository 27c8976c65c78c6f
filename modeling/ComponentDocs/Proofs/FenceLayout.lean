import ComponentDocs.Fence
import ComponentDocs.Proofs.LineBoundary

/-!
# The layout of fenced blocks

A text is laid out as plain text in which no fence opens, a well-formed block, and the layout of what
follows; its rest is plain text in which no line that opens a fence has a line behind it that closes
one (`Layout`). Cutting a text into segments finds such a layout for every text (`layout_split`).

Conversely, a well-formed block is read back from its rendering whatever follows it, as long as its
closing line stays a line by itself (`split_render_append`), and quiet text before a line boundary has
no influence on the blocks behind it (`fences_split_append`). These two equations hold of texts that
were put together in any way, and not only of those that were cut out of one text.
-/

set_option autoImplicit false

namespace ComponentDocs

open Text

namespace Segment

/-- The fenced blocks among segments, in order. -/
def fences (segments : List Segment) : List Fence :=
  segments.filterMap fun
    | text _ => none
    | fence f => some f

@[simp] theorem fences_fence_cons (f : Fence) (rest : List Segment) :
    fences (fence f :: rest) = f :: fences rest := rfl

@[simp] theorem fences_append (s t : List Segment) : fences (s ++ t) = fences s ++ fences t :=
  List.filterMap_append

theorem fences_cons (s : Segment) (rest : List Segment) :
    fences (s :: rest) = fences [s] ++ fences rest :=
  fences_append [s] rest

@[simp] theorem fences_plain (t : Text) : fences (plain t) = [] := by
  unfold plain
  split <;> rfl

@[simp] theorem fences_block (q : Text) (f : Fence) (segments : List Segment) :
    fences (plain q ++ fence f :: segments) = f :: fences segments := by
  rw [fences_append, fences_plain, List.nil_append, fences_fence_cons]

end Segment

/-! ## Opening and closing lines -/

namespace Fence

theorem fenceMark_unbroken : Unbroken fenceMark := by
  unfold Unbroken
  decide

/-- An opening line begins with the mark. -/
theorem opens_iff {line : Text} : opens line = true ↔ ∃ rest, line = fenceMark ++ rest := by
  rw [opens, List.isPrefixOf_iff_prefix]
  constructor
  · rintro ⟨rest, rfl⟩
    exact ⟨rest, rfl⟩
  · rintro ⟨rest, rfl⟩
    exact ⟨rest, rfl⟩

theorem opens_mark (rest : Text) : opens (fenceMark ++ rest) = true :=
  opens_iff.2 ⟨rest, rfl⟩

/-- A closing line would also open a fence. -/
theorem opens_of_closes {line : Text} (h : closes line = true) : opens line = true := by
  rw [closes, beq_iff_eq] at h
  rw [← trimRight_append_trailing isBlank line, h]
  exact opens_mark _

/-- A line that holds its terminator only opens no fence. -/
theorem opens_lineBreak {e : Text} (he : e ∈ lineBreaks) : opens e = false := by
  revert e
  decide

/-- Blank characters behind a line do not matter to whether it closes a fence. -/
theorem closes_append {line e : Text} (he : ∀ c ∈ e, isBlank c = true) :
    closes (line ++ e) = closes line := by
  have hrev : ∀ c ∈ e.reverse, isBlank c = true := fun c hc => he c (List.mem_reverse.1 hc)
  rw [closes, closes, trimRight, trimRight, List.reverse_append, List.dropWhile_append_of_pos hrev]

end Fence

/-! ## Reading lines -/

namespace Segment

theorem passedText_cons (line : Text) (passed : List Text) :
    passedText (line :: passed) = passedText passed ++ line := by
  simp [passedText]

/-- Lines that open no fence are passed over. -/
theorem ofLines_outside_append {ls : List Text} (h : ∀ line ∈ ls, Fence.opens line = false)
    (passed rest : List Text) :
    ofLines (.outside passed) (ls ++ rest) = ofLines (.outside (ls.reverse ++ passed)) rest := by
  induction ls generalizing passed with
  | nil => rfl
  | cons line ls ih =>
      have hl : Fence.opens line = false := h line List.mem_cons_self
      have hls : ∀ l ∈ ls, Fence.opens l = false := fun l hl => h l (List.mem_cons_of_mem line hl)
      rw [List.cons_append, ofLines, hl, Bool.false_and, if_neg (by simp), ih hls,
        List.reverse_cons, List.append_assoc, List.singleton_append]

/-- Inside a fence, the next closing line ends it. -/
theorem ofLines_inside_append {body : List Text} {closing : Text}
    (hb : ∀ line ∈ body, Fence.closes line = false) (hc : Fence.closes closing = true)
    (opening : Text) (passed rest : List Text) :
    ofLines (.inside opening passed) (body ++ closing :: rest) =
      fence (Fence.ofLines opening (passedText passed ++ body.flatten) closing) ::
        ofLines (.outside [closing.trailing isReturnOrFeed]) rest := by
  induction body generalizing passed with
  | nil => rw [List.nil_append, ofLines, if_pos hc, List.flatten_nil, List.append_nil]
  | cons line body ih =>
      have hl : Fence.closes line = false := hb line List.mem_cons_self
      have hbody : ∀ l ∈ body, Fence.closes l = false :=
        fun l hl => hb l (List.mem_cons_of_mem line hl)
      rw [List.cons_append, ofLines, hl, if_neg (by simp), ih hbody, passedText_cons,
        List.append_assoc, List.flatten_cons]

/-- An opening line, lines that do not close it and one that does are a fence. -/
theorem ofLines_outside_fence {opening closing : Text} {body : List Text}
    (ho : Fence.opens opening = true) (hb : ∀ line ∈ body, Fence.closes line = false)
    (hc : Fence.closes closing = true) (passed rest : List Text) :
    ofLines (.outside passed) (opening :: (body ++ closing :: rest)) =
      plain (passedText passed) ++
        fence (Fence.ofLines opening body.flatten closing) ::
          ofLines (.outside [closing.trailing isReturnOrFeed]) rest := by
  have hany : (body ++ closing :: rest).any Fence.closes = true := by simp [hc]
  rw [ofLines, ho, hany, Bool.true_and, if_pos rfl, ofLines_inside_append hb hc]
  rfl

/-- Lines of which none that opens a fence has one behind it that closes it. -/
def Stray (ls : List Text) : Prop :=
  ls.Pairwise fun opening closing =>
    ¬ (Fence.opens opening = true ∧ Fence.closes closing = true)

/-- Such lines are plain text. -/
theorem ofLines_outside_of_stray {ls : List Text} (h : Stray ls) (passed : List Text) :
    ofLines (.outside passed) ls = plain (passedText passed ++ ls.flatten) := by
  induction ls generalizing passed with
  | nil => rw [ofLines, List.flatten_nil, List.append_nil]
  | cons line ls ih =>
      obtain ⟨hline, hls⟩ := List.pairwise_cons.1 h
      have hno : ¬ (Fence.opens line && ls.any Fence.closes) = true := by
        intro hb
        rw [Bool.and_eq_true, List.any_eq_true] at hb
        obtain ⟨ho, closing, hmem, hc⟩ := hb
        exact hline closing hmem ⟨ho, hc⟩
      rw [ofLines, if_neg hno, ih hls, passedText_cons, List.append_assoc, List.flatten_cons]

/-- Only the text of the lines passed matters to the segments. -/
theorem ofLines_outside_congr {p q : List Text} (h : passedText p = passedText q)
    (ls : List Text) : ofLines (.outside p) ls = ofLines (.outside q) ls := by
  induction ls generalizing p q with
  | nil => rw [ofLines, ofLines, h]
  | cons line ls ih =>
      rw [ofLines, ofLines, h,
        ih (p := line :: p) (q := line :: q) (by rw [passedText_cons, passedText_cons, h])]

/-- The lines passed do not matter to the fences. -/
theorem fences_ofLines_outside (p q ls : List Text) :
    fences (ofLines (.outside p) ls) = fences (ofLines (.outside q) ls) := by
  induction ls generalizing p q with
  | nil => rw [ofLines, ofLines, fences_plain, fences_plain]
  | cons line ls ih =>
      rw [ofLines, ofLines]
      split
      case isTrue => rw [fences_append, fences_append, fences_plain, fences_plain]
      case isFalse => exact ih _ _

/-- A list of lines is stray, or it begins with lines that open no fence and then has one. -/
theorem stray_or_fence (ls : List Text) :
    Stray ls ∨ ∃ (before : List Text) (opening : Text) (body : List Text) (closing : Text)
      (rest : List Text), ls = before ++ opening :: (body ++ closing :: rest) ∧
        (∀ line ∈ before, Fence.opens line = false) ∧ Fence.opens opening = true ∧
        (∀ line ∈ body, Fence.closes line = false) ∧ Fence.closes closing = true := by
  induction ls with
  | nil => exact Or.inl List.Pairwise.nil
  | cons line ls ih =>
      by_cases hline : Fence.opens line = true ∧ ls.any Fence.closes = true
      · -- the first closing line behind `line` ends its fence
        obtain ⟨ho, hany⟩ := hline
        have hsome : (ls.find? Fence.closes).isSome = true :=
          List.find?_isSome.2 (List.any_eq_true.1 hany)
        obtain ⟨closing, hfind⟩ := Option.isSome_iff_exists.1 hsome
        obtain ⟨hc, body, rest, rfl, hb⟩ := List.find?_eq_some_iff_append.1 hfind
        refine Or.inr ⟨[], line, body, closing, rest, rfl, by simp, ho, ?_, hc⟩
        intro l hl
        simpa using hb l hl
      · rcases ih with hs | ⟨before, opening, body, closing, rest, rfl, hbefore, ho, hb, hc⟩
        · refine Or.inl (List.pairwise_cons.2 ⟨fun closing hmem hoc => hline ⟨hoc.1, ?_⟩, hs⟩)
          exact List.any_eq_true.2 ⟨closing, hmem, hoc.2⟩
        · have hl : Fence.opens line = false := by
            refine Bool.eq_false_iff.2 fun hopen => hline ⟨hopen, ?_⟩
            exact List.any_eq_true.2 ⟨closing, by simp, hc⟩
          refine Or.inr ⟨line :: before, opening, body, closing, rest, rfl, ?_, ho, hb, hc⟩
          intro l hmem
          rcases List.mem_cons.1 hmem with rfl | hmem
          · exact hl
          · exact hbefore l hmem

end Segment

/-! ## Quiet text -/

/-- The mark of a fence stands nowhere in the text at the start of a line. -/
def Quiet (t : Text) : Prop :=
  ∀ a b : Text, t = a ++ (fenceMark ++ b) → isFresh a = false

/-- A beginning of quiet text is quiet. -/
theorem Quiet.of_append {a b : Text} (h : Quiet (a ++ b)) : Quiet a := by
  rintro x y rfl
  exact h x (y ++ b) (by simp)

/-- Text is quiet when none of its lines opens a fence. -/
theorem quiet_of_lines {t : Text} (h : ∀ line ∈ lines t, Fence.opens line = false) : Quiet t := by
  -- a mark at the start of a line would make that line an opening one
  rintro a b rfl
  refine Bool.eq_false_iff.2 fun hf => ?_
  have hbound : Boundary a (fenceMark ++ b) :=
    ⟨hf, fun hw => absurd hw.2 (by simp [fenceMark, ofString])⟩
  have hline : ∃ first rest, lines (fenceMark ++ b) = (fenceMark ++ first) :: rest := by
    cases hl : lines b with
    | nil =>
        rw [lines_eq_nil_iff] at hl
        subst hl
        exact ⟨[], [], lines_of_unbroken (by simpa using Fence.fenceMark_unbroken) (by decide)⟩
    | cons first rest => exact ⟨first, rest, lines_unbroken_append Fence.fenceMark_unbroken hl⟩
  obtain ⟨first, rest, hl⟩ := hline
  have hno := h (fenceMark ++ first) (by rw [lines_append hbound, hl]; simp)
  rw [Fence.opens_mark] at hno
  exact absurd hno (by simp)

/-- No line of quiet text opens a fence. -/
theorem Quiet.opens_eq_false {t : Text} (h : Quiet t) :
    ∀ line ∈ lines t, Fence.opens line = false := by
  intro line hmem
  refine Bool.eq_false_iff.2 fun ho => ?_
  obtain ⟨ls, ms, hl⟩ := List.append_of_mem hmem
  obtain ⟨rest, rfl⟩ := Fence.opens_iff.1 ho
  obtain ⟨-, -, hbound⟩ := lines_eq_append hl
  have ht : t = ls.flatten ++ (fenceMark ++ (rest ++ ms.flatten)) := by
    rw [← flatten_lines t, hl]
    simp
  have hq := h _ _ ht
  rw [(hbound (by simp)).fresh] at hq
  exact absurd hq (by simp)

/-- Quiet texts make a quiet text when the first ends a line or the second begins with the end of
one. -/
theorem Quiet.append {a b : Text} (ha : Quiet a) (hb : Quiet b)
    (h : isFresh a = true ∨ startsBreak b = true) : Quiet (a ++ b) := by
  intro x y heq
  rcases List.append_eq_append_iff.1 heq with ⟨z, rfl, rfl⟩ | ⟨z, rfl, hz⟩
  · -- the mark stands in `b`
    have hfz := hb z y rfl
    have hne : z ≠ [] := by
      rintro rfl
      simp at hfz
    rwa [isFresh_append hne]
  · -- the mark begins in `a`, and cannot reach into `b`
    have hmark : (∃ w, z = fenceMark ++ w ∧ y = w ++ b) ∨ ∃ w, fenceMark = z ++ w ∧ b = w ++ y :=
      List.append_eq_append_iff.1 hz
    rcases hmark with ⟨w, rfl, rfl⟩ | ⟨w, hw, rfl⟩
    · exact ha x w rfl
    · have hunb : Unbroken (z ++ w) := hw ▸ Fence.fenceMark_unbroken
      by_cases hwn : w = []
      · subst hwn
        rw [List.append_nil] at hw
        exact ha x [] (by rw [← hw, List.append_nil])
      · by_cases hzn : z = []
        · subst hzn
          exact absurd (hb [] y (by rw [hw]; rfl)) (by simp)
        · rcases h with h | h
          · rw [isFresh_append hzn, hunb.of_append_left.isFresh_eq_false hzn] at h
            exact absurd h (by simp)
          · rw [startsBreak_append hwn, hunb.of_append_right.startsBreak_eq_false hwn] at h
            exact absurd h (by simp)

/-! ## Well-formed blocks -/

/-- A block that is read back from its rendering: its opening and closing lines are lines, its body
consists of whole lines of which none closes a fence, its closing line does, and its label is the one in
its header. -/
structure Fence.WellFormed (f : Fence) : Prop where
  opening : LineParts f.header f.newline
  ended : endsLine (f.header ++ f.newline) = true
  whole : ¬ (f.newline.getLast? = some (.char '\r') ∧ f.body.head? = some (.char '\n'))
  body_fresh : isFresh f.body = true
  body_open : ∀ line ∈ lines f.body, Fence.closes line = false
  closing : LineParts f.closing []
  closes : Fence.closes f.closing = true
  label_eq : f.label = Label.parse? f.header

/-- The closing line of the block stays a line by itself when the text follows: it ends in a
terminator of its own, or the text brings one. -/
def Fence.Meets (f : Fence) (t : Text) : Prop :=
  endsLine f.closing = true ∨ startsBreak t = true

namespace Fence

/-- A closing line without a terminator of its own gets one from the text. -/
theorem Meets.startsBreak_eq_true {f : Fence} {t : Text} (h : f.Meets t)
    (hclosing : endsLine f.closing = false) : startsBreak t = true :=
  h.resolve_left (by simp [hclosing])

/-- The label of a well-formed block is read from its header. -/
theorem WellFormed.parse?_header {f : Fence} (hf : f.WellFormed) {a : Label}
    (h : f.label = some a) : Label.parse? f.header = some a := by
  rw [← hf.label_eq, h]

theorem WellFormed.closing_ne_nil {f : Fence} (hf : f.WellFormed) : f.closing ≠ [] := by
  intro h
  have hc := hf.closes
  rw [h] at hc
  exact absurd hc (by decide)

/-- A closing line begins with the mark. -/
theorem WellFormed.closing_eq {f : Fence} (hf : f.WellFormed) :
    ∃ rest, f.closing = fenceMark ++ rest :=
  opens_iff.1 (opens_of_closes hf.closes)

/-- The closing line of a block, with the terminator that the following text gives it, and what the
reader of lines makes of the rest. -/
theorem WellFormed.lines_closing {f : Fence} (hf : f.WellFormed) {t : Text} (h : f.Meets t) :
    ∃ e rest, lines (f.closing ++ t) = (f.closing ++ e) :: rest ∧ LineParts f.closing e ∧
      Segment.ofLines (.outside [e]) rest = Segment.split t := by
  obtain ⟨e, rest, hl, hp, ht⟩ := lines_append_of_lineParts hf.closing hf.closing_ne_nil h
  refine ⟨e, rest, hl, hp, ?_⟩
  -- the terminator is passed over as plain text, or there is none
  rw [Segment.split]
  rcases ht with ⟨rfl, rfl⟩ | ⟨he, ht⟩
  · exact Segment.ofLines_outside_congr (p := [[]]) (q := []) rfl _
  · have ho : ∀ line ∈ [e], opens line = false := by
      intro line hmem
      rw [List.mem_singleton.1 hmem]
      exact opens_lineBreak he
    have hpass := Segment.ofLines_outside_append ho [] rest
    rw [ht]
    exact hpass.symm

/-- The lines of a block and of the text behind it. -/
theorem WellFormed.lines_render_append {f : Fence} (hf : f.WellFormed) {t : Text} :
    lines (f.render ++ t) =
      (fenceMark ++ (f.header ++ f.newline)) :: (lines f.body ++ lines (f.closing ++ t)) := by
  obtain ⟨rest, hc⟩ := hf.closing_eq
  have hne : f.header ++ f.newline ≠ [] := by
    intro hnil
    have he := hf.ended
    rw [hnil] at he
    exact absurd he (by decide)
  have hopen : lines (fenceMark ++ (f.header ++ f.newline)) =
      [fenceMark ++ (f.header ++ f.newline)] :=
    lines_unbroken_append fenceMark_unbroken (hf.opening.lines_eq hne)
  -- the closing line begins with a backtick and cannot take a carriage return from the body
  have hbody : Boundary f.body (f.closing ++ t) := by
    refine ⟨hf.body_fresh, fun hw => ?_⟩
    rw [hc] at hw
    exact absurd hw.2 (by simp [fenceMark, ofString])
  have hopening : Boundary (fenceMark ++ (f.header ++ f.newline)) (f.body ++ (f.closing ++ t)) := by
    refine ⟨?_, ?_⟩
    · rw [isFresh_append hne]
      exact isFresh_of_endsLine hf.ended
    · -- a carriage return before a line feed would be the last of `newline` and the first of `body`
      rintro ⟨hlast, hhead⟩
      have hn : f.newline ≠ [] := by
        intro hnil
        rw [hnil, List.append_nil, List.getLast?_append] at hlast
        cases hh : f.header.getLast? with
        | none =>
            rw [hh] at hlast
            exact absurd hlast (by decide)
        | some c =>
            rw [hh] at hlast
            obtain rfl : c = '\r' := by simpa using hlast
            exact absurd (hf.opening.getLast?_left _ hh) (by decide)
      have hb : f.body ≠ [] := by
        intro hnil
        rw [hnil, hc] at hhead
        exact absurd hhead (by simp [fenceMark, ofString])
      obtain ⟨c, hlc⟩ : ∃ c, f.newline.getLast? = some c := ⟨_, List.getLast?_eq_some_getLast hn⟩
      obtain ⟨d, body, hd⟩ := List.exists_cons_of_ne_nil hb
      refine hf.whole ⟨?_, ?_⟩
      · rw [List.getLast?_append, List.getLast?_append, hlc] at hlast
        rw [hlc]
        exact hlast
      · rw [hd] at hhead ⊢
        exact hhead
  have hr : f.render ++ t =
      (fenceMark ++ (f.header ++ f.newline)) ++ (f.body ++ (f.closing ++ t)) := by
    simp [render]
  rw [hr, lines_append hopening, hopen, lines_append hbody]
  rfl

theorem ofLines_eq {f : Fence} (hf : f.WellFormed) {e : Text} (he : LineParts f.closing e) :
    ofLines (fenceMark ++ (f.header ++ f.newline)) f.body (f.closing ++ e) = f := by
  have hdrop : (fenceMark ++ (f.header ++ f.newline)).drop fenceMark.length =
      f.header ++ f.newline := by simp
  unfold ofLines
  simp only [hdrop, hf.opening.trimRight_eq, hf.opening.trailing_eq, he.trimRight_eq, ← hf.label_eq]

end Fence

namespace Segment

/-- A well-formed block is read back from its rendering, and what follows it is read by itself. -/
theorem split_render_append {f : Fence} (hf : f.WellFormed) {t : Text} (h : f.Meets t) :
    split (f.render ++ t) = fence f :: split t := by
  obtain ⟨e, rest, hl, hp, hrest⟩ := hf.lines_closing h
  have hc : Fence.closes (f.closing ++ e) = true := by
    rw [Fence.closes_append hp.isBlank_right]
    exact hf.closes
  rw [split, hf.lines_render_append, hl,
    ofLines_outside_fence (Fence.opens_mark _) hf.body_open hc, flatten_lines,
    Fence.ofLines_eq hf hp, hp.trailing_eq, hrest]
  rfl

/-- Quiet text in front of a boundary has no influence on the blocks behind it. -/
theorem fences_split_append_of_boundary {q t : Text} (hq : Quiet q) (h : Boundary q t) :
    fences (split (q ++ t)) = fences (split t) := by
  rw [split, split, lines_append h, ofLines_outside_append hq.opens_eq_false]
  exact fences_ofLines_outside _ _ _

/-- Quiet text has no influence on the blocks behind it when it ends a line or the text behind it
begins with the end of one. -/
theorem fences_split_append {q t : Text} (hq : Quiet q)
    (h : isFresh q = true ∨ startsBreak t = true) :
    fences (split (q ++ t)) = fences (split t) := by
  by_cases ht : startsBreak t = true
  · by_cases hn : t = []
    · subst hn
      have hs := ofLines_outside_append hq.opens_eq_false [] []
      rw [List.append_nil] at hs ⊢
      rw [split, hs, ofLines, fences_plain]
      rfl
    · -- the break that begins `t` ends the last line of `q`, and the rest of `t` starts afresh
      obtain ⟨e, rest, -, rfl, he, hb⟩ := lines_of_startsBreak ht hn
      have hne : e ≠ [] := by
        rintro rfl
        exact absurd he (by decide)
      have hqe : Quiet e := quiet_of_lines fun line hmem => by
        rw [lines_lineBreak he, List.mem_singleton] at hmem
        rw [hmem]
        exact Fence.opens_lineBreak he
      rw [startsBreak_append hne] at ht
      rw [← List.append_assoc, fences_split_append_of_boundary (hq.append hqe (Or.inr ht))
        (hb.append_left hne q), fences_split_append_of_boundary hqe hb]
  · refine fences_split_append_of_boundary hq ⟨h.resolve_right ht, fun hw => ht ?_⟩
    rw [startsBreak, hw.2]
    rfl

end Segment

/-! ## Every text has a layout -/

namespace Fence

/-- The block of an opening and a closing line has the text of its lines up to the terminator of the
last one. -/
theorem render_ofLines {opening body closing : Text} (ho : opens opening = true) :
    (ofLines opening body closing).render =
      opening ++ (body ++ closing.trimRight isReturnOrFeed) := by
  obtain ⟨first, rfl⟩ := opens_iff.1 ho
  have hdrop : (fenceMark ++ first).drop fenceMark.length = first := by simp
  unfold ofLines render
  simp only [hdrop]
  calc fenceMark ++ first.trimRight isReturnOrFeed ++ first.trailing isReturnOrFeed ++ body ++
        closing.trimRight isReturnOrFeed
      = fenceMark ++ (first.trimRight isReturnOrFeed ++ first.trailing isReturnOrFeed) ++ body ++
          closing.trimRight isReturnOrFeed := by simp
    _ = fenceMark ++ first ++ (body ++ closing.trimRight isReturnOrFeed) := by
        rw [trimRight_append_trailing]
        simp

/-- The text behind the mark of an opening line is a line, too. -/
theorem lines_behind_mark {first : Text} (h : lines (fenceMark ++ first) = [fenceMark ++ first])
    (hne : first ≠ []) : lines first = [first] := by
  cases hl : lines first with
  | nil => exact absurd (lines_eq_nil_iff.1 hl) hne
  | cons line rest =>
      rw [lines_unbroken_append fenceMark_unbroken hl] at h
      obtain ⟨h1, rfl⟩ := List.cons.inj h
      rw [List.append_cancel_left h1]

section OfLines

variable {opening closing : Text} {body rest : List Text}

/-- A block that is cut out of lines is well-formed. -/
theorem wellFormed_ofLines (ho : opens opening = true)
    (hb : ∀ line ∈ body, closes line = false) (hc : closes closing = true)
    (hl : lines (opening :: (body ++ closing :: rest)).flatten =
      opening :: (body ++ closing :: rest)) :
    (ofLines opening body.flatten closing).WellFormed := by
  -- the three parts are cut apart at boundaries of lines, and each has its own lines
  obtain ⟨hopen, hrest, hbound⟩ := lines_eq_cons hl
  obtain ⟨hbody, hclosing, hbbound⟩ := lines_eq_append hrest
  have hmem : closing ∈ lines (closing :: rest).flatten := by
    rw [hclosing]
    exact List.mem_cons_self
  have hbound := hbound (by simp)
  obtain ⟨first, rfl⟩ := opens_iff.1 ho
  have hdrop : (fenceMark ++ first).drop fenceMark.length = first := by simp
  have hne : first ≠ [] := by
    rintro rfl
    have hf := hbound.fresh
    rw [List.append_nil, fenceMark_unbroken.isFresh_eq_false (by decide)] at hf
    exact absurd hf (by simp)
  have hfirst := lines_behind_mark hopen hne
  have hend : endsLine first = true := by
    have hf := hbound.fresh
    rw [isFresh_append hne] at hf
    exact endsLine_of_isFresh hf hne
  refine
    { opening := ?_, ended := ?_, whole := ?_, body_fresh := ?_, body_open := ?_,
      closing := ?_, closes := ?_, label_eq := rfl }
  · simp only [ofLines, hdrop]
    exact lineParts_of_mem_lines (by rw [hfirst]; exact List.mem_singleton_self first)
  · simp only [ofLines, hdrop, trimRight_append_trailing]
    exact hend
  · simp only [ofLines, hdrop]
    rintro ⟨hlast, hhead⟩
    refine hbound.whole ⟨?_, ?_⟩
    · rw [List.getLast?_append, ← trimRight_append_trailing isReturnOrFeed first,
        List.getLast?_append, hlast]
      rfl
    · rw [List.flatten_append]
      cases hbf : body.flatten with
      | nil =>
          rw [hbf] at hhead
          cases hhead
      | cons c more =>
          rw [hbf] at hhead
          exact hhead
  · exact (hbbound (by simp)).fresh
  · intro line hmem
    rw [show (ofLines (fenceMark ++ first) body.flatten closing).body = body.flatten from rfl,
      hbody] at hmem
    exact hb line hmem
  · exact (lineParts_of_mem_lines hmem).left
  · rw [← trimRight_append_trailing isReturnOrFeed closing,
      closes_append (lineParts_of_mem_lines hmem).isBlank_right] at hc
    exact hc

/-- The text behind it begins with the terminator of its closing line. -/
theorem meets_ofLines (opening : Text) (body : List Text)
    (hl : lines (closing :: rest).flatten = closing :: rest) :
    (ofLines opening body.flatten closing).Meets
      (closing.trailing isReturnOrFeed ++ rest.flatten) := by
  have hmem : closing ∈ lines (closing :: rest).flatten := by
    rw [hl]
    exact List.mem_cons_self
  show endsLine (closing.trimRight isReturnOrFeed) = true ∨ _
  obtain ⟨a, e, rfl, hp⟩ := exists_lineParts_of_mem_lines hmem
  rw [hp.trimRight_eq, hp.trailing_eq]
  cases hp with
  | feed ha he =>
      refine Or.inr ?_
      rw [startsBreak_append (by rintro rfl; exact absurd he (by decide))]
      exact startsBreak_lineBreak he
  | other ha hc ho =>
      refine Or.inl ?_
      rw [endsLine_append (by simp)]
      simpa [endsLine] using hc
  | last ha =>
      -- a line without terminator is the last one
      have hnil : rest = [] := by
        refine Decidable.byContradiction fun hne => ?_
        have hf := ((lines_eq_cons hl).2.2 hne).fresh
        have hnn : a ++ [] ≠ [] := ne_nil_of_mem_lines hmem
        rw [List.append_nil] at hf hnn
        rw [ha.isFresh_eq_false hnn] at hf
        exact absurd hf (by simp)
      refine Or.inr ?_
      rw [hnil]
      rfl

end OfLines

end Fence

namespace Segment

/-- How a text is laid out in segments: quiet text up to the start of a line, a well-formed block, and
the layout of the text behind it; or plain text in which no fence is closed. -/
inductive Layout : Text → List Segment → Prop
  | rest {t : Text} : Stray (lines t) → Layout t (plain t)
  | block {q t : Text} {f : Fence} {segments : List Segment} : Quiet q → isFresh q = true →
      f.WellFormed → f.Meets t → Layout t segments →
      Layout (q ++ (f.render ++ t)) (plain q ++ fence f :: segments)

theorem split_of_stray {t : Text} (h : Stray (lines t)) : split t = plain t := by
  rw [split, ofLines_outside_of_stray h, flatten_lines]
  rfl

/-- The first block of a text, with the quiet text before it and the segments behind it. -/
theorem split_eq_of_lines {t opening closing : Text} {before body rest : List Text}
    (hl : lines t = before ++ opening :: (body ++ closing :: rest))
    (hbefore : ∀ line ∈ before, Fence.opens line = false) (ho : Fence.opens opening = true)
    (hb : ∀ line ∈ body, Fence.closes line = false) (hc : Fence.closes closing = true) :
    ∃ q f t', t = q ++ (f.render ++ t') ∧ Quiet q ∧ isFresh q = true ∧ f.WellFormed ∧
      f.Meets t' ∧ split t = plain q ++ fence f :: split t' := by
  obtain ⟨hbl, hol, hbound⟩ := lines_eq_append hl
  obtain ⟨-, hrest, -⟩ := lines_eq_cons hol
  obtain ⟨-, hcl, -⟩ := lines_eq_append hrest
  have hf := Fence.wellFormed_ofLines ho hb hc hol
  have hm := Fence.meets_ofLines opening body hcl
  refine ⟨before.flatten, _, _, ?_, ?_, (hbound (by simp)).fresh, hf, hm, ?_⟩
  · -- the two parts of the closing line make it up again
    rw [← flatten_lines t, hl, Fence.render_ofLines ho]
    simp only [List.flatten_append, List.flatten_cons, List.append_assoc]
    rw [← List.append_assoc (closing.trimRight isReturnOrFeed), trimRight_append_trailing]
  · exact quiet_of_lines (by rw [hbl]; exact hbefore)
  · obtain ⟨e, rest', hl', hp, hs⟩ := hf.lines_closing hm
    -- the closing line that the block meets again is the one it was cut out with
    have hclosing : closing.trimRight isReturnOrFeed ++
        (closing.trailing isReturnOrFeed ++ rest.flatten) = (closing :: rest).flatten := by
      rw [← List.append_assoc, trimRight_append_trailing, List.flatten_cons]
    have heq : (closing.trimRight isReturnOrFeed ++ e) :: rest' = closing :: rest :=
      hl'.symm.trans ((congrArg lines hclosing).trans hcl)
    obtain ⟨h1, rfl⟩ := List.cons.inj heq
    have he : closing.trailing isReturnOrFeed = e := by
      rw [← h1]
      exact hp.trailing_eq
    rw [← he] at hs
    rw [split, hl, ofLines_outside_append hbefore, ofLines_outside_fence ho hb hc, hs,
      List.append_nil, passedText, List.reverse_reverse]

/-- Cutting a text into segments finds its layout. -/
theorem layout_split (t : Text) : Layout t (split t) := by
  -- by the length of the text: what follows the first block is shorter by its mark at least
  induction hn : t.length using Nat.strongRecOn generalizing t with
  | ind n ih =>
      rcases stray_or_fence (lines t) with hs | ⟨_, _, _, _, _, hl, hbefore, ho, hb, hc⟩
      · rw [split_of_stray hs]
        exact .rest hs
      · obtain ⟨q, f, t', rfl, hq, hfresh, hf, hm, hsplit⟩ :=
          split_eq_of_lines hl hbefore ho hb hc
        rw [hsplit]
        refine .block hq hfresh hf hm (ih t'.length ?_ t' rfl)
        have hpos : 0 < f.render.length := by simp [Fence.render, fenceMark, ofString]
        simp only [List.length_append] at hn
        omega

/-! ## The blocks of a layout -/

/-- The blocks that are found in a text are well-formed. -/
theorem Layout.wellFormed {t : Text} {segments : List Segment} (h : Layout t segments) :
    ∀ f ∈ fences segments, f.WellFormed := by
  induction h with
  | rest _ => simp
  | @block q t f segments _ _ hf _ _ ih =>
      intro f' hmem
      rw [fences_block, List.mem_cons] at hmem
      rcases hmem with rfl | hmem
      · exact hf
      · exact ih f' hmem

/-- They consist of characters of the text. -/
theorem Layout.mem_of_mem_render {t : Text} {segments : List Segment} (h : Layout t segments)
    {f : Fence} (hf : f ∈ fences segments) : ∀ c ∈ f.render, c ∈ t := by
  induction h with
  | rest _ => simp at hf
  | @block q t f' segments _ _ _ _ _ ih =>
      intro c hc
      rw [fences_block, List.mem_cons] at hf
      rcases hf with rfl | hf
      · exact List.mem_append_right q (List.mem_append_left t hc)
      · exact List.mem_append_right q (List.mem_append_right f'.render (ih hf c hc))

/-- The label of the segment, if it is a block, is the one in its header. -/
def LabelRead : Segment → Prop
  | text _ => True
  | fence f => f.label = Label.parse? f.header

theorem LabelRead.parse?_header {f : Fence} (hf : (fence f).LabelRead) {a : Label}
    (h : f.label = some a) : Label.parse? f.header = some a := by
  rw [← show f.label = Label.parse? f.header from hf, h]

/-- The labels of a text are read from the headers. -/
theorem labelRead_of_mem_split {t : Text} {s : Segment} (h : s ∈ split t) : s.LabelRead := by
  cases s with
  | text t' => trivial
  | fence f =>
      have hf : f ∈ fences (split t) := List.mem_filterMap.2 ⟨.fence f, h, rfl⟩
      exact ((layout_split t).wellFormed f hf).label_eq

end Segment

end ComponentDocs
