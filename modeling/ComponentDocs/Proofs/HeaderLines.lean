import ComponentDocs.Proofs.HeaderGrammar
import ComponentDocs.Proofs.ReportedFaults

/-!
# The lines around a header

A header is found character by character, with a flag for the start of a line. Here a text is taken as
its lines (`Text.feedLines`), which end in line feeds and in nothing else, and the header is described
by them (`FrontMatter.Delimited`): its first line opens a header, the closing line is the first one
behind it that closes a header, and the lines between the two are the header.

A text has a header exactly if it has such lines, and then there is only one choice of them
(`header_is_cut_at_its_lines`). The reader passes over a line that does not close the header as a whole
(`cutAtClosing?_of_other`), so that its run is a search for the first line that does
(`cutAtClosing?_eq_some_iff`).
-/

set_option autoImplicit false

namespace ComponentDocs

open Text

namespace Text

/-! ## Lines that end in line feeds -/

/-- The lines of a text, each with the line feed at its end. No other character ends a line. -/
def feedLines : Text → List Text
  | [] => []
  | c :: rest => if c = .char '\n' then [c] :: feedLines rest else consLine c (feedLines rest)

/-- Cutting behind line feeds loses nothing. -/
@[simp] theorem flatten_feedLines (t : Text) : (feedLines t).flatten = t := by
  induction t with
  | nil => rfl
  | cons c rest ih =>
      rw [feedLines]
      split
      case isTrue => rw [List.flatten_cons, ih, List.singleton_append]
      case isFalse => rw [flatten_consLine, ih]

theorem feedLines_append_feed {x : Text} (hx : .char '\n' ∉ x) (rest : Text) :
    feedLines (x ++ .char '\n' :: rest) = (x ++ [.char '\n']) :: feedLines rest := by
  induction x with
  | nil => rw [List.nil_append, feedLines, if_pos rfl, List.nil_append]
  | cons c x ih =>
      rw [List.mem_cons, not_or] at hx
      rw [List.cons_append, feedLines, if_neg (Ne.symm hx.1), ih hx.2]
      rfl

theorem feedLines_of_notMem {x : Text} (hx : .char '\n' ∉ x) (hne : x ≠ []) : feedLines x = [x] := by
  induction x with
  | nil => exact absurd rfl hne
  | cons c x ih =>
      rw [List.mem_cons, not_or] at hx
      rw [feedLines, if_neg (Ne.symm hx.1)]
      by_cases hnil : x = []
      · subst hnil
        rfl
      · rw [ih hx.2 hnil]
        rfl

/-- The first line of a text ends at the first line feed, or it is the whole text if that has none. -/
theorem feedLines_eq_cons {t line : Text} {behind : List Text} (h : feedLines t = line :: behind) :
    t = line ++ behind.flatten ∧ feedLines behind.flatten = behind ∧
      ((∃ x, .char '\n' ∉ x ∧ line = x ++ [.char '\n']) ∨
        .char '\n' ∉ line ∧ line ≠ [] ∧ behind = []) := by
  have ht : t = line ++ behind.flatten := by
    rw [← flatten_feedLines t, h, List.flatten_cons]
  by_cases hmem : .char '\n' ∈ t
  · obtain ⟨x, rest, rfl, hx⟩ := List.eq_append_cons_of_mem hmem
    rw [feedLines_append_feed hx] at h
    obtain ⟨rfl, rfl⟩ := List.cons.inj h
    exact ⟨ht, by rw [flatten_feedLines], Or.inl ⟨x, hx, rfl⟩⟩
  · have hne : t ≠ [] := by
      rintro rfl
      cases h
    rw [feedLines_of_notMem hmem hne] at h
    obtain ⟨rfl, rfl⟩ := List.cons.inj h
    exact ⟨ht, rfl, Or.inr ⟨hmem, hne, rfl⟩⟩

/-- Lines that follow each other in a text are the lines of what they make up. -/
theorem feedLines_flatten_of_append {t : Text} {before behind : List Text}
    (h : feedLines t = before ++ behind) :
    feedLines before.flatten = before ∧ feedLines behind.flatten = behind := by
  induction before generalizing t with
  | nil =>
      rw [List.nil_append] at h
      refine ⟨rfl, ?_⟩
      rw [← h, flatten_feedLines]
  | cons line before ih =>
      obtain ⟨-, hrest, hline⟩ := feedLines_eq_cons h
      obtain ⟨hbefore, hbehind⟩ := ih hrest
      refine ⟨?_, hbehind⟩
      rcases hline with ⟨x, hx, rfl⟩ | ⟨hx, hne, hnil⟩
      · rw [List.flatten_cons, List.append_assoc, List.singleton_append, feedLines_append_feed hx,
          hbefore]
      · obtain ⟨rfl, -⟩ := List.append_eq_nil_iff.1 hnil
        rw [List.flatten_singleton, feedLines_of_notMem hx hne]

end Text

namespace FrontMatter

/-! ## Delimiter lines -/

/-- Spaces and tabulators, which may stand behind the hyphens of a delimiter. -/
def isMargin (c : CodePoint) : Bool :=
  c == .char ' ' || c == .char '\t'

/-- The line consists of three hyphens, spaces and tabulators, and one of the given ends. -/
def IsDelimiter (ends : List Text) (line : Text) : Prop :=
  ∃ margin ending, (∀ c ∈ margin, isMargin c = true) ∧ ending ∈ ends ∧
    line = delimiter ++ (margin ++ ending)

/-- The line opens a header: it ends in a line feed, which may have a carriage return before it. -/
def IsOpening (line : Text) : Prop :=
  IsDelimiter ["\n", "\r\n"] line

/-- The line closes a header: it ends in the same way, or it is the last line and has no end. -/
def IsClosing (line : Text) : Prop :=
  IsDelimiter ["\n", "\r\n", []] line

/-- The text has a line that opens a header, and behind it one that closes a header. -/
def HasHeader (t : Text) : Prop :=
  ∃ first others, feedLines t = first :: others ∧ IsOpening first ∧
    ∃ line ∈ others, IsClosing line

/-- The text consists of a line that opens a header, the lines of the header, the line that closes it,
and the lines of the content. -/
structure Delimited (t first header closing content : Text) : Prop where
  lines : feedLines t = first :: (feedLines header ++ closing :: feedLines content)
  opens : IsOpening first
  inner : ∀ line ∈ feedLines header, ¬ IsClosing line
  closes : IsClosing closing

/-- Behind the hyphens the reader takes spaces and tabulators as far as they go. -/
theorem afterDelimiter?_eq_some_iff {t rest : Text} :
    afterDelimiter? t = some rest ↔
      ∃ margin, t = delimiter ++ (margin ++ rest) ∧ IsRun isMargin margin rest := by
  rw [afterDelimiter?, Option.map_eq_some_iff]
  constructor
  · rintro ⟨behind, hafter, hrest⟩
    unfold after? at hafter
    split at hafter
    case isFalse => cases hafter
    case isTrue hprefix =>
        obtain ⟨behind', rfl⟩ := List.isPrefixOf_iff_prefix.1 hprefix
        rw [List.drop_left] at hafter
        obtain rfl := Option.some.inj hafter
        obtain ⟨hspan, hrun⟩ := span_eq_iff.1 ⟨rfl, hrest⟩
        exact ⟨_, congrArg (delimiter ++ ·) hspan, hrun⟩
  · rintro ⟨margin, rfl, hrun⟩
    refine ⟨margin ++ rest, ?_, (span_eq_iff.2 ⟨rfl, hrun⟩).2⟩
    rw [after?, if_pos (List.isPrefixOf_iff_prefix.2 (List.prefix_append _ _)), List.drop_left]

/-- No line feed stands in the hyphens or behind them before the end of the line. -/
theorem feed_notMem_delimiter {margin : Text} (h : ∀ c ∈ margin, isMargin c = true) :
    .char '\n' ∉ delimiter ++ margin := by
  intro hmem
  rcases List.mem_append.1 hmem with hmem | hmem
  · exact absurd hmem (by decide)
  · exact absurd (h _ hmem) (by decide)

/-- An opening line is the first line of any text that begins with it. -/
theorem feedLines_append_of_isOpening {line : Text} (h : IsOpening line) (rest : Text) :
    feedLines (line ++ rest) = line :: feedLines rest := by
  obtain ⟨margin, ending, hmargin, hending, rfl⟩ := h
  have hfeed := feed_notMem_delimiter hmargin
  simp only [List.mem_cons, List.not_mem_nil, or_false] at hending
  rcases hending with rfl | rfl
  · have hlines := feedLines_append_feed hfeed rest
    simp only [List.append_assoc] at hlines ⊢
    exact hlines
  · -- the carriage return stands before the first line feed
    have hreturn : .char '\n' ∉ (delimiter ++ margin) ++ [.char '\r'] := by
      intro hmem
      rcases List.mem_append.1 hmem with hmem | hmem
      · exact hfeed hmem
      · exact absurd hmem (by decide)
    have hlines := feedLines_append_feed hreturn rest
    simp only [List.append_assoc] at hlines ⊢
    exact hlines

/-- The reader finds an opening line if the first line is one, and goes on behind it. -/
theorem opening?_eq_some_iff {t rest : Text} :
    opening? t = some rest ↔ ∃ line, IsOpening line ∧ feedLines t = line :: feedLines rest := by
  constructor
  · intro h
    -- the reader has taken an opening line off the text
    obtain ⟨line, hline, rfl⟩ : ∃ line, IsOpening line ∧ t = line ++ rest := by
      unfold opening? at h
      split at h
      case h_1 hafter =>
          obtain rfl := Option.some.inj h
          obtain ⟨margin, rfl, hrun⟩ := afterDelimiter?_eq_some_iff.1 hafter
          refine ⟨_, ⟨margin, "\n", hrun.all, by simp, rfl⟩, ?_⟩
          rw [List.append_assoc, List.append_assoc]
          rfl
      case h_2 hafter =>
          obtain rfl := Option.some.inj h
          obtain ⟨margin, rfl, hrun⟩ := afterDelimiter?_eq_some_iff.1 hafter
          refine ⟨_, ⟨margin, "\r\n", hrun.all, by simp, rfl⟩, ?_⟩
          rw [List.append_assoc, List.append_assoc]
          rfl
      case h_3 => cases h
    exact ⟨line, hline, feedLines_append_of_isOpening hline rest⟩
  · rintro ⟨line, ⟨margin, ending, hmargin, hending, rfl⟩, hlines⟩
    obtain ⟨ht, -, -⟩ := feedLines_eq_cons hlines
    rw [flatten_feedLines, List.append_assoc, List.append_assoc] at ht
    have hafter : afterDelimiter? t = some (ending ++ rest) := by
      refine afterDelimiter?_eq_some_iff.2 ⟨margin, ht, hmargin, ?_⟩
      intro c hc
      simp only [List.mem_cons, List.not_mem_nil, or_false] at hending
      rcases hending with rfl | rfl
      · obtain rfl : .char '\n' = c := Option.some.inj hc
        decide
      · obtain rfl : .char '\r' = c := Option.some.inj hc
        decide
    rw [opening?, hafter]
    simp only [List.mem_cons, List.not_mem_nil, or_false] at hending
    rcases hending with rfl | rfl
    · rfl
    · rfl

/-- A closing line is an opening one, or the hyphens and the margin behind them. -/
theorem isClosing_iff {line : Text} : IsClosing line ↔ IsOpening line ∨ IsDelimiter [[]] line := by
  constructor
  · rintro ⟨margin, ending, hmargin, hending, rfl⟩
    simp only [List.mem_cons, List.not_mem_nil, or_false] at hending
    rcases hending with rfl | rfl | rfl
    · exact Or.inl ⟨margin, _, hmargin, by simp, rfl⟩
    · exact Or.inl ⟨margin, _, hmargin, by simp, rfl⟩
    · exact Or.inr ⟨margin, [], hmargin, by simp, rfl⟩
  · rintro (⟨margin, ending, hmargin, hending, rfl⟩ | ⟨margin, ending, hmargin, hending, rfl⟩)
    · exact ⟨margin, ending, hmargin, List.mem_append_left [[]] hending, rfl⟩
    · obtain rfl := List.mem_singleton.1 hending
      exact ⟨margin, [], hmargin, by simp, rfl⟩

/-- The reader finds a closing line where it would find an opening one, or at the end of the text. -/
theorem closing?_eq_some_iff_or {t content : Text} :
    closing? t = some content ↔
      opening? t = some content ∨ afterDelimiter? t = some [] ∧ content = [] := by
  unfold closing?
  split
  case h_1 hafter =>
      rw [opening?, hafter]
      simp [eq_comm]
  case h_2 rest hafter =>
      rw [opening?, hafter]
      simp
  case h_3 rest hafter =>
      rw [opening?, hafter]
      simp
  case h_4 hnil hfeed hreturn =>
      have hopening : opening? t = none := by
        unfold opening?
        split
        case h_1 rest hafter => exact absurd hafter (hfeed rest)
        case h_2 rest hafter => exact absurd hafter (hreturn rest)
        case h_3 => rfl
      rw [hopening]
      constructor
      · intro h
        cases h
      · rintro (h | ⟨hafter, -⟩)
        · cases h
        · exact absurd hafter hnil

/-- The reader finds a closing line if the first line is one, and goes on behind it. -/
theorem closing?_eq_some_iff {t content : Text} :
    closing? t = some content ↔
      ∃ line, IsClosing line ∧ feedLines t = line :: feedLines content := by
  rw [closing?_eq_some_iff_or, opening?_eq_some_iff]
  constructor
  · rintro (⟨line, hline, hlines⟩ | ⟨hafter, rfl⟩)
    · exact ⟨line, isClosing_iff.2 (Or.inl hline), hlines⟩
    · obtain ⟨margin, rfl, hrun⟩ := afterDelimiter?_eq_some_iff.1 hafter
      refine ⟨_, isClosing_iff.2 (Or.inr ⟨margin, [], hrun.all, by simp, rfl⟩), ?_⟩
      rw [List.append_nil]
      exact feedLines_of_notMem (feed_notMem_delimiter hrun.all)
        (List.append_ne_nil_of_left_ne_nil (by decide) _)
  · rintro ⟨line, hline, hlines⟩
    rcases isClosing_iff.1 hline with hline | ⟨margin, ending, hmargin, hending, rfl⟩
    · exact Or.inl ⟨line, hline, hlines⟩
    · obtain rfl := List.mem_singleton.1 hending
      rw [List.append_nil] at hlines
      obtain ⟨ht, -, hend⟩ := feedLines_eq_cons hlines
      rcases hend with ⟨x, -, hx⟩ | ⟨-, -, hnil⟩
      · -- the hyphens and the margin would hold a line feed
        have hfeed : .char '\n' ∈ delimiter ++ margin := by
          rw [hx]
          simp
        exact absurd hfeed (feed_notMem_delimiter hmargin)
      · have hcontent : content = [] := by
          rw [← flatten_feedLines content, hnil, List.flatten_nil]
        rw [hnil, List.flatten_nil, List.append_nil] at ht
        refine Or.inr ⟨afterDelimiter?_eq_some_iff.2 ⟨margin, ?_, hmargin, by simp⟩, hcontent⟩
        rw [ht, List.append_nil]

/-! ## Searching for the closing line -/

/-- The reader is at its goal where a closing line starts. -/
theorem cutAtClosing?_of_closing {t content : Text} (h : closing? t = some content) :
    cutAtClosing? true t = some ([], content) := by
  cases t with
  | nil => cases h
  | cons c rest => rw [cutAtClosing?, if_pos rfl, h]

/-- At the start of any other line the reader goes on as in the middle of a line. -/
theorem cutAtClosing?_of_not_closing {t : Text} (h : closing? t = none) :
    cutAtClosing? true t = cutAtClosing? false t := by
  cases t with
  | nil => rfl
  | cons c rest =>
      rw [cutAtClosing?, if_pos rfl, h]
      rfl

/-- In the middle of a line the reader passes over any character but a line feed. -/
theorem cutAtClosing?_false_cons {c : CodePoint} (hc : c ≠ .char '\n') (rest : Text) :
    cutAtClosing? false (c :: rest) =
      (cutAtClosing? false rest).map fun cut => (c :: cut.1, cut.2) := by
  have hfeed : (c == .char '\n') = false := by simpa using hc
  rw [cutAtClosing?, if_neg Bool.false_ne_true, hfeed]

/-- The reader passes over the rest of a line, and then it is at the start of the next one. -/
theorem cutAtClosing?_append_feed {x : Text} (hx : .char '\n' ∉ x) (rest : Text) :
    cutAtClosing? false (x ++ .char '\n' :: rest) =
      (cutAtClosing? true rest).map fun cut => (x ++ .char '\n' :: cut.1, cut.2) := by
  induction x with
  | nil => rfl
  | cons c x ih =>
      rw [List.mem_cons, not_or] at hx
      rw [List.cons_append, cutAtClosing?_false_cons (Ne.symm hx.1), ih hx.2, Option.map_map]
      rfl

theorem cutAtClosing?_of_notMem {x : Text} (hx : .char '\n' ∉ x) : cutAtClosing? false x = none := by
  induction x with
  | nil => rfl
  | cons c x ih =>
      rw [List.mem_cons, not_or] at hx
      rw [cutAtClosing?_false_cons (Ne.symm hx.1), ih hx.2]
      rfl

/-- A line that does not close the header belongs to it as a whole. -/
theorem cutAtClosing?_of_other {t line : Text} {behind : List Text}
    (hlines : feedLines t = line :: behind) (hline : ¬ IsClosing line) :
    cutAtClosing? true t =
      (cutAtClosing? true behind.flatten).map fun cut => (line ++ cut.1, cut.2) := by
  have hclosing : closing? t = none := by
    rw [Option.eq_none_iff_forall_ne_some]
    intro content hcontent
    obtain ⟨line', hline', hlines'⟩ := closing?_eq_some_iff.1 hcontent
    rw [hlines] at hlines'
    exact hline ((List.cons.inj hlines').1 ▸ hline')
  rw [cutAtClosing?_of_not_closing hclosing]
  -- only the last line of a text has no line feed, and then there is nothing left to search
  obtain ⟨rfl, -, hend⟩ := feedLines_eq_cons hlines
  rcases hend with ⟨x, hx, rfl⟩ | ⟨hx, -, rfl⟩
  · rw [List.append_assoc, List.singleton_append, cutAtClosing?_append_feed hx]
    simp only [List.append_assoc, List.singleton_append]
  · rw [List.flatten_nil, List.append_nil, cutAtClosing?_of_notMem hx]
    rfl

/-- The reader finds the first closing line among the lines of a text. -/
theorem cutAtClosing?_eq_some_iff {t header content : Text} :
    cutAtClosing? true t = some (header, content) ↔
      ∃ inner closing behind, feedLines t = inner ++ closing :: behind ∧
        (∀ line ∈ inner, ¬ IsClosing line) ∧ IsClosing closing ∧
        header = inner.flatten ∧ content = behind.flatten := by
  -- by induction on the lines, of which the reader takes one at a time
  generalize hlines : feedLines t = ls
  induction ls generalizing t header with
  | nil =>
      have ht : t = [] := by
        rw [← flatten_feedLines t, hlines, List.flatten_nil]
      subst ht
      constructor
      · intro h
        cases h
      · rintro ⟨inner, closing, behind, hls, -⟩
        exact absurd hls.symm (List.append_ne_nil_of_right_ne_nil inner (List.cons_ne_nil _ _))
  | cons line behind ih =>
      obtain ⟨-, hbehind, -⟩ := feedLines_eq_cons hlines
      by_cases hline : IsClosing line
      · have hclosing : closing? t = some behind.flatten :=
          closing?_eq_some_iff.2 ⟨line, hline, by rw [hlines, hbehind]⟩
        rw [cutAtClosing?_of_closing hclosing]
        constructor
        · intro h
          obtain ⟨rfl, rfl⟩ := Prod.mk.inj (Option.some.inj h)
          exact ⟨[], line, behind, rfl, by simp, hline, rfl, rfl⟩
        · rintro ⟨inner, closing, rest, hls, hinner, -, rfl, rfl⟩
          cases inner with
          | nil =>
              obtain ⟨-, rfl⟩ := List.cons.inj hls
              rfl
          | cons first inner =>
              -- the header cannot begin with a line that closes it
              obtain ⟨rfl, -⟩ := List.cons.inj hls
              exact absurd hline (hinner line List.mem_cons_self)
      · rw [cutAtClosing?_of_other hlines hline, Option.map_eq_some_iff]
        constructor
        · rintro ⟨⟨header', content'⟩, hcut, heq⟩
          obtain ⟨rfl, rfl⟩ := Prod.mk.inj heq
          obtain ⟨inner, closing, rest, hls, hinner, hclosing, rfl, rfl⟩ := (ih hbehind).1 hcut
          refine ⟨line :: inner, closing, rest, ?_, ?_, hclosing, rfl, rfl⟩
          · rw [hls, List.cons_append]
          · intro l hl
            rcases List.mem_cons.1 hl with rfl | hl
            · exact hline
            · exact hinner l hl
        · rintro ⟨inner, closing, rest, hls, hinner, hclosing, rfl, rfl⟩
          cases inner with
          | nil =>
              obtain ⟨rfl, -⟩ := List.cons.inj hls
              exact absurd hclosing hline
          | cons first inner =>
              obtain ⟨rfl, hrest⟩ := List.cons.inj hls
              refine ⟨(inner.flatten, rest.flatten), (ih hbehind).2 ?_, rfl⟩
              exact ⟨inner, closing, rest, hrest, fun l hl => hinner l (List.mem_cons_of_mem line hl),
                hclosing, rfl, rfl⟩

/-! ## The header of a text -/

/-- The text has a header where its lines say so, and in no other place. -/
theorem cut?_eq_some_iff {t header content : Text} :
    cut? t = some (header, content) ↔
      ∃ first closing, Delimited t first header closing content := by
  rw [cut?, Option.bind_eq_some_iff]
  constructor
  · rintro ⟨rest, hopening, hcut⟩
    obtain ⟨first, hfirst, hlines⟩ := opening?_eq_some_iff.1 hopening
    obtain ⟨inner, closing, behind, hrest, hinner, hclosing, rfl, rfl⟩ :=
      cutAtClosing?_eq_some_iff.1 hcut
    obtain ⟨hheader, hbehind⟩ := feedLines_flatten_of_append hrest
    obtain ⟨-, hcontent, -⟩ := feedLines_eq_cons hbehind
    refine ⟨first, closing, ?_, hfirst, by rwa [hheader], hclosing⟩
    rw [hlines, hrest, hheader, hcontent]
  · rintro ⟨first, closing, hlines, hfirst, hinner, hclosing⟩
    obtain ⟨-, hrest, -⟩ := feedLines_eq_cons hlines
    refine ⟨(feedLines header ++ closing :: feedLines content).flatten,
      opening?_eq_some_iff.2 ⟨first, hfirst, ?_⟩,
      cutAtClosing?_eq_some_iff.2 ⟨feedLines header, closing, feedLines content, hrest, hinner,
        hclosing, (flatten_feedLines header).symm, (flatten_feedLines content).symm⟩⟩
    rw [hlines, hrest]

/-- The delimiter lines, the header and the content make up the text. -/
theorem Delimited.text_eq {t first header closing content : Text}
    (h : Delimited t first header closing content) : first ++ header ++ closing ++ content = t := by
  rw [← flatten_feedLines t, h.lines, List.flatten_cons, List.flatten_append, List.flatten_cons,
    flatten_feedLines, flatten_feedLines]
  simp only [List.append_assoc]

/-- Among lines of which one closes a header there is a first one. -/
theorem exists_first_closing {ls : List Text} (h : ∃ line ∈ ls, IsClosing line) :
    ∃ inner closing behind, ls = inner ++ closing :: behind ∧
      (∀ line ∈ inner, ¬ IsClosing line) ∧ IsClosing closing := by
  induction ls with
  | nil =>
      obtain ⟨line, hmem, -⟩ := h
      cases hmem
  | cons first others ih =>
      by_cases hfirst : IsClosing first
      · exact ⟨[], first, others, rfl, by simp, hfirst⟩
      · obtain ⟨line, hmem, hline⟩ := h
        rcases List.mem_cons.1 hmem with rfl | hmem
        · exact absurd hline hfirst
        · obtain ⟨inner, closing, behind, rfl, hinner, hclosing⟩ := ih ⟨line, hmem, hline⟩
          exact ⟨first :: inner, closing, behind, rfl, List.forall_mem_cons.2 ⟨hfirst, hinner⟩,
            hclosing⟩

/-- The reader finds a header if the lines hold one. -/
theorem hasHeader_iff {t : Text} : HasHeader t ↔ ∃ cut, cut? t = some cut := by
  constructor
  · rintro ⟨first, others, hlines, hfirst, hothers⟩
    obtain ⟨-, hrest, -⟩ := feedLines_eq_cons hlines
    obtain ⟨inner, closing, behind, hsplit, hinner, hclosing⟩ := exists_first_closing hothers
    refine ⟨(inner.flatten, behind.flatten), Option.bind_eq_some_iff.2 ⟨others.flatten, ?_, ?_⟩⟩
    · exact opening?_eq_some_iff.2 ⟨first, hfirst, by rw [hlines, hrest]⟩
    · exact cutAtClosing?_eq_some_iff.2
        ⟨inner, closing, behind, hrest.trans hsplit, hinner, hclosing, rfl, rfl⟩
  · rintro ⟨⟨header, content⟩, hcut⟩
    obtain ⟨first, closing, h⟩ := cut?_eq_some_iff.1 hcut
    exact ⟨first, _, h.lines, h.opens, closing,
      List.mem_append_right _ List.mem_cons_self, h.closes⟩

/-- Whatever the header says, the content stays as it is. -/
theorem content_ofDocument {rt : Runtime} {content : Text} {document : Option Yaml.Document}
    {f : FrontMatter} (h : ofDocument rt content document = .ok f) : f.content = content := by
  unfold ofDocument at h
  split at h
  case h_1 =>
      obtain rfl := Except.ok.inj h
      rfl
  case h_2 =>
      split at h
      case h_1 =>
          obtain rfl := Except.ok.inj h
          rfl
      case h_2 => cases h

end FrontMatter

end ComponentDocs
