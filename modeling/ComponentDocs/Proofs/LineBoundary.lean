import ComponentDocs.Proofs.Trimming
import ComponentDocs.Text.Blank
import ComponentDocs.Text.Lines

/-!
# Line boundaries

A text that is put together from parts has the lines of its parts exactly when each part ends where
a line ends (`lines_append`); a part without terminators becomes the beginning of the first line of
what follows (`lines_unbroken_append`). Conversely, a list of lines that is cut in two is cut at a
boundary of the text (`lines_eq_append`).

A line is divided into what stands before its carriage return and line feed, and these two
(`LineParts`). The other terminators are not taken off a line, so that they stay with the first part.
-/

set_option autoImplicit false

namespace ComponentDocs.Text

/-! ## Terminators -/

/-- Carriage return and line feed are terminators. -/
theorem isTerminator_of_isReturnOrFeed {c : CodePoint} (h : isReturnOrFeed c = true) :
    isTerminator c = true := by
  simp only [isReturnOrFeed, Bool.or_eq_true, beq_iff_eq] at h
  rcases h with rfl | rfl
  · decide
  · decide

/-- A terminator is blank. -/
theorem isBlank_of_isTerminator {c : CodePoint} (h : isTerminator c = true) : isBlank c = true := by
  simp only [isTerminator, isBlank, Bool.or_eq_true, Bool.and_eq_true, decide_eq_true_eq,
    beq_iff_eq] at h ⊢
  omega

/-- The text has no terminator in it. -/
def Unbroken (t : Text) : Prop :=
  ∀ c ∈ t, isTerminator c = false

/-- Whether the last character of a text is a terminator. -/
def endsLine (t : Text) : Bool :=
  t.getLast?.any isTerminator

/-- Whether what comes behind a text stands at the start of a line. -/
def isFresh (t : Text) : Bool :=
  t.getLast?.all isTerminator

/-- Whether a text is empty or begins with a carriage return or a line feed. -/
def startsBreak (t : Text) : Bool :=
  t.head?.all isReturnOrFeed

@[simp] theorem isFresh_nil : isFresh [] = true := rfl

@[simp] theorem startsBreak_nil : startsBreak [] = true := rfl

theorem unbroken_nil : Unbroken [] := by
  intro c hc
  cases hc

theorem Unbroken.append {a b : Text} (ha : Unbroken a) (hb : Unbroken b) : Unbroken (a ++ b) := by
  intro c hc
  rcases List.mem_append.1 hc with h | h
  · exact ha c h
  · exact hb c h

theorem Unbroken.of_append_left {a b : Text} (h : Unbroken (a ++ b)) : Unbroken a :=
  fun c hc => h c (List.mem_append_left b hc)

theorem Unbroken.of_append_right {a b : Text} (h : Unbroken (a ++ b)) : Unbroken b :=
  fun c hc => h c (List.mem_append_right a hc)

theorem Unbroken.tail {c : CodePoint} {t : Text} (h : Unbroken (c :: t)) : Unbroken t :=
  fun d hd => h d (List.mem_cons_of_mem c hd)

/-- A text that ends a line has a terminator for its last character. -/
theorem exists_of_endsLine {t : Text} (h : endsLine t = true) :
    ∃ c, t.getLast? = some c ∧ isTerminator c = true := by
  cases hl : t.getLast? with
  | none => simp [endsLine, hl] at h
  | some c => exact ⟨c, rfl, by simpa [endsLine, hl] using h⟩

/-- A text ends a line as its last part does. -/
theorem endsLine_append {a b : Text} (hb : b ≠ []) : endsLine (a ++ b) = endsLine b := by
  obtain ⟨c, hc⟩ : ∃ c, b.getLast? = some c := ⟨_, List.getLast?_eq_some_getLast hb⟩
  simp [endsLine, List.getLast?_append, hc]

theorem isFresh_append {a b : Text} (hb : b ≠ []) : isFresh (a ++ b) = isFresh b := by
  obtain ⟨c, hc⟩ : ∃ c, b.getLast? = some c := ⟨_, List.getLast?_eq_some_getLast hb⟩
  simp [isFresh, List.getLast?_append, hc]

theorem isFresh_of_endsLine {t : Text} (h : endsLine t = true) : isFresh t = true := by
  cases hl : t.getLast? with
  | none => simp [isFresh, hl]
  | some c =>
      rw [endsLine, hl] at h
      rw [isFresh, hl]
      exact h

theorem endsLine_of_isFresh {t : Text} (h : isFresh t = true) (hne : t ≠ []) :
    endsLine t = true := by
  obtain ⟨c, hc⟩ : ∃ c, t.getLast? = some c := ⟨_, List.getLast?_eq_some_getLast hne⟩
  rw [isFresh, hc] at h
  rw [endsLine, hc]
  exact h

/-- Parts that both leave off at the start of a line do so together. -/
theorem isFresh_append_of_isFresh {a b : Text} (ha : isFresh a = true) (hb : isFresh b = true) :
    isFresh (a ++ b) = true := by
  by_cases hne : b = []
  · rw [hne, List.append_nil]
    exact ha
  · rw [isFresh_append hne]
    exact hb

theorem Unbroken.endsLine_eq_false {t : Text} (h : Unbroken t) : endsLine t = false := by
  cases hl : t.getLast? with
  | none => simp [endsLine, hl]
  | some c =>
      have hc : isTerminator c = false := h c (List.mem_of_getLast? hl)
      simp [endsLine, hl, hc]

theorem Unbroken.isFresh_eq_false {t : Text} (h : Unbroken t) (hne : t ≠ []) :
    isFresh t = false := by
  refine Bool.eq_false_iff.2 fun hf => ?_
  have he := endsLine_of_isFresh hf hne
  rw [h.endsLine_eq_false] at he
  exact absurd he (by simp)

theorem Unbroken.startsBreak_eq_false {t : Text} (h : Unbroken t) (hne : t ≠ []) :
    startsBreak t = false := by
  cases t with
  | nil => exact absurd rfl hne
  | cons c rest =>
      have hc : isTerminator c = false := h c List.mem_cons_self
      refine Bool.eq_false_iff.2 fun hb => ?_
      rw [isTerminator_of_isReturnOrFeed (by simpa [startsBreak] using hb)] at hc
      exact absurd hc (by simp)

theorem startsBreak_append {a b : Text} (ha : a ≠ []) : startsBreak (a ++ b) = startsBreak a := by
  cases a with
  | nil => exact absurd rfl ha
  | cons c rest => rfl

/-! ## Lines of a text in parts -/

/-- The place between two texts is a boundary of lines: the first ends a line or is empty, and no
carriage return is cut off from its line feed. -/
structure Boundary (a b : Text) : Prop where
  fresh : isFresh a = true
  whole : ¬ (a.getLast? = some (.char '\r') ∧ b.head? = some (.char '\n'))

/-- Leaving out the first character of a text does not move the boundary behind it. -/
theorem Boundary.tail {c : CodePoint} {a b : Text} (h : Boundary (c :: a) b) : Boundary a b := by
  by_cases hne : a = []
  · subst hne
    exact ⟨rfl, fun hw => by simp at hw⟩
  · have hlast : (c :: a).getLast? = a.getLast? := List.getLast?_cons_of_ne_nil hne
    refine ⟨?_, fun hw => h.whole ⟨hlast.trans hw.1, hw.2⟩⟩
    have hf := h.fresh
    rwa [isFresh, hlast] at hf

/-- Nor does putting a text in front. -/
theorem Boundary.append_left {a b : Text} (h : Boundary a b) (hne : a ≠ []) (x : Text) :
    Boundary (x ++ a) b := by
  have hlast : (x ++ a).getLast? = a.getLast? := by
    rw [List.getLast?_append, List.getLast?_eq_some_getLast hne]
    rfl
  exact ⟨by rw [isFresh, hlast]; exact h.fresh, by rw [hlast]; exact h.whole⟩

theorem lines_crlf (rest : Text) :
    lines ('\r' :: '\n' :: rest) = (['\r', '\n'] : Text) :: lines rest := by
  rw [lines]

/-- The lines of a text by its first character, unless that is half of a terminator. -/
theorem lines_cons {c : CodePoint} {rest : Text} (h : ¬ (c = '\r' ∧ rest.head? = some (.char '\n'))) :
    lines (c :: rest) =
      if isTerminator c then [c] :: lines rest else consLine c (lines rest) := by
  rw [lines]
  rintro t rfl rfl
  exact h ⟨rfl, rfl⟩

theorem consLine_append (c : CodePoint) {ls : List Text} (ms : List Text) (h : ls ≠ []) :
    consLine c (ls ++ ms) = consLine c ls ++ ms := by
  cases ls with
  | nil => exact absurd rfl h
  | cons line others => rfl

@[simp] theorem lines_eq_nil_iff {t : Text} : lines t = [] ↔ t = [] := by
  constructor
  · intro h
    have hf := flatten_lines t
    rw [h] at hf
    exact hf.symm
  · rintro rfl
    rfl

/-- Texts that meet at a boundary have their lines one after the other. -/
theorem lines_append {a b : Text} (h : Boundary a b) : lines (a ++ b) = lines a ++ lines b := by
  -- by the recursion of `lines` on the first text: the second one matters only where that ends
  fun_induction lines a with
  | case1 => rfl
  | case2 rest ih =>
      rw [List.cons_append, List.cons_append, lines_crlf, ih h.tail.tail, List.cons_append]
  | case3 c rest hcr hc ih =>
      -- the carriage return of a pair can meet its line feed neither in `rest` nor in `b`
      have hsplit : ¬ (c = '\r' ∧ (rest ++ b).head? = some (.char '\n')) := by
        rintro ⟨rfl, hh⟩
        cases rest with
        | nil => exact h.whole ⟨rfl, hh⟩
        | cons d rest' =>
            obtain rfl : d = '\n' := by simpa using hh
            exact hcr rest' rfl rfl
      rw [List.cons_append, lines_cons hsplit, if_pos hc, ih h.tail, List.cons_append]
  | case4 c rest hcr hc ih =>
      have hne : rest ≠ [] := by
        rintro rfl
        have hf := h.fresh
        exact hc (by simpa [isFresh] using hf)
      have hsplit : ¬ (c = '\r' ∧ (rest ++ b).head? = some (.char '\n')) := by
        rintro ⟨rfl, -⟩
        exact hc rfl
      rw [List.cons_append, lines_cons hsplit, if_neg hc, ih h.tail,
        consLine_append c _ (mt lines_eq_nil_iff.1 hne)]

/-- A text without terminators becomes the beginning of the first line of what follows. -/
theorem lines_unbroken_append {a b first : Text} {rest : List Text} (ha : Unbroken a)
    (hb : lines b = first :: rest) : lines (a ++ b) = (a ++ first) :: rest := by
  induction a with
  | nil => exact hb
  | cons c a ih =>
      have hc : isTerminator c = false := ha c List.mem_cons_self
      have hsplit : ¬ (c = '\r' ∧ (a ++ b).head? = some (.char '\n')) := by
        rintro ⟨rfl, -⟩
        exact absurd hc (by decide)
      rw [List.cons_append, lines_cons hsplit, hc, ih ha.tail]
      rfl

/-- A single character is one line, whether it ends one or not. -/
theorem lines_singleton (c : CodePoint) : lines [c] = [[c]] := by
  rw [lines_cons (by simp)]
  split <;> rfl

/-- A text without terminators is one line. -/
theorem lines_of_unbroken {a : Text} (ha : Unbroken a) (hne : a ≠ []) : lines a = [a] := by
  obtain ⟨b, c, rfl⟩ : ∃ b c, a = b ++ [c] :=
    ⟨a.dropLast, a.getLast hne, (List.dropLast_concat_getLast hne).symm⟩
  have hb : Unbroken b := fun d hd => ha d (List.mem_append_left [c] hd)
  exact lines_unbroken_append hb (lines_singleton c)

/-! ## Cutting a list of lines -/

/-- A terminator that is not half of a pair is followed by a boundary. -/
theorem boundary_singleton {c : CodePoint} {t : Text} (hc : isTerminator c = true)
    (hcr : ∀ t' : Text, c = '\r' → t = CodePoint.char '\n' :: t' → False) : Boundary [c] t := by
  refine ⟨by simpa [isFresh] using hc, ?_⟩
  rintro ⟨hr, hn⟩
  obtain rfl : c = '\r' := by simpa using hr
  cases t with
  | nil => simp at hn
  | cons d t' =>
      obtain rfl : d = '\n' := by simpa using hn
      exact hcr t' rfl rfl

/-- The first line of a text is one line by itself, the others are the lines of the rest, and they
meet at a boundary. -/
theorem lines_eq_cons {t line : Text} {rest : List Text} (h : lines t = line :: rest) :
    lines line = [line] ∧ lines rest.flatten = rest ∧ (rest ≠ [] → Boundary line rest.flatten) := by
  fun_induction lines t generalizing line rest with
  | case1 => simp at h
  | case2 t ih =>
      obtain ⟨rfl, rfl⟩ := List.cons.inj h
      rw [flatten_lines]
      exact ⟨lines_crlf [], rfl, fun _ => ⟨rfl, by simp⟩⟩
  | case3 c t hcr hc ih =>
      obtain ⟨rfl, rfl⟩ := List.cons.inj h
      rw [flatten_lines]
      exact ⟨lines_singleton c, rfl, fun _ => boundary_singleton hc hcr⟩
  | case4 c t hcr hc ih =>
      cases hl : lines t with
      | nil =>
          rw [hl] at h
          obtain ⟨rfl, rfl⟩ := List.cons.inj h
          exact ⟨lines_singleton c, rfl, fun hne => absurd rfl hne⟩
      | cons first others =>
          rw [hl] at h
          obtain ⟨rfl, rfl⟩ := List.cons.inj h
          obtain ⟨hfirst, hothers, hb⟩ := ih hl
          have hne : first ≠ [] := ne_nil_of_mem_lines (hl ▸ List.mem_cons_self)
          have hlast : (c :: first).getLast? = first.getLast? := List.getLast?_cons_of_ne_nil hne
          have hunb : Unbroken [c] := by
            intro d hd
            obtain rfl := List.mem_singleton.1 hd
            simpa using hc
          refine ⟨lines_unbroken_append hunb hfirst, hothers, fun hr => ?_⟩
          obtain ⟨hf, hw⟩ := hb hr
          exact ⟨by rwa [isFresh, hlast], by rwa [hlast]⟩

/-- A list of lines that is cut in two is cut at a boundary of the text. -/
theorem lines_eq_append {t : Text} {ls ms : List Text} (h : lines t = ls ++ ms) :
    lines ls.flatten = ls ∧ lines ms.flatten = ms ∧
      (ms ≠ [] → Boundary ls.flatten ms.flatten) := by
  induction ls generalizing t with
  | nil =>
      rw [List.nil_append] at h
      refine ⟨rfl, ?_, fun _ => ⟨rfl, by simp⟩⟩
      rw [← h, flatten_lines]
  | cons line ls ih =>
      obtain ⟨hline, hrest, hb⟩ := lines_eq_cons (h.trans (List.cons_append ..))
      obtain ⟨hls, hms, hbound⟩ := ih hrest
      -- the boundary behind `line` is the one asked for only if no other line comes before the cut
      by_cases hnil : ls = []
      · subst hnil
        refine ⟨?_, hms, ?_⟩
        · simpa using hline
        · simpa using hb
      · have hne : ls.flatten ≠ [] := fun he => by
          rw [he] at hls
          exact hnil hls.symm
        have hhead : (ls ++ ms).flatten.head? = ls.flatten.head? := by
          obtain ⟨d, rest, hd⟩ := List.exists_cons_of_ne_nil hne
          rw [List.flatten_append, hd]
          rfl
        have hb' := hb (by simp [hnil])
        have hline_ls : Boundary line ls.flatten := ⟨hb'.fresh, by rw [← hhead]; exact hb'.whole⟩
        refine ⟨?_, hms, fun hm => ?_⟩
        · rw [List.flatten_cons, lines_append hline_ls, hline, hls]
          rfl
        · rw [List.flatten_cons]
          exact (hbound hm).append_left hne line

/-! ## The parts of a line -/

/-- Carriage return and line feed in the ways in which they end a line. -/
def lineBreaks : List Text :=
  [['\n'], ['\r'], ['\r', '\n']]

theorem isReturnOrFeed_of_mem_lineBreak {e : Text} (he : e ∈ lineBreaks) :
    ∀ c ∈ e, isReturnOrFeed c = true := by
  revert e
  decide

theorem lines_lineBreak {e : Text} (he : e ∈ lineBreaks) : lines e = [e] := by
  revert e
  decide

theorem startsBreak_lineBreak {e : Text} (he : e ∈ lineBreaks) : startsBreak e = true := by
  revert e
  decide

theorem endsLine_lineBreak {e : Text} (he : e ∈ lineBreaks) : endsLine e = true := by
  revert e
  decide

/-- The first line of a text that begins with a carriage return or line feed consists of these. -/
theorem lines_of_startsBreak {t : Text} (h : startsBreak t = true) (hne : t ≠ []) :
    ∃ e rest, lines t = e :: lines rest ∧ t = e ++ rest ∧ e ∈ lineBreaks ∧ Boundary e rest := by
  fun_cases lines t with
  | case1 => exact absurd rfl hne
  | case2 rest => exact ⟨_, rest, rfl, rfl, by decide, ⟨rfl, by simp⟩⟩
  | case3 c rest hcr hc =>
      refine ⟨[c], rest, rfl, rfl, ?_, boundary_singleton hc hcr⟩
      have hr : isReturnOrFeed c = true := by simpa [startsBreak] using h
      simp only [isReturnOrFeed, Bool.or_eq_true, beq_iff_eq] at hr
      rcases hr with rfl | rfl
      · decide
      · decide
  | case4 c rest hcr hc =>
      have hr : isReturnOrFeed c = true := by simpa [startsBreak] using h
      exact absurd (isTerminator_of_isReturnOrFeed hr) hc

/-- A line divided into what stands before its carriage return and line feed, and these. A line that
ends in another terminator keeps it in the first part, and a line that is the last one may have no
terminator. -/
inductive LineParts : Text → Text → Prop
  | feed {a e : Text} : Unbroken a → e ∈ lineBreaks → LineParts a e
  | other {a : Text} {c : CodePoint} : Unbroken a → isTerminator c = true →
      isReturnOrFeed c = false → LineParts (a ++ [c]) []
  | last {a : Text} : Unbroken a → LineParts a []

namespace LineParts

/-- A beginning without terminators belongs to the first part. -/
theorem unbroken_append {x a e : Text} (hx : Unbroken x) (h : LineParts a e) :
    LineParts (x ++ a) e := by
  cases h with
  | feed ha he => exact feed (hx.append ha) he
  | other ha hc ho =>
      rw [← List.append_assoc]
      exact other (hx.append ha) hc ho
  | last ha => exact last (hx.append ha)

/-- The first part is also a line without the second. -/
theorem left {a e : Text} (h : LineParts a e) : LineParts a [] := by
  cases h with
  | feed ha _ => exact last ha
  | other ha hc ho => exact other ha hc ho
  | last ha => exact last ha

/-- The two parts are one line. -/
theorem lines_eq {a e : Text} (h : LineParts a e) (hne : a ++ e ≠ []) :
    lines (a ++ e) = [a ++ e] := by
  cases h with
  | feed ha he => exact lines_unbroken_append ha (lines_lineBreak he)
  | @other a c ha hc ho =>
      rw [List.append_nil]
      exact lines_unbroken_append ha (lines_singleton c)
  | last ha =>
      rw [List.append_nil] at hne ⊢
      exact lines_of_unbroken ha hne

/-- The first part does not end in a carriage return or line feed. -/
theorem getLast?_left {a e : Text} (h : LineParts a e) (c : CodePoint)
    (hc : a.getLast? = some c) : isReturnOrFeed c = false := by
  have key : ∀ {b : Text}, Unbroken b → b.getLast? = some c → isReturnOrFeed c = false := by
    intro b hb hl
    have hn : isTerminator c = false := hb c (List.mem_of_getLast? hl)
    exact Bool.eq_false_iff.2 fun hr => by simp [isTerminator_of_isReturnOrFeed hr] at hn
  cases h with
  | feed ha _ => exact key ha hc
  | other _ _ ho =>
      rw [List.getLast?_append] at hc
      obtain rfl : _ = c := by simpa using hc
      exact ho
  | last ha => exact key ha hc

theorem isReturnOrFeed_right {a e : Text} (h : LineParts a e) :
    ∀ c ∈ e, isReturnOrFeed c = true := by
  cases h with
  | feed _ he => exact isReturnOrFeed_of_mem_lineBreak he
  | other _ _ _ => simp
  | last _ => simp

theorem isBlank_right {a e : Text} (h : LineParts a e) : ∀ c ∈ e, isBlank c = true :=
  fun c hc => isBlank_of_isTerminator (isTerminator_of_isReturnOrFeed (h.isReturnOrFeed_right c hc))

/-- Trimming a line gives its first part. -/
theorem trimRight_eq {a e : Text} (h : LineParts a e) :
    trimRight isReturnOrFeed (a ++ e) = a :=
  trimRight_append h.isReturnOrFeed_right h.getLast?_left

/-- What trimming removes is the second part. -/
theorem trailing_eq {a e : Text} (h : LineParts a e) : trailing isReturnOrFeed (a ++ e) = e :=
  trailing_append h.isReturnOrFeed_right h.getLast?_left

end LineParts

/-- A line without carriage return and line feed keeps to itself in front of a text when it ends in
another terminator or the text begins with a break, which then becomes its second part. -/
theorem lines_append_of_lineParts {a t : Text} (ha : LineParts a []) (hne : a ≠ [])
    (h : endsLine a = true ∨ startsBreak t = true) :
    ∃ e rest, lines (a ++ t) = (a ++ e) :: rest ∧ LineParts a e ∧
      ((e = [] ∧ rest = lines t) ∨ (e ∈ lineBreaks ∧ lines t = e :: rest)) := by
  cases ha with
  | feed _ he => exact absurd he (by decide)
  | @other a c ha hc ho =>
      -- the terminator is no carriage return, so nothing in `t` can extend it
      have hb : Boundary (a ++ [c]) t := by
        refine ⟨by rw [isFresh_append (by simp)]; simpa [isFresh] using hc, fun hw => ?_⟩
        obtain rfl : c = '\r' := by simpa using hw.1
        exact absurd ho (by decide)
      have hp : LineParts (a ++ [c]) [] := .other ha hc ho
      have hl := hp.lines_eq (by simp)
      refine ⟨[], lines t, ?_, hp, Or.inl ⟨rfl, rfl⟩⟩
      rw [List.append_nil] at hl ⊢
      rw [lines_append hb, hl]
      rfl
  | last ha =>
      have ht : startsBreak t = true := h.resolve_left (by rw [ha.endsLine_eq_false]; simp)
      by_cases hn : t = []
      · subst hn
        refine ⟨[], [], ?_, .last ha, Or.inl ⟨rfl, rfl⟩⟩
        rw [List.append_nil, lines_of_unbroken ha hne]
      · obtain ⟨e, rest, hl, -, he, -⟩ := lines_of_startsBreak ht hn
        exact ⟨e, lines rest, lines_unbroken_append ha hl, .feed ha he, Or.inr ⟨he, hl⟩⟩

/-- Every line of a text has its two parts. -/
theorem exists_lineParts_of_mem_lines {t line : Text} (h : line ∈ lines t) :
    ∃ a e, line = a ++ e ∧ LineParts a e := by
  fun_induction lines t generalizing line with
  | case1 => cases h
  | case2 t ih =>
      rcases List.mem_cons.1 h with rfl | h
      · exact ⟨[], _, rfl, .feed unbroken_nil (by decide)⟩
      · exact ih h
  | case3 c t hcr hc ih =>
      rcases List.mem_cons.1 h with rfl | h
      · by_cases hr : isReturnOrFeed c = true
        · refine ⟨[], [c], rfl, .feed unbroken_nil ?_⟩
          simp only [isReturnOrFeed, Bool.or_eq_true, beq_iff_eq] at hr
          rcases hr with rfl | rfl
          · decide
          · decide
        · exact ⟨[c], [], rfl, .other (a := []) unbroken_nil hc (by simpa using hr)⟩
      · exact ih h
  | case4 c t hcr hc ih =>
      have hunb : Unbroken [c] := by
        intro d hd
        obtain rfl := List.mem_singleton.1 hd
        simpa using hc
      cases hl : lines t with
      | nil =>
          rw [hl] at h
          obtain rfl := List.mem_singleton.1 h
          exact ⟨[c], [], rfl, .last hunb⟩
      | cons first others =>
          rw [hl] at h ih
          rcases List.mem_cons.1 h with rfl | h
          · obtain ⟨a, e, rfl, hp⟩ := ih List.mem_cons_self
            exact ⟨c :: a, e, rfl, hp.unbroken_append hunb⟩
          · exact ih (List.mem_cons_of_mem _ h)

/-- Trimming a line divides it into its parts. -/
theorem lineParts_of_mem_lines {t line : Text} (h : line ∈ lines t) :
    LineParts (line.trimRight isReturnOrFeed) (line.trailing isReturnOrFeed) := by
  obtain ⟨a, e, rfl, hp⟩ := exists_lineParts_of_mem_lines h
  rw [hp.trimRight_eq, hp.trailing_eq]
  exact hp

end ComponentDocs.Text
