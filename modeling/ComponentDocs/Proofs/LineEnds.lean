import ComponentDocs.Proofs.LineBoundary
import ComponentDocs.Text.Utf8

/-!
# The ends of lines

A text whose lines end in a line feed has a counterpart in which they end in a carriage return with
a line feed (`withReturns`). Its lines are those of the text, each with its counterpart
(`lines_withReturns`), and reading it with single line feeds gives the text back
(`universalNewlines_withReturns`).

What a line holds without its terminator does not depend on how its end is spelled
(`lineTexts_universalNewlines`). There are as many lines as terminators, and one more if the text
leaves off within a line (`length_lineTexts`); a line feed that ends this last line adds no line
(`lineTexts_concat_feed`).
-/

set_option autoImplicit false

namespace ComponentDocs.Text

/-! ## Carriage returns before line feeds -/

/-- The text with a carriage return put before each line feed. -/
def withReturns (t : Text) : Text :=
  replaceChar '\n' ['\r', '\n'] t

@[simp] theorem withReturns_nil : withReturns [] = [] := rfl

theorem withReturns_append (a b : Text) :
    withReturns (a ++ b) = withReturns a ++ withReturns b :=
  List.flatMap_append

theorem withReturns_flatten (ls : List Text) :
    withReturns ls.flatten = (ls.map withReturns).flatten := by
  induction ls with
  | nil => rfl
  | cons line ls ih =>
      rw [List.flatten_cons, withReturns_append, ih, List.map_cons, List.flatten_cons]

theorem withReturns_feed_cons (rest : Text) :
    withReturns (.char '\n' :: rest) = .char '\r' :: .char '\n' :: withReturns rest := rfl

theorem withReturns_cons_of_ne {c : CodePoint} (hc : c ≠ '\n') (rest : Text) :
    withReturns (c :: rest) = c :: withReturns rest := by
  simp [withReturns, replaceChar, hc]

/-- A text without line feeds is its own counterpart. -/
theorem withReturns_eq_self {t : Text} (h : .char '\n' ∉ t) : withReturns t = t := by
  induction t with
  | nil => rfl
  | cons c rest ih =>
      rw [List.mem_cons, not_or] at h
      rw [withReturns_cons_of_ne (Ne.symm h.1), ih h.2]

@[simp] theorem withReturns_eq_nil_iff {t : Text} : withReturns t = [] ↔ t = [] := by
  constructor
  · intro h
    cases t with
    | nil => rfl
    | cons c rest =>
        by_cases hc : c = '\n'
        · subst hc
          cases h
        · rw [withReturns_cons_of_ne hc] at h
          cases h
  · rintro rfl
    rfl

/-- The counterpart of a text does not begin with a line feed. -/
theorem head?_withReturns_ne (t : Text) : (withReturns t).head? ≠ some (.char '\n') := by
  cases t with
  | nil => simp
  | cons c rest =>
      by_cases hc : c = '\n'
      · subst hc
        rw [withReturns_feed_cons]
        simp
      · rw [withReturns_cons_of_ne hc]
        simpa using hc

theorem consLine_map_withReturns {c : CodePoint} (hc : c ≠ '\n') (ls : List Text) :
    (consLine c ls).map withReturns = consLine c (ls.map withReturns) := by
  cases ls with
  | nil =>
      rw [consLine, List.map_singleton, withReturns_cons_of_ne hc]
      rfl
  | cons line others =>
      rw [consLine, List.map_cons, withReturns_cons_of_ne hc]
      rfl

/-- The lines of the counterpart are the counterparts of the lines. -/
theorem lines_withReturns {t : Text} (h : .char '\r' ∉ t) :
    lines (withReturns t) = (lines t).map withReturns := by
  fun_induction lines t with
  | case1 => rfl
  | case2 rest ih => simp at h
  | case3 c rest hcr hc ih =>
      rw [List.mem_cons, not_or] at h
      by_cases hfeed : c = '\n'
      · subst hfeed
        rw [withReturns_feed_cons, lines_crlf, ih h.2]
        rfl
      · rw [withReturns_cons_of_ne hfeed, lines_cons fun hw => h.1 hw.1.symm, if_pos hc, ih h.2,
          List.map_cons, withReturns_cons_of_ne hfeed, withReturns_nil]
  | case4 c rest hcr hc ih =>
      rw [List.mem_cons, not_or] at h
      have hfeed : c ≠ '\n' := by
        rintro rfl
        exact hc rfl
      rw [withReturns_cons_of_ne hfeed, lines_cons fun hw => h.1 hw.1.symm, if_neg hc, ih h.2,
        consLine_map_withReturns hfeed]

/-! ## Single line feeds -/

theorem universalNewlines_crlf (rest : Text) :
    universalNewlines (.char '\r' :: .char '\n' :: rest) = .char '\n' :: universalNewlines rest := by
  rw [universalNewlines]

/-- A text with single line feeds by its first character, unless that is half of a terminator. -/
theorem universalNewlines_cons {c : CodePoint} {rest : Text}
    (h : ¬ (c = '\r' ∧ rest.head? = some (.char '\n'))) :
    universalNewlines (c :: rest) =
      (if c = '\r' then .char '\n' else c) :: universalNewlines rest := by
  rw [universalNewlines]
  rintro t rfl rfl
  exact h ⟨rfl, rfl⟩

/-- Texts of which the second does not begin with a line feed are read one after the other. -/
theorem universalNewlines_append (a : Text) {b : Text} (hb : b.head? ≠ some (.char '\n')) :
    universalNewlines (a ++ b) = universalNewlines a ++ universalNewlines b := by
  fun_induction universalNewlines a with
  | case1 => rfl
  | case2 rest ih =>
      rw [List.cons_append, List.cons_append, universalNewlines_crlf, ih, List.cons_append]
  | case3 c rest hcr ih =>
      have hsplit : ¬ (c = '\r' ∧ (rest ++ b).head? = some (.char '\n')) := by
        rintro ⟨rfl, hh⟩
        cases rest with
        | nil => exact hb hh
        | cons d rest' =>
            obtain rfl : d = '\n' := by simpa using hh
            exact hcr rest' rfl rfl
      rw [List.cons_append, universalNewlines_cons hsplit, ih, List.cons_append]

/-- A text without carriage returns is read as it is. -/
theorem universalNewlines_eq_self {t : Text} (h : .char '\r' ∉ t) : universalNewlines t = t := by
  induction t with
  | nil => rfl
  | cons c rest ih =>
      rw [List.mem_cons, not_or] at h
      rw [universalNewlines_cons fun hw => h.1 hw.1.symm, if_neg (Ne.symm h.1), ih h.2]

/-- The counterpart of a text is read as the text. -/
theorem universalNewlines_withReturns {t : Text} (h : .char '\r' ∉ t) :
    universalNewlines (withReturns t) = t := by
  induction t with
  | nil => rfl
  | cons c rest ih =>
      rw [List.mem_cons, not_or] at h
      by_cases hc : c = '\n'
      · subst hc
        rw [withReturns_feed_cons, universalNewlines_crlf, ih h.2]
      · rw [withReturns_cons_of_ne hc, universalNewlines_cons fun hw => h.1 hw.1.symm,
          if_neg (Ne.symm h.1), ih h.2]

theorem return_notMem_universalNewlines (t : Text) : .char '\r' ∉ universalNewlines t := by
  fun_induction universalNewlines t with
  | case1 => simp
  | case2 rest ih => simpa using ih
  | case3 c rest _ ih =>
      rw [List.mem_cons, not_or]
      refine ⟨?_, ih⟩
      split
      case isTrue => simp
      case isFalse hc => exact Ne.symm hc

/-! ## Lines without their terminators -/

/-- The lines of a text without their terminators. -/
def lineTexts (t : Text) : List Text :=
  (lines t).map (trimRight isTerminator)

theorem lineTexts_crlf (rest : Text) :
    lineTexts (.char '\r' :: .char '\n' :: rest) = [] :: lineTexts rest := by
  rw [lineTexts, lines_crlf]
  rfl

/-- The lines of a text by its first character, unless that is half of a terminator. -/
theorem lineTexts_cons {c : CodePoint} {rest : Text}
    (h : ¬ (c = '\r' ∧ rest.head? = some (.char '\n'))) :
    lineTexts (c :: rest) =
      if isTerminator c then [] :: lineTexts rest else consLine c (lineTexts rest) := by
  rw [lineTexts, lines_cons h]
  split
  case isTrue hc =>
      have hnil : trimRight isTerminator ([] ++ [c]) = [] := by
        refine trimRight_append ?_ (by simp)
        intro d hd
        rw [List.mem_singleton.1 hd]
        exact hc
      rw [List.map_cons, ← List.nil_append [c], hnil]
      rfl
  case isFalse hc =>
      have hc : isTerminator c = false := by simpa using hc
      rw [lineTexts]
      cases lines rest with
      | nil =>
          rw [consLine, List.map_singleton, trimRight_cons hc]
          rfl
      | cons line others =>
          rw [consLine, List.map_cons, trimRight_cons hc]
          rfl

/-- How the ends of lines are spelled does not matter to what the lines hold. -/
theorem lineTexts_universalNewlines (t : Text) : lineTexts (universalNewlines t) = lineTexts t := by
  fun_induction universalNewlines t with
  | case1 => rfl
  | case2 rest ih =>
      have hfeed : isTerminator (.char '\n') = true := by decide
      rw [lineTexts_cons (by simp), if_pos hfeed, ih, lineTexts_crlf]
  | case3 c rest hcr ih =>
      have hsplit : ¬ (c = '\r' ∧ rest.head? = some (.char '\n')) := by
        rintro ⟨rfl, hh⟩
        cases rest with
        | nil => cases hh
        | cons d rest' =>
            obtain rfl : d = '\n' := by simpa using hh
            exact hcr rest' rfl rfl
      rw [lineTexts_cons hsplit, ← ih]
      split
      case isTrue hc =>
          subst hc
          have hreturn : isTerminator (.char '\r') = true := by decide
          have hfeed : isTerminator (.char '\n') = true := by decide
          rw [lineTexts_cons (by simp), if_pos hfeed, if_pos hreturn]
      case isFalse hc => rw [lineTexts_cons fun hw => hc hw.1]

/-- A text without carriage returns has as many lines as terminators, and one more if it leaves off
within a line. -/
theorem length_lineTexts {t : Text} (h : .char '\r' ∉ t) :
    (lineTexts t).length = t.countP isTerminator + if isFresh t then 0 else 1 := by
  induction t with
  | nil => rfl
  | cons c rest ih =>
      rw [List.mem_cons, not_or] at h
      rw [lineTexts_cons fun hw => h.1 hw.1.symm, List.countP_cons]
      by_cases hnil : rest = []
      · subst hnil
        cases hc : isTerminator c <;> simp [hc, isFresh, lineTexts, lines, consLine]
      · have hfresh : isFresh (c :: rest) = isFresh rest := isFresh_append (a := [c]) hnil
        rw [hfresh]
        split
        case isTrue hc =>
            rw [List.length_cons, ih h.2]
            omega
        case isFalse hc =>
            have hne : lineTexts rest ≠ [] := by simpa [lineTexts] using hnil
            obtain ⟨line, others, hl⟩ := List.exists_cons_of_ne_nil hne
            have ih := ih h.2
            rw [hl] at ih ⊢
            exact ih

/-- A line feed that ends the last line of a text adds no line. -/
theorem lineTexts_concat_feed {t : Text} (h : .char '\r' ∉ t) (hfresh : isFresh t = false) :
    lineTexts (t ++ [.char '\n']) = lineTexts t := by
  induction t with
  | nil => cases hfresh
  | cons c rest ih =>
      rw [List.mem_cons, not_or] at h
      rw [List.cons_append, lineTexts_cons fun hw => h.1 hw.1.symm,
        lineTexts_cons fun hw => h.1 hw.1.symm]
      by_cases hnil : rest = []
      · subst hnil
        have hc : isTerminator c = false := by simpa [isFresh] using hfresh
        rw [if_neg (by simp [hc]), if_neg (by simp [hc])]
        rfl
      · have hsame : isFresh (c :: rest) = isFresh rest := isFresh_append (a := [c]) hnil
        rw [ih h.2 (hsame ▸ hfresh)]

end ComponentDocs.Text
