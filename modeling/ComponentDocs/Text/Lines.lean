import ComponentDocs.Text.Basic

/-!
# Lines

A text is cut into lines after each terminator. Carriage return, line feed, vertical tabulator, form
feed, the file, group and record separators, the next-line character and the line and paragraph
separators end a line; a carriage return directly before a line feed forms one terminator with it.

The cut loses nothing (`flatten_lines`) and no line is empty (`ne_nil_of_mem_lines`).
-/

set_option autoImplicit false

namespace ComponentDocs.Text

/-- Whether a character ends a line. -/
def isTerminator (c : CodePoint) : Bool :=
  let n := c.toNat
  (10 ≤ n && n ≤ 13) || (28 ≤ n && n ≤ 30) || n == 0x85 || n == 0x2028 || n == 0x2029

/-- Carriage return and line feed, the terminators that headers and closing lines are trimmed of. -/
def isReturnOrFeed (c : CodePoint) : Bool :=
  c == '\r' || c == '\n'

/-- The text up to and including the first terminator put in front of the lines that follow. -/
def consLine (c : CodePoint) : List Text → List Text
  | [] => [[c]]
  | line :: others => (c :: line) :: others

/-- The lines of a text, each with its terminator. -/
def lines : Text → List Text
  | [] => []
  | '\r' :: '\n' :: rest => ['\r', '\n'] :: lines rest
  | c :: rest => if isTerminator c then [c] :: lines rest else consLine c (lines rest)

/-- Putting a character in front of the first line puts it in front of the text. -/
@[simp] theorem flatten_consLine (c : CodePoint) (ls : List Text) :
    (consLine c ls).flatten = c :: ls.flatten := by
  cases ls <;> rfl

/-- Cutting into lines loses nothing. -/
@[simp] theorem flatten_lines (t : Text) : (lines t).flatten = t := by
  fun_induction lines t with
  | case1 => rfl
  | case2 rest ih => simp [ih]
  | case3 c rest _ h ih => simp [ih]
  | case4 c rest _ h ih => simp [ih]

/-- A line has at least one character. -/
theorem ne_nil_of_mem_lines {t line : Text} (h : line ∈ lines t) : line ≠ [] := by
  fun_induction lines t with
  | case1 => simp at h
  | case2 rest ih =>
      rcases List.mem_cons.1 h with rfl | h
      · simp
      · exact ih h
  | case3 c rest _ _ ih =>
      rcases List.mem_cons.1 h with rfl | h
      · simp
      · exact ih h
  | case4 c rest _ _ ih =>
      revert ih h
      cases lines rest with
      | nil => simp_all [consLine]
      | cons first others =>
          intro ih h
          rcases List.mem_cons.1 h with rfl | h
          · simp
          · exact ih (List.mem_cons_of_mem _ h)

end ComponentDocs.Text
