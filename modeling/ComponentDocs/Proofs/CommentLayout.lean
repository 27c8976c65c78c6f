import ComponentDocs.Comment
import ComponentDocs.Proofs.Trimming
import Mathlib.Data.List.Infix
import Mathlib.Tactic.MkIffOfInductiveProp

/-!
# The layout of comments

A source text is a stretch of other text followed by comments, each with another stretch behind it. The
reader of characters finds the inside of each comment (`insides_commented`), whatever stands at the
junctions: a stretch may end in a slash before a comment, the inside of a comment may end in asterisks
or begin with a slash, and a stretch may begin with an asterisk behind the slash that closes a comment.
All that is asked is that no stretch holds the mark that opens a comment and no inside holds the mark
that closes it.

What a comment documents is its inside without the blank characters and asterisks at its edges
(`trim_padded`).
-/

set_option autoImplicit false

namespace ComponentDocs

namespace Text

/-- A text does not hold a pair of characters: it does not begin with it, and its rest does not hold
it. -/
theorem not_pair_infix_cons {a b c : CodePoint} {t : Text} (h : ¬ [a, b] <:+: c :: t) :
    ¬ (c = a ∧ t.head? = some b) ∧ ¬ [a, b] <:+: t := by
  rw [List.infix_cons_iff, not_or] at h
  refine ⟨?_, h.2⟩
  rintro ⟨rfl, hb⟩
  obtain ⟨rest, rfl⟩ := List.head?_eq_some_iff.1 hb
  exact h.1 ⟨rest, rfl⟩

/-- The junction of two texts does not make up a pair when the second does not begin with its second
half. -/
theorem not_pair_of_append {a b c : CodePoint} {t rest : Text} (h : ¬ (c = a ∧ t.head? = some b))
    (hrest : rest.head? ≠ some b) : ¬ (c = a ∧ (t ++ rest).head? = some b) := by
  rintro ⟨hc, hb⟩
  cases t with
  | nil => exact hrest hb
  | cons d t => exact h ⟨hc, hb⟩

end Text

namespace Comment

open Text

/-- The mark that opens a comment. -/
def opener : Text := ['/', '*']

/-- The mark that closes a comment. -/
def closer : Text := ['*', '/']

/-! ## Reading characters -/

/-- The mark that opens a comment does not begin with an asterisk. -/
theorem head?_opener_append (t : Text) : (opener ++ t).head? ≠ some (.char '*') := by
  simp [opener]

theorem insidesFrom_outside_cons {c : CodePoint} {rest : Text}
    (h : ¬ (c = '/' ∧ rest.head? = some (.char '*'))) :
    insidesFrom .outside (c :: rest) = insidesFrom .outside rest := by
  rw [insidesFrom]
  rintro t rfl rfl
  exact h ⟨rfl, rfl⟩

theorem insidesFrom_inside_cons {c : CodePoint} {rest : Text}
    (h : ¬ (c = '*' ∧ rest.head? = some (.char '/'))) (passed : Text) :
    insidesFrom (.inside passed) (c :: rest) = insidesFrom (.inside (c :: passed)) rest := by
  rw [insidesFrom]
  rintro t rfl rfl
  exact h ⟨rfl, rfl⟩

/-- Text in which no comment opens is passed over. -/
theorem insidesFrom_outside_append {gap rest : Text} (hgap : ¬ opener <:+: gap)
    (hrest : rest.head? ≠ some (.char '*')) :
    insidesFrom .outside (gap ++ rest) = insidesFrom .outside rest := by
  induction gap with
  | nil => rfl
  | cons c gap ih =>
      obtain ⟨hpair, hgap⟩ := not_pair_infix_cons hgap
      rw [List.cons_append, insidesFrom_outside_cons (not_pair_of_append hpair hrest), ih hgap]

/-- Text in which no comment closes belongs to the comment that is open. -/
theorem insidesFrom_inside_append {inner rest : Text} (hinner : ¬ closer <:+: inner)
    (hrest : rest.head? ≠ some (.char '/')) (passed : Text) :
    insidesFrom (.inside passed) (inner ++ rest) =
      insidesFrom (.inside (inner.reverse ++ passed)) rest := by
  induction inner generalizing passed with
  | nil => rfl
  | cons c inner ih =>
      obtain ⟨hpair, hinner⟩ := not_pair_infix_cons hinner
      rw [List.cons_append, insidesFrom_inside_cons (not_pair_of_append hpair hrest), ih hinner,
        List.reverse_cons, List.append_assoc, List.singleton_append]

/-- The inside of a comment ends at the first mark that closes it. -/
theorem insidesFrom_comment {inner : Text} (hinner : ¬ closer <:+: inner) (rest : Text) :
    insidesFrom .outside (opener ++ (inner ++ (closer ++ rest))) =
      inner :: insidesFrom .outside rest := by
  have hopen : insidesFrom .outside (opener ++ (inner ++ (closer ++ rest))) =
      insidesFrom (.inside []) (inner ++ (closer ++ rest)) := by
    rw [opener, List.cons_append, List.cons_append, List.nil_append, insidesFrom]
  have hclose : insidesFrom (.inside inner.reverse) (closer ++ rest) =
      inner.reverse.reverse :: insidesFrom .outside rest := by
    rw [closer, List.cons_append, List.cons_append, List.nil_append, insidesFrom]
  rw [hopen, insidesFrom_inside_append hinner (by simp [closer]), List.append_nil, hclose,
    List.reverse_reverse]

/-! ## A text and its comments -/

/-- A comment with the stretch of other text behind it. The inside of the comment is a document with
padding at either end. -/
structure Remark where
  front : Text
  document : Text
  back : Text
  gap : Text

namespace Remark

/-- The inside of the comment. -/
def inner (r : Remark) : Text :=
  r.front ++ r.document ++ r.back

/-- The comment and the text behind it. -/
def render (r : Remark) : Text :=
  opener ++ (r.inner ++ (closer ++ r.gap))

/-- What makes a remark readable: the padding consists of characters that are dropped at edges, the
document does not begin or end in one, nothing inside closes the comment, and nothing behind it opens
another. -/
@[mk_iff] structure Proper (r : Remark) : Prop where
  front_edge : ∀ c ∈ r.front, isEdge c = true
  back_edge : ∀ c ∈ r.back, isEdge c = true
  document_head : ∀ c ∈ r.document.head?, isEdge c = false
  document_last : ∀ c ∈ r.document.getLast?, isEdge c = false
  inner_open : ¬ closer <:+: r.inner
  gap_quiet : ¬ opener <:+: r.gap

instance (r : Remark) : Decidable r.Proper :=
  decidable_of_iff _ r.proper_iff.symm

end Remark

/-- A text with a stretch in front of its comments. -/
def commented (gap : Text) (remarks : List Remark) : Text :=
  gap ++ remarks.flatMap Remark.render

theorem head?_flatMap_render (remarks : List Remark) :
    (remarks.flatMap Remark.render).head? ≠ some (.char '*') := by
  cases remarks with
  | nil => simp
  | cons r remarks =>
      rw [List.flatMap_cons, Remark.render, List.append_assoc]
      exact head?_opener_append _

/-- The insides of the comments are found in order. -/
theorem insides_commented {gap : Text} (hgap : ¬ opener <:+: gap) {remarks : List Remark}
    (h : ∀ r ∈ remarks, r.Proper) : insides (commented gap remarks) = remarks.map Remark.inner := by
  unfold insides commented
  -- the stretch in front of the first comment is passed over, as is the one behind each comment
  induction remarks generalizing gap with
  | nil =>
      rw [insidesFrom_outside_append hgap (by simp)]
      rfl
  | cons r remarks ih =>
      have hr : r.Proper := h r List.mem_cons_self
      rw [insidesFrom_outside_append hgap (head?_flatMap_render _), List.flatMap_cons,
        Remark.render, List.append_assoc, List.append_assoc, List.append_assoc,
        insidesFrom_comment hr.inner_open, ih hr.gap_quiet fun r' hr' => h r' (by simp [hr'])]
      rfl

/-! ## Edges -/

/-- A text that begins and ends outside of a class is what trimming leaves of it between padding in
the class. -/
theorem trim_padded {p : CodePoint → Bool} {front t back : Text} (hfront : ∀ c ∈ front, p c = true)
    (hback : ∀ c ∈ back, p c = true) (hhead : ∀ c ∈ t.head?, p c = false)
    (hlast : ∀ c ∈ t.getLast?, p c = false) : trim p (front ++ t ++ back) = t := by
  rw [trim, trimLeft, List.append_assoc, List.dropWhile_append_of_pos hfront]
  cases t with
  | nil =>
      have hnil : back.dropWhile p = [] := List.dropWhile_eq_nil_iff.2 hback
      rw [List.nil_append, hnil]
      rfl
  | cons c t =>
      have hc : p c = false := hhead c rfl
      rw [List.cons_append, List.dropWhile_cons_of_neg (by simp [hc]), ← List.cons_append]
      exact trimRight_append hback hlast

/-- The blocks of a text are the documents in its comments. -/
theorem blocks_commented {gap : Text} (hgap : ¬ opener <:+: gap) {remarks : List Remark}
    (h : ∀ r ∈ remarks, r.Proper) :
    blocks (commented gap remarks) = remarks.map Remark.document := by
  rw [blocks, insides_commented hgap h, List.map_map]
  refine List.map_congr_left fun r hr => ?_
  have hr := h r hr
  exact trim_padded hr.front_edge hr.back_edge hr.document_head hr.document_last

end Comment

end ComponentDocs
