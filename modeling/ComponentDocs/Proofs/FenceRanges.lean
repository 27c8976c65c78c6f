import ComponentDocs.Proofs.FenceLayout
import Mathlib.Data.List.Forall2

/-!
# The lines of fenced blocks

Which lines of a text are fenced blocks is said here by their indices alone (`LineRange.AllFences`): a
run of lines is a fence when its first line opens one and its last line is the next one that closes it,
and an opening line outside of all runs has no closing line behind it. A line of nothing but backticks
both opens and closes, so that the meaning of a line depends on what stands before it and behind it;
even so there is at most one such list of runs (`AllFences.unique`), since a run that began earlier than
the first one would have a stray opening line.

Cutting a text into segments finds this list, and each of its blocks has the text of its lines
(`blocks_are_the_fences_of_the_lines`).
-/

set_option autoImplicit false

namespace ComponentDocs

open Text

/-- A run of lines, by the indices of its first and its last line. -/
@[ext] structure LineRange where
  first : Nat
  last : Nat

namespace LineRange

/-- The index lies in the run. -/
def Covers (r : LineRange) (i : Nat) : Prop :=
  r.first ≤ i ∧ i ≤ r.last

/-- The run is a fence among the given lines: its first line opens one, and its last line is the first
one behind that which closes one. -/
structure IsFence (ls : List Text) (r : LineRange) : Prop where
  first_lt_last : r.first < r.last
  opening : ∃ line, ls[r.first]? = some line ∧ Fence.opens line = true
  closing : ∃ line, ls[r.last]? = some line ∧ Fence.closes line = true
  between : ∀ i line, r.first < i → i < r.last → ls[i]? = some line → Fence.closes line = false

/-- The block has the text of a run of lines: behind the mark its header and newline are the first line,
its body is what stands between, and its closing line is the last one up to carriage return and line
feed. -/
structure Reads (ls : List Text) (r : LineRange) (f : Fence) : Prop where
  opening : ls[r.first]? = some (fenceMark ++ (f.header ++ f.newline))
  header : f.header = (f.header ++ f.newline).trimRight isReturnOrFeed
  body : f.body = ((ls.take r.last).drop (r.first + 1)).flatten
  closing : ∃ line, ls[r.last]? = some line ∧ f.closing = line.trimRight isReturnOrFeed

/-- The runs are all the fences among the lines from an index on: they stand one behind the other, and a
line outside of them that opens a fence has no line behind it that closes one. -/
structure AllFences (ls : List Text) (start : Nat) (ranges : List LineRange) : Prop where
  isFence : ∀ r ∈ ranges, r.IsFence ls
  start_le : ∀ r ∈ ranges, start ≤ r.first
  disjoint : ranges.Pairwise fun r r' => r.last < r'.first
  stray : ∀ i line, start ≤ i → ls[i]? = some line → Fence.opens line = true →
    (∀ r ∈ ranges, ¬ r.Covers i) →
    ∀ j line', i < j → ls[j]? = some line' → Fence.closes line' = false

variable {ls : List Text} {start : Nat} {ranges : List LineRange} {r s : LineRange}

/-! ## At most one list of runs -/

/-- Fences that begin on one line end on one line. -/
theorem IsFence.last_le (hr : r.IsFence ls) (hs : s.IsFence ls) (hfirst : r.first = s.first) :
    r.last ≤ s.last := by
  refine Nat.le_of_not_lt fun hlt => ?_
  obtain ⟨line, hline, hcloses⟩ := hs.closing
  have hopen := hr.between s.last line (hfirst ▸ hs.first_lt_last) hlt hline
  rw [hcloses] at hopen
  cases hopen

theorem IsFence.eq_of_first (hr : r.IsFence ls) (hs : s.IsFence ls) (hfirst : r.first = s.first) :
    r = s := by
  have hlast : r.last = s.last :=
    Nat.le_antisymm (hr.last_le hs hfirst) (hs.last_le hr hfirst.symm)
  exact LineRange.ext hfirst hlast

namespace AllFences

/-- The opening line of every fence lies in one of the runs, as its closing line stands behind it. -/
theorem exists_covers (h : AllFences ls start ranges) (hs : s.IsFence ls) (hstart : start ≤ s.first) :
    ∃ r ∈ ranges, r.Covers s.first := by
  by_contra hno
  push Not at hno
  obtain ⟨line, hline, hopens⟩ := hs.opening
  obtain ⟨line', hline', hcloses⟩ := hs.closing
  have hopen := h.stray s.first line hstart hline hopens hno s.last line' hs.first_lt_last hline'
  rw [hcloses] at hopen
  cases hopen

/-- The first run begins no later than any fence. -/
theorem first_le (h : AllFences ls start (r :: ranges)) (hs : s.IsFence ls)
    (hstart : start ≤ s.first) : r.first ≤ s.first := by
  obtain ⟨r', hmem, hcovers⟩ := h.exists_covers hs hstart
  rcases List.mem_cons.1 hmem with rfl | hmem
  · exact hcovers.1
  · have hbefore := (List.pairwise_cons.1 h.disjoint).1 r' hmem
    have hr := (h.isFence r List.mem_cons_self).first_lt_last
    have hcov := hcovers.1
    omega

/-- Behind the first run, the others are all the fences. -/
theorem tail (h : AllFences ls start (r :: ranges)) : AllFences ls (r.last + 1) ranges where
  isFence r' hr' := h.isFence r' (List.mem_cons_of_mem r hr')
  start_le r' hr' := (List.pairwise_cons.1 h.disjoint).1 r' hr'
  disjoint := (List.pairwise_cons.1 h.disjoint).2
  stray := by
    intro i line hi hline hopens hno
    have hr := (h.isFence r List.mem_cons_self).first_lt_last
    have hstart := h.start_le r List.mem_cons_self
    refine h.stray i line (by omega) hline hopens ?_
    intro r' hr' hcovers
    rcases List.mem_cons.1 hr' with rfl | hr'
    · have hle := hcovers.2
      omega
    · exact hno r' hr' hcovers

/-- A fence in front of all the fences behind it, if no line before it opens one. -/
theorem cons (hr : r.IsFence ls) (hstart : start ≤ r.first)
    (hbefore : ∀ i line, start ≤ i → i < r.first → ls[i]? = some line → Fence.opens line = false)
    (h : AllFences ls (r.last + 1) ranges) : AllFences ls start (r :: ranges) where
  isFence := by
    intro r' hr'
    rcases List.mem_cons.1 hr' with rfl | hr'
    · exact hr
    · exact h.isFence r' hr'
  start_le := by
    intro r' hr'
    rcases List.mem_cons.1 hr' with rfl | hr'
    · exact hstart
    · have hle := h.start_le r' hr'
      have hlt := hr.first_lt_last
      omega
  disjoint := List.pairwise_cons.2 ⟨fun r' hr' => h.start_le r' hr', h.disjoint⟩
  stray := by
    intro i line hi hline hopens hno
    have hfirst : r.first ≤ i := by
      refine Nat.le_of_not_lt fun hlt => ?_
      rw [hbefore i line hi hlt hline] at hopens
      cases hopens
    have hlast : r.last < i := by
      refine Nat.lt_of_not_le fun hle => ?_
      exact hno r List.mem_cons_self ⟨hfirst, hle⟩
    exact h.stray i line hlast hline hopens fun r' hr' => hno r' (List.mem_cons_of_mem r hr')

/-- There is at most one list of runs that are all the fences. -/
theorem unique {others : List LineRange} (h : AllFences ls start ranges)
    (h' : AllFences ls start others) : ranges = others := by
  -- the first runs of both lists begin on one line, since neither can begin later than the other
  induction ranges generalizing start others with
  | nil =>
      cases others with
      | nil => rfl
      | cons s others =>
          have hs := List.mem_cons_self (a := s) (l := others)
          obtain ⟨r, hr, -⟩ := h.exists_covers (h'.isFence s hs) (h'.start_le s hs)
          cases hr
  | cons r ranges ih =>
      have hr := List.mem_cons_self (a := r) (l := ranges)
      cases others with
      | nil =>
          obtain ⟨s, hs, -⟩ := h'.exists_covers (h.isFence r hr) (h.start_le r hr)
          cases hs
      | cons s others =>
          have hs := List.mem_cons_self (a := s) (l := others)
          have hfirst : r.first = s.first :=
            Nat.le_antisymm (h.first_le (h'.isFence s hs) (h'.start_le s hs))
              (h'.first_le (h.isFence r hr) (h.start_le r hr))
          obtain rfl := (h.isFence r hr).eq_of_first (h'.isFence s hs) hfirst
          rw [ih h.tail h'.tail]

/-- A stray opening line stands behind all runs. -/
theorem last_lt_of_stray (h : AllFences ls start ranges) {i : Nat} {line : Text} (hi : start ≤ i)
    (hline : ls[i]? = some line) (hopens : Fence.opens line = true)
    (hno : ∀ r ∈ ranges, ¬ r.Covers i) : ∀ r ∈ ranges, r.last < i := by
  intro r hr
  obtain ⟨line', hline', hcloses⟩ := (h.isFence r hr).closing
  refine Nat.lt_of_not_le fun hle => ?_
  -- the closing line of the run is not behind the opening line, and is not that line itself
  rcases Nat.lt_or_eq_of_le hle with hlt | heq
  · rw [h.stray i line hi hline hopens hno r.last line' hlt hline'] at hcloses
    cases hcloses
  · have hlt := (h.isFence r hr).first_lt_last
    exact hno r hr ⟨by omega, hle⟩

end AllFences

/-! ## The runs of the blocks -/

section Front

variable {opening closing : Text} (front : List Text) {body : List Text} (rest : List Text)

theorem getElem?_closing :
    (front ++ opening :: (body ++ closing :: rest))[front.length + 1 + body.length]? =
      some closing := by
  rw [Nat.add_assoc, Nat.add_comm 1, List.getElem?_append_right (by omega), Nat.add_sub_cancel_left,
    List.getElem?_cons_succ, List.getElem?_append_right (Nat.le_refl _), Nat.sub_self,
    List.getElem?_cons_zero]

/-- The run of an opening line, of lines that do not close it and of one that does. -/
theorem isFence_of_append (ho : Fence.opens opening = true)
    (hb : ∀ line ∈ body, Fence.closes line = false) (hc : Fence.closes closing = true) :
    IsFence (front ++ opening :: (body ++ closing :: rest))
      ⟨front.length, front.length + 1 + body.length⟩ where
  first_lt_last := by
    show front.length < front.length + 1 + body.length
    omega
  opening := ⟨opening, by simp, ho⟩
  closing := ⟨closing, getElem?_closing front rest, hc⟩
  between := by
    intro i line hfirst hlast hline
    obtain ⟨k, rfl⟩ := Nat.exists_eq_add_of_lt hfirst
    have hk : k < body.length := by
      have hlast : front.length + k + 1 < front.length + 1 + body.length := hlast
      omega
    have hline : (front ++ opening :: (body ++ closing :: rest))[front.length + k + 1]? =
      some line := hline
    rw [Nat.add_assoc, List.getElem?_append_right (by omega), Nat.add_sub_cancel_left,
      List.getElem?_cons_succ, List.getElem?_append_left hk] at hline
    exact hb line (List.mem_of_getElem? hline)

/-- The block of these lines has their text. -/
theorem reads_of_append (ho : Fence.opens opening = true) :
    Reads (front ++ opening :: (body ++ closing :: rest))
      ⟨front.length, front.length + 1 + body.length⟩
      (Fence.ofLines opening body.flatten closing) := by
  obtain ⟨first, rfl⟩ := Fence.opens_iff.1 ho
  have hdrop : (fenceMark ++ first).drop fenceMark.length = first := by simp
  have hfirst : (Fence.ofLines (fenceMark ++ first) body.flatten closing).header ++
      (Fence.ofLines (fenceMark ++ first) body.flatten closing).newline = first := by
    unfold Fence.ofLines
    simp only [hdrop]
    exact trimRight_append_trailing isReturnOrFeed first
  refine { opening := ?_, header := ?_, body := ?_,
           closing := ⟨closing, getElem?_closing front rest, rfl⟩ }
  · rw [hfirst]
    simp
  · rw [hfirst, Fence.ofLines, hdrop]
  · have hsplit : front ++ (fenceMark ++ first) :: (body ++ closing :: rest) =
        (front ++ [fenceMark ++ first] ++ body) ++ closing :: rest := by simp
    have hlength : (front ++ [fenceMark ++ first] ++ body).length =
        front.length + 1 + body.length := by simp only [List.length_append, List.length_singleton]
    rw [hsplit, List.take_left' hlength, List.drop_left' (by simp)]
    rfl

/-- Lines behind others of which none that opens a fence has one behind it that closes it. -/
theorem allFences_of_stray {back : List Text} (h : Segment.Stray back) :
    AllFences (front ++ back) front.length [] where
  isFence r hr := by cases hr
  start_le r hr := by cases hr
  disjoint := .nil
  stray := by
    intro i line hi hline hopens _ j line' hj hline'
    rw [List.getElem?_append_right (by omega)] at hline hline'
    obtain ⟨hi', rfl⟩ := List.getElem?_eq_some_iff.1 hline
    obtain ⟨hj', rfl⟩ := List.getElem?_eq_some_iff.1 hline'
    -- a closing line would make the two lines a pair, which stray lines do not have
    have hpair := List.pairwise_iff_getElem.1 h _ _ hi' hj' (by omega)
    exact Bool.eq_false_iff.2 fun hcloses => hpair ⟨hopens, hcloses⟩

/-- Reading the lines behind others finds the fences behind these, each with the text of its lines. -/
theorem exists_allFences (back passed : List Text) :
    ∃ ranges, AllFences (front ++ back) front.length ranges ∧
      List.Forall₂ (Reads (front ++ back)) ranges
        (Segment.fences (Segment.ofLines (.outside passed) back)) := by
  -- by the number of lines that are still to be read: what follows the first fence is shorter
  induction hn : back.length using Nat.strongRecOn generalizing front back passed with
  | ind n ih =>
      rcases Segment.stray_or_fence back with
        hstray | ⟨before, opening, body, closing, rest, rfl, hbefore, ho, hb, hc⟩
      · refine ⟨[], allFences_of_stray front hstray, ?_⟩
        rw [Segment.ofLines_outside_of_stray hstray, Segment.fences_plain]
        exact .nil
      · have hlines : front ++ (before ++ opening :: (body ++ closing :: rest)) =
            (front ++ before) ++ opening :: (body ++ closing :: rest) := by simp
        have hbehind : (front ++ before) ++ opening :: (body ++ closing :: rest) =
            ((front ++ before) ++ opening :: (body ++ [closing])) ++ rest := by simp
        have hlast : ((front ++ before) ++ opening :: (body ++ [closing])).length =
            (front ++ before).length + 1 + body.length + 1 := by
          simp only [List.length_append, List.length_cons, List.length_nil]
          omega
        obtain ⟨ranges, hranges, hreads⟩ :=
          ih rest.length (by simp at hn; omega) ((front ++ before) ++ opening :: (body ++ [closing]))
            rest [closing.trailing isReturnOrFeed] rfl
        rw [hlast, ← hbehind] at hranges
        rw [← hbehind] at hreads
        rw [Segment.ofLines_outside_append hbefore, Segment.ofLines_outside_fence ho hb hc,
          Segment.fences_block, hlines]
        refine ⟨⟨(front ++ before).length, (front ++ before).length + 1 + body.length⟩ :: ranges,
          hranges.cons (isFence_of_append (front ++ before) rest ho hb hc) (by simp) ?_,
          .cons (reads_of_append (front ++ before) rest ho) hreads⟩
        intro i line hi hfirst hline
        rw [List.getElem?_append_left hfirst, List.getElem?_append_right hi] at hline
        exact hbefore line (List.mem_of_getElem? hline)

end Front

end LineRange

/-- The blocks of a text are the fences among its lines. They correspond, in order, to runs of lines that
stand one behind the other: the first line of a run begins with the mark, behind which come the header
and the newline of the block, the last line is the first one behind it that closes a fence, and the body
is what stands between. A line outside of all runs that opens a fence has no closing line behind it, and
stands behind all runs. No other list of runs has these properties, and the label of a block is read
from its header. -/
theorem Segment.blocks_are_the_fences_of_the_lines (t : Text) :
    ∃ ranges, LineRange.AllFences (lines t) 0 ranges ∧
      List.Forall₂ (LineRange.Reads (lines t)) ranges (fences (split t)) ∧
      (∀ i line, (lines t)[i]? = some line → Fence.opens line = true →
        (∀ r ∈ ranges, ¬ r.Covers i) → ∀ r ∈ ranges, r.last < i) ∧
      (∀ others, LineRange.AllFences (lines t) 0 others → others = ranges) ∧
      ∀ f ∈ fences (split t), f.label = Label.parse? f.header := by
  obtain ⟨ranges, hranges, hreads⟩ := LineRange.exists_allFences [] (lines t) []
  refine ⟨ranges, hranges, hreads, ?_, ?_, fun f hf => ((layout_split t).wellFormed f hf).label_eq⟩
  · intro i line hline hopens hno
    exact hranges.last_lt_of_stray (Nat.zero_le i) hline hopens hno
  · intro others hothers
    exact hothers.unique hranges

/-- Of three lines of backticks, the first two are a block and the third is stray. -/
example : Segment.fences (Segment.split "```\n```\n```\n") = [⟨[], "\n", [], "```", none⟩] := by
  decide +kernel

end ComponentDocs
