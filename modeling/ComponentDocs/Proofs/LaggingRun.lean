import ComponentDocs.Proofs.RunningDescription

/-!
# A run that loses line feeds

Two texts grow segment by segment (`Lagging`). A segment adds the same characters to both of them,
or it adds nothing and takes the line feed at the end of the second text, if there is one. The
second text is then the first one with line feeds left out.

A line feed that was taken makes the second text shorter by a line as soon as anything is added
behind it, and from then on for good (`Lagging.isAhead_append`). The two texts have the same lines
in the end exactly when no line feed was taken, or only one at the very end, where it ended a line
that is not empty (`Lagging.lineTexts_eq_iff`).
-/

set_option autoImplicit false

namespace ComponentDocs

namespace Text

/-! ## Counting lines -/

/-- The number of terminators, and one more if the text leaves off within a line. -/
def lineCount (t : Text) : Nat :=
  t.countP isTerminator + if isFresh t then 0 else 1

theorem countP_le_lineCount (t : Text) : t.countP isTerminator ≤ lineCount t :=
  Nat.le_add_right _ _

theorem lineCount_of_isFresh {t : Text} (h : isFresh t = true) :
    lineCount t = t.countP isTerminator := by
  rw [lineCount, if_pos h, Nat.add_zero]

theorem countP_concat_feed (t : Text) :
    (t ++ [CodePoint.char '\n']).countP isTerminator = t.countP isTerminator + 1 :=
  List.countP_append

theorem isFresh_concat_feed (t : Text) : isFresh (t ++ [.char '\n']) = true := by
  rw [isFresh_append (by simp)]
  rfl

theorem chopFeed_sublist (t : Text) : (chopFeed t).Sublist t := by
  unfold chopFeed
  split
  case isTrue => exact List.dropLast_sublist t
  case isFalse => exact List.Sublist.refl t

theorem countP_chopFeed_le (t : Text) :
    (chopFeed t).countP isTerminator ≤ t.countP isTerminator :=
  (chopFeed_sublist t).countP_le

theorem lineCount_chopFeed_le (t : Text) : lineCount (chopFeed t) ≤ lineCount t := by
  by_cases hlast : t.getLast? = some (.char '\n')
  · obtain ⟨x, rfl⟩ := List.getLast?_eq_some_iff.1 hlast
    rw [chopFeed_concat, lineCount_of_isFresh (isFresh_concat_feed x), countP_concat_feed, lineCount]
    split <;> omega
  · rw [chopFeed_of_ne hlast]

/-- The first text has more terminators and more lines than the second. -/
structure IsAhead (a b : Text) : Prop where
  terminators : b.countP isTerminator < a.countP isTerminator
  lines : lineCount b < lineCount a

/-- A text that has more terminators has more lines as soon as the same is added to both. -/
theorem isAhead_append {a b x : Text} (h : b.countP isTerminator < a.countP isTerminator)
    (hx : x ≠ []) : IsAhead (a ++ x) (b ++ x) := by
  have hcount : (b ++ x).countP isTerminator < (a ++ x).countP isTerminator := by
    rw [List.countP_append, List.countP_append]
    omega
  refine ⟨hcount, ?_⟩
  rw [lineCount, lineCount, isFresh_append hx, isFresh_append hx]
  omega

theorem IsAhead.chopFeed {a b : Text} (h : IsAhead a b) : IsAhead a (chopFeed b) :=
  ⟨(countP_chopFeed_le b).trans_lt h.terminators, (lineCount_chopFeed_le b).trans_lt h.lines⟩

theorem IsAhead.lineTexts_ne {a b : Text} (h : IsAhead a b) (ha : .char '\r' ∉ a)
    (hb : .char '\r' ∉ b) : lineTexts a ≠ lineTexts b := by
  intro heq
  have hlength := congrArg List.length heq
  rw [length_lineTexts ha, length_lineTexts hb] at hlength
  exact absurd hlength (Nat.ne_of_gt h.lines)

end Text

open Text

/-! ## Two runs -/

/-- The first run gives the whole text, and the second one loses line feeds: each segment adds the
same to both or nothing to either, and in the latter case the second run loses the line feed that it
ends in. -/
structure Lagging (adds : List Segment → Segment → Bool) (whole lagging : List Segment → Text)
    (segments : List Segment) : Prop where
  start : lagging [] = whole []
  added : ∀ before s, before ++ [s] <+: segments → adds before s = true →
    ∃ x, x ≠ [] ∧ whole (before ++ [s]) = whole before ++ x ∧
      lagging (before ++ [s]) = lagging before ++ x
  taken : ∀ before s, before ++ [s] <+: segments → adds before s = false →
    whole (before ++ [s]) = whole before ∧ lagging (before ++ [s]) = chopFeed (lagging before)

/-- The line feeds that are taken are not missed: where a segment takes one, the text before it is
within a line, and nothing is added behind it. -/
def Unmissed (adds : List Segment → Segment → Bool) (lagging : List Segment → Text)
    (segments : List Segment) : Prop :=
  ∀ before s after, segments = before ++ s :: after → adds before s = false →
    (lagging before).getLast? = some (.char '\n') →
      isFresh (lagging before).dropLast = false ∧
        ∀ mid s' rest, after = mid ++ s' :: rest → adds (before ++ s :: mid) s' = false

theorem Unmissed.of_append {adds : List Segment → Segment → Bool} {lagging : List Segment → Text}
    {segments behind : List Segment} (h : Unmissed adds lagging (segments ++ behind)) :
    Unmissed adds lagging segments := by
  rintro before s after rfl hadds hlast
  obtain ⟨hfresh, hbehind⟩ := h before s (after ++ behind) (by simp) hadds hlast
  refine ⟨hfresh, ?_⟩
  rintro mid s' rest rfl
  exact hbehind mid s' (rest ++ behind) (by simp)

namespace Lagging

variable {adds : List Segment → Segment → Bool} {whole lagging : List Segment → Text}
  {segments : List Segment}

theorem of_append {behind : List Segment} (h : Lagging adds whole lagging (segments ++ behind)) :
    Lagging adds whole lagging segments where
  start := h.start
  added before s hb := h.added before s (hb.trans (List.prefix_append _ _))
  taken before s hb := h.taken before s (hb.trans (List.prefix_append _ _))

/-- What one step keeps of the two texts, the run keeps. -/
theorem keeps {P : Text → Text → Prop} (hadd : ∀ a b x, x ≠ [] → P a b → P (a ++ x) (b ++ x))
    (htake : ∀ a b, P a b → P a (chopFeed b)) {mid : List Segment}
    (h : Lagging adds whole lagging (segments ++ mid)) (hP : P (whole segments) (lagging segments)) :
    P (whole (segments ++ mid)) (lagging (segments ++ mid)) := by
  induction mid using List.reverseRecOn with
  | nil => simpa using hP
  | append_singleton mid s ih =>
      rw [← List.append_assoc] at h ⊢
      have hmid := ih h.of_append
      cases hadds : adds (segments ++ mid) s with
      | true =>
          obtain ⟨x, hx, hwhole, hlagging⟩ := h.added _ s (List.prefix_refl _) hadds
          rw [hwhole, hlagging]
          exact hadd _ _ x hx hmid
      | false =>
          obtain ⟨hwhole, hlagging⟩ := h.taken _ s (List.prefix_refl _) hadds
          rw [hwhole, hlagging]
          exact htake _ _ hmid

/-- The lagging text is the whole one with characters left out. -/
theorem sublist (h : Lagging adds whole lagging segments) :
    (lagging segments).Sublist (whole segments) := by
  have hstart : (lagging []).Sublist (whole []) := by rw [h.start]
  refine keeps (P := fun a b => b.Sublist a) ?_ ?_ h hstart
  · exact fun a b x _ hab => hab.append (List.Sublist.refl x)
  · exact fun a b hab => (chopFeed_sublist b).trans hab

/-- A lead in terminators is kept. -/
theorem countP_lt_append {mid : List Segment} (h : Lagging adds whole lagging (segments ++ mid))
    (hlt : (lagging segments).countP isTerminator < (whole segments).countP isTerminator) :
    (lagging (segments ++ mid)).countP isTerminator <
      (whole (segments ++ mid)).countP isTerminator := by
  refine keeps (P := fun a b => b.countP isTerminator < a.countP isTerminator) ?_ ?_ h hlt
  · exact fun a b x hx hab => (Text.isAhead_append hab hx).terminators
  · exact fun a b hab => (countP_chopFeed_le b).trans_lt hab

/-- So is a lead in lines. -/
theorem isAhead_append {mid : List Segment} (h : Lagging adds whole lagging (segments ++ mid))
    (hahead : IsAhead (whole segments) (lagging segments)) :
    IsAhead (whole (segments ++ mid)) (lagging (segments ++ mid)) :=
  keeps (fun _ _ _ hx hab => Text.isAhead_append hab.terminators hx) (fun _ _ hab => hab.chopFeed) h
    hahead

/-- A line feed that is missed puts the whole text ahead. -/
theorem isAhead_of_not_unmissed (h : Lagging adds whole lagging segments)
    (hmissed : ¬ Unmissed adds lagging segments) :
    IsAhead (whole segments) (lagging segments) := by
  unfold Unmissed at hmissed
  push Not at hmissed
  obtain ⟨before, s, after, rfl, hadds, hlast, hcond⟩ := hmissed
  obtain ⟨x, hx⟩ := List.getLast?_eq_some_iff.1 hlast
  rw [List.append_cons] at h ⊢
  -- right behind the segment that takes the line feed, the whole text has a terminator more
  obtain ⟨hwhole, hlagging⟩ := h.taken before s (List.prefix_append _ _) hadds
  rw [hx, chopFeed_concat] at hlagging
  have hcount : (lagging (before ++ [s])).countP isTerminator <
      (whole (before ++ [s])).countP isTerminator := by
    have hle := h.of_append.of_append.sublist.countP_le (p := isTerminator)
    rw [hx, countP_concat_feed] at hle
    rw [hwhole, hlagging]
    omega
  cases hfresh : isFresh x with
  | true =>
      refine h.isAhead_append ⟨hcount, ?_⟩
      rw [hlagging, lineCount_of_isFresh hfresh, ← hlagging]
      exact hcount.trans_le (countP_le_lineCount _)
  | false =>
      rw [hx, List.dropLast_concat] at hcond
      obtain ⟨mid, s', rest, rfl, hadds'⟩ := hcond hfresh
      rw [List.append_cons mid, ← List.append_assoc, ← List.append_assoc] at h ⊢
      refine h.isAhead_append ?_
      have hadds' : adds (before ++ [s] ++ mid) s' = true := by simpa using hadds'
      obtain ⟨y, hy, hwhole', hlagging'⟩ := h.added _ s' (List.prefix_append _ _) hadds'
      rw [hwhole', hlagging']
      exact Text.isAhead_append (h.of_append.of_append.countP_lt_append hcount) hy

/-- Where no line feed is missed, the texts are equal, or one that was taken is all that separates
them. -/
theorem eq_or_eq_concat (h : Lagging adds whole lagging segments)
    (hunmissed : Unmissed adds lagging segments) :
    whole segments = lagging segments ∨
      (whole segments = lagging segments ++ [.char '\n'] ∧ isFresh (lagging segments) = false ∧
        ∃ before s after, segments = before ++ s :: after ∧ adds before s = false ∧
          (lagging before).getLast? = some (.char '\n')) := by
  induction segments using List.reverseRecOn with
  | nil => exact Or.inl h.start.symm
  | append_singleton before s ih =>
      cases hadds : adds before s with
      | true =>
          obtain ⟨x, -, hwhole, hlagging⟩ := h.added before s (List.prefix_refl _) hadds
          rcases ih h.of_append hunmissed.of_append with heq | ⟨-, -, b, s₀, after, rfl, hs₀, hlast⟩
          · rw [hwhole, hlagging, heq]
            exact Or.inl rfl
          · -- a line feed was taken before, so nothing can be added any more
            obtain ⟨-, hbehind⟩ := hunmissed b s₀ (after ++ [s]) (by simp) hs₀ hlast
            have hno := hbehind after s [] rfl
            rw [hadds] at hno
            cases hno
      | false =>
          obtain ⟨hwhole, hlagging⟩ := h.taken before s (List.prefix_refl _) hadds
          rw [hwhole, hlagging]
          rcases ih h.of_append hunmissed.of_append with
            heq | ⟨heq, hfresh, b, s₀, after, rfl, hs₀, hlast⟩
          · by_cases hlast : (lagging before).getLast? = some (.char '\n')
            · have hfresh := (hunmissed before s [] rfl hadds hlast).1
              obtain ⟨x, hx⟩ := List.getLast?_eq_some_iff.1 hlast
              rw [heq, hx, chopFeed_concat]
              rw [hx, List.dropLast_concat] at hfresh
              exact Or.inr ⟨rfl, hfresh, before, s, [], rfl, hadds, hlast⟩
            · rw [chopFeed_of_ne hlast]
              exact Or.inl heq
          · have hnot : (lagging (b ++ s₀ :: after)).getLast? ≠ some (.char '\n') := by
              intro hfeed
              rw [isFresh, hfeed] at hfresh
              exact absurd hfresh (by decide)
            rw [chopFeed_of_ne hnot]
            exact Or.inr ⟨heq, hfresh, b, s₀, after ++ [s], by simp, hs₀, hlast⟩

/-- The two texts have the same lines exactly when no line feed is missed. -/
theorem lineTexts_eq_iff (h : Lagging adds whole lagging segments)
    (hreturn : .char '\r' ∉ whole segments) :
    lineTexts (whole segments) = lineTexts (lagging segments) ↔ Unmissed adds lagging segments := by
  have hreturn' : .char '\r' ∉ lagging segments := fun hmem => hreturn (h.sublist.subset hmem)
  constructor
  · intro heq
    by_contra hmissed
    exact (h.isAhead_of_not_unmissed hmissed).lineTexts_ne hreturn hreturn' heq
  · intro hunmissed
    rcases h.eq_or_eq_concat hunmissed with heq | ⟨heq, hfresh, -⟩
    · rw [heq]
    · rw [heq, lineTexts_concat_feed hreturn' hfresh]

end Lagging

end ComponentDocs
