import ComponentDocs.Extension
import ComponentDocs.Proofs.JoinedSources
import Mathlib.Data.List.Forall2

/-!
# The leftmost comments of a text

A text is divided by its comments into stretches of other text, the insides of the comments between them,
and a rest. When each comment begins at the first mark that opens one and ends at the first mark behind it
that closes one, and when no comment is left in the rest, the division is `Leftmost`. Every text has such a
division, and only one (`exists_leftmost`, `Leftmost.unique`), since a pair of different characters has
only one first place in a text (`Text.first_pair_unique`). The reader of characters finds it
(`insides_leftmost`).

A block is what is left between padding of blank characters and asterisks (`IsCore`); this, too, can be
cut out in one way only (`isCore_iff`). `comments_are_divided_in_one_way` puts the two together.
-/

set_option autoImplicit false

namespace ComponentDocs

namespace Text

/-! ## The first place of a pair -/

/-- A text with a pair of different characters behind it cannot be prolonged to another one in front of
the pair, unless it then holds the pair. -/
theorem eq_nil_of_pair_behind {a b : CodePoint} (hab : a ≠ b) {front more rest rest' : Text}
    (hfront : ¬ [a, b] <:+: front ++ more) (h : [a, b] ++ rest = more ++ ([a, b] ++ rest')) :
    more = [] := by
  cases more with
  | nil => rfl
  | cons c more =>
      exfalso
      obtain ⟨rfl, hbehind⟩ := List.cons.inj h
      cases more with
      | nil => exact hab (List.cons.inj hbehind).1.symm
      | cons d more =>
          obtain ⟨rfl, -⟩ := List.cons.inj hbehind
          exact hfront ⟨front, more, by simp⟩

/-- There is only one place in a text where a pair of different characters stands with no such pair in
front of it. -/
theorem first_pair_unique {a b : CodePoint} (hab : a ≠ b) {front rest front' rest' : Text}
    (hfront : ¬ [a, b] <:+: front) (hfront' : ¬ [a, b] <:+: front')
    (h : front ++ ([a, b] ++ rest) = front' ++ ([a, b] ++ rest')) :
    front = front' ∧ rest = rest' := by
  have hsame : front = front' := by
    rcases List.append_eq_append_iff.1 h with ⟨more, rfl, hmore⟩ | ⟨more, rfl, hmore⟩
    · rw [eq_nil_of_pair_behind hab hfront' hmore, List.append_nil]
    · rw [eq_nil_of_pair_behind hab hfront hmore, List.append_nil]
  subst hsame
  exact ⟨rfl, List.append_cancel_left (List.append_cancel_left h)⟩

end Text

namespace Comment

open Text

/-! ## Divisions -/

/-- A stretch of other text and the inside of the comment behind it. -/
structure Passage where
  gap : Text
  inner : Text

/-- A text divided by comments: stretches with the comments behind them, and the rest. -/
structure Division where
  passages : List Passage
  rest : Text

/-- No mark that opens a comment has one behind it that closes it. -/
def Commentless (t : Text) : Prop :=
  ∀ front behind, t = front ++ (opener ++ behind) → ¬ closer <:+: behind

/-- The stretch opens no comment, and the inside of the comment does not close it. -/
structure Passage.Proper (p : Passage) : Prop where
  gap_quiet : ¬ opener <:+: p.gap
  inner_open : ¬ closer <:+: p.inner

namespace Division

/-- The text that is divided. -/
def text (d : Division) : Text :=
  d.passages.foldr (fun p behind => p.gap ++ (opener ++ (p.inner ++ (closer ++ behind)))) d.rest

/-- Each comment begins and ends as early as it can, and the rest has none. -/
structure Leftmost (d : Division) : Prop where
  passages : ∀ p ∈ d.passages, p.Proper
  rest : Commentless d.rest

theorem text_cons (p : Passage) (ps : List Passage) (rest : Text) :
    text ⟨p :: ps, rest⟩ = p.gap ++ (opener ++ (p.inner ++ (closer ++ text ⟨ps, rest⟩))) := rfl

/-- What is put behind a text comes to its rest. -/
theorem text_append (ps : List Passage) (rest behind : Text) :
    text ⟨ps, rest⟩ ++ behind = text ⟨ps, rest ++ behind⟩ := by
  induction ps with
  | nil => rfl
  | cons p ps ih =>
      rw [text_cons, text_cons, ← ih]
      simp only [List.append_assoc]

theorem Leftmost.head {p : Passage} {ps : List Passage} {rest : Text}
    (h : Leftmost ⟨p :: ps, rest⟩) : p.Proper :=
  h.passages p List.mem_cons_self

theorem Leftmost.tail {p : Passage} {ps : List Passage} {rest : Text}
    (h : Leftmost ⟨p :: ps, rest⟩) : Leftmost ⟨ps, rest⟩ :=
  ⟨fun q hq => h.passages q (List.mem_cons_of_mem p hq), h.rest⟩

end Division

/-- A text that opens no comment has none. -/
theorem commentless_of_quiet {t : Text} (h : ¬ opener <:+: t) : Commentless t := by
  rintro front behind rfl
  exact absurd ⟨front, behind, by simp⟩ h

/-- A text whose first comment is never closed has none. -/
theorem commentless_of_open {gap inner : Text} (hgap : ¬ opener <:+: gap)
    (hinner : ¬ closer <:+: inner) : Commentless (gap ++ (opener ++ inner)) := by
  intro front behind h hcloser
  rcases List.append_eq_append_iff.1 h with ⟨more, rfl, hmore⟩ | ⟨more, rfl, hmore⟩
  · -- the mark stands behind the first one, and so does what follows it
    have hsuffix : behind <:+ inner := by
      cases more with
      | nil => exact ⟨[], (List.append_cancel_left hmore).symm⟩
      | cons c more =>
          cases more with
          | nil => exact absurd (List.cons.inj (List.cons.inj hmore).2).1 (by decide)
          | cons d more =>
              refine ⟨more ++ opener, ?_⟩
              rw [List.append_assoc]
              exact (List.cons.inj (List.cons.inj hmore).2).2.symm
    exact hinner (hcloser.trans hsuffix.isInfix)
  · have hnil : more = [] := eq_nil_of_pair_behind (by decide) hgap hmore
    subst hnil
    rw [List.append_cancel_left hmore] at hcloser
    exact hinner hcloser

/-- A text that leaves no comment open ends in a stretch that opens none. -/
theorem Closed.exists_passages {t : Text} (h : Closed t) :
    ∃ ps gap, t = Division.text ⟨ps, gap⟩ ∧ (∀ p ∈ ps, p.Proper) ∧ ¬ opener <:+: gap := by
  induction h with
  | @quiet gap hgap => exact ⟨[], gap, rfl, by simp, hgap⟩
  | @comment gap inner rest hgap hinner _ ih =>
      obtain ⟨ps, last, rfl, hps, hlast⟩ := ih
      have hp : Passage.Proper ⟨gap, inner⟩ := ⟨hgap, hinner⟩
      exact ⟨⟨gap, inner⟩ :: ps, last, rfl, List.forall_mem_cons.2 ⟨hp, hps⟩, hlast⟩

/-- Every text has a leftmost division. -/
theorem exists_leftmost (t : Text) : ∃ d : Division, d.text = t ∧ d.Leftmost := by
  rcases closed_or_open t with hclosed | ⟨front, inner, hfront, hinner, rfl⟩
  · obtain ⟨ps, gap, rfl, hps, hgap⟩ := hclosed.exists_passages
    exact ⟨⟨ps, gap⟩, rfl, hps, commentless_of_quiet hgap⟩
  · -- a comment that is left open belongs to the rest, together with the stretch before it
    obtain ⟨ps, gap, rfl, hps, hgap⟩ := hfront.exists_passages
    refine ⟨⟨ps, gap ++ (opener ++ inner)⟩, ?_, hps, commentless_of_open hgap hinner⟩
    rw [Division.text_append]

/-- The rest of a division is not divided further. -/
theorem Commentless.ne_text {t : Text} (h : Commentless t) (p : Passage) (ps : List Passage)
    (rest : Text) : t ≠ Division.text ⟨p :: ps, rest⟩ := by
  intro heq
  rw [Division.text_cons] at heq
  refine h p.gap _ heq ⟨p.inner, Division.text ⟨ps, rest⟩, ?_⟩
  rw [List.append_assoc]

/-- A text has no two leftmost divisions. -/
theorem Division.Leftmost.unique {d d' : Division} (hd : d.Leftmost) (hd' : d'.Leftmost)
    (h : d.text = d'.text) : d = d' := by
  obtain ⟨ps, rest⟩ := d
  obtain ⟨ps', rest'⟩ := d'
  induction ps generalizing ps' with
  | nil =>
      cases ps' with
      | nil =>
          obtain rfl : rest = rest' := h
          rfl
      | cons p' ps' => exact absurd h (hd.rest.ne_text p' ps' rest')
  | cons p ps ih =>
      cases ps' with
      | nil => exact absurd h.symm (hd'.rest.ne_text p ps rest)
      | cons p' ps' =>
          rw [text_cons, text_cons] at h
          -- the comment begins at the same place in both, and then it also ends at the same place
          obtain ⟨hgap, h⟩ := first_pair_unique (by decide) hd.head.gap_quiet hd'.head.gap_quiet h
          obtain ⟨hinner, h⟩ :=
            first_pair_unique (by decide) hd.head.inner_open hd'.head.inner_open h
          obtain ⟨rfl, rfl⟩ := Division.mk.inj (ih hd.tail ps' hd'.tail h)
          obtain ⟨gap, inner⟩ := p
          obtain ⟨gap', inner'⟩ := p'
          obtain rfl : gap = gap' := hgap
          obtain rfl : inner = inner' := hinner
          rfl

/-! ## Reading a division -/

theorem insides_of_commentless {t : Text} (h : Commentless t) : insides t = [] := by
  have hquiet : ∀ gap : Text, ¬ opener <:+: gap → insides gap = [] := by
    intro gap hgap
    have hpassed : insidesFrom .outside (gap ++ []) = insidesFrom .outside [] :=
      insidesFrom_outside_append hgap (by simp)
    rw [List.append_nil] at hpassed
    exact hpassed.trans rfl
  by_cases hopener : opener <:+: t
  · obtain ⟨gap, rest, rfl, hgap⟩ := exists_first_pair hopener
    have hopen := insides_open_closed (.quiet hgap) (h gap rest rfl)
    exact hopen.1.trans (hquiet gap hgap)
  · exact hquiet t hopener

/-- The reader of characters finds the insides of the comments of a leftmost division. -/
theorem insides_leftmost {d : Division} (h : d.Leftmost) :
    insides d.text = d.passages.map Passage.inner := by
  obtain ⟨ps, rest⟩ := d
  induction ps with
  | nil => exact insides_of_commentless h.rest
  | cons p ps ih =>
      rw [insides, Division.text_cons,
        insidesFrom_outside_append h.head.gap_quiet (head?_opener_append _),
        insidesFrom_comment h.head.inner_open]
      exact congrArg (p.inner :: ·) (ih h.tail)

/-! ## Blocks -/

/-- What a comment documents: its inside without padding, which neither begins nor ends in a character
that can be padding. -/
def IsCore (inner core : Text) : Prop :=
  ∃ front back, inner = front ++ core ++ back ∧ (∀ c ∈ front, isEdge c = true) ∧
    (∀ c ∈ back, isEdge c = true) ∧
    (core = [] ∨ (∀ c ∈ core.head?, isEdge c = false) ∧ ∀ c ∈ core.getLast?, isEdge c = false)

/-- Trimming gives it, and there is no other. -/
theorem isCore_iff {inner core : Text} : IsCore inner core ↔ core = trim isEdge inner := by
  constructor
  · rintro ⟨front, back, rfl, hfront, hback, hcore⟩
    rcases hcore with rfl | ⟨hhead, hlast⟩
    · exact (trim_padded hfront hback (by simp) (by simp)).symm
    · exact (trim_padded hfront hback hhead hlast).symm
  · rintro rfl
    refine ⟨_, _, trim_parts isEdge inner, ?_, ?_, Or.inr ⟨?_, ?_⟩⟩
    · exact fun c hc => List.mem_takeWhile_imp hc
    · exact fun c hc => mem_trailing hc
    · exact fun c hc => head?_trim hc
    · exact fun c hc => getLast?_trimRight hc

/-- A text that is no markdown has exactly one division in which no stretch before a comment opens one,
no comment is closed within its inside, and no comment is left in the rest. It has as many blocks as
that division has comments, and each block is the one text that can be cut out of the inside of its
comment between blank characters and asterisks and neither begins nor ends in one. -/
theorem comments_are_divided_in_one_way (markdown : List Text) (kind : Option Text)
    (hkind : Extension.isMarkdown markdown kind = false) (t : Text) :
    ∃ d : Division, (d.text = t ∧ d.Leftmost) ∧
      (∀ d' : Division, d'.text = t → d'.Leftmost → d' = d) ∧
      (documentationBlocks markdown kind t).length = d.passages.length ∧
      List.Forall₂ (fun p block => ∀ core, IsCore p.inner core ↔ core = block) d.passages
        (documentationBlocks markdown kind t) := by
  obtain ⟨d, rfl, hd⟩ := exists_leftmost t
  have hblocks : documentationBlocks markdown kind d.text =
      d.passages.map fun p => trim isEdge p.inner := by
    rw [documentationBlocks, if_neg (by simp [hkind]), blocks, insides_leftmost hd, List.map_map]
    rfl
  refine ⟨d, ⟨rfl, hd⟩, fun d' htext hd' => hd'.unique hd htext, ?_, ?_⟩
  · rw [hblocks, List.length_map]
  · rw [hblocks, List.forall₂_map_right_iff, List.forall₂_same]
    exact fun p _ core => isCore_iff

/-- A slash before a comment, a slash inside of one, a comment of nothing but asterisks, and a mark that
opens a comment which is never closed. -/
theorem comments_between_slashes :
    Extension.isMarkdown Extension.defaultMarkdown (some "js") = false ∧
    documentationBlocks Extension.defaultMarkdown (some "js") "//*/x*/*/ /****/ /*/" =
      [ofString "/x", ofString ""] ∧
    ∃ d : Division, d.text = ofString "//*/x*/*/ /****/ /*/" ∧ d.Leftmost ∧
      d.passages.length = 2 := by
  have hkind : Extension.isMarkdown Extension.defaultMarkdown (some "js") = false := by
    decide +kernel
  have hblocks : documentationBlocks Extension.defaultMarkdown (some "js") "//*/x*/*/ /****/ /*/" =
      [ofString "/x", ofString ""] := by
    decide +kernel
  obtain ⟨d, ⟨htext, hd⟩, -, hlength, -⟩ :=
    comments_are_divided_in_one_way Extension.defaultMarkdown (some "js") hkind
      "//*/x*/*/ /****/ /*/"
  rw [hblocks] at hlength
  exact ⟨hkind, hblocks, d, htext, hd, hlength.symm⟩

end Comment

end ComponentDocs
