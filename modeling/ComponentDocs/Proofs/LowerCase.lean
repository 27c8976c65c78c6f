import ComponentDocs.Text.Blank
import ComponentDocs.Text.Lowercase

/-!
# Lower case

A text in lower case stays as it is when it is mapped to lower case again (`lowercase_lowercase`). The
reason is in the table of capital letters: the counterparts of a run of letters keep clear of every run
(`CaseRun.misses`), so that no counterpart has one of its own (`settled_of_mem_smallAt`).

Blank characters and dots are their own counterparts and those of no letter. Hence a text in lower
case begins and ends in one exactly where the text does (`exists_head_echo`, `exists_last_echo`).
-/

set_option autoImplicit false

namespace ComponentDocs

theorem CodePoint.toNat_ofNat {n : Nat} (h : n < 0x110000) : (ofNat n).toNat = n := by
  unfold ofNat
  split
  case isTrue hhalf =>
      show 0xd800 + (n - 0xd800) = n
      omega
  case isFalse hchar =>
      have hvalid : n.isValidChar := by
        unfold Nat.isValidChar
        omega
      show (Char.ofNat n).toNat = n
      rw [Char.ofNat, dif_pos hvalid]
      rfl

namespace Text

/-! ## Runs of letters -/

namespace CaseRun

/-- The number is that of a letter in the run. -/
def Holds (r : CaseRun) (n : Nat) : Prop :=
  r.first ≤ n ∧ n ≤ r.last ∧ (n - r.first) % r.step = 0

instance (r : CaseRun) (n : Nat) : Decidable (r.Holds n) :=
  inferInstanceAs (Decidable (_ ∧ _ ∧ _))

/-- The number that the run gives to the counterpart of a letter. -/
def lowered (r : CaseRun) (n : Nat) : Nat :=
  ((n : Int) + r.shift).toNat

/-- Whether the counterparts of a run keep clear of the letters of another one: they all lie below or
above it, or, where it has every second number, they have the others. -/
def misses (r s : CaseRun) : Bool :=
  Nat.ble (r.lowered r.last + 1) s.first || Nat.ble (s.last + 1) (r.lowered r.first) ||
    (s.step == 2 && (r.step == 2 || r.first == r.last) && Nat.ble 1 (r.lowered r.first) &&
      (r.lowered r.first + s.first) % 2 == 1)

theorem not_holds_lowered {r s : CaseRun} (h : r.misses s = true) {n : Nat} (hn : r.Holds n) :
    ¬ s.Holds (r.lowered n) := by
  obtain ⟨hfirst, hlast, hstep⟩ := hn
  rintro ⟨hfirst', hlast', hstep'⟩
  simp only [misses, lowered, Bool.or_eq_true, Bool.and_eq_true, Nat.ble_eq, beq_iff_eq] at *
  rcases h with (hbelow | habove) | ⟨⟨⟨htwo, hrun⟩, hpos⟩, hodd⟩
  · omega
  · omega
  · rw [htwo] at hstep'
    rcases hrun with hrun | hrun
    · rw [hrun] at hstep
      omega
    · omega

end CaseRun

/-- The capital I with a dot and the capital sigma, which are in no run. -/
def loneRuns : List CaseRun :=
  [⟨0x130, 0x130, 1, 0⟩, ⟨0x3a3, 0x3a3, 1, 0⟩]

/-- The blank characters and the dot. -/
def edgeRuns : List CaseRun :=
  [⟨9, 13, 1, 0⟩, ⟨28, 32, 1, 0⟩, ⟨46, 46, 1, 0⟩, ⟨0x85, 0x85, 1, 0⟩, ⟨0xa0, 0xa0, 1, 0⟩,
    ⟨0x1680, 0x1680, 1, 0⟩, ⟨0x2000, 0x200a, 1, 0⟩, ⟨0x2028, 0x2029, 1, 0⟩,
    ⟨0x202f, 0x202f, 1, 0⟩, ⟨0x205f, 0x205f, 1, 0⟩, ⟨0x3000, 0x3000, 1, 0⟩]

/-- The character has no counterpart other than itself. -/
def IsLower (c : CodePoint) : Prop :=
  ∀ s ∈ caseRuns ++ loneRuns, ¬ s.Holds c.toNat

instance (c : CodePoint) : Decidable (IsLower c) :=
  inferInstanceAs (Decidable (∀ s ∈ _, _))

/-- The character is one of those that extensions are trimmed of: a blank one or a dot. -/
def AtEdge (c : CodePoint) : Prop :=
  isBlank c = true ∨ c = '.'

instance (c : CodePoint) : Decidable (AtEdge c) :=
  inferInstanceAs (Decidable (_ ∨ _))

theorem atEdge_iff {c : CodePoint} : AtEdge c ↔ ∃ s ∈ edgeRuns, s.Holds c.toNat := by
  have hdot : c = '.' ↔ c.toNat = 46 := by
    constructor
    · rintro rfl
      rfl
    · intro h
      rw [← CodePoint.ofNat_toNat c, h]
      rfl
  rw [AtEdge, hdot]
  simp only [isBlank, Bool.or_eq_true, Bool.and_eq_true, decide_eq_true_eq, beq_iff_eq, edgeRuns,
    List.mem_cons, List.not_mem_nil, or_false, or_and_right, exists_or, exists_eq_left,
    CaseRun.Holds, Nat.mod_one, and_true]
  omega

/-! ## The table of letters -/

/-- The counterparts of a run are code points and keep clear of all letters, of the blank characters
and of the dot. -/
def isClear (r : CaseRun) : Bool :=
  Nat.ble (r.lowered r.last + 1) 0x110000 && caseRuns.all r.misses && loneRuns.all r.misses &&
    edgeRuns.all r.misses

theorem isClear_of_mem : caseRuns.all isClear = true := by
  decide +kernel

theorem edgeRuns_miss_letters :
    (edgeRuns.all fun r => r.shift == 0 && caseRuns.all r.misses && loneRuns.all r.misses) = true := by
  decide +kernel

/-- The counterpart of a letter in a run is in lower case and is neither blank nor a dot. -/
theorem lowered_settled {r : CaseRun} (hr : r ∈ caseRuns) {n : Nat} (hn : r.Holds n) :
    IsLower (.ofNat (r.lowered n)) ∧ ¬ AtEdge (.ofNat (r.lowered n)) := by
  have hclear := List.all_eq_true.1 isClear_of_mem r hr
  simp only [isClear, Bool.and_eq_true, List.all_eq_true, Nat.ble_eq] at hclear
  obtain ⟨⟨⟨hbound, hruns⟩, hlone⟩, hedge⟩ := hclear
  have hnumber : (CodePoint.ofNat (r.lowered n)).toNat = r.lowered n := by
    apply CodePoint.toNat_ofNat
    have hlast := hn.2.1
    simp only [CaseRun.lowered] at hbound ⊢
    omega
  constructor
  · intro s hs
    rw [hnumber]
    rcases List.mem_append.1 hs with hs | hs
    · exact CaseRun.not_holds_lowered (hruns s hs) hn
    · exact CaseRun.not_holds_lowered (hlone s hs) hn
  · rw [atEdge_iff, hnumber]
    rintro ⟨s, hs, hholds⟩
    exact CaseRun.not_holds_lowered (hedge s hs) hn hholds

/-- Blank characters and dots are in lower case. -/
theorem isLower_of_atEdge {c : CodePoint} (h : AtEdge c) : IsLower c := by
  obtain ⟨r, hr, hholds⟩ := atEdge_iff.1 h
  have hmisses := List.all_eq_true.1 edgeRuns_miss_letters r hr
  simp only [Bool.and_eq_true, List.all_eq_true, beq_iff_eq] at hmisses
  obtain ⟨⟨hshift, hruns⟩, hlone⟩ := hmisses
  have hself : r.lowered c.toNat = c.toNat := by
    rw [CaseRun.lowered, hshift, Int.add_zero, Int.toNat_natCast]
  intro s hs
  rw [← hself]
  rcases List.mem_append.1 hs with hs | hs
  · exact CaseRun.not_holds_lowered (hruns s hs) hholds
  · exact CaseRun.not_holds_lowered (hlone s hs) hholds

/-! ## One character -/

/-- The lower case of one character is that of the dotted capital I, that of its run, or itself. -/
theorem lowerChar_cases (c : CodePoint) :
    lowerChar c = [.char 'i', .ofNat 0x307] ∧ c.toNat = 0x130 ∨
    (∃ r ∈ caseRuns, r.Holds c.toNat ∧ lowerChar c = [CodePoint.ofNat (r.lowered c.toNat)]) ∨
    lowerChar c = [c] ∧ c.toNat ≠ 0x130 ∧ ∀ r ∈ caseRuns, ¬ r.Holds c.toNat := by
  unfold lowerChar
  split
  case isTrue h => exact Or.inl ⟨rfl, h⟩
  case isFalse h =>
      right
      split
      case h_1 r hr =>
          left
          have hholds := List.find?_some hr
          simp only [Bool.and_eq_true, decide_eq_true_eq, beq_iff_eq] at hholds
          obtain ⟨⟨hfirst, hlast⟩, hstep⟩ := hholds
          exact ⟨r, List.mem_of_find?_eq_some hr, ⟨hfirst, hlast, hstep⟩, rfl⟩
      case h_2 hnone =>
          right
          refine ⟨rfl, h, ?_⟩
          rintro r hr ⟨hfirst, hlast, hstep⟩
          have hfound := List.find?_eq_none.1 hnone r hr
          simp [hfirst, hlast, hstep] at hfound

/-- The lower case of a character between its neighbours. -/
def smallAt (before : Text) (c : CodePoint) (rest : Text) : Text :=
  if c.toNat = 0x3a3 then
    [CodePoint.ofNat (if leadsWithCased before && !leadsWithCased rest then 0x3c2 else 0x3c3)]
  else lowerChar c

theorem lowercaseAfter_cons (before : Text) (c : CodePoint) (rest : Text) :
    lowercaseAfter before (c :: rest) =
      smallAt before c rest ++ lowercaseAfter (c :: before) rest := rfl

section SmallAt

variable {before rest : Text} {c : CodePoint}

theorem smallAt_of_isLower (h : IsLower c) : smallAt before c rest = [c] := by
  have hsigma : c.toNat ≠ 0x3a3 := by
    intro hc
    apply h ⟨0x3a3, 0x3a3, 1, 0⟩ (List.mem_append_right _ (by simp [loneRuns]))
    rw [hc]
    exact ⟨Nat.le_refl _, Nat.le_refl _, rfl⟩
  have hdotted : c.toNat ≠ 0x130 := by
    intro hc
    apply h ⟨0x130, 0x130, 1, 0⟩ (List.mem_append_right _ (by simp [loneRuns]))
    rw [hc]
    exact ⟨Nat.le_refl _, Nat.le_refl _, rfl⟩
  rw [smallAt, if_neg hsigma]
  rcases lowerChar_cases c with ⟨-, hc⟩ | ⟨r, hr, hholds, -⟩ | ⟨hself, -⟩
  · exact absurd hc hdotted
  · exact absurd hholds (h r (List.mem_append_left _ hr))
  · exact hself

/-- What a character becomes is in lower case, and it is blank or a dot only if the character is. -/
theorem settled_of_mem_smallAt {x : CodePoint} (hx : x ∈ smallAt before c rest) :
    IsLower x ∧ (AtEdge x → AtEdge c) := by
  -- the counterparts that are not found in the runs
  have hfixed : ∀ n ∈ [0x69, 0x307, 0x3c2, 0x3c3],
      IsLower (.ofNat n) ∧ ¬ AtEdge (.ofNat n) := by decide +kernel
  have hother : IsLower x ∧ ¬ AtEdge x → IsLower x ∧ (AtEdge x → AtEdge c) :=
    fun h => ⟨h.1, fun hedge => absurd hedge h.2⟩
  rw [smallAt] at hx
  split at hx
  case isTrue =>
      rw [List.mem_singleton.1 hx] at hother ⊢
      apply hother
      split
      · exact hfixed _ (by simp)
      · exact hfixed _ (by simp)
  case isFalse hsigma =>
      rcases lowerChar_cases c with ⟨hsmall, -⟩ | ⟨r, hr, hholds, hsmall⟩ | ⟨hself, hdotted, hruns⟩
      · rw [hsmall, List.mem_cons, List.mem_singleton] at hx
        apply hother
        rcases hx with rfl | rfl
        · exact hfixed 0x69 (by simp)
        · exact hfixed 0x307 (by simp)
      · rw [hsmall, List.mem_singleton] at hx
        rw [hx] at hother ⊢
        exact hother (lowered_settled hr hholds)
      · rw [hself, List.mem_singleton] at hx
        subst hx
        refine ⟨?_, id⟩
        intro s hs hholds
        rcases List.mem_append.1 hs with hs | hs
        · exact hruns s hs hholds
        · -- a run of one number holds that number only
          have hlone : ∀ s ∈ loneRuns, s.first = s.last ∧ (s.first = 0x130 ∨ s.first = 0x3a3) := by
            decide
          have hbounds := hlone s hs
          have hfirst := hholds.1
          have hlast := hholds.2.1
          omega

theorem smallAt_ne_nil : smallAt before c rest ≠ [] := by
  unfold smallAt
  split
  · simp
  · rcases lowerChar_cases c with ⟨h, -⟩ | ⟨r, -, -, h⟩ | ⟨h, -⟩ <;> simp [h]

end SmallAt

/-! ## Texts -/

/-- A text of characters in lower case stays as it is. -/
theorem lowercaseAfter_of_isLower (before : Text) {t : Text} (h : ∀ c ∈ t, IsLower c) :
    lowercaseAfter before t = t := by
  induction t generalizing before with
  | nil => rfl
  | cons c rest ih =>
      rw [lowercaseAfter_cons, smallAt_of_isLower (h c List.mem_cons_self),
        ih _ fun d hd => h d (List.mem_cons_of_mem c hd)]
      rfl

theorem isLower_of_mem_lowercaseAfter {before t : Text} {x : CodePoint}
    (hx : x ∈ lowercaseAfter before t) : IsLower x := by
  induction t generalizing before with
  | nil => cases hx
  | cons c rest ih =>
      rw [lowercaseAfter_cons, List.mem_append] at hx
      rcases hx with hx | hx
      · exact (settled_of_mem_smallAt hx).1
      · exact ih hx

theorem isLower_of_mem_lowercase {t : Text} {x : CodePoint} (hx : x ∈ lowercase t) : IsLower x :=
  isLower_of_mem_lowercaseAfter hx

theorem lowercase_of_isLower {t : Text} (h : ∀ c ∈ t, IsLower c) : lowercase t = t :=
  lowercaseAfter_of_isLower [] h

/-- A text in lower case stays as it is when it is mapped to lower case. -/
theorem lowercase_lowercase (t : Text) : lowercase (lowercase t) = lowercase t :=
  lowercase_of_isLower fun _ hx => isLower_of_mem_lowercase hx

/-- The one character stands for the other in lower case: a blank character or a dot stands for
itself only, and nothing else stands for one. -/
def Echoes (x c : CodePoint) : Prop :=
  (AtEdge x → AtEdge c) ∧ (AtEdge c → x = c)

theorem echoes_of_mem_smallAt {before rest : Text} {c x : CodePoint}
    (hx : x ∈ smallAt before c rest) : Echoes x c := by
  refine ⟨(settled_of_mem_smallAt hx).2, fun hedge => ?_⟩
  rw [smallAt_of_isLower (isLower_of_atEdge hedge)] at hx
  exact List.mem_singleton.1 hx

theorem Echoes.isBlank_eq {x c : CodePoint} (h : Echoes x c) : isBlank x = isBlank c := by
  by_cases hedge : AtEdge c
  · rw [h.2 hedge]
  · have hx : ¬ AtEdge x := mt h.1 hedge
    rw [AtEdge, not_or] at hx hedge
    rw [Bool.eq_false_iff.2 hx.1, Bool.eq_false_iff.2 hedge.1]

/-- A text in lower case begins as the text does. -/
theorem exists_head_echo (c : CodePoint) (rest : Text) :
    ∃ x, (lowercase (c :: rest)).head? = some x ∧ Echoes x c := by
  have hne : smallAt [] c rest ≠ [] := smallAt_ne_nil
  obtain ⟨x, others, hsmall⟩ := List.exists_cons_of_ne_nil hne
  have hx : x ∈ smallAt [] c rest := by
    rw [hsmall]
    exact List.mem_cons_self
  refine ⟨x, ?_, echoes_of_mem_smallAt hx⟩
  rw [lowercase, lowercaseAfter_cons, hsmall]
  rfl

theorem lowercaseAfter_eq_nil_iff {before t : Text} : lowercaseAfter before t = [] ↔ t = [] := by
  cases t with
  | nil => exact Iff.rfl
  | cons c rest =>
      rw [lowercaseAfter_cons, List.append_eq_nil_iff]
      simp [smallAt_ne_nil]

/-- A text in lower case ends as the text does. -/
theorem exists_last_echo {before t : Text} {x : CodePoint}
    (hx : (lowercaseAfter before t).getLast? = some x) :
    ∃ c, t.getLast? = some c ∧ Echoes x c := by
  induction t generalizing before with
  | nil => cases hx
  | cons c rest ih =>
      rw [lowercaseAfter_cons, List.getLast?_append] at hx
      cases hrest : (lowercaseAfter (c :: before) rest).getLast? with
      | some y =>
          rw [hrest] at hx
          obtain rfl : y = x := by simpa using hx
          obtain ⟨d, hd, hecho⟩ := ih hrest
          refine ⟨d, ?_, hecho⟩
          rw [List.getLast?_cons, hd]
          rfl
      | none =>
          rw [hrest] at hx
          have hnil := lowercaseAfter_eq_nil_iff.1 (List.getLast?_eq_none_iff.1 hrest)
          refine ⟨c, ?_, echoes_of_mem_smallAt (List.mem_of_getLast? (by simpa using hx))⟩
          rw [hnil]
          rfl

end Text

end ComponentDocs
