import ComponentDocs.Label
import ComponentDocs.Proofs.Gathering
import ComponentDocs.Proofs.LineBoundary

/-!
# The shape of labels

What a label that was read from a header consists of (`Label.Shaped`, `shaped_of_parse?`): its name
and its height have no blank characters, and its extension is a word. A word is not itself a label
(`parse?_eq_none_of_word`), and it carries the flag that takes a block out of the description only
when it is that flag (`hasHiddenToken_of_word`).
-/

set_option autoImplicit false

namespace ComponentDocs

namespace Text

/-! ## Texts without blank characters -/

/-- The text has no blank character in it. -/
def Solid (t : Text) : Prop :=
  ∀ c ∈ t, isBlank c = false

theorem Solid.unbroken {t : Text} (h : Solid t) : Unbroken t := by
  intro c hc
  refine Bool.eq_false_iff.2 fun ht => ?_
  have hb := h c hc
  rw [isBlank_of_isTerminator ht] at hb
  exact absurd hb (by simp)

/-- The numbers of the blank characters. -/
def blankNumbers : List Nat :=
  List.range' 9 5 ++ List.range' 28 5 ++ List.range' 0x2000 11 ++
    [0x85, 0xa0, 0x1680, 0x2028, 0x2029, 0x202f, 0x205f, 0x3000]

theorem toNat_mem_blankNumbers {c : CodePoint} (h : isBlank c = true) :
    c.toNat ∈ blankNumbers := by
  simp only [isBlank, Bool.or_eq_true, Bool.and_eq_true, decide_eq_true_eq, beq_iff_eq] at h
  simp only [blankNumbers, List.mem_append, List.mem_range'_1, List.mem_cons, List.not_mem_nil,
    or_false]
  omega

/-- A word character is not blank. -/
theorem isBlank_eq_false_of_isWord {c : CodePoint} (h : isWord c = true) : isBlank c = false := by
  -- there are few blank characters, and none of them is in the ranges of the word characters
  have hno : ∀ n ∈ blankNumbers, isWord (.ofNat n) = false := by decide +kernel
  refine Bool.eq_false_iff.2 fun hb => ?_
  have hw := hno c.toNat (toNat_mem_blankNumbers hb)
  rw [CodePoint.ofNat_toNat, h] at hw
  exact absurd hw (by simp)

/-- The text is a word: it is not empty and consists of word characters. -/
structure IsWordText (t : Text) : Prop where
  ne_nil : t ≠ []
  all_word : ∀ c ∈ t, isWord c = true

theorem IsWordText.solid {t : Text} (h : IsWordText t) : Solid t :=
  fun c hc => isBlank_eq_false_of_isWord (h.all_word c hc)

/-- A character that is no word character does not stand in a word. -/
theorem IsWordText.notMem {t : Text} (h : IsWordText t) {c : CodePoint} (hc : isWord c = false) :
    c ∉ t := by
  intro hmem
  rw [h.all_word c hmem] at hc
  exact absurd hc (by simp)

/-! ## Pieces and words -/

theorem pieces_ne_nil (p : CodePoint → Bool) (t : Text) : pieces p t ≠ [] := by
  fun_cases pieces p t with
  | case1 => simp
  | case2 c rest hc => simp
  | case3 c rest hc h => simp
  | case4 c rest hc first others h => simp

/-- No piece has a character in the class. -/
theorem eq_false_of_mem_piece {p : CodePoint → Bool} {t w : Text} (hw : w ∈ pieces p t) :
    ∀ c ∈ w, p c = false := by
  fun_induction pieces p t generalizing w with
  | case1 =>
      obtain rfl := List.mem_singleton.1 hw
      simp
  | case2 c rest hc ih =>
      rcases List.mem_cons.1 hw with rfl | hw
      · simp
      · exact ih hw
  | case3 c rest hc h ih => exact absurd h (pieces_ne_nil p rest)
  | case4 c rest hc first others h ih =>
      rw [h] at ih
      rcases List.mem_cons.1 hw with rfl | hw
      · intro d hd
        rcases List.mem_cons.1 hd with rfl | hd
        · simpa using hc
        · exact ih List.mem_cons_self d hd
      · exact ih (List.mem_cons_of_mem first hw)

/-- A text without characters in the class is one piece. -/
theorem pieces_eq_singleton {p : CodePoint → Bool} {t : Text} (h : ∀ c ∈ t, p c = false) :
    pieces p t = [t] := by
  induction t with
  | nil => rfl
  | cons c rest ih =>
      have hrest : ∀ d ∈ rest, p d = false := fun d hd => h d (List.mem_cons_of_mem c hd)
      rw [pieces, h c List.mem_cons_self, if_neg (by simp), ih hrest]

/-- A character in the class cuts a text in two. -/
theorem pieces_append_cons {p : CodePoint → Bool} {c : CodePoint} (hc : p c = true) (s t : Text) :
    pieces p (s ++ c :: t) = pieces p s ++ pieces p t := by
  induction s with
  | nil =>
      show pieces p (c :: t) = [] :: pieces p t
      rw [pieces, if_pos hc]
  | cons d s ih =>
      rw [List.cons_append, pieces, pieces]
      split
      case isTrue => rw [ih, List.cons_append]
      case isFalse =>
          rw [ih]
          cases h : pieces p s with
          | nil => exact absurd h (pieces_ne_nil p s)
          | cons first others => rfl

/-- A blank character separates the words before it from those behind it. -/
theorem words_append_cons {c : CodePoint} (hc : isBlank c = true) (s t : Text) :
    words (s ++ c :: t) = words s ++ words t := by
  rw [words, words, words, pieces_append_cons hc, List.filter_append]

/-- Blank characters in front of a text do not matter to its words. -/
theorem words_blank_append {s : Text} (hs : ∀ c ∈ s, isBlank c = true) (t : Text) :
    words (s ++ t) = words t := by
  induction s with
  | nil => rfl
  | cons c s ih =>
      have hc := words_append_cons (hs c List.mem_cons_self) [] (s ++ t)
      exact hc.trans (ih fun d hd => hs d (List.mem_cons_of_mem c hd))

/-- Nor do blank characters behind it. -/
theorem words_append_blank (s : Text) {t : Text} (ht : ∀ c ∈ t, isBlank c = true) :
    words (s ++ t) = words s := by
  cases t with
  | nil => rw [List.append_nil]
  | cons c t =>
      have hrest := words_blank_append (fun d hd => ht d (List.mem_cons_of_mem c hd)) []
      rw [List.append_nil] at hrest
      rw [words_append_cons (ht c List.mem_cons_self), hrest]
      exact List.append_nil _

theorem solid_of_mem_words {t w : Text} (h : w ∈ words t) : Solid w :=
  eq_false_of_mem_piece (List.mem_filter.1 h).1

/-- A text without blank characters is one word. -/
theorem words_eq_singleton {t : Text} (h : Solid t) (hne : t ≠ []) : words t = [t] := by
  rw [words, pieces_eq_singleton h, List.filter_cons_of_pos (by simpa using hne), List.filter_nil]

/-- A text without blank characters is the first word if a blank character follows, or nothing. -/
theorem words_solid_append {s t : Text} (hs : Solid s) (hne : s ≠ [])
    (ht : ∀ c, t.head? = some c → isBlank c = true) : words (s ++ t) = s :: words t := by
  cases t with
  | nil =>
      rw [List.append_nil, words_eq_singleton hs hne]
      rfl
  | cons c t =>
      have hc := ht c rfl
      have hbehind := words_append_cons hc [] t
      rw [words_append_cons hc, words_eq_singleton hs hne]
      exact congrArg (s :: ·) hbehind.symm

/-! ## Cutting -/

/-- What stands behind the cut comes from the text. -/
theorem mem_of_cutAt {mark : CodePoint} {t v : Text} (h : (cutAt mark t).2 = some v) :
    ∀ c ∈ v, c ∈ t := by
  induction t with
  | nil => simp [cutAt] at h
  | cons d rest ih =>
      rw [cutAt] at h
      split at h
      case isTrue =>
          obtain rfl : rest = v := by simpa using h
          exact fun c hc => List.mem_cons_of_mem d hc
      case isFalse => exact fun c hc => List.mem_cons_of_mem d (ih h c hc)

/-- Without the mark there is no cut. -/
theorem cutAt_of_notMem {mark : CodePoint} {t : Text} (h : mark ∉ t) :
    cutAt mark t = (t, none) := by
  induction t with
  | nil => rfl
  | cons c rest ih =>
      rw [List.mem_cons, not_or] at h
      rw [cutAt, if_neg (Ne.symm h.1), ih h.2]

/-- The first mark makes the cut. -/
theorem cutAt_append_cons {mark : CodePoint} {key : Text} (h : mark ∉ key) (value : Text) :
    cutAt mark (key ++ mark :: value) = (key, some value) := by
  induction key with
  | nil => simp [cutAt]
  | cons c key ih =>
      rw [List.mem_cons, not_or] at h
      rw [List.cons_append, cutAt, if_neg (Ne.symm h.1), ih h.2]

end Text

open Text

/-! ## Options -/

/-- Every option comes from a word of the text. -/
theorem Options.exists_token {t : Text} {o : Text × Option Text}
    (h : o ∈ (Options.parse t).entries) : ∃ token ∈ t.words, Options.parseToken token = o :=
  List.mem_map.1 (OrderedMap.mem_of_mem_entries_ofList h)

/-- The values of options have no blank characters. -/
theorem Options.solid_of_parse {t : Text} :
    ∀ key v, (Options.parse t).get? key = some v → ∀ value, v = some value → Solid value := by
  intro key v hget value hv
  obtain ⟨token, hmem, htoken⟩ := Options.exists_token (OrderedMap.mem_entries_of_get? hget)
  have hcut : (cutAt '=' token).2 = some value := (congrArg Prod.snd htoken).trans hv
  exact fun c hc => solid_of_mem_words hmem c (mem_of_cutAt hcut c hc)

/-! ## Labels -/

namespace Label

/-- What the parts of a label look like. -/
structure Shaped (a : Label) : Prop where
  name : Solid a.name
  extension : IsWordText a.extension
  height : ∀ h, a.height = some h → Solid h

/-- A label behind a name begins with a dot, and its extension follows. -/
theorem parseTail?_eq_some {name t : Text} {a : Label} (h : parseTail? name t = some a) :
    ∃ rest options, t = CodePoint.char '.' :: rest ∧ rest.takeWhile Text.isWord ≠ [] ∧
      a.name = name ∧ a.extension = rest.takeWhile Text.isWord ∧
      a.options = Options.parse options := by
  unfold parseTail? at h
  split at h
  case h_1 rest =>
      simp only at h
      split at h
      case isTrue => cases h
      case isFalse hne =>
          rw [Bool.or_eq_true, not_or] at hne
          obtain rfl := Option.some.inj h
          exact ⟨rest, _, rfl, by simpa using hne.1, rfl, rfl, rfl⟩
  case h_2 => cases h

/-- The parts of the header of which a label was read. -/
theorem parse?_eq_some {header : Text} {a : Label} (h : parse? header = some a) :
    ∃ body : Text, body = (header.trimRight isReturnOrFeed).trimLeft isBlank ∧
      parseTail? (body.takeWhile isNameChar) (body.dropWhile isNameChar) = some a := by
  refine ⟨_, rfl, ?_⟩
  unfold parse? at h
  simp only at h
  split at h
  case isTrue => cases h
  case isFalse => exact h

/-- A label that was read has the shape of one. -/
theorem shaped_of_parse? {header : Text} {a : Label} (h : parse? header = some a) : a.Shaped := by
  obtain ⟨body, -, htail⟩ := parse?_eq_some h
  obtain ⟨rest, options, -, hne, hname, hext, hopt⟩ := parseTail?_eq_some htail
  refine { name := ?_, extension := ⟨?_, ?_⟩, height := ?_ }
  · intro c hc
    rw [hname] at hc
    have hn := List.mem_takeWhile_imp hc
    rw [isNameChar, Bool.and_eq_true] at hn
    simpa using hn.2
  · rw [hext]
    exact hne
  · intro c hc
    rw [hext] at hc
    exact List.mem_takeWhile_imp hc
  · intro v hv
    unfold height at hv
    split at hv
    case h_1 h' hget =>
        split at hv
        case isTrue => cases hv
        case isFalse =>
            obtain rfl := Option.some.inj hv
            rw [hopt] at hget
            exact Options.solid_of_parse _ _ hget h' rfl
    case h_2 => cases hv

/-- A header with a label has a dot in it. -/
theorem dot_mem_of_parse? {header : Text} {a : Label} (h : parse? header = some a) :
    CodePoint.char '.' ∈ header := by
  obtain ⟨body, hbody, htail⟩ := parse?_eq_some h
  obtain ⟨rest, -, hdrop, -⟩ := parseTail?_eq_some htail
  have hmem : CodePoint.char '.' ∈ body.dropWhile isNameChar := by
    rw [hdrop]
    exact List.mem_cons_self
  have hb : CodePoint.char '.' ∈ body := (List.dropWhile_sublist isNameChar).subset hmem
  rw [hbody, trimLeft] at hb
  have ht := (List.dropWhile_sublist isBlank).subset hb
  rw [← trimRight_append_trailing isReturnOrFeed header]
  exact List.mem_append_left _ ht

/-- The extension is shorter than the header, which has a name and a dot besides. -/
theorem length_extension_lt {header : Text} {a : Label} (h : parse? header = some a) :
    a.extension.length < header.length := by
  obtain ⟨body, hbody, htail⟩ := parse?_eq_some h
  obtain ⟨rest, -, hdrop, -, -, hext, -⟩ := parseTail?_eq_some htail
  have hword : a.extension.length ≤ rest.length := by
    rw [hext]
    exact (List.takeWhile_sublist isWord).length_le
  -- what is left of the header shrinks from step to step, at the dot by one character
  have hdot : rest.length < body.length := by
    have hle := (List.dropWhile_sublist (l := body) isNameChar).length_le
    rw [hdrop, List.length_cons] at hle
    omega
  have hheader : body.length ≤ header.length := by
    have hle := (List.dropWhile_sublist (l := header.trimRight isReturnOrFeed) isBlank).length_le
    have hsum := congrArg List.length (trimRight_append_trailing isReturnOrFeed header)
    rw [List.length_append] at hsum
    rw [hbody, trimLeft]
    omega
  omega

/-- A word is not a label. -/
theorem parse?_eq_none_of_word {t : Text} (h : IsWordText t) : parse? t = none := by
  refine Option.eq_none_iff_forall_ne_some.2 fun a ha => ?_
  exact h.notMem (by decide) (dot_mem_of_parse? ha)

end Label

/-- A word carries the flag only when it is the flag. -/
theorem hasHiddenToken_of_word {t : Text} (h : IsWordText t) :
    hasHiddenToken t = true ↔ t = Label.hiddenKey := by
  have hcut : cutAt (.char '=') t = (t, none) := cutAt_of_notMem (h.notMem (by decide))
  rw [hasHiddenToken, words_eq_singleton h.solid h.ne_nil, List.any_cons, List.any_nil,
    Bool.or_false, hcut, beq_iff_eq]

end ComponentDocs
