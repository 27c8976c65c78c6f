import ComponentDocs.Proofs.ExtractedExamples

/-!
# The grammar of headers

The header of a labelled block consists of blank characters, a name, a dot, an extension, a variant
behind a comma that may be missing, and the text of its options (`Label.Parts`). What these parts must
look like says `Parts.Proper`: each of them ends where the next character can no longer belong to it.

A header is a label exactly if it has such parts, and it then has only one choice of them
(`labels_follow_their_grammar`). Both follow from the law of maximal runs (`Text.span_eq_iff`): to take
characters of a class from the front of a text is to find the one maximal run that it begins with. So no
other choice of an earlier part can help a later one.
-/

set_option autoImplicit false

namespace ComponentDocs

namespace Text

/-! ## Maximal runs -/

/-- The first text is a run of characters of a class, and the second does not prolong it. -/
structure IsRun (p : CodePoint → Bool) (run rest : Text) : Prop where
  all : ∀ c ∈ run, p c = true
  stop : ∀ c, rest.head? = some c → p c = false

variable {p : CodePoint → Bool}

/-- Taking and dropping characters of a class cuts a text behind the maximal run at its front. -/
theorem span_eq_iff {t run rest : Text} :
    t.takeWhile p = run ∧ t.dropWhile p = rest ↔ t = run ++ rest ∧ IsRun p run rest := by
  constructor
  · rintro ⟨rfl, rfl⟩
    refine ⟨List.takeWhile_append_dropWhile.symm, fun c hc => List.mem_takeWhile_imp hc, ?_⟩
    intro c hc
    have hstop := List.head?_dropWhile_not p t
    rw [hc] at hstop
    simpa using hstop
  · rintro ⟨rfl, h⟩
    rw [List.takeWhile_append_of_pos h.all, List.dropWhile_append_of_pos h.all]
    cases rest with
    | nil => simp
    | cons c rest =>
        have hc : ¬ p c = true := by simp [h.stop c rfl]
        rw [List.takeWhile_cons_of_neg hc, List.dropWhile_cons_of_neg hc, List.append_nil]
        exact ⟨rfl, rfl⟩

/-- Every text begins with a maximal run. -/
theorem isRun_span (p : CodePoint → Bool) (t : Text) :
    t = t.takeWhile p ++ t.dropWhile p ∧ IsRun p (t.takeWhile p) (t.dropWhile p) :=
  span_eq_iff.1 ⟨rfl, rfl⟩

theorem IsRun.span {run rest : Text} (h : IsRun p run rest) :
    (run ++ rest).takeWhile p = run ∧ (run ++ rest).dropWhile p = rest :=
  span_eq_iff.2 ⟨rfl, h⟩

/-- A text begins with only one maximal run. -/
theorem IsRun.unique {run rest run' rest' : Text} (h : IsRun p run rest) (h' : IsRun p run' rest')
    (heq : run ++ rest = run' ++ rest') : run = run' ∧ rest = rest' := by
  obtain ⟨htake, hdrop⟩ := h.span
  rw [heq, h'.span.1] at htake
  rw [heq, h'.span.2] at hdrop
  exact ⟨htake.symm, hdrop.symm⟩

/-- What stands before the cut has no mark in it, and the two parts make up the text. -/
theorem cutAt_spec (mark : CodePoint) (t : Text) :
    mark ∉ (cutAt mark t).1 ∧
      t = (cutAt mark t).1 ++ ((cutAt mark t).2.map (mark :: ·)).getD [] := by
  induction t with
  | nil => simp [cutAt]
  | cons c rest ih =>
      rw [cutAt]
      split
      case isTrue hc => simp [hc]
      case isFalse hc =>
          obtain ⟨hmark, hrest⟩ := ih
          refine ⟨?_, congrArg (c :: ·) hrest⟩
          rw [List.mem_cons, not_or]
          exact ⟨Ne.symm hc, hmark⟩

end Text

open Text

/-! ## Options -/

namespace Options

/-- A token is the key without an equals sign in it, and behind such a sign the value. -/
theorem printToken_parseToken (token : Text) :
    printToken (parseToken token) = token ∧ .char '=' ∉ (parseToken token).1 := by
  obtain ⟨hmark, htoken⟩ := cutAt_spec (.char '=') token
  refine ⟨?_, hmark⟩
  rw [parseToken]
  generalize cutAt (.char '=') token = parts at htoken
  obtain ⟨key, value⟩ := parts
  rw [htoken]
  cases value with
  | none => simp [printToken]
  | some v => rfl

/-- The keys of options stand in order of first appearance. -/
theorem keys_parse (t : Text) :
    (parse t).keys = (t.words.map fun token => (parseToken token).1).eraseDups := by
  rw [parse, OrderedMap.keys_ofList, List.map_map]
  rfl

/-- A key has the value of the last token that names it. -/
theorem get?_parse (t key : Text) :
    (parse t).get? key =
      ((t.words.map parseToken).filter fun o => o.1 = key).getLast?.map Prod.snd := by
  rw [parse, OrderedMap.get?_ofList]

end Options

namespace Label

/-! ## Parts -/

/-- The parts of a header: the blank characters in front, the name before the dot, the extension
behind it, the variant behind a comma, and the text of the options. -/
@[ext] structure Parts where
  indent : Text
  name : Text
  extension : Text
  variant : Option Text
  options : Text

namespace Parts

/-- A variant with its comma. -/
def variantText : Option Text → Text
  | none => []
  | some variant => ',' :: variant

/-- What follows the name: a dot, the extension, the variant and the options. -/
def tail (p : Parts) : Text :=
  '.' :: (p.extension ++ (variantText p.variant ++ p.options))

/-- The header that the parts make up. -/
def text (p : Parts) : Text :=
  p.indent ++ (p.name ++ p.tail)

/-- The label that the parts spell. -/
def label (p : Parts) : Label :=
  ⟨p.name, p.extension, p.variant, Options.parse p.options⟩

/-- A variant is as long as it can be, and is missing only where none can begin. -/
def VariantEnds : Option Text → Text → Prop
  | none, rest => ∀ (c : CodePoint) (behind : Text), rest = .char ',' :: c :: behind → isBlank c = true
  | some variant, rest => variant ≠ [] ∧ IsRun (fun c => !isBlank c) variant rest

/-- What the parts of a header look like. -/
structure Proper (p : Parts) : Prop where
  indent : ∀ c ∈ p.indent, isBlank c = true
  name : Example.IsName p.name
  extension_ne_nil : p.extension ≠ []
  extension : IsRun isWord p.extension (variantText p.variant ++ p.options)
  variant : VariantEnds p.variant p.options
  no_feed : .char '\n' ∉ p.options

end Parts

/-! ## Reading the parts -/

/-- The characters of a name. -/
theorem isName_iff {t : Text} :
    Example.IsName t ↔ t ≠ [] ∧ ∀ c ∈ t, isNameChar c = true := by
  constructor
  · intro h
    refine ⟨h.ne_nil, fun c hc => ?_⟩
    have hdot : c ≠ .char '.' := fun heq => h.no_dot (heq ▸ hc)
    have hsolid := h.solid c hc
    simp [isNameChar, hdot, hsolid]
  · rintro ⟨hne, hall⟩
    refine { ne_nil := hne, no_dot := fun hdot => ?_, solid := fun c hc => ?_ }
    · exact absurd (hall _ hdot) (by decide)
    · have hc := hall c hc
      rw [isNameChar, Bool.and_eq_true] at hc
      simpa using hc.2

/-- The variant is cut off as far as it reaches. -/
theorem cutVariant_eq_iff {t : Text} {variant : Option Text} {rest : Text} :
    cutVariant t = (variant, rest) ↔
      t = Parts.variantText variant ++ rest ∧ Parts.VariantEnds variant rest := by
  constructor
  · intro h
    unfold cutVariant at h
    split at h
    case h_1 behind =>
        simp only at h
        split at h
        case isTrue hempty =>
            obtain ⟨rfl, rfl⟩ := Prod.mk.inj h
            refine ⟨rfl, ?_⟩
            -- nothing can be taken from behind the comma, so a blank character stands there
            intro c behind' heq
            obtain ⟨-, rfl⟩ := List.cons.inj heq
            by_contra hc
            rw [List.takeWhile_cons_of_pos (by simpa using hc)] at hempty
            cases hempty
        case isFalse hne =>
            obtain ⟨rfl, rfl⟩ := Prod.mk.inj h
            obtain ⟨heq, hrun⟩ := isRun_span (fun c => !isBlank c) behind
            refine ⟨congrArg (CodePoint.char ',' :: ·) heq, by simpa using hne, hrun⟩
    case h_2 hcomma =>
        obtain ⟨rfl, rfl⟩ := Prod.mk.inj h
        refine ⟨rfl, ?_⟩
        intro c behind heq
        exact absurd heq (hcomma _)
  · rintro ⟨rfl, hends⟩
    cases variant with
    | none =>
        show cutVariant rest = (none, rest)
        unfold cutVariant
        split
        case h_1 behind =>
            have hempty : behind.takeWhile (fun c => !isBlank c) = [] := by
              cases behind with
              | nil => rfl
              | cons c behind =>
                  have hc : isBlank c = true := hends c behind rfl
                  rw [List.takeWhile_cons_of_neg (by simp [hc])]
            simp [hempty]
        case h_2 => rfl
    | some variant =>
        obtain ⟨hne, hrun⟩ := hends
        obtain ⟨htake, hdrop⟩ := hrun.span
        show cutVariant (.char ',' :: (variant ++ rest)) = (some variant, rest)
        rw [cutVariant]
        simp [htake, hdrop, hne]

/-- What stands behind a name is read if it is the tail of a label. -/
theorem parseTail?_eq_some_iff {name t : Text} {a : Label} :
    parseTail? name t = some a ↔
      ∃ extension variant options,
        t = .char '.' :: (extension ++ (Parts.variantText variant ++ options)) ∧ extension ≠ [] ∧
        IsRun isWord extension (Parts.variantText variant ++ options) ∧
        Parts.VariantEnds variant options ∧ .char '\n' ∉ options ∧
        a = ⟨name, extension, variant, Options.parse options⟩ := by
  constructor
  · intro h
    unfold parseTail? at h
    split at h
    case h_1 rest =>
        simp only at h
        split at h
        case isTrue => cases h
        case isFalse hno =>
            rw [Bool.or_eq_true, not_or] at hno
            obtain ⟨heq, hrun⟩ := isRun_span isWord rest
            obtain ⟨hcut, hends⟩ :=
              cutVariant_eq_iff.1 (Prod.eta (cutVariant (rest.dropWhile isWord))).symm
            refine ⟨_, _, _, ?_, by simpa using hno.1, ?_, hends, ?_, (Option.some.inj h).symm⟩
            · rw [← hcut, ← heq]
            · rw [← hcut]
              exact hrun
            · simpa using hno.2
    case h_2 => cases h
  · rintro ⟨extension, variant, options, rfl, hne, hrun, hends, hfeed, rfl⟩
    obtain ⟨htake, hdrop⟩ := hrun.span
    have hcut := cutVariant_eq_iff.2 ⟨rfl, hends⟩
    rw [parseTail?]
    simp [htake, hdrop, hcut, hne, hfeed]

namespace Parts.Proper

variable {p q : Parts}

theorem isRun_indent (h : p.Proper) : IsRun isBlank p.indent (p.name ++ p.tail) where
  all := h.indent
  stop := by
    intro c hc
    obtain ⟨d, rest, hname⟩ := List.exists_cons_of_ne_nil h.name.ne_nil
    rw [hname, List.cons_append, List.head?_cons] at hc
    obtain rfl := Option.some.inj hc
    exact h.name.solid d (by rw [hname]; exact List.mem_cons_self)

theorem isRun_name (h : p.Proper) : IsRun isNameChar p.name p.tail where
  all := (isName_iff.1 h.name).2
  stop := by
    intro c hc
    obtain rfl : CodePoint.char '.' = c := Option.some.inj hc
    decide

/-- A header has only one choice of parts. -/
theorem unique (hp : p.Proper) (hq : q.Proper) (h : p.text = q.text) : p = q := by
  -- part by part from the front, each being a maximal run in what is left
  obtain ⟨hindent, h⟩ := hp.isRun_indent.unique hq.isRun_indent h
  obtain ⟨hname, h⟩ := hp.isRun_name.unique hq.isRun_name h
  obtain ⟨hextension, h⟩ := hp.extension.unique hq.extension (List.cons.inj h).2
  have hcut := cutVariant_eq_iff.2 ⟨rfl, hp.variant⟩
  rw [h, cutVariant_eq_iff.2 ⟨rfl, hq.variant⟩] at hcut
  obtain ⟨hvariant, hoptions⟩ := Prod.mk.inj hcut
  exact Parts.ext hindent hname hextension hvariant.symm hoptions.symm

end Parts.Proper

/-- A label is read from a header exactly if the header has the parts of that label. -/
theorem parse?_eq_some_iff {header : Text} {a : Label} :
    parse? header = some a ↔
      ∃ p : Parts, p.Proper ∧ header.trimRight isReturnOrFeed = p.text ∧ p.label = a := by
  rw [parse?]
  generalize header.trimRight isReturnOrFeed = t
  constructor
  · intro h
    split at h
    case isTrue => cases h
    case isFalse hne =>
        obtain ⟨extension, variant, options, htail, hext, hrun, hends, hfeed, rfl⟩ :=
          parseTail?_eq_some_iff.1 h
        refine ⟨⟨t.takeWhile isBlank, _, extension, variant, options⟩, ?_, ?_, rfl⟩
        · refine
            { indent := fun c hc => List.mem_takeWhile_imp hc, name := isName_iff.2 ⟨?_, ?_⟩,
              extension_ne_nil := hext, extension := hrun, variant := hends, no_feed := hfeed }
          · simpa using hne
          · exact fun c hc => List.mem_takeWhile_imp hc
        · show t = t.takeWhile isBlank ++ (List.takeWhile isNameChar _ ++ _ :: _)
          rw [← htail, List.takeWhile_append_dropWhile]
          exact List.takeWhile_append_dropWhile.symm
  · rintro ⟨p, hp, rfl, rfl⟩
    obtain ⟨-, hbody⟩ := hp.isRun_indent.span
    obtain ⟨hname, htail⟩ := hp.isRun_name.span
    have hread : parseTail? p.name p.tail = some p.label :=
      parseTail?_eq_some_iff.2 ⟨p.extension, p.variant, p.options, rfl, hp.extension_ne_nil,
        hp.extension, hp.variant, hp.no_feed, rfl⟩
    have hne := hp.name.ne_nil
    simp only [trimLeft, Parts.text, hbody, hname, htail, hread]
    rw [if_neg (by simpa using hne)]

/-- A header without its line end is a label exactly if it has the parts of one: blank characters, a
name without dots and blank characters, a dot, a maximal word, behind a comma a maximal run of characters
that are not blank (or no variant where none can begin), and options without a line feed. No header has
two choices of such parts. The options have the keys of their tokens, in order of first appearance, each
with the value of the last token that names it; a token is its key, and behind an equals sign its
value. -/
theorem labels_follow_their_grammar (header : Text) :
    (∀ a, parse? header = some a ↔
      ∃ p : Parts, p.Proper ∧ header.trimRight isReturnOrFeed = p.text ∧ p.label = a) ∧
    (parse? header = none ↔ ∀ p : Parts, p.Proper → header.trimRight isReturnOrFeed ≠ p.text) ∧
    (∀ p q : Parts, p.Proper → q.Proper → p.text = q.text → p = q) ∧
    ∀ t : Text,
      (Options.parse t).keys =
        (t.words.map fun token => (Options.parseToken token).1).eraseDups ∧
      (∀ key, (Options.parse t).get? key =
        ((t.words.map Options.parseToken).filter fun o => o.1 = key).getLast?.map Prod.snd) ∧
      ∀ token, Options.printToken (Options.parseToken token) = token ∧
        .char '=' ∉ (Options.parseToken token).1 := by
  refine ⟨fun a => parse?_eq_some_iff, ?_, fun p q hp hq h => hp.unique hq h, fun t => ?_⟩
  · constructor
    · intro h p hp htext
      have hread := parse?_eq_some_iff.2 ⟨p, hp, htext, rfl⟩
      rw [h] at hread
      cases hread
    · intro h
      refine Option.eq_none_iff_forall_ne_some.2 fun a ha => ?_
      obtain ⟨p, hp, htext, -⟩ := parse?_eq_some_iff.1 ha
      exact h p hp htext
  · exact ⟨Options.keys_parse t, Options.get?_parse t, Options.printToken_parseToken⟩

/-- A header that begins on a line of its own, with a comma in the name, a comma that begins no variant,
and an option that is given twice. -/
theorem parts_of_header_with_spare_comma :
    ∃ p : Parts, p.Proper ∧ p.text = ofString "\na,b.html, k=1 k" ∧
      parse? (ofString "\na,b.html, k=1 k\r\n") = some p.label ∧ p.variant = none ∧
      p.label.options.get? (ofString "k") = some none := by
  have hp : Parts.Proper ⟨"\n", "a,b", "html", none, ", k=1 k"⟩ := by
    refine
      { indent := by decide, name := ⟨by decide, by decide, by unfold Solid; decide⟩,
        extension_ne_nil := by decide, extension := ⟨by decide +kernel, ?_⟩, variant := ?_,
        no_feed := by decide }
    · intro c hc
      obtain rfl : CodePoint.char ',' = c := Option.some.inj hc
      decide +kernel
    · intro c behind heq
      obtain rfl : CodePoint.char ' ' = c := (List.cons.inj (List.cons.inj heq).2).1
      decide
  obtain ⟨hread, -, -, hoptions⟩ :=
    labels_follow_their_grammar (ofString "\na,b.html, k=1 k\r\n")
  refine ⟨_, hp, by decide, (hread _).2 ⟨_, hp, by decide, rfl⟩, rfl, ?_⟩
  exact ((hoptions ", k=1 k").2.1 (ofString "k")).trans (by decide)

end Label

end ComponentDocs
