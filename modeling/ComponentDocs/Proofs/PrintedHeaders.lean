import ComponentDocs.Proofs.FenceLayout
import ComponentDocs.Proofs.HeaderGrammar

/-!
# Headers read as they are printed

A label that is printed as the header of a block is read from it again (`parse?_print`), with a line end
behind it or without. The label must be `Printable`: its parts must not hold the characters that end them.
The labels that are read from headers are exactly the printable ones
(`labels_are_read_as_printed`), so that no label which a header can spell is lost in print.

The text of the options falls apart into the printed options (`words_printed`), since each of them is a
word of its own, and each is cut at its first equals sign (`Options.parseToken_printToken`). The printed
header is one line, so that the block which it heads is read back from its lines.
-/

set_option autoImplicit false

namespace ComponentDocs

open Text

/-! ## Options -/

namespace Options

/-- What an option looks like that can be printed: its key ends at an equals sign or at a blank character,
its value at a blank character, and one of the two is there. -/
structure Printable (o : Text × Option Text) : Prop where
  no_equals : .char '=' ∉ o.1
  key : Solid o.1
  key_ne_nil : o.2 = none → o.1 ≠ []
  value : ∀ v, o.2 = some v → Solid v

/-- A printed option is cut at its first equals sign. -/
theorem parseToken_printToken {o : Text × Option Text} (h : .char '=' ∉ o.1) :
    parseToken (printToken o) = o := by
  obtain ⟨key, value⟩ := o
  cases value with
  | none => exact cutAt_of_notMem h
  | some v => exact cutAt_append_cons h v

theorem Printable.solid {o : Text × Option Text} (h : Printable o) : Solid (printToken o) := by
  obtain ⟨key, value⟩ := o
  intro c hc
  cases value with
  | none => exact h.key c hc
  | some v =>
      rcases List.mem_append.1 hc with hc | hc
      · exact h.key c hc
      · rcases List.mem_cons.1 hc with rfl | hc
        · decide
        · exact h.value v rfl c hc

theorem Printable.ne_nil {o : Text × Option Text} (h : Printable o) : printToken o ≠ [] := by
  obtain ⟨key, value⟩ := o
  cases value with
  | none => exact h.key_ne_nil rfl
  | some v => simp [printToken]

/-- An option that was read can be printed. -/
theorem printable_parseToken {t token : Text} (h : token ∈ t.words) :
    Printable (parseToken token) := by
  obtain ⟨hprint, hequals⟩ := printToken_parseToken token
  have hsolid := solid_of_mem_words h
  have hne : token ≠ [] := by simpa using (List.mem_filter.1 h).2
  refine { no_equals := hequals, key := ?_, key_ne_nil := ?_, value := ?_ }
  · intro c hc
    apply hsolid
    rw [(cutAt_spec (.char '=') token).2]
    exact List.mem_append_left _ hc
  · -- an option without a value is all key
    intro hnone hnil
    have hempty : printToken (parseToken token) = [] := by
      rw [← Prod.eta (parseToken token), hnone, hnil]
      rfl
    exact hne (hprint.symm.trans hempty)
  · intro v hv c hc
    exact hsolid c (mem_of_cutAt hv c hc)

/-- Options as they stand behind the other parts of a header. -/
def printed (os : List (Text × Option Text)) : Text :=
  os.flatMap fun o => .char ' ' :: printToken o

/-- The words of printed options are the options. -/
theorem words_printed {os : List (Text × Option Text)} (h : ∀ o ∈ os, Printable o) :
    words (printed os) = os.map printToken := by
  induction os with
  | nil => rfl
  | cons o os ih =>
      have ho := h o List.mem_cons_self
      have hos : ∀ o' ∈ os, Printable o' := fun o' ho' => h o' (List.mem_cons_of_mem o ho')
      -- a space stands before each option, also behind this one
      have hspace : ∀ c, (printed os).head? = some c → isBlank c = true := by
        intro c hc
        cases os with
        | nil => cases hc
        | cons o' os =>
            obtain rfl : CodePoint.char ' ' = c := Option.some.inj hc
            decide
      calc words (printed (o :: os))
          = words ([.char ' '] ++ (printToken o ++ printed os)) := rfl
        _ = words (printToken o ++ printed os) := words_blank_append (by decide) _
        _ = printToken o :: words (printed os) := words_solid_append ho.solid ho.ne_nil hspace
        _ = printToken o :: os.map printToken := by rw [ih hos]

/-- Printed options are read back, in their order. -/
theorem parse_printed {options : Options} (h : ∀ o ∈ options.entries, Printable o) :
    parse (printed options.entries) = options := by
  have htokens : (options.entries.map printToken).map parseToken = options.entries := by
    rw [List.map_map]
    have hsame : ∀ o ∈ options.entries, (parseToken ∘ printToken) o = id o :=
      fun o ho => parseToken_printToken (h o ho).no_equals
    rw [List.map_congr_left hsame, List.map_id]
  rw [parse, words_printed h, htokens, OrderedMap.ofList_entries]

end Options

/-! ## Labels -/

namespace Label

/-- What a label looks like that can be printed. -/
structure Printable (a : Label) : Prop where
  name : Example.IsName a.name
  extension : IsWordText a.extension
  variant : ∀ v, a.variant = some v → v ≠ [] ∧ Solid v
  options : ∀ o ∈ a.options.entries, Options.Printable o

/-- The parts of a printed label. -/
def printedParts (a : Label) : Parts :=
  ⟨[], a.name, a.extension, a.variant, Options.printed a.options.entries⟩

theorem print_eq_text (a : Label) : a.print = a.printedParts.text := by
  obtain ⟨name, extension, variant, options⟩ := a
  cases variant with
  | none => simp [print, printedParts, Parts.text, Parts.tail, Parts.variantText, Options.printed]
  | some v => simp [print, printedParts, Parts.text, Parts.tail, Parts.variantText, Options.printed]

/-- What follows the variant begins with a space, if there is anything. -/
theorem head?_printed {os : List (Text × Option Text)} {c : CodePoint}
    (h : (Options.printed os).head? = some c) : c = .char ' ' := by
  cases os with
  | nil => cases h
  | cons o os => exact (Option.some.inj h).symm

namespace Printable

variable {a : Label}

/-- Each part of a printed label ends where the next one begins. -/
theorem proper (h : a.Printable) : a.printedParts.Proper where
  indent := by simp [printedParts]
  name := h.name
  extension_ne_nil := h.extension.ne_nil
  extension := by
    refine ⟨h.extension.all_word, ?_⟩
    intro c hc
    obtain ⟨name, extension, variant, options⟩ := a
    cases variant with
    | none =>
        rw [head?_printed hc]
        decide +kernel
    | some v =>
        obtain rfl : CodePoint.char ',' = c := Option.some.inj hc
        decide +kernel
  variant := by
    obtain ⟨name, extension, variant, options⟩ := a
    cases variant with
    | none =>
        intro c behind heq
        have hcomma := head?_printed (congrArg List.head? heq)
        exact absurd hcomma (by decide)
    | some v =>
        obtain ⟨hne, hsolid⟩ := h.variant v rfl
        refine ⟨hne, fun c hc => by simp [hsolid c hc], ?_⟩
        intro c hc
        rw [head?_printed hc]
        decide
  no_feed := by
    intro hfeed
    obtain ⟨o, ho, hmem⟩ := List.mem_flatMap.1 hfeed
    rcases List.mem_cons.1 hmem with heq | hmem
    · exact absurd heq (by decide)
    · exact absurd ((h.options o ho).solid _ hmem) (by decide)

/-- A printed label has no terminator in it. -/
theorem unbroken (h : a.Printable) : Unbroken a.print := by
  have hoptions : Unbroken (Options.printed a.options.entries) := by
    intro c hc
    obtain ⟨o, ho, hmem⟩ := List.mem_flatMap.1 hc
    rcases List.mem_cons.1 hmem with rfl | hmem
    · decide
    · exact (h.options o ho).solid.unbroken c hmem
  have hvariant : Unbroken (Parts.variantText a.variant) := by
    cases hv : a.variant with
    | none => exact unbroken_nil
    | some v =>
        intro c hc
        rcases List.mem_cons.1 hc with rfl | hc
        · decide
        · exact (h.variant v hv).2.unbroken c hc
  have htail : Unbroken a.printedParts.tail := by
    intro c hc
    rcases List.mem_cons.1 hc with rfl | hc
    · decide
    · exact (h.extension.solid.unbroken.append (hvariant.append hoptions)) c hc
  rw [print_eq_text]
  exact h.name.solid.unbroken.append htail

/-- A printed label and a line end are the parts of a line. -/
theorem lineParts (h : a.Printable) {e : Text} (he : e = [] ∨ e ∈ lineBreaks) :
    LineParts a.print e := by
  rcases he with rfl | he
  · exact .last h.unbroken
  · exact .feed h.unbroken he

end Printable

/-- A label is read from the header as which it is printed. -/
theorem parse?_print {a : Label} (h : a.Printable) {e : Text} (he : e = [] ∨ e ∈ lineBreaks) :
    parse? (a.print ++ e) = some a := by
  refine parse?_eq_some_iff.2 ⟨a.printedParts, h.proper, ?_, ?_⟩
  · rw [(h.lineParts he).trimRight_eq, print_eq_text]
  · rw [Parts.label, printedParts, Options.parse_printed h.options]

/-- A label that was read can be printed. -/
theorem printable_of_parse? {header : Text} {a : Label} (h : parse? header = some a) :
    a.Printable := by
  obtain ⟨p, hp, -, rfl⟩ := parse?_eq_some_iff.1 h
  refine
    { name := hp.name, extension := ⟨hp.extension_ne_nil, hp.extension.all⟩, variant := ?_,
      options := ?_ }
  · intro v hv
    have hends := hp.variant
    rw [show p.variant = some v from hv] at hends
    refine ⟨hends.1, fun c hc => ?_⟩
    simpa using hends.2.all c hc
  · intro o ho
    obtain ⟨token, hmem, rfl⟩ := Options.exists_token ho
    exact Options.printable_parseToken hmem

/-! ## Blocks -/

/-- A text of whole lines leaves off at the start of a line. -/
theorem isFresh_of_lines {t : Text} (h : ∀ line ∈ lines t, endsLine line = true) :
    isFresh t = true := by
  by_cases hnil : lines t = []
  · rw [lines_eq_nil_iff.1 hnil]
    rfl
  · obtain ⟨before, last, hlines⟩ : ∃ before last, lines t = before ++ [last] :=
      ⟨_, _, (List.dropLast_concat_getLast hnil).symm⟩
    have hmem : last ∈ lines t := by
      rw [hlines]
      exact List.mem_append_right before List.mem_cons_self
    have ht : t = before.flatten ++ last := by
      rw [← flatten_lines t, hlines]
      simp
    rw [ht, isFresh_append (ne_nil_of_mem_lines hmem)]
    exact isFresh_of_endsLine (h last hmem)

/-- The block with a printed label for its header and the given body. -/
def printedFence (a : Label) (body : Text) : Fence :=
  { header := a.print, newline := ['\n'], body := body, closing := fenceMark, label := some a }

/-- A printed label is read back from its header. -/
theorem Printable.parse?_print {a : Label} (h : a.Printable) : parse? a.print = some a := by
  have hread := Label.parse?_print h (Or.inl rfl)
  rwa [List.append_nil] at hread

theorem wellFormed_printedFence {a : Label} (h : a.Printable) {body : Text}
    (hwhole : ∀ line ∈ lines body, endsLine line = true)
    (hopen : ∀ line ∈ lines body, Fence.closes line = false) :
    (a.printedFence body).WellFormed where
  opening := h.lineParts (e := ['\n']) (Or.inr (by decide))
  ended := by
    show endsLine (a.print ++ [.char '\n']) = true
    rw [endsLine_append (by simp)]
    decide
  whole := by
    rintro ⟨hreturn, -⟩
    have hfeed : CodePoint.char '\n' = .char '\r' := Option.some.inj hreturn
    exact absurd hfeed (by decide)
  body_fresh := isFresh_of_lines hwhole
  body_open := hopen
  closing := .last Fence.fenceMark_unbroken
  closes := by
    show Fence.closes fenceMark = true
    decide
  label_eq := (h.parse?_print).symm

/-- A label can be printed exactly if it can be read from some header. It is then read back from the
header as which it is printed, without a line end and with each of them, and a block with this header,
whole lines of which none closes it for its body, and a closing line is read as that one block, under
the label. -/
theorem labels_are_read_as_printed (a : Label) :
    (a.Printable ↔ ∃ header, parse? header = some a) ∧
    (a.Printable →
      (∀ e, e = [] ∨ e ∈ lineBreaks → parse? (a.print ++ e) = some a) ∧
      ∀ body : Text, (∀ line ∈ lines body, endsLine line = true) →
        (∀ line ∈ lines body, Fence.closes line = false) →
        Segment.split (fenceMark ++ a.print ++ [.char '\n'] ++ body ++ fenceMark) =
          [.fence ⟨a.print, [.char '\n'], body, fenceMark, some a⟩]) := by
  refine ⟨⟨fun h => ⟨a.print, h.parse?_print⟩, ?_⟩, fun h => ⟨fun e he => parse?_print h he, ?_⟩⟩
  · rintro ⟨header, hread⟩
    exact printable_of_parse? hread
  · intro body hwhole hopen
    have hsplit := Segment.split_render_append (wellFormed_printedFence h hwhole hopen)
      (t := []) (Or.inr rfl)
    rw [List.append_nil] at hsplit
    exact hsplit

/-- A label with commas, equals signs and quotes in its parts, and with options without key, without
value and with an empty one. -/
def intricate : Label :=
  ⟨"`a,b=\"", "js", some "v=1,\"w", ⟨[([], some "="), ("k", none), ("x", some [])], by decide⟩⟩

/-- What this label looks like in print, and a block that it heads. -/
theorem intricate_is_read_as_printed :
    intricate.print = ofString "`a,b=\".js,v=1,\"w == k x=" ∧
    parse? (intricate.print ++ [.char '\r', .char '\n']) = some intricate ∧
    Segment.split (fenceMark ++ intricate.print ++ [.char '\n'] ++
        ofString "````\n``` x\u2028" ++ fenceMark) =
      [.fence ⟨intricate.print, [.char '\n'], "````\n``` x\u2028", fenceMark, some intricate⟩] := by
  have hprintable : intricate.Printable := by
    refine
      { name := ⟨by decide, by decide, by unfold Solid; decide⟩,
        extension := ⟨by decide, by decide +kernel⟩, variant := ?_, options := ?_ }
    · intro v hv
      obtain rfl := Option.some.inj hv
      exact ⟨by decide, by unfold Solid; decide⟩
    · have hoption : ∀ o ∈ intricate.options.entries, .char '=' ∉ o.1 ∧
          (∀ c ∈ o.1, isBlank c = false) ∧ (o.2 = none → o.1 ≠ []) ∧
          ∀ v ∈ o.2, ∀ c ∈ v, isBlank c = false := by decide
      intro o ho
      obtain ⟨hequals, hkey, hne, hvalue⟩ := hoption o ho
      exact ⟨hequals, hkey, hne, fun v hv => hvalue v hv⟩
  obtain ⟨hread, hblock⟩ := (labels_are_read_as_printed intricate).2 hprintable
  refine ⟨by decide, hread _ (Or.inr (by decide)), ?_⟩
  exact hblock "````\n``` x\u2028" (by decide) (by decide)

end Label

end ComponentDocs
