import ComponentDocs.Proofs.HeaderGrammar

/-!
# The two tests for hidden blocks

A block is taken out of the description when a word of its header is the hidden flag, and the code block
that goes into its example is marked when the flag is an option of its label. The first test reads the
whole header, the second only what stands behind the extension and the variant, and that may begin in
the middle of a word.

The two differ in one word only, the one that holds the name (`words_text`). It cannot be the flag by
itself, as it has a dot in it, but its key is the flag when the name begins with the flag and an equals
sign. What is left of that word behind the label never is the flag, since it begins with a character that
ends an extension (`hasHiddenToken_options`). Hence the tests agree for all other names
(`hidden_tests_agree`).
-/

set_option autoImplicit false

namespace ComponentDocs

open Text

namespace Text

/-- The key of a text is the given one if the text is that key, or begins with it and the mark. -/
theorem cutAt_fst_eq_iff {mark : CodePoint} {t key : Text} (hkey : mark ∉ key) :
    (cutAt mark t).1 = key ↔ t = key ∨ key ++ [mark] <+: t := by
  constructor
  · rintro rfl
    obtain ⟨-, ht⟩ := cutAt_spec mark t
    cases hv : (cutAt mark t).2 with
    | none =>
        rw [hv] at ht
        exact Or.inl (ht.trans (List.append_nil _))
    | some value =>
        rw [hv] at ht
        refine Or.inr ⟨value, ?_⟩
        rw [List.append_assoc]
        exact ht.symm
  · rintro (rfl | ⟨value, rfl⟩)
    · rw [cutAt_of_notMem hkey]
    · -- the mark behind the key is the first one
      rw [List.append_assoc, List.singleton_append, cutAt_append_cons hkey]

end Text

/-! ## The words of a header -/

/-- Whether a word is the hidden flag, with or without a value. -/
def isHiddenFlag (token : Text) : Bool :=
  (token.cutAt '=').1 == Label.hiddenKey

theorem hasHiddenToken_eq (t : Text) : hasHiddenToken t = t.words.any isHiddenFlag := rfl

theorem isHiddenFlag_iff {token : Text} :
    isHiddenFlag token = true ↔ token = Label.hiddenKey ∨ ofString "hidden=" <+: token := by
  rw [isHiddenFlag, beq_iff_eq, cutAt_fst_eq_iff (by decide)]
  rfl

/-- The flag begins with a word character. -/
theorem isWord_of_isHiddenFlag {c : CodePoint} {rest : Text} (h : isHiddenFlag (c :: rest) = true) :
    isWord c = true := by
  have hc : c = .char 'h' := by
    rcases isHiddenFlag_iff.1 h with heq | ⟨value, heq⟩
    · exact (List.cons.inj heq).1
    · exact (List.cons.inj heq).1.symm
  rw [hc]
  decide +kernel

namespace Label.Parts

variable {p : Parts}

/-- The word of a header that holds the name: all up to the first blank character behind it. -/
def firstWord (p : Parts) : Text :=
  p.name ++ .char '.' ::
    (p.extension ++ (variantText p.variant ++ p.options.takeWhile fun c => !isBlank c))

/-- The words of a header are the one that holds the name and those of the rest of its options. -/
theorem words_text (h : p.Proper) :
    words p.text = p.firstWord :: words (p.options.dropWhile fun c => !isBlank c) := by
  obtain ⟨hoptions, hrun⟩ := isRun_span (fun c => !isBlank c) p.options
  have hsplit : p.name ++ p.tail = p.firstWord ++ p.options.dropWhile fun c => !isBlank c := by
    rw [tail, firstWord]
    simp only [List.append_assoc, List.cons_append]
    rw [← hoptions]
  have hsolid : Solid p.firstWord := by
    intro c hc
    simp only [firstWord, List.mem_append, List.mem_cons] at hc
    rcases hc with hc | rfl | hc | hc | hc
    · exact h.name.solid c hc
    · decide
    · exact isBlank_eq_false_of_isWord (h.extension.all c hc)
    · -- a variant is a comma and characters that are not blank
      have hvariant := h.variant
      cases hv : p.variant with
      | none =>
          rw [hv] at hc
          cases hc
      | some variant =>
          rw [hv] at hc hvariant
          rcases List.mem_cons.1 hc with rfl | hc
          · decide
          · simpa using hvariant.2.all c hc
    · simpa using hrun.all c hc
  have hne : p.firstWord ≠ [] := List.append_ne_nil_of_left_ne_nil h.name.ne_nil _
  rw [text, words_blank_append h.indent, hsplit, words_solid_append hsolid hne]
  intro c hc
  simpa using hrun.stop c hc

/-- The word that holds the name is the flag when the name begins with the flag and an equals sign. -/
theorem isHiddenFlag_firstWord (p : Parts) :
    isHiddenFlag p.firstWord = true ↔ ofString "hidden=" <+: p.name := by
  have hdot : CodePoint.char '.' ∉ ofString "hidden=" := by decide
  rw [isHiddenFlag_iff]
  constructor
  · rintro (heq | hprefix)
    · -- the word has a dot in it, and the flag has none
      have hmem : CodePoint.char '.' ∈ p.firstWord := by simp [firstWord]
      rw [heq] at hmem
      exact absurd hmem (by decide)
    · rcases List.prefix_or_prefix_of_prefix hprefix (List.prefix_append p.name _) with hle | hle
      · exact hle
      · -- if the name were shorter, the dot behind it would stand in the flag
        obtain ⟨rest, hrest⟩ := hle
        rw [← hrest, firstWord, List.prefix_append_right_inj] at hprefix
        cases rest with
        | nil =>
            rw [List.append_nil] at hrest
            exact ⟨[], by rw [List.append_nil, hrest]⟩
        | cons c rest =>
            obtain ⟨behind, hbehind⟩ := hprefix
            obtain rfl : c = .char '.' := (List.cons.inj hbehind).1
            exact absurd (by rw [← hrest]; simp) hdot
  · intro hname
    exact Or.inr (hname.trans (List.prefix_append p.name _))

/-- What the options begin with in the middle of a word is not the flag. -/
theorem hasHiddenToken_options (h : p.Proper) :
    hasHiddenToken p.options =
      hasHiddenToken (p.options.dropWhile fun c => !isBlank c) := by
  obtain ⟨hoptions, hrun⟩ := isRun_span (fun c => !isBlank c) p.options
  cases hfirst : p.options.takeWhile fun c => !isBlank c with
  | nil =>
      rw [hfirst, List.nil_append] at hoptions
      rw [← hoptions]
  | cons c rest =>
      rw [hfirst] at hoptions hrun
      -- without a variant the first character has ended the extension, and a variant would have
      -- taken it along
      have hc : isWord c = false := by
        have hextension := h.extension.stop c
        have hvariant := h.variant
        cases hv : p.variant with
        | none =>
            rw [hv] at hextension
            refine hextension ?_
            rw [hoptions]
            rfl
        | some variant =>
            rw [hv] at hvariant
            have hblank := hvariant.2.stop c (by rw [hoptions]; rfl)
            rw [hrun.all c List.mem_cons_self] at hblank
            cases hblank
      have hflag : isHiddenFlag (c :: rest) = false := by
        refine Bool.eq_false_iff.2 fun hflag => ?_
        rw [isWord_of_isHiddenFlag hflag] at hc
        cases hc
      have hsolid : Solid (c :: rest) := fun d hd => by simpa using hrun.all d hd
      have hwords := words_solid_append hsolid (List.cons_ne_nil c rest)
        (fun d hd => by simpa using hrun.stop d hd)
      rw [← hoptions] at hwords
      rw [hasHiddenToken_eq, hwords, List.any_cons, hflag, Bool.false_or, hasHiddenToken_eq]

/-- The label of a header is hidden when a word of its options is the flag. -/
theorem hidden_label (p : Parts) : p.label.hidden = hasHiddenToken p.options := by
  rw [Bool.eq_iff_iff, hidden, OrderedMap.contains, Option.isSome_iff_ne_none]
  rw [Ne, OrderedMap.get?_eq_none_iff, not_not, label, Options.keys_parse, List.mem_eraseDups,
    hasHiddenToken_eq, List.any_eq_true, List.mem_map]
  refine exists_congr fun token => and_congr_right fun _ => ?_
  rw [isHiddenFlag, beq_iff_eq]
  rfl

end Label.Parts

/-- The flag is found in a header with a label if it is an option of the label, or if the name begins
with it and an equals sign. -/
theorem hasHiddenToken_iff {header : Text} {a : Label} (h : Label.parse? header = some a) :
    hasHiddenToken header = true ↔ a.hidden = true ∨ ofString "hidden=" <+: a.name := by
  obtain ⟨p, hp, htext, rfl⟩ := Label.parse?_eq_some_iff.1 h
  -- the line end that was taken off the header is blank
  have hend : ∀ c ∈ header.trailing isReturnOrFeed, isBlank c = true := by
    intro c hc
    have hc := List.mem_takeWhile_imp (List.mem_reverse.1 hc)
    exact isBlank_of_isTerminator (isTerminator_of_isReturnOrFeed hc)
  have hheader := words_append_blank p.text hend
  rw [← htext, trimRight_append_trailing, htext] at hheader
  rw [hasHiddenToken_eq, hheader, Label.Parts.words_text hp, List.any_cons, Bool.or_eq_true,
    Label.Parts.isHiddenFlag_firstWord, ← hasHiddenToken_eq, ← Label.Parts.hasHiddenToken_options hp,
    Label.Parts.hidden_label, or_comm]
  rfl

/-! ## Blocks that are taken out -/

namespace Description

open Segment

/-- Inserting placeholders keeps the blocks. -/
theorem fences_insertPlaceholdersFrom (examples : OrderedMap Text Example) (renderable : List Text)
    (tagged : List Text) (segments : List Segment) :
    fences (insertPlaceholdersFrom examples renderable tagged segments) = fences segments := by
  induction segments generalizing tagged with
  | nil => rfl
  | cons s rest ih =>
      have hcons : ∀ others, fences (s :: others) = fences [s] ++ fences others :=
        fun others => fences_append [s] others
      rw [insertPlaceholdersFrom, hcons rest]
      split
      case h_1 => rw [hcons, ih]
      case h_2 a _ =>
          split
          case h_1 => rw [hcons, ih]
          case h_2 e _ =>
              show fences (s :: insertPlaceholdersFrom examples renderable (a.name :: tagged) rest) = _
              rw [hcons, ih]

theorem fences_dropFinalFeed (kept : List Segment) :
    fences (dropFinalFeed kept).reverse = fences kept.reverse := by
  have htext : ∀ (t : Text) (before : List Segment),
      fences (text t :: before).reverse = fences before.reverse := by
    intro t before
    rw [List.reverse_cons, fences_append]
    exact List.append_nil _
  unfold dropFinalFeed
  split
  case h_1 t before =>
      split
      case isTrue =>
          split
          case isTrue => rw [htext]
          case isFalse => rw [htext, htext]
      case isFalse => rfl
  case h_2 => rfl

/-- One more segment is kept unless it is a hidden block. -/
theorem fences_keepVisible (kept : List Segment) (s : Segment) :
    fences (keepVisible kept s).reverse =
      fences kept.reverse ++ (fences [s]).filter fun f => !f.hidden := by
  cases s with
  | text t =>
      rw [keepVisible, List.reverse_cons, fences_append]
      rfl
  | fence f =>
      rw [keepVisible]
      cases hf : f.hidden with
      | true =>
          rw [if_pos rfl, fences_dropFinalFeed]
          simp [fences, hf]
      | false =>
          rw [if_neg (by simp), List.reverse_cons, fences_append]
          simp [fences, hf]

/-- Removing hidden blocks keeps all others. -/
theorem fences_removeHidden (segments : List Segment) :
    fences (removeHidden segments) = (fences segments).filter fun f => !f.hidden := by
  -- the kept segments are stacked up, so they are read in reverse and stay variable in the induction
  have hrun : ∀ kept, fences (segments.foldl keepVisible kept).reverse =
      fences kept.reverse ++ (fences segments).filter fun f => !f.hidden := by
    induction segments with
    | nil => simp [fences]
    | cons s rest ih =>
        intro kept
        have hcons : fences (s :: rest) = fences [s] ++ fences rest := fences_append [s] rest
        rw [List.foldl_cons, ih, fences_keepVisible, hcons, List.filter_append, List.append_assoc]
  exact hrun []

/-- The blocks that stay in the description are those whose header has no hidden flag. -/
theorem mem_fences_visible_iff {examples : OrderedMap Text Example} {renderable : List Text}
    {segments : List Segment} {f : Fence} (hf : f ∈ fences segments) :
    f ∈ fences (removeHidden (insertPlaceholders examples renderable segments)) ↔
      f.hidden = false := by
  rw [fences_removeHidden, insertPlaceholders, fences_insertPlaceholdersFrom, List.mem_filter,
    and_iff_right hf]
  simp

end Description

/-! ## The code block of a fence -/

namespace Example

/-- Blocks that are added one after the other are appended. -/
theorem blocks_foldl_blockStep (bs : List (Text × CodeBlock)) (known : Option Example) :
    ((bs.foldl (fun old b => some (blockStep b old)) known).map Example.blocks).getD [] =
      (known.map Example.blocks).getD [] ++ bs.map Prod.snd := by
  induction bs generalizing known with
  | nil => rw [List.foldl_nil, List.map_nil, List.append_nil]
  | cons b bs ih =>
      rw [List.foldl_cons, ih, Option.map_some, Option.getD_some, blockStep, extend_blocks,
        List.map_cons, List.append_assoc, List.singleton_append]
      cases known with
      | none => rfl
      | some e => rfl

/-- An example that is gathered from segments has the blocks of its name, in order. -/
theorem blocks_collect {segments : List Segment} {name : Text} {e : Example}
    (h : (collect segments).get? name = some e) :
    e.blocks =
      ((segments.filterMap CodeBlock.ofSegment?).filter fun b => b.1 = name).map Prod.snd := by
  have hblocks := blocks_foldl_blockStep
    ((segments.filterMap CodeBlock.ofSegment?).filter fun b => b.1 = name) none
  rw [collect_eq_gather, OrderedMap.get?_gather, OrderedMap.get?_empty] at h
  rw [h] at hblocks
  exact hblocks

/-- The code block of a labelled fence is gathered into the example that the label names. -/
theorem exists_mem_blocks_collect {segments : List Segment} {s : Segment} (hs : s ∈ segments)
    {name : Text} {b : CodeBlock} (h : CodeBlock.ofSegment? s = some (name, b)) :
    ∃ e, (collect segments).get? name = some e ∧ b ∈ e.blocks := by
  have hmem : (name, b) ∈ segments.filterMap CodeBlock.ofSegment? :=
    List.mem_filterMap.2 ⟨s, hs, h⟩
  have hkey : name ∈ (collect segments).keys := by
    rw [collect_eq_gather, OrderedMap.keys_gather_empty, List.mem_eraseDups]
    exact List.mem_map_of_mem hmem
  obtain ⟨e, he⟩ := Option.ne_none_iff_exists'.1 fun hnone =>
    OrderedMap.get?_eq_none_iff.1 hnone hkey
  refine ⟨e, he, ?_⟩
  rw [blocks_collect he, List.mem_map]
  exact ⟨(name, b), List.mem_filter.2 ⟨hmem, by simp⟩, rfl⟩

end Example

namespace Description

open Segment

/-- In a header with a label, a word is the hidden flag exactly if the label is hidden or its name begins
with the flag and an equals sign. So a named block is taken out of the description exactly if the code
block that is gathered from it is marked as hidden, or its name begins in that way. -/
theorem hidden_tests_agree :
    (∀ (header : Text) (a : Label), Label.parse? header = some a →
      (hasHiddenToken header = true ↔ a.hidden = true ∨ ofString "hidden=" <+: a.name)) ∧
    ∀ (examples : OrderedMap Text Example) (renderable : List Text) (content : Text) (f : Fence)
      (name : Text) (b : CodeBlock),
      f ∈ fences (split content) → CodeBlock.ofFence? f = some (name, b) →
      (∃ e, (Example.collect (split content)).get? name = some e ∧ b ∈ e.blocks) ∧
      (f ∉ fences (removeHidden (insertPlaceholders examples renderable (split content))) ↔
        b.hidden = true ∨ ofString "hidden=" <+: name) := by
  refine ⟨fun header a h => hasHiddenToken_iff h, ?_⟩
  intro examples renderable content f name b hf hb
  have hmem : fence f ∈ split content := by
    obtain ⟨s, hs, hfence⟩ := List.mem_filterMap.1 hf
    cases s with
    | text t => cases hfence
    | fence f' => rwa [Option.some.inj hfence] at hs
  refine ⟨Example.exists_mem_blocks_collect hmem hb, ?_⟩
  obtain ⟨a, ha, heq⟩ := Option.map_eq_some_iff.1 hb
  obtain ⟨rfl, rfl⟩ := Prod.mk.inj heq
  rw [mem_fences_visible_iff hf, Bool.not_eq_false]
  exact hasHiddenToken_iff (((layout_split content).wellFormed f hf).parse?_header ha)

/-- A label in the middle of a word with the flag behind it, and a block that is taken out for its name
although its code block is not marked. -/
theorem hidden_tests_behind_label_and_in_name :
    (∃ a, Label.parse? "a.html-x, hidden" = some a ∧ a.hidden = true ∧
      hasHiddenToken "a.html-x, hidden" = true) ∧
    ∃ (f : Fence) (b : CodeBlock), f ∈ fences (split "```hidden=b.js\ny\n```\n") ∧
      CodeBlock.ofFence? f = some (ofString "hidden=b", b) ∧ b.hidden = false ∧
      f ∉ fences (removeHidden (insertPlaceholders .empty []
        (split "```hidden=b.js\ny\n```\n"))) := by
  constructor
  · have hlabel : (Label.parse? "a.html-x, hidden").map Label.hidden = some true := by decide +kernel
    obtain ⟨a, ha, hhidden⟩ := Option.map_eq_some_iff.1 hlabel
    exact ⟨a, ha, hhidden, (hidden_tests_agree.1 _ a ha).2 (Or.inl hhidden)⟩
  · have hf : (⟨"hidden=b.js", "\n", "y\n", "```", some ⟨"hidden=b", "js", none, .empty⟩⟩ : Fence) ∈
        fences (split "```hidden=b.js\ny\n```\n") := by decide +kernel
    have hb : CodeBlock.ofFence?
        ⟨"hidden=b.js", "\n", "y\n", "```", some ⟨"hidden=b", "js", none, .empty⟩⟩ =
        some (ofString "hidden=b", ⟨"js", "y\n", false, none⟩) := by decide +kernel
    refine ⟨_, _, hf, hb, rfl, ?_⟩
    exact (hidden_tests_agree.2 .empty [] _ _ _ _ hf hb).2.2 (Or.inr (by decide))

end Description

end ComponentDocs
