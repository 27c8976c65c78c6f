import ComponentDocs.Proofs.BlockByBlock
import ComponentDocs.Proofs.CommentLayout

/-!
# Sources behind each other

When two source texts are put behind each other, with a line feed between them, the comments found are
those of the first and then those of the second (`insides_joined`), provided that the first leaves no
comment open (`Closed`). The line feed keeps a slash at the end of the first text from opening a comment
together with an asterisk at the start of the second. Every text either is closed or ends in a comment
that is left open (`closed_or_open`), and one of the latter kind swallows the beginning of what follows;
so being closed is exactly what is needed.

The components of joined sources are those of the two (`joined_sources_read_apart`).
-/

set_option autoImplicit false

namespace ComponentDocs

namespace Text

/-- A text that holds a pair of characters has a first place where it does. -/
theorem exists_first_pair {a b : CodePoint} {t : Text} (h : [a, b] <:+: t) :
    ∃ front rest, t = front ++ ([a, b] ++ rest) ∧ ¬ [a, b] <:+: front := by
  induction t with
  | nil => simp at h
  | cons c t ih =>
      by_cases hstart : c = a ∧ t.head? = some b
      · obtain ⟨rfl, hb⟩ := hstart
        obtain ⟨rest, rfl⟩ := List.head?_eq_some_iff.1 hb
        exact ⟨[], rest, rfl, by simp⟩
      · have hlater : [a, b] <:+: t := by
          rcases List.infix_cons_iff.1 h with hhead | hlater
          · obtain ⟨rest, hrest⟩ := hhead
            obtain ⟨rfl, rfl⟩ := List.cons.inj hrest
            exact absurd ⟨rfl, rfl⟩ hstart
          · exact hlater
        obtain ⟨front, rest, rfl, hfront⟩ := ih hlater
        refine ⟨c :: front, rest, rfl, ?_⟩
        rw [List.infix_cons_iff]
        rintro (hhead | hlater)
        · -- a pair at the start of `c :: front` is a pair at the start of the whole text
          obtain ⟨rest', hrest'⟩ := hhead
          obtain ⟨rfl, rfl⟩ := List.cons.inj hrest'
          exact hstart ⟨rfl, rfl⟩
        · exact hfront hlater

/-- A character other than the second half of a pair does not make up the pair at the end of a text. -/
theorem not_pair_infix_concat {a b c : CodePoint} (hc : c ≠ b) {t : Text} (h : ¬ [a, b] <:+: t) :
    ¬ [a, b] <:+: t ++ [c] := by
  rw [List.infix_concat_iff, not_or]
  refine ⟨?_, h⟩
  rintro ⟨front, hfront⟩
  have hlast : b = c := by simpa using congrArg List.getLast? hfront
  exact hc hlast.symm

end Text

namespace Comment

open Text

/-! ## Texts that leave no comment open -/

/-- All comments of the text are closed: between and behind its comments there is no mark that opens one,
and inside of a comment there is none that closes it. -/
inductive Closed : Text → Prop where
  | quiet {gap : Text} : ¬ opener <:+: gap → Closed gap
  | comment {gap inner rest : Text} : ¬ opener <:+: gap → ¬ closer <:+: inner → Closed rest →
      Closed (gap ++ (opener ++ (inner ++ (closer ++ rest))))

/-- A comment is left open behind the other comments of the text. -/
def Open (t : Text) : Prop :=
  ∃ front inner, Closed front ∧ ¬ closer <:+: inner ∧ t = front ++ (opener ++ inner)

/-- A text that ends in a comment that is left open still does when a comment is put in front of it. -/
theorem Open.comment {gap inner rest : Text} (hgap : ¬ opener <:+: gap)
    (hinner : ¬ closer <:+: inner) (h : Open rest) :
    Open (gap ++ (opener ++ (inner ++ (closer ++ rest)))) := by
  obtain ⟨front, last, hfront, hlast, rfl⟩ := h
  refine ⟨_, last, .comment hgap hinner hfront, hlast, ?_⟩
  simp only [List.append_assoc]

/-- Every text is closed or leaves a comment open. -/
theorem closed_or_open (t : Text) : Closed t ∨ Open t := by
  -- the first comment is taken away, and what is behind it is shorter
  induction hlength : t.length using Nat.strong_induction_on generalizing t with
  | _ n ih =>
      by_cases hopener : opener <:+: t
      · obtain ⟨gap, rest, rfl, hgap⟩ := exists_first_pair hopener
        by_cases hcloser : closer <:+: rest
        · obtain ⟨inner, behind, rfl, hinner⟩ := exists_first_pair hcloser
          have hshorter : behind.length < n := by
            simp only [List.length_append, List.length_cons, List.length_nil] at hlength
            omega
          rcases ih behind.length hshorter behind rfl with hclosed | hopen
          · exact Or.inl (.comment hgap hinner hclosed)
          · exact Or.inr (hopen.comment hgap hinner)
        · exact Or.inr ⟨gap, rest, .quiet hgap, hcloser, rfl⟩
      · exact Or.inl (.quiet hopener)

/-! ## Reading on behind a closed text -/

/-- Behind a closed text the reader stands outside of comments. -/
theorem insidesFrom_closed_append {t rest : Text} (h : Closed t)
    (hrest : rest.head? ≠ some (.char '*')) :
    insidesFrom .outside (t ++ rest) = insides t ++ insidesFrom .outside rest := by
  unfold insides
  induction h with
  | @quiet gap hgap =>
      have halone : insidesFrom .outside (gap ++ []) = insidesFrom .outside [] :=
        insidesFrom_outside_append hgap (by simp)
      rw [List.append_nil] at halone
      rw [insidesFrom_outside_append hgap hrest, halone]
      rfl
  | comment hgap hinner _ ih =>
      simp only [List.append_assoc]
      rw [insidesFrom_outside_append hgap (head?_opener_append _),
        insidesFrom_outside_append hgap (head?_opener_append _), insidesFrom_comment hinner,
        insidesFrom_comment hinner, ih, List.cons_append]

/-- The comments of joined texts are those of the first and then those of the second. -/
theorem insides_joined {a : Text} (h : Closed a) (b : Text) :
    insides (a ++ .char '\n' :: b) = insides a ++ insides b := by
  have hfeed : insidesFrom .outside (.char '\n' :: b) = insidesFrom .outside b :=
    insidesFrom_outside_cons (by simp)
  rw [insides, insidesFrom_closed_append h (by simp), hfeed]
  rfl

/-- A comment that is left open takes in what follows, up to the mark that closes it. -/
theorem insides_open_closed {front inner : Text} (hfront : Closed front)
    (hinner : ¬ closer <:+: inner) :
    insides (front ++ (opener ++ inner)) = insides front ∧
      insides (front ++ (opener ++ inner) ++ .char '\n' :: closer) =
        insides front ++ [inner ++ [.char '\n']] := by
  constructor
  · have hopen : insidesFrom .outside (opener ++ inner) = insidesFrom (.inside []) inner := by
      rw [opener, List.cons_append, List.cons_append, List.nil_append, insidesFrom]
    have hnone : insidesFrom (.inside []) (inner ++ []) =
        insidesFrom (.inside (inner.reverse ++ [])) [] :=
      insidesFrom_inside_append hinner (by simp) []
    rw [List.append_nil] at hnone
    rw [insides, insidesFrom_closed_append hfront (head?_opener_append _), hopen, hnone]
    simp [insidesFrom]
  · have hline : ¬ closer <:+: inner ++ [.char '\n'] := not_pair_infix_concat (by decide) hinner
    have hcomment := insidesFrom_comment hline []
    simp only [List.append_nil, List.append_assoc, List.singleton_append] at hcomment
    rw [insides, List.append_assoc, List.append_assoc,
      insidesFrom_closed_append hfront (head?_opener_append _), hcomment]
    simp [insidesFrom]

/-- Closed texts are exactly those behind which the comments of any other text are found. -/
theorem closed_iff_forall_joined (a : Text) :
    Closed a ↔ ∀ b, blocks (a ++ .char '\n' :: b) = blocks a ++ blocks b := by
  constructor
  · intro h b
    rw [blocks, insides_joined h, List.map_append]
    rfl
  · intro h
    rcases closed_or_open a with hclosed | ⟨front, inner, hfront, hinner, rfl⟩
    · exact hclosed
    · -- a mark that closes the comment gives one more block to the whole, but none to itself
      obtain ⟨halone, hjoined⟩ := insides_open_closed hfront hinner
      have hlength := congrArg List.length (h closer)
      rw [blocks, blocks, hjoined, halone] at hlength
      simp [blocks, insides, insidesFrom, closer] at hlength

end Comment

/-! ## Components -/

namespace Extraction

open Text

/-- The components of two lists of blocks are those of the first and then those of the second. -/
theorem componentsOf_append (rt : Runtime) (options : ExtractionOptions) (xs ys : List Text) :
    componentsOf rt options (xs ++ ys) =
      (do return (← componentsOf rt options xs) ++ (← componentsOf rt options ys)) := by
  simp only [componentsOf_eq_appendEach, appendEach_append]

section Joined

variable {rt : Runtime} {options : ExtractionOptions} {source : Option Text} {a b t : Text}

/-- Without merging, the components of joined texts follow each other. -/
theorem extract_joined
    (h : documentationBlocks options.markdown source t =
      documentationBlocks options.markdown source a ++ documentationBlocks options.markdown source b) :
    extract rt { options with merge := false } source t =
      (do return (← extract rt { options with merge := false } source a) ++
        (← extract rt { options with merge := false } source b)) := by
  rw [extract, extract, extract, h, componentsOf_append]
  cases componentsOf rt { options with merge := false }
      (documentationBlocks options.markdown source a) with
  | error e => rfl
  | ok own =>
      cases componentsOf rt { options with merge := false }
          (documentationBlocks options.markdown source b) with
      | error e => rfl
      | ok others => rfl

/-- With merging, the components of joined texts are merged. -/
theorem extract_joined_merged
    (h : documentationBlocks options.markdown source t =
      documentationBlocks options.markdown source a ++ documentationBlocks options.markdown source b) :
    extract rt { options with merge := true } source t =
      (do return Component.merge ((← extract rt { options with merge := true } source a) ++
        (← extract rt { options with merge := true } source b))) := by
  rw [extract_merge, extract_merge, extract_merge, extract_joined h]
  cases extract rt { options with merge := false } source a with
  | error e => rfl
  | ok own =>
      cases extract rt { options with merge := false } source b with
      | error e => rfl
      | ok others => exact congrArg Except.ok (Component.merge_append_merge own others).symm

/-- Joined texts cannot be read when the first cannot, or else when the second cannot. -/
theorem extract_joined_eq_error_iff
    (h : documentationBlocks options.markdown source t =
      documentationBlocks options.markdown source a ++ documentationBlocks options.markdown source b)
    (e : Yaml.Error) :
    extract rt options source t = .error e ↔
      extract rt options source a = .error e ∨
        (∃ components, extract rt options source a = .ok components) ∧
          extract rt options source b = .error e := by
  unfold extract
  rw [map_eq_error_iff, map_eq_error_iff, map_eq_error_iff, h, componentsOf_append]
  cases componentsOf rt options (documentationBlocks options.markdown source a) with
  | error e' => simp [bind, Except.bind, Except.map]
  | ok own =>
      cases componentsOf rt options (documentationBlocks options.markdown source b) with
      | error e' => simp [bind, Except.bind, Except.map]
      | ok others => simp [bind, Except.bind, Except.map, pure, Except.pure]

end Joined

open Comment in
/-- A source text that leaves no comment open may be joined to another by a line feed: the blocks found
are those of the first and then those of the second, and no other text has this property with regard to
every second one. The components are then those of the first followed by those of the second, merged if
the options ask for it, and reading fails as the first text does or else as the second one does. -/
theorem joined_sources_read_apart (rt : Runtime) (options : ExtractionOptions)
    (source : Option Text)
    (hsource : Extension.isMarkdown options.markdown source = false) (a : Text) :
    (Closed a ↔ ∀ b, documentationBlocks options.markdown source (a ++ .char '\n' :: b) =
      documentationBlocks options.markdown source a ++
        documentationBlocks options.markdown source b) ∧
    (Closed a → ∀ b,
      extract rt { options with merge := false } source (a ++ .char '\n' :: b) =
          (do return (← extract rt { options with merge := false } source a) ++
            (← extract rt { options with merge := false } source b)) ∧
        extract rt { options with merge := true } source (a ++ .char '\n' :: b) =
          (do return Component.merge ((← extract rt { options with merge := true } source a) ++
            (← extract rt { options with merge := true } source b))) ∧
        ∀ e, extract rt options source (a ++ .char '\n' :: b) = .error e ↔
          extract rt options source a = .error e ∨
            (∃ components, extract rt options source a = .ok components) ∧
              extract rt options source b = .error e) := by
  have hblocks : ∀ t, documentationBlocks options.markdown source t = blocks t := by
    intro t
    rw [documentationBlocks, if_neg (by simp [hsource])]
  constructor
  · simp only [hblocks]
    exact closed_iff_forall_joined a
  · intro ha b
    have hjoined : documentationBlocks options.markdown source (a ++ .char '\n' :: b) =
        documentationBlocks options.markdown source a ++
          documentationBlocks options.markdown source b := by
      simp only [hblocks]
      exact (closed_iff_forall_joined a).1 ha b
    exact ⟨extract_joined hjoined, extract_joined_merged hjoined, extract_joined_eq_error_iff hjoined⟩

/-- A source with a comment and a slash at its end. -/
def slashAtEnd : Text := "/*---\nname: a\n---\nx*/ /"

/-- A source with an asterisk at its start and a comment for the same component. -/
def asteriskAtStart : Text := "* */ /*---\nname: a\n---\ny*/"

open Comment in
/-- The slash and the asterisk do not meet, and each source contributes to the component. -/
theorem slash_and_asterisk_read_apart :
    Closed slashAtEnd ∧
    extract .own {} (some "js") (slashAtEnd ++ .char '\n' :: asteriskAtStart) =
      (do return Component.merge ((← extract .own {} (some "js") slashAtEnd) ++
        (← extract .own {} (some "js") asteriskAtStart))) ∧
    ((extract .own {} (some "js") (slashAtEnd ++ .char '\n' :: asteriskAtStart)).map fun components =>
      components.map Component.description).toOption = some [ofString "x\n\ny"] := by
  have hclosed : Closed slashAtEnd := by
    have hpieces : slashAtEnd =
        [] ++ (opener ++ (ofString "---\nname: a\n---\nx" ++ (closer ++ ofString " /"))) := by
      decide
    rw [hpieces]
    exact .comment (by decide) (by decide +kernel) (.quiet (by decide +kernel))
  have hread := joined_sources_read_apart .own {} (some "js") (by decide +kernel) slashAtEnd
  exact ⟨hclosed, (hread.2 hclosed asteriskAtStart).2.1, by decide +kernel⟩

end Extraction

end ComponentDocs
