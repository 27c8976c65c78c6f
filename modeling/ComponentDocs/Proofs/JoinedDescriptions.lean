import ComponentDocs.Proofs.MergedGroups
import Mathlib.Data.List.Induction

/-!
# Joined descriptions

The description of merged components has a closed form (`jointDescription`). Of the descriptions of a
group, those that are blank do not count. Several others become the paragraphs of one text: line feeds
are taken off where two of them meet, and a blank line stands there (`paragraphs`).

Merging joins descriptions one after the other, and trims what it has joined so far anew at every step.
This reaches no further back than the last paragraph, which has a character that is no line feed
(`trimRight_paragraphs`); so one step adds one paragraph (`joinDescriptions_paragraphs`), and a run adds
all of them (`foldl_joinDescriptions_eq`).
-/

set_option autoImplicit false

namespace ComponentDocs

/-! ## Paragraphs -/

theorem Text.join_concat (separator : Text) {parts : List Text} (h : parts ≠ []) (t : Text) :
    join separator (parts ++ [t]) = join separator parts ++ separator ++ t := by
  induction parts with
  | nil => exact absurd rfl h
  | cons s parts ih =>
      cases parts with
      | nil => rfl
      | cons s' parts =>
          show s ++ separator ++ join separator (s' :: parts ++ [t]) =
            s ++ separator ++ join separator (s' :: parts) ++ separator ++ t
          rw [ih (List.cons_ne_nil s' parts)]
          simp only [List.append_assoc]

/-- Descriptions as the paragraphs of one text, with a blank line between neighbours and no other line
feeds next to it. -/
def paragraphs (first : Text) (middle : List Text) (last : Text) : Text :=
  Text.join "\n\n"
    (first.trimRight (· == '\n') ::
      (middle.map (Text.trim (· == '\n')) ++ [last.trimLeft (· == '\n')]))

theorem paragraphs_eq (first : Text) (middle : List Text) (last : Text) :
    paragraphs first middle last =
      Text.join "\n\n" (first.trimRight (· == '\n') :: middle.map (Text.trim (· == '\n'))) ++
        "\n\n" ++ last.trimLeft (· == '\n') := by
  rw [paragraphs, ← List.cons_append, Text.join_concat _ (List.cons_ne_nil _ _)]

/-- Paragraphs of which the last is not blank are not blank. -/
theorem isBlankText_paragraphs (first : Text) (middle : List Text) {last : Text}
    (h : last.isBlankText = false) : (paragraphs first middle last).isBlankText = false := by
  obtain ⟨c, hc, hblank⟩ := exists_not_blank h
  have hmem : c ∈ paragraphs first middle last := by
    rw [paragraphs_eq]
    exact List.mem_append_right _ (Text.mem_trimLeft hc (ne_feed_of_not_blank hblank))
  rw [Text.isBlankText, List.all_eq_false]
  exact ⟨c, hmem, by simp [hblank]⟩

/-- Trimming paragraphs at the back trims the last one and leaves the blank lines between them. -/
theorem trimRight_paragraphs (first : Text) (middle : List Text) {last : Text}
    (h : last.isBlankText = false) :
    (paragraphs first middle last).trimRight (· == '\n') =
      Text.join "\n\n" (first.trimRight (· == '\n') ::
        (middle ++ [last]).map (Text.trim (· == '\n'))) := by
  obtain ⟨c, hc, hfeed⟩ := exists_ne_feed h
  have hleft := Text.mem_trimLeft (p := (· == '\n')) hc hfeed
  rw [paragraphs_eq, Text.trimRight_append_of_mem _ hleft hfeed, List.map_append, ← List.cons_append,
    List.map_singleton, Text.join_concat _ (List.cons_ne_nil _ _)]
  rfl

/-! ## Joining one after the other -/

/-- One more description is one more paragraph. -/
theorem joinDescriptions_paragraphs (first : Text) (middle : List Text) {d last : Text}
    (hd : d.isBlankText = false) (hlast : last.isBlankText = false) :
    joinDescriptions (paragraphs first middle d) last = paragraphs first (middle ++ [d]) last := by
  rw [joinDescriptions_of_not_blank (isBlankText_paragraphs first middle hd) hlast,
    trimRight_paragraphs first middle hd, paragraphs_eq]

/-- Descriptions that are not blank become paragraphs. -/
theorem foldl_joinDescriptions_concat {first last : Text} {middle : List Text}
    (hfirst : first.isBlankText = false) (hmiddle : ∀ d ∈ middle, d.isBlankText = false)
    (hlast : last.isBlankText = false) :
    (middle ++ [last]).foldl joinDescriptions first = paragraphs first middle last := by
  rw [List.foldl_concat]
  -- the description that is joined last is trimmed at the back when another one follows
  induction middle using List.reverseRecOn generalizing last with
  | nil => exact joinDescriptions_of_not_blank hfirst hlast
  | append_singleton middle d ih =>
      have hd : d.isBlankText = false := hmiddle d (by simp)
      have hrest : ∀ e ∈ middle, e.isBlankText = false :=
        fun e he => hmiddle e (List.mem_append_left _ he)
      rw [List.foldl_concat, ih hrest hd, joinDescriptions_paragraphs first middle hd hlast]

theorem foldl_joinDescriptions_cons {first e : Text} {rest : List Text}
    (hfirst : first.isBlankText = false) (hrest : ∀ d ∈ e :: rest, d.isBlankText = false) :
    (e :: rest).foldl joinDescriptions first =
      paragraphs first (e :: rest).dropLast ((e :: rest).getLast (List.cons_ne_nil e rest)) := by
  have hsplit := List.dropLast_append_getLast (List.cons_ne_nil e rest)
  have hmiddle : ∀ d ∈ (e :: rest).dropLast, d.isBlankText = false :=
    fun d hd => hrest d (List.dropLast_subset _ hd)
  rw [← foldl_joinDescriptions_concat hfirst hmiddle (hrest _ (List.getLast_mem _)), hsplit]

/-- Descriptions that are blank make no difference to what they are joined to. -/
theorem foldl_joinDescriptions_filter (soFar : Text) (ds : List Text) :
    (ds.filter fun d => !d.isBlankText).foldl joinDescriptions soFar =
      ds.foldl joinDescriptions soFar := by
  induction ds generalizing soFar with
  | nil => rfl
  | cons d ds ih =>
      rw [List.filter_cons, List.foldl_cons]
      cases hd : d.isBlankText with
      | true =>
          rw [joinDescriptions_of_blank_right soFar hd]
          exact ih soFar
      | false => exact ih (joinDescriptions soFar d)

/-! ## The closed form -/

/-- The joint description of several: the first one if all are blank, the only one that is not blank, or
else those that are not blank as paragraphs. -/
def jointDescription (ds : List Text) : Text :=
  match ds.filter fun d => !d.isBlankText with
  | [] => ds.headD []
  | [d] => d
  | d :: e :: rest =>
      paragraphs d (e :: rest).dropLast ((e :: rest).getLast (List.cons_ne_nil e rest))

/-- Joining descriptions to a first one, one after the other, gives their joint description. -/
theorem foldl_joinDescriptions_eq (first : Text) (others : List Text) :
    others.foldl joinDescriptions first = jointDescription (first :: others) := by
  have hshown : ∀ d ∈ others.filter fun d => !d.isBlankText, d.isBlankText = false := by
    intro d hd
    simpa using (List.mem_filter.1 hd).2
  rw [← foldl_joinDescriptions_filter, jointDescription, List.filter_cons]
  generalize (others.filter fun d => !d.isBlankText) = shown at hshown ⊢
  cases hfirst : first.isBlankText with
  | true =>
      -- the first one that is not blank takes the place of the first
      cases shown with
      | nil => rfl
      | cons d rest =>
          obtain ⟨hd, hrest⟩ := List.forall_mem_cons.1 hshown
          rw [List.foldl_cons, joinDescriptions_of_blank_left hfirst hd]
          cases rest with
          | nil => rfl
          | cons e rest => exact foldl_joinDescriptions_cons hd hrest
  | false =>
      cases shown with
      | nil => rfl
      | cons e rest => exact foldl_joinDescriptions_cons hfirst hshown

namespace Component

theorem Combines.description_eq {c first : Component} {others : List Component}
    (h : c.Combines first others) :
    c.description = jointDescription ((first :: others).map Component.description) := by
  rw [h.description, List.map_cons, ← foldl_joinDescriptions_eq, List.foldl_map]

/-- Joining descriptions is associative. Components of one name are merged into a single one, which has
their joint description. Of any components, the merged ones have the names in order of first appearance,
each with the joint description of the components of that name. -/
theorem descriptions_are_joined_as_paragraphs :
    (∀ a b c : Text,
      joinDescriptions (joinDescriptions a b) c = joinDescriptions a (joinDescriptions b c)) ∧
    (∀ (first : Component) (others : List Component),
      (∀ c ∈ others, c.groupName = first.groupName) →
        ∃ c, merge (first :: others) = [c] ∧
          c.description = jointDescription ((first :: others).map Component.description)) ∧
    ∀ xs : List Component,
      ((merge xs).map fun c => (c.groupName, c.description)) =
        (xs.map groupName).eraseDups.map fun name =>
          (name, jointDescription
            ((xs.filter fun d => d.groupName = name).map Component.description)) := by
  refine ⟨joinDescriptions_assoc, fun first others hname => ?_, fun xs => ?_⟩
  · exact ⟨_, merge_of_groupName hname, (combines_foldl_absorb first others).description_eq⟩
  · rw [← (isGrouping_merge xs).names, List.map_map]
    refine List.map_congr_left fun c hc => ?_
    obtain ⟨first, others, hgroup, hcombines⟩ := (isGrouping_merge xs).combines c hc
    show (c.groupName, c.description) = (c.groupName, _)
    rw [hgroup, hcombines.description_eq]

/-- A component of which only the name and the description matter. -/
def described (description : Text) : Component where
  name := some (Text.ofString "a")
  description := description

/-- Of four descriptions, the second is left out: an em space is blank, and nothing but line feeds is
taken off the others. -/
theorem spaced_descriptions_joined :
    (∀ c ∈ [described "\u2003\n", described "\n\ntwo \n", described "\n \nthree\n"],
      c.groupName = (described "\n one\n\n").groupName) ∧
    ∃ c, merge [described "\n one\n\n", described "\u2003\n", described "\n\ntwo \n",
        described "\n \nthree\n"] = [c] ∧
      c.description = Text.ofString "\n one\n\ntwo \n\n \nthree\n" := by
  have hname : ∀ c ∈ [described "\u2003\n", described "\n\ntwo \n", described "\n \nthree\n"],
      c.groupName = (described "\n one\n\n").groupName := by decide
  obtain ⟨c, hmerge, hdescription⟩ := descriptions_are_joined_as_paragraphs.2.1 _ _ hname
  exact ⟨hname, c, hmerge, hdescription.trans (by decide)⟩

end Component

end ComponentDocs
