import ComponentDocs.Description
import ComponentDocs.Proofs.FirstCategory
import ComponentDocs.Proofs.LabelShape

/-!
# The attributes of a placeholder

A placeholder is a tag with one or two quoted attributes, the name of an example and its height. Escaping
leaves neither quotes nor angle brackets in an attribute (`quotable_escape`), so that the quotes of a tag
are those around its attributes, and a tag spells only one choice of attributes (`Attributes.eq_of_tag`).
Since escaping can be undone, the tag tells the name and the height of its example, and examples that
differ in one of them have different tags (`placeholder_tags_read_back`).

Escaping goes through a text once and replaces each character by itself. Replacing one character after
the other in the whole text comes to the same if the ampersand is the first, as the entities bring
ampersands with them (`escape_eq_replaced`).
-/

set_option autoImplicit false

namespace ComponentDocs

namespace Text

/-! ## Escaped texts -/

/-- The characters that may not stand in a quoted attribute: angle brackets and quotes. -/
def attributeMarks : List CodePoint :=
  ['<', '>', '"', '\'']

/-- The text can stand in a quoted attribute. -/
def Quotable (t : Text) : Prop :=
  ∀ c ∈ t, c ∉ attributeMarks

theorem Quotable.quote_notMem {t : Text} (h : Quotable t) : .char '"' ∉ t :=
  fun hquote => h _ hquote (by decide)

/-- The characters that have an entity: these four and the ampersand. -/
def entityMarks : List CodePoint :=
  .char '&' :: attributeMarks

theorem notMem_entityMarks {c : CodePoint} :
    c ∉ entityMarks ↔
      c ≠ .char '&' ∧ c ≠ .char '<' ∧ c ≠ .char '>' ∧ c ≠ .char '"' ∧ c ≠ .char '\'' := by
  simp [entityMarks, attributeMarks]

theorem entity_of_notMem {c : CodePoint} (h : c ∉ entityMarks) : entity c = [c] := by
  obtain ⟨hampersand, hless, hgreater, hquote, happostrophe⟩ := notMem_entityMarks.1 h
  simp [entity, hampersand, hless, hgreater, hquote, happostrophe]

/-- What stands for a character in an escaped text can stand in an attribute. -/
theorem quotable_entity (c : CodePoint) : Quotable (entity c) := by
  by_cases hmark : c ∈ entityMarks
  · unfold Quotable
    revert c
    decide
  · rw [entity_of_notMem hmark]
    intro d hd
    rw [List.mem_singleton.1 hd]
    exact fun hd => hmark (List.mem_cons_of_mem _ hd)

theorem quotable_escape (t : Text) : Quotable t.escape := by
  intro c hc
  obtain ⟨d, -, hc⟩ := List.mem_flatMap.1 hc
  exact quotable_entity d c hc

theorem escape_injective : Function.Injective escape :=
  Function.LeftInverse.injective unescape_escape

/-- The text with the five characters replaced in the whole text, one after the other. -/
def replaced (t : Text) : Text :=
  replaceChar '\'' "&#x27;" <| replaceChar '"' "&quot;" <| replaceChar '>' "&gt;" <|
    replaceChar '<' "&lt;" <| replaceChar '&' "&amp;" t

theorem replaced_cons (c : CodePoint) (t : Text) : replaced (c :: t) = replaced [c] ++ replaced t := by
  simp only [replaced, replaceChar, List.flatMap_cons, List.flatMap_nil, List.append_nil,
    List.flatMap_append]

/-- A single character is replaced by its entity, in which nothing is replaced any more. -/
theorem replaced_singleton (c : CodePoint) : replaced [c] = entity c := by
  by_cases hmark : c ∈ entityMarks
  · revert c
    decide
  · rw [entity_of_notMem hmark]
    obtain ⟨hampersand, hless, hgreater, hquote, happostrophe⟩ := notMem_entityMarks.1 hmark
    simp [replaced, replaceChar, hampersand, hless, hgreater, hquote, happostrophe]

theorem escape_eq_replaced (t : Text) : escape t = replaced t := by
  induction t with
  | nil => rfl
  | cons c t ih =>
      rw [replaced_cons, replaced_singleton, ← ih]
      rfl

end Text

open Text

/-- The height of an example as it is shown: as text, and empty if it is missing or an empty value. -/
def Example.shownHeight (e : Example) : Text :=
  match e.height with
  | none => []
  | some v => if v.isTruthy then v.display else []

/-- A height that is a text is shown as it is. -/
theorem Example.shownHeight_of_text {e : Example} {height : Option Text}
    (h : e.height = height.map Value.text) : e.shownHeight = height.getD [] := by
  rw [shownHeight, h]
  cases height with
  | none => rfl
  | some t =>
      cases t with
      | nil => rfl
      | cons c t => rfl

theorem Value.display_ne_nil_of_isTruthy {v : Value} (h : v.isTruthy = true) : v.display ≠ [] := by
  intro hnil
  rw [(display_eq_nil_iff v).1 hnil] at h
  cases h

namespace Description

/-! ## Tags -/

/-- What stands between the quotes of a placeholder. -/
structure Attributes where
  name : Text
  height : Option Text

namespace Attributes

/-- What follows the name and its closing quote. -/
def behindName : Option Text → Text
  | none => "></example>\n"
  | some height => " height=\"" ++ height ++ "\"></example>\n"

/-- The tag with these attributes. -/
def tag (a : Attributes) : Text :=
  "<example name=\"" ++ a.name ++ "\"" ++ behindName a.height

/-- The attributes can stand between quotes. -/
structure Quotable (a : Attributes) : Prop where
  name : Text.Quotable a.name
  height : ∀ h, a.height = some h → Text.Quotable h

/-- Texts that can stand between quotes are the same if their quotes close at the same place. -/
theorem eq_of_quote {s t behind behind' : Text} (hs : Text.Quotable s) (ht : Text.Quotable t)
    (h : s ++ (.char '"' :: behind) = t ++ (.char '"' :: behind')) : s = t ∧ behind = behind' := by
  have hcut := congrArg (cutAt '"') h
  rw [cutAt_append_cons hs.quote_notMem, cutAt_append_cons ht.quote_notMem] at hcut
  obtain ⟨hsame, hbehind⟩ := Prod.mk.inj hcut
  exact ⟨hsame, Option.some.inj hbehind⟩

theorem tag_eq (a : Attributes) :
    a.tag = ofString "<example name=\"" ++ (a.name ++ (.char '"' :: behindName a.height)) := by
  simp only [tag, List.append_assoc]
  rfl

theorem behindName_some (height : Text) :
    behindName (some height) =
      ofString " height=\"" ++ (height ++ (.char '"' :: behindName none)) := by
  simp only [behindName, List.append_assoc]
  rfl

/-- A tag tells its attributes. -/
theorem eq_of_tag {a b : Attributes} (ha : a.Quotable) (hb : b.Quotable) (h : a.tag = b.tag) :
    a = b := by
  obtain ⟨name, height⟩ := a
  obtain ⟨name', height'⟩ := b
  rw [tag_eq, tag_eq] at h
  obtain ⟨hname, hbehind⟩ := eq_of_quote ha.name hb.name (List.append_cancel_left h)
  obtain rfl : name = name' := hname
  have hheight : height = height' := by
    cases height with
    | none =>
        cases height' with
        | none => rfl
        | some t =>
            -- behind the name stands an angle bracket in one tag and a space in the other
            rw [behindName_some] at hbehind
            exact absurd (List.cons.inj hbehind).1 (by decide)
    | some s =>
        cases height' with
        | none =>
            rw [behindName_some] at hbehind
            exact absurd (List.cons.inj hbehind).1 (by decide)
        | some t =>
            rw [behindName_some, behindName_some] at hbehind
            have hquoted := List.append_cancel_left hbehind
            rw [(eq_of_quote (ha.height s rfl) (hb.height t rfl) hquoted).1]
  rw [hheight]

end Attributes

/-! ## The tag of an example -/

/-- The attributes of an example. -/
def attributesOf (e : Example) : Attributes :=
  { name := e.name.escape
    height := if e.shownHeight = [] then none else some e.shownHeight.escape }

theorem quotable_attributesOf (e : Example) : (attributesOf e).Quotable := by
  refine ⟨quotable_escape e.name, ?_⟩
  intro h hh
  obtain ⟨-, hsame⟩ := Option.ite_none_left_eq_some.1 hh
  rw [← Option.some.inj hsame]
  exact quotable_escape _

theorem placeholderTag_eq_tag (e : Example) : placeholderTag e = (attributesOf e).tag := by
  have hnone : e.shownHeight = [] → (attributesOf e).height = none := fun h => if_pos h
  have hsome : e.shownHeight ≠ [] → (attributesOf e).height = some e.shownHeight.escape :=
    fun h => if_neg h
  unfold placeholderTag
  cases hheight : e.height with
  | none =>
      have hshown : e.shownHeight = [] := by rw [Example.shownHeight, hheight]
      rw [Attributes.tag, hnone hshown]
      simp [attributesOf, Attributes.behindName]
  | some v =>
      by_cases hv : v.isTruthy = true
      · have hshown : e.shownHeight = v.display := by
          rw [Example.shownHeight, hheight]
          exact if_pos hv
        have hne : e.shownHeight ≠ [] := hshown ▸ Value.display_ne_nil_of_isTruthy hv
        rw [Attributes.tag, hsome hne, hshown]
        simp [attributesOf, Attributes.behindName, hv]
        rfl
      · have hshown : e.shownHeight = [] := by
          rw [Example.shownHeight, hheight]
          exact if_neg hv
        rw [Attributes.tag, hnone hshown]
        simp [attributesOf, Attributes.behindName, hv]

/-- The attributes of examples tell their names and shown heights apart. -/
theorem attributesOf_eq_iff (e e' : Example) :
    attributesOf e = attributesOf e' ↔ e.name = e'.name ∧ e.shownHeight = e'.shownHeight := by
  constructor
  · intro h
    obtain ⟨hname, hheight⟩ := Attributes.mk.inj h
    refine ⟨escape_injective hname, ?_⟩
    by_cases hnil : e.shownHeight = []
    · rw [if_pos hnil] at hheight
      by_contra hne
      rw [if_neg fun hnil' => hne (hnil.trans hnil'.symm)] at hheight
      cases hheight
    · rw [if_neg hnil] at hheight
      obtain ⟨-, hsame⟩ := Option.ite_none_left_eq_some.1 hheight.symm
      exact (escape_injective (Option.some.inj hsame)).symm
  · rintro ⟨hname, hheight⟩
    rw [attributesOf, attributesOf, hname, hheight]

/-- The placeholder of an example is a tag with its name and, unless it is missing or empty, its height,
and with no other attributes. Neither holds angle brackets or quotes; each is the name or the height with
five characters replaced in turn, and reading the entities back gives the name and the height. Two
examples have the same placeholder exactly if they have the same name and the same height, where a missing
height is the same as an empty one. A height that is a text is shown as that text. -/
theorem placeholder_tags_read_back :
    (∀ e : Example, ∃ a : Attributes, a.Quotable ∧ placeholderTag e = a.tag ∧
      (∀ b : Attributes, b.Quotable → placeholderTag e = b.tag → b = a) ∧
      (a.height = none ↔ e.shownHeight = []) ∧
      (a.name = e.name.replaced ∧ ∀ h, a.height = some h → h = e.shownHeight.replaced) ∧
      (a.name.unescape = e.name ∧ ∀ h, a.height = some h → h.unescape = e.shownHeight)) ∧
    (∀ e e' : Example, placeholderTag e = placeholderTag e' ↔
      e.name = e'.name ∧ e.shownHeight = e'.shownHeight) ∧
    ∀ (e : Example) (height : Option Text), e.height = height.map Value.text →
      e.shownHeight = height.getD [] := by
  refine ⟨fun e => ?_, fun e e' => ?_, fun e height h => Example.shownHeight_of_text h⟩
  · have hheight : ∀ h, (attributesOf e).height = some h → h = e.shownHeight.escape := by
      intro h hh
      obtain ⟨-, hsame⟩ := Option.ite_none_left_eq_some.1 hh
      exact (Option.some.inj hsame).symm
    refine ⟨attributesOf e, quotable_attributesOf e, placeholderTag_eq_tag e, ?_, ?_, ⟨?_, ?_⟩,
      unescape_escape e.name, ?_⟩
    · intro b hb htag
      rw [placeholderTag_eq_tag] at htag
      exact (Attributes.eq_of_tag (quotable_attributesOf e) hb htag).symm
    · simp [attributesOf]
    · exact escape_eq_replaced e.name
    · intro h hh
      rw [hheight h hh, escape_eq_replaced]
    · intro h hh
      rw [hheight h hh, unescape_escape]
  · rw [← attributesOf_eq_iff, placeholderTag_eq_tag, placeholderTag_eq_tag]
    constructor
    · exact Attributes.eq_of_tag (quotable_attributesOf e) (quotable_attributesOf e')
    · exact congrArg Attributes.tag

/-- An example whose name imitates the end of the attribute and whose height has entities in it. -/
def imitation : Example :=
  { name := "a\" height=\"1\"></example>\n'",
    options := ⟨[(Label.heightKey, .text "&amp;<&quot;")], by decide⟩ }

/-- Its placeholder has both attributes and no more. -/
theorem imitation_read_back :
    placeholderTag imitation =
      ofString ("<example name=\"a&quot; height=&quot;1&quot;&gt;&lt;/example&gt;\n&#x27;\" " ++
        "height=\"&amp;amp;&lt;&amp;quot;\"></example>\n") ∧
    (∀ e : Example, placeholderTag e = placeholderTag imitation ↔
      e.name = imitation.name ∧ e.shownHeight = "&amp;<&quot;") := by
  obtain ⟨-, htags, hheights⟩ := placeholder_tags_read_back
  have hshown : imitation.shownHeight = ofString "&amp;<&quot;" :=
    hheights imitation (some "&amp;<&quot;") rfl
  refine ⟨by decide +kernel, fun e => ?_⟩
  rw [htags, hshown]

end Description

end ComponentDocs
