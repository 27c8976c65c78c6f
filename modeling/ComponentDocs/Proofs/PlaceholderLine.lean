import ComponentDocs.Description
import ComponentDocs.Proofs.ExampleRecords
import ComponentDocs.Proofs.FenceLayout
import ComponentDocs.Proofs.LabelShape
import ComponentDocs.Proofs.MergeInStages

/-!
# Placeholders are lines of their own

The examples that are gathered from a text have names and heights without blank characters
(`Example.allShaped_collect`). The placeholder of such an example is therefore a single line
(`placeholderTag_eq`), which begins with an angle bracket and opens no fence, and putting placeholders
in front of blocks adds nothing to a text but such lines (`insertPlaceholdersFrom_block`).
-/

set_option autoImplicit false

namespace ComponentDocs

open Text

/-! ## The examples of a text -/

namespace Example

/-- What the name and the height of an example look like. -/
structure Shaped (e : Example) : Prop where
  name : Solid e.name
  height : ∀ v, e.height = some v → ∃ t, v = .text t ∧ Solid t

/-- All the examples of a map look like that. -/
def AllShaped (examples : OrderedMap Text Example) : Prop :=
  ∀ name e, examples.get? name = some e → e.Shaped

/-- A block does not spoil the shape of its example. -/
theorem shaped_extend {e : Example} (he : e.Shaped) {b : CodeBlock}
    (hb : ∀ h, b.height = some h → Solid h) : (e.extend [b] (optionsOf b)).Shaped := by
  refine { name := he.name, height := ?_ }
  rw [height, extend_options, optionsOf]
  split
  case h_1 => exact he.height
  case h_2 h hh =>
      split
      case isTrue => exact he.height
      case isFalse =>
          -- a height that the example has already wins over that of the block
          have hget : (e.options.gather Prod.fst optionStep [(Label.heightKey, .text h)]).get?
              Label.heightKey = some (e.height.getD (.text h)) := OrderedMap.get?_alter_self _ _ _
          rw [hget]
          intro v hv
          obtain rfl := Option.some.inj hv
          cases hold : e.height with
          | none => exact ⟨h, rfl, hb h hh⟩
          | some w => exact he.height w hold

/-- A block and the name of its example come from a label. -/
theorem label_of_ofSegment? {s : Segment} (hs : s.LabelRead) {name : Text} {b : CodeBlock}
    (h : CodeBlock.ofSegment? s = some (name, b)) :
    ∃ a : Label, a.Shaped ∧ a.name = name ∧ a.height = b.height := by
  cases s with
  | text t => cases h
  | fence f =>
      obtain ⟨a, ha, heq⟩ := Option.map_eq_some_iff.1 (show f.label.map _ = some (name, b) from h)
      obtain ⟨rfl, rfl⟩ := Prod.mk.inj heq
      exact ⟨a, Label.shaped_of_parse? (hs.parse?_header ha), rfl, rfl⟩

/-- The examples that are gathered from segments have the shape of labels that are read. -/
theorem allShaped_collect {segments : List Segment} (hread : ∀ s ∈ segments, s.LabelRead) :
    AllShaped (collect segments) := by
  -- the first block of a name starts from an example that has only that name
  have hstep : ∀ b ∈ segments.filterMap CodeBlock.ofSegment?, ∀ known : Option Example,
      (∀ e, known = some e → e.Shaped) → (blockStep b known).Shaped := by
    intro b hb known hknown
    obtain ⟨s, hmem, hs⟩ := List.mem_filterMap.1 hb
    obtain ⟨a, ha, hname, hheight⟩ := label_of_ofSegment? (hread s hmem) hs
    refine shaped_extend ?_ (by rw [← hheight]; exact ha.height)
    cases known with
    | none => exact { name := hname ▸ ha.name, height := fun _ h => by cases h }
    | some e => exact hknown e rfl
  rw [collect_eq_gather]
  apply OrderedMap.forall_get?_gather
  · intro name e he
    cases he
  · intro b hb
    exact hstep b hb none (by simp)
  · intro b hb e he
    exact hstep b hb (some e) (by simpa using he)

theorem allShaped_collect_split (t : Text) : AllShaped (collect (Segment.split t)) :=
  allShaped_collect fun _ => Segment.labelRead_of_mem_split

end Example

/-! ## The placeholder of an example -/

namespace Description

/-- Escaping brings no terminators into a text. -/
theorem unbroken_escape {t : Text} (h : Unbroken t) : Unbroken t.escape := by
  intro c hc
  obtain ⟨d, hd, hc⟩ := List.mem_flatMap.1 hc
  have hspecial : ∀ s ∈ (["&amp;", "&lt;", "&gt;", "&quot;", "&#x27;"] : List Text),
      Unbroken s := by
    unfold Unbroken
    decide
  unfold entity at hc
  repeat' split at hc
  case isFalse => exact List.mem_singleton.1 hc ▸ h d hd
  all_goals exact hspecial _ (by simp) c hc

/-- The line of a placeholder, without its line feed. -/
theorem placeholderTag_eq {e : Example} (he : e.Shaped) :
    ∃ line : Text, placeholderTag e = (.char '<' :: line) ++ [.char '\n'] ∧ Unbroken line := by
  have hname : Unbroken e.name.escape := unbroken_escape he.name.unbroken
  have hfixed : ∀ s ∈ (["example name=\"", "\"", " height=\"", "></example>"] : List Text),
      Unbroken s := by
    unfold Unbroken
    decide
  obtain ⟨height, htag, hheight⟩ : ∃ height : Text,
      placeholderTag e =
        "<example name=\"" ++ e.name.escape ++ "\"" ++ height ++ "></example>\n" ∧
      Unbroken height := by
    refine ⟨_, rfl, ?_⟩
    split
    case h_1 => exact unbroken_nil
    case h_2 v hv =>
        obtain ⟨t, rfl, ht⟩ := he.height v hv
        split
        case isTrue =>
            have hd : Unbroken (Value.text t).display.escape := unbroken_escape ht.unbroken
            exact ((hfixed " height=\"" (by simp)).append hd).append (hfixed "\"" (by simp))
        case isFalse => exact unbroken_nil
  have hopening := ((hfixed "example name=\"" (by simp)).append hname).append (hfixed "\"" (by simp))
  refine ⟨_, ?_, (hopening.append hheight).append (hfixed "></example>" (by simp))⟩
  have hfirst : ofString "<example name=\"" = .char '<' :: ofString "example name=\"" := rfl
  have hlast : ofString "></example>\n" = ofString "></example>" ++ [.char '\n'] := rfl
  simp only [htag, hfirst, hlast, List.append_assoc, List.cons_append]

end Description

/-- What may be put in front of a block: nothing, or, if the block is labelled, a line that begins
with an angle bracket. -/
inductive Fence.Tagged (f : Fence) : Text → Prop
  | bare : Tagged f []
  | line {line : Text} : f.label ≠ none → Unbroken line →
      Tagged f ((.char '<' :: line) ++ [.char '\n'])

theorem unbroken_bracket {line : Text} (h : Unbroken line) : Unbroken (.char '<' :: line) := by
  intro c hc
  rcases List.mem_cons.1 hc with rfl | hc
  · decide
  · exact h c hc

namespace Fence.Tagged

theorem isFresh_eq_true {f : Fence} {g : Text} (h : f.Tagged g) : isFresh g = true := by
  cases h with
  | bare => rfl
  | line _ _ =>
      rw [isFresh_append (by simp)]
      rfl

/-- Such a line opens no fence. -/
theorem quiet {f : Fence} {g : Text} (h : f.Tagged g) : Quiet g := by
  cases h with
  | bare => exact quiet_of_lines (by simp [lines])
  | @line line _ hunb =>
      refine quiet_of_lines fun l hl => ?_
      rw [lines_unbroken_append (unbroken_bracket hunb) (lines_singleton _)] at hl
      rw [List.mem_singleton.1 hl]
      rfl

/-- Nor do the text before the block and the line together. -/
theorem quiet_append {f : Fence} {q g : Text} (h : f.Tagged g) (hq : Quiet q)
    (hfresh : isFresh q = true) : Quiet (q ++ g) :=
  hq.append h.quiet (Or.inl hfresh)

end Fence.Tagged

namespace Description

/-! ## Inserting placeholders -/

section Insert

variable {examples : OrderedMap Text Example} (renderable : List Text)

theorem insertPlaceholdersFrom_plain_append (examples : OrderedMap Text Example)
    (tagged : List Text) (t : Text) (segments : List Segment) :
    insertPlaceholdersFrom examples renderable tagged (Segment.plain t ++ segments) =
      Segment.plain t ++ insertPlaceholdersFrom examples renderable tagged segments := by
  cases t with
  | nil => rfl
  | cons c rest => rfl

/-- A block gets at most a placeholder in front of it, and that only if it is labelled. -/
theorem insertPlaceholdersFrom_block (hexamples : Example.AllShaped examples) (tagged : List Text)
    (q : Text) (f : Fence) (segments : List Segment) :
    ∃ g tagged', f.Tagged g ∧
      insertPlaceholdersFrom examples renderable tagged (Segment.plain q ++ .fence f :: segments) =
        Segment.plain q ++ (Segment.plain g ++
          .fence f :: insertPlaceholdersFrom examples renderable tagged' segments) := by
  rw [insertPlaceholdersFrom_plain_append, insertPlaceholdersFrom]
  split
  case h_1 => exact ⟨[], tagged, .bare, rfl⟩
  case h_2 a ha =>
      split
      case h_1 => exact ⟨[], tagged, .bare, rfl⟩
      case h_2 e he =>
          have hshaped : e.Shaped := by
            unfold placeholderFor? at he
            split at he
            case isTrue => cases he
            case isFalse => exact hexamples a.name e he
          have hlabel : f.label ≠ none := by
            intro hnone
            rw [Segment.label, hnone] at ha
            cases ha
          obtain ⟨line, hline, hunb⟩ := placeholderTag_eq hshaped
          refine ⟨placeholderTag e, a.name :: tagged, hline ▸ .line hlabel hunb, ?_⟩
          rw [hline]
          rfl

end Insert

end Description

end ComponentDocs
