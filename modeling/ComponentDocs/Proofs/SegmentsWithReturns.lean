import ComponentDocs.Proofs.LineEnds
import ComponentDocs.Proofs.LosslessCut
import ComponentDocs.Proofs.Preparation

/-!
# The segments of a text with carriage returns

A text and its counterpart with carriage returns are cut in the same places: the segments of the one
are the counterparts of the segments of the other (`split_withReturns`). The header and the closing
line of a block have no line feed in them, so that its label and its flag stay as they are; what
changes are the end of its opening line, its body, and plain text.

The examples of the two texts are registered under the same names, with the same options and with
the counterparts of the code blocks (`get?_collect_withReturns`). Both facts together are
`cut_and_examples_withReturns`.
-/

set_option autoImplicit false

namespace ComponentDocs

open Text

/-! ## Lines -/

namespace Text

theorem return_mem_withReturns {t : Text} (h : .char '\n' ∈ t) : .char '\r' ∈ withReturns t := by
  obtain ⟨a, b, rfl⟩ := List.append_of_mem h
  rw [withReturns_append, withReturns_feed_cons]
  simp

theorem mem_withReturns {t : Text} {c : CodePoint} (h : c ∈ withReturns t) : c = '\r' ∨ c ∈ t := by
  obtain ⟨d, hd, hc⟩ := List.mem_flatMap.1 h
  split at hc
  case isTrue he =>
      subst he
      rcases List.mem_cons.1 hc with rfl | hc
      · exact Or.inl rfl
      · exact Or.inr (List.mem_singleton.1 hc ▸ hd)
  case isFalse => exact Or.inr (List.mem_singleton.1 hc ▸ hd)

/-- The counterpart of a text ends as the text does. -/
theorem getLast?_withReturns (t : Text) : (withReturns t).getLast? = t.getLast? := by
  by_cases hne : t = []
  · rw [hne, withReturns_nil]
  · obtain ⟨a, c, rfl⟩ : ∃ a c, t = a ++ [c] :=
      ⟨t.dropLast, t.getLast hne, (List.dropLast_concat_getLast hne).symm⟩
    rw [withReturns_append, List.getLast?_append, List.getLast?_append]
    by_cases hc : c = '\n'
    · subst hc
      rfl
    · rw [withReturns_cons_of_ne hc, withReturns_nil]
      rfl

/-- A text without line feeds and carriage returns begins a text exactly when it begins its
counterpart. -/
theorem isPrefixOf_withReturns {p : Text} (hn : .char '\n' ∉ p) (hr : .char '\r' ∉ p) (t : Text) :
    p.isPrefixOf (withReturns t) = p.isPrefixOf t := by
  induction p generalizing t with
  | nil => rfl
  | cons d p ih =>
      rw [List.mem_cons, not_or] at hn hr
      cases t with
      | nil => rfl
      | cons c rest =>
          by_cases hc : c = '\n'
          · subst hc
            have hdn : (d == CodePoint.char '\n') = false := by simpa using Ne.symm hn.1
            have hdr : (d == CodePoint.char '\r') = false := by simpa using Ne.symm hr.1
            rw [withReturns_feed_cons, List.isPrefixOf_cons_cons, List.isPrefixOf_cons_cons, hdn,
              hdr]
            rfl
          · rw [withReturns_cons_of_ne hc, List.isPrefixOf_cons_cons, List.isPrefixOf_cons_cons,
              ih hn.2 hr.2]

/-- Trimming a class that has the carriage return does the same to a text and to its counterpart. -/
theorem trim_withReturns {p : CodePoint → Bool} (hr : p '\r' = true) (t : Text) :
    trimRight p (withReturns t) = withReturns (trimRight p t) ∧
      trailing p (withReturns t) = withReturns (trailing p t) := by
  have htail : ∀ c ∈ withReturns (trailing p t), p c = true := by
    intro c hc
    rcases mem_withReturns hc with rfl | hc
    · exact hr
    · exact List.mem_takeWhile_imp (List.mem_reverse.1 hc)
  have hlast : ∀ c, (withReturns (trimRight p t)).getLast? = some c → p c = false := by
    intro c hc
    rw [getLast?_withReturns, trimRight, List.getLast?_reverse] at hc
    have hhead := List.head?_dropWhile_not p t.reverse
    rw [hc] at hhead
    simpa using hhead
  rw [← trimRight_append_trailing p t, withReturns_append, trimRight_append htail hlast,
    trailing_append htail hlast, trimRight_append_trailing]
  exact ⟨rfl, rfl⟩

theorem LineParts.feed_notMem {a e : Text} (h : LineParts a e) : .char '\n' ∉ a := by
  have key : ∀ {b : Text}, Unbroken b → .char '\n' ∉ b := by
    intro b hb hmem
    exact absurd (hb _ hmem) (by decide)
  cases h with
  | feed ha _ => exact key ha
  | @other a c ha _ ho =>
      rw [List.mem_append, not_or]
      refine ⟨key ha, fun hmem => ?_⟩
      rw [← List.mem_singleton.1 hmem] at ho
      exact absurd ho (by decide)
  | last ha => exact key ha

end Text

/-! ## Blocks -/

namespace Fence

/-- The block with a carriage return put before each line feed, and the label that its header has then. -/
def withReturns (f : Fence) : Fence where
  header := f.header.withReturns
  newline := f.newline.withReturns
  body := f.body.withReturns
  closing := f.closing.withReturns
  label := Label.parse? f.header.withReturns

theorem opens_withReturns (line : Text) : opens line.withReturns = opens line :=
  isPrefixOf_withReturns (by decide) (by decide) line

theorem closes_withReturns (line : Text) : closes line.withReturns = closes line := by
  have htrim := (trim_withReturns (p := isBlank) (by decide) line).1
  have hmark : ∀ t : Text, t.withReturns = fenceMark ↔ t = fenceMark := by
    intro t
    constructor
    · intro h
      have hn : .char '\n' ∉ t := by
        intro hmem
        have hr := return_mem_withReturns hmem
        rw [h] at hr
        exact absurd hr (by decide)
      rwa [withReturns_eq_self hn] at h
    · rintro rfl
      decide
  rw [closes, closes, htrim, Bool.eq_iff_iff, beq_iff_eq, beq_iff_eq, hmark]

theorem ofLines_withReturns (opening body closing : Text) (ho : opens opening = true) :
    ofLines opening.withReturns body.withReturns closing.withReturns =
      (ofLines opening body closing).withReturns := by
  obtain ⟨first, rfl⟩ := opens_iff.1 ho
  have hmark : Text.withReturns (fenceMark ++ first) = fenceMark ++ first.withReturns := by
    rw [withReturns_append, withReturns_eq_self (by decide)]
  have hdrop : ∀ t : Text, (fenceMark ++ t).drop fenceMark.length = t := fun t => by simp
  obtain ⟨hheader, hnewline⟩ :=
    trim_withReturns (p := isReturnOrFeed) (by decide) first
  have hclosing := (trim_withReturns (p := isReturnOrFeed) (by decide) closing).1
  rw [hmark]
  simp only [ofLines, hdrop, withReturns, hheader, hnewline, hclosing]

theorem render_withReturns (f : Fence) : f.withReturns.render = f.render.withReturns := by
  simp only [render, withReturns, withReturns_append]
  rw [withReturns_eq_self (t := fenceMark) (by decide)]

namespace WellFormed

variable {f : Fence} (hf : f.WellFormed)

include hf

theorem header_withReturns : f.withReturns.header = f.header :=
  withReturns_eq_self hf.opening.feed_notMem

theorem label_withReturns : f.withReturns.label = f.label := by
  rw [hf.label_eq, ← hf.header_withReturns]
  rfl

theorem hidden_withReturns : f.withReturns.hidden = f.hidden := by
  rw [hidden, hf.header_withReturns, hidden]

theorem closing_withReturns : f.withReturns.closing = f.closing :=
  withReturns_eq_self hf.closing.feed_notMem

theorem bare_withReturns : f.withReturns.bare = f.bare.withReturns := by
  cases ha : f.label with
  | none => rw [bare_of_unlabelled ha, bare_of_unlabelled (by rw [hf.label_withReturns, ha])]
  | some a =>
      have hword : a.extension.withReturns = a.extension :=
        withReturns_eq_self ((hf.extension ha).notMem (by decide))
      have hnone := Label.parse?_eq_none_of_word (hf.extension ha)
      rw [bare_of_labelled ha, bare_of_labelled (hf.label_withReturns.trans ha)]
      simp only [withReturns, hword, hnone]

end WellFormed

end Fence

/-! ## Segments -/

namespace Segment

/-- A segment as it is cut out of a text: plain text that is not empty, or a well-formed block. -/
def WellFormed : Segment → Prop
  | text t => t ≠ []
  | fence f => f.WellFormed

theorem mem_fences {f : Fence} {segments : List Segment} (h : fence f ∈ segments) :
    f ∈ fences segments :=
  List.mem_filterMap.2 ⟨fence f, h, rfl⟩

theorem wellFormed_of_mem_split {t : Text} {s : Segment} (h : s ∈ split t) : s.WellFormed := by
  cases s with
  | text u => exact (layout_split t).ne_nil_of_mem h
  | fence f => exact (layout_split t).wellFormed f (mem_fences h)

/-- A segment consists of characters of the text. -/
theorem mem_of_mem_split {t : Text} {s : Segment} (h : s ∈ split t) : ∀ c ∈ s.render, c ∈ t := by
  intro c hc
  rw [← (layout_split t).renderSegments_eq]
  exact List.mem_flatMap.2 ⟨s, h, hc⟩

/-- The segment with a carriage return put before each line feed. -/
def withReturns : Segment → Segment
  | text t => text t.withReturns
  | fence f => fence f.withReturns

theorem label_withReturns {s : Segment} (hs : s.WellFormed) : s.withReturns.label = s.label := by
  cases s with
  | text t => rfl
  | fence f => exact Fence.WellFormed.label_withReturns hs

theorem plain_withReturns (t : Text) : plain t.withReturns = (plain t).map withReturns := by
  cases t with
  | nil => rfl
  | cons c rest =>
      have hne : (Text.withReturns (c :: rest)).isEmpty = false := by
        rw [List.isEmpty_eq_false_iff]
        exact mt withReturns_eq_nil_iff.1 (by simp)
      rw [plain, hne]
      rfl

/-- The place of a reader of the lines of the counterpart. -/
def Place.withReturns : Place → Place
  | outside passed => outside (passed.map Text.withReturns)
  | inside opening passed => inside opening.withReturns (passed.map Text.withReturns)

theorem passedText_map_withReturns (passed : List Text) :
    passedText (passed.map Text.withReturns) = (passedText passed).withReturns := by
  rw [passedText, passedText, withReturns_flatten, List.map_reverse]

/-- The opening line that a reader is behind opens a fence. -/
def Place.Opened : Place → Prop
  | outside _ => True
  | inside opening _ => Fence.opens opening = true

/-- A reader of the counterparts of lines cuts them where a reader of the lines does. -/
theorem ofLines_withReturns (place : Place) (hplace : place.Opened) (ls : List Text) :
    ofLines place.withReturns (ls.map Text.withReturns) = (ofLines place ls).map withReturns := by
  have hany : ∀ ls : List Text,
      (ls.map Text.withReturns).any Fence.closes = ls.any Fence.closes := by
    intro ls
    rw [List.any_map]
    exact congrArg ls.any (funext Fence.closes_withReturns)
  fun_induction ofLines place ls with
  | case1 passed =>
      rw [← plain_withReturns, ← passedText_map_withReturns]
      rfl
  | case2 opening passed =>
      rw [← plain_withReturns, withReturns_append, ← passedText_map_withReturns]
      rfl
  | case3 passed line rest hopen ih =>
      have ho : Fence.opens line = true := (Bool.and_eq_true _ _ ▸ hopen).1
      rw [Place.withReturns, List.map_cons, ofLines, Fence.opens_withReturns, hany, if_pos hopen,
        List.map_append, ← plain_withReturns, passedText_map_withReturns, ← ih ho]
      rfl
  | case4 passed line rest hopen ih =>
      rw [Place.withReturns, List.map_cons, ofLines, Fence.opens_withReturns, hany, if_neg hopen,
        ← ih trivial]
      rfl
  | case5 opening passed line rest hcloses ih =>
      have htrailing := (trim_withReturns (p := isReturnOrFeed) (by decide) line).2
      rw [Place.withReturns, List.map_cons, ofLines, Fence.closes_withReturns, if_pos hcloses,
        passedText_map_withReturns, Fence.ofLines_withReturns _ _ _ hplace, List.map_cons,
        ← ih trivial, htrailing]
      rfl
  | case6 opening passed line rest hcloses ih =>
      rw [Place.withReturns, List.map_cons, ofLines, Fence.closes_withReturns, if_neg hcloses,
        ← ih hplace]
      rfl

/-- The segments of the counterpart of a text are the counterparts of its segments. -/
theorem split_withReturns {t : Text} (h : .char '\r' ∉ t) :
    split t.withReturns = (split t).map withReturns := by
  rw [split, split, lines_withReturns h]
  exact ofLines_withReturns (.outside []) trivial (lines t)

/-- Two segments differ only in the carriage returns of the second: plain text stands for plain text
and a block for a block, with the same header, label and closing line. -/
inductive DifferInReturns : Segment → Segment → Prop
  | text (t : Text) : DifferInReturns (text t) (text t.withReturns)
  | fence {f g : Fence} : g.header = f.header → g.label = f.label → g.closing = f.closing →
      g.newline = f.newline.withReturns → g.body = f.body.withReturns →
      DifferInReturns (fence f) (fence g)

theorem differInReturns_withReturns {s : Segment} (hs : s.WellFormed) :
    DifferInReturns s s.withReturns := by
  cases s with
  | text t => exact .text t
  | fence f =>
      have hf : f.WellFormed := hs
      apply DifferInReturns.fence
      · exact hf.header_withReturns
      · exact hf.label_withReturns
      · exact hf.closing_withReturns
      · rfl
      · rfl

end Segment

/-! ## Examples -/

/-- The code block with a carriage return put before each line feed. -/
def CodeBlock.withReturns (b : CodeBlock) : CodeBlock :=
  { b with code := b.code.withReturns }

theorem CodeBlock.ofSegment?_withReturns {s : Segment} (hs : s.WellFormed) :
    ofSegment? s.withReturns = (ofSegment? s).map (Prod.map id withReturns) := by
  cases s with
  | text t => rfl
  | fence f =>
      rw [Segment.withReturns, ofSegment?, ofSegment?, ofFence?, ofFence?,
        Fence.WellFormed.label_withReturns hs, Option.map_map]
      rfl

namespace Example

/-- The example with a carriage return put before each line feed of its code. -/
def withReturns (e : Example) : Example :=
  { e with blocks := e.blocks.map CodeBlock.withReturns }

theorem blockStep_withReturns (b : Text × CodeBlock) (known : Option Example) :
    blockStep (Prod.map id CodeBlock.withReturns b) (known.map withReturns) =
      (blockStep b known).withReturns := by
  cases known with
  | none => rfl
  | some e =>
      simp only [blockStep, withReturns, extend, Option.map_some, Option.getD_some, List.map_append]
      rfl

section Collect

variable {segments : List Segment} (h : ∀ s ∈ segments, s.WellFormed)

include h

/-- The blocks of the counterparts of segments are the counterparts of their blocks. -/
theorem filterMap_ofSegment?_withReturns :
    (segments.map Segment.withReturns).filterMap CodeBlock.ofSegment? =
      (segments.filterMap CodeBlock.ofSegment?).map (Prod.map id CodeBlock.withReturns) := by
  rw [List.filterMap_map, List.map_filterMap]
  exact List.filterMap_congr fun s hs => CodeBlock.ofSegment?_withReturns (h s hs)

/-- The examples of the counterparts of segments have the same names in the same order. -/
theorem keys_collect_withReturns :
    (collect (segments.map Segment.withReturns)).keys = (collect segments).keys := by
  rw [collect_eq_gather, collect_eq_gather, OrderedMap.keys_gather, OrderedMap.keys_gather,
    filterMap_ofSegment?_withReturns h, List.map_map]
  rfl

/-- The examples of the counterparts of segments are the counterparts of their examples. -/
theorem get?_collect_withReturns (name : Text) :
    (collect (segments.map Segment.withReturns)).get? name =
      ((collect segments).get? name).map withReturns := by
  rw [collect_eq_gather, collect_eq_gather, filterMap_ofSegment?_withReturns h]
  refine OrderedMap.get?_gather_map ?_ blockStep_withReturns (fun k => rfl) _ name
  intro b
  rfl

end Collect

end Example

/-! ## A text and its counterpart -/

/-- A text without carriage returns and its counterpart are cut into segments that differ only in
carriage returns, and their examples stand under the same names, with the same options and with the
same blocks but for the carriage returns of the code. -/
theorem Segment.cut_and_examples_withReturns (t : Text) (h : .char '\r' ∉ t) :
    List.Forall₂ DifferInReturns (split t) (split t.withReturns) ∧
    (Example.collect (split t.withReturns)).keys = (Example.collect (split t)).keys ∧
    ∀ name, (Example.collect (split t.withReturns)).get? name =
      ((Example.collect (split t)).get? name).map Example.withReturns := by
  have hform : ∀ s ∈ split t, s.WellFormed := fun s hs => wellFormed_of_mem_split hs
  rw [split_withReturns h]
  refine ⟨?_, Example.keys_collect_withReturns hform, Example.get?_collect_withReturns hform⟩
  rw [List.forall₂_map_right_iff, List.forall₂_same]
  intro s hs
  exact differInReturns_withReturns (hform s hs)

/-- A block of two lines whose closing line is trailed by a space, and an opening line that ends in a
vertical tabulator, behind which a fence stays open. -/
theorem Segment.cut_and_examples_behind_tabulator :
    .char '\r' ∉ (ofString "t\n```a.js height=4\nx\n\ny\n``` \n```b.js\x0bz\n```\n```c\n") ∧
    List.Forall₂ DifferInReturns
      (split "t\n```a.js height=4\nx\n\ny\n``` \n```b.js\x0bz\n```\n```c\n")
      (split "t\r\n```a.js height=4\r\nx\r\n\r\ny\r\n``` \r\n```b.js\x0bz\r\n```\r\n```c\r\n") :=
  ⟨by decide, (cut_and_examples_withReturns
    "t\n```a.js height=4\nx\n\ny\n``` \n```b.js\x0bz\n```\n```c\n" (by decide)).1⟩

end ComponentDocs
