import ComponentDocs.Proofs.FenceLayout
import Mathlib.Data.List.Chain

/-!
# Cutting a text into segments loses nothing

The segments of a text make it up again, whatever terminators its lines have and whether its fences
are closed or not (`split_is_lossless`). Plain text between two blocks is one segment: no such segment
is empty, and no two of them are neighbours, since the terminator of a closing line begins the plain
text behind the block.

All of this is read off the layout of a text, which has a block between any two stretches of plain
text.
-/

set_option autoImplicit false

namespace ComponentDocs.Segment

/-- Whether a segment is plain text. -/
def isText : Segment → Bool
  | text _ => true
  | fence _ => false

/-- Of two neighbours at most one is plain text. -/
def Alternating (segments : List Segment) : Prop :=
  segments.IsChain fun s s' => s.isText = true → s'.isText = false

theorem renderSegments_append (s t : List Segment) :
    renderSegments (s ++ t) = renderSegments s ++ renderSegments t :=
  List.flatMap_append

theorem renderSegments_plain (t : Text) : renderSegments (plain t) = t := by
  cases t with
  | nil => rfl
  | cons c rest => exact List.append_nil _

theorem ne_nil_of_mem_plain {t u : Text} (h : text u ∈ plain t) : u ≠ [] := by
  cases t with
  | nil => cases h
  | cons c rest =>
      obtain rfl : u = c :: rest := by simpa [plain] using h
      exact List.cons_ne_nil c rest

theorem alternating_plain (t : Text) : Alternating (plain t) := by
  cases t with
  | nil => exact .nil
  | cons c rest => exact .singleton _

/-- A block separates the plain text before it from what follows. -/
theorem alternating_block {segments : List Segment} (h : Alternating segments) (q : Text)
    (f : Fence) : Alternating (plain q ++ fence f :: segments) := by
  have hfence : Alternating (fence f :: segments) := by
    cases segments with
    | nil => exact .singleton _
    | cons s rest => exact .cons_cons (fun hf => by cases hf) h
  cases q with
  | nil => exact hfence
  | cons c rest => exact .cons_cons (fun _ => rfl) hfence

namespace Layout

/-- The segments of a layout make up the text. -/
theorem renderSegments_eq {t : Text} {segments : List Segment} (h : Layout t segments) :
    renderSegments segments = t := by
  induction h with
  | @rest t _ => exact renderSegments_plain t
  | @block q t f segments _ _ _ _ _ ih =>
      have hcons : renderSegments (fence f :: segments) = f.render ++ renderSegments segments :=
        List.flatMap_cons
      rw [renderSegments_append, renderSegments_plain, hcons, ih]

theorem ne_nil_of_mem {t : Text} {segments : List Segment} (h : Layout t segments) {u : Text}
    (hu : text u ∈ segments) : u ≠ [] := by
  induction h with
  | rest _ => exact ne_nil_of_mem_plain hu
  | block _ _ _ _ _ ih =>
      rcases List.mem_append.1 hu with hu | hu
      · exact ne_nil_of_mem_plain hu
      · rcases List.mem_cons.1 hu with hu | hu
        · cases hu
        · exact ih hu

theorem alternating {t : Text} {segments : List Segment} (h : Layout t segments) :
    Alternating segments := by
  induction h with
  | @rest t _ => exact alternating_plain t
  | @block q t f segments _ _ _ _ _ ih => exact alternating_block ih q f

end Layout

/-- The segments of a text make it up again, none of its plain stretches is empty, and no two of them
are neighbours. -/
theorem split_is_lossless (t : Text) :
    renderSegments (split t) = t ∧ (∀ u, text u ∈ split t → u ≠ []) ∧
      ∀ (before : List Segment) (u v : Text) (behind : List Segment),
        split t ≠ before ++ text u :: text v :: behind := by
  have hlayout := layout_split t
  refine ⟨hlayout.renderSegments_eq, fun u => hlayout.ne_nil_of_mem, ?_⟩
  intro before u v behind heq
  have hchain := hlayout.alternating
  rw [heq] at hchain
  have hpair := (List.isChain_append_cons_cons.1 hchain).2.1
  exact absurd (hpair rfl) (by simp [isText])

end ComponentDocs.Segment
