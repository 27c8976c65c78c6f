import ComponentDocs.Proofs.BlockByBlock
import ComponentDocs.Proofs.CommentLayout

/-!
# Documents in comments

Documents that stand in the comments of a source text are read as if each of them were a markdown text
of its own (`comments_read_as_documents`): the components are those of the documents, one document
after the other, merged or not as the options ask, and the first document that cannot be read decides
the error. The code between the comments has no influence.
-/

set_option autoImplicit false

namespace ComponentDocs.Extraction

open Text

/-- The components of several texts of one extension, text by text. -/
def extractEach (rt : Runtime) (options : ExtractionOptions) (extension : Option Text) :
    List Text → Except Yaml.Error (List Component)
  | [] => .ok []
  | t :: rest => do
      let own ← extract rt options extension t
      return own ++ (← extractEach rt options extension rest)

section Markdown

variable (rt : Runtime) (options : ExtractionOptions) {markdown : Option Text}

/-- A markdown text is one block. -/
theorem extract_markdown (h : Extension.isMarkdown options.markdown markdown = true) (t : Text) :
    extract rt options markdown t =
      (component? rt options t).map fun c => arrange options c.toList := by
  have hblock : componentsOf rt options [t] = (component? rt options t).map Option.toList := by
    rw [componentsOf, componentsOf]
    cases component? rt options t with
    | error e => rfl
    | ok c => exact congrArg Except.ok (List.append_nil c.toList)
  rw [extract, documentationBlocks, if_pos h, hblock]
  cases component? rt options t with
  | error e => rfl
  | ok c => rfl

/-- Without merging, the components of several markdown texts are those of their blocks. -/
theorem componentsOf_eq_extractEach (h : Extension.isMarkdown options.markdown markdown = true)
    (ts : List Text) :
    componentsOf rt options ts = extractEach rt { options with merge := false } markdown ts := by
  induction ts with
  | nil => rfl
  | cons t rest ih =>
      rw [componentsOf, extractEach, ← ih, extract_markdown rt { options with merge := false } h]
      show (component? rt options t >>= _) = ((component? rt options t).map _ >>= _)
      cases component? rt options t with
      | error e => rfl
      | ok c => rfl

/-- Merging what each text gives and then all of it is merging once. -/
theorem map_merge_extractEach (ts : List Text) :
    (extractEach rt { options with merge := true } markdown ts).map Component.merge =
      (extractEach rt { options with merge := false } markdown ts).map Component.merge := by
  induction ts with
  | nil => rfl
  | cons t rest ih =>
      rw [extractEach, extractEach, extract_merge]
      cases extract rt { options with merge := false } markdown t with
      | error e => rfl
      | ok own => exact Component.map_merge_append ih own

end Markdown

/-- The first text that cannot be read decides the error. -/
theorem extractEach_eq_error_iff {rt : Runtime} {options : ExtractionOptions} {extension : Option Text}
    {ts : List Text} {e : Yaml.Error} :
    extractEach rt options extension ts = .error e ↔
      ∃ before t behind, ts = before ++ t :: behind ∧
        (∀ s ∈ before, ∃ components, extract rt options extension s = .ok components) ∧
        extract rt options extension t = .error e := by
  have heach : extractEach rt options extension ts = appendEach (extract rt options extension) ts := by
    induction ts with
    | nil => rfl
    | cons t rest ih => rw [extractEach, appendEach, ih]
  rw [heach, appendEach_eq_error_iff]

open Comment in
/-- Documents in the comments of a text are read like markdown texts of their own. Without merging,
their components follow each other; with merging, the components of all of them are merged. Reading
fails exactly when one of the documents cannot be read, with the error of the first. -/
theorem comments_read_as_documents (rt : Runtime) (options : ExtractionOptions)
    (source markdown : Option Text) (gap : Text) (remarks : List Remark)
    (hsource : Extension.isMarkdown options.markdown source = false)
    (hmarkdown : Extension.isMarkdown options.markdown markdown = true)
    (hgap : ¬ opener <:+: gap) (hremarks : ∀ r ∈ remarks, r.Proper) :
    extract rt { options with merge := false } source (commented gap remarks) =
        extractEach rt { options with merge := false } markdown (remarks.map Remark.document) ∧
    extract rt { options with merge := true } source (commented gap remarks) =
        (extractEach rt { options with merge := true } markdown
          (remarks.map Remark.document)).map Component.merge ∧
    ∀ e, extract rt options source (commented gap remarks) = .error e ↔
      ∃ before document behind, remarks.map Remark.document = before ++ document :: behind ∧
        (∀ d ∈ before, ∃ components, extract rt options markdown d = .ok components) ∧
        extract rt options markdown document = .error e := by
  have hblocks : ∀ merge : Bool,
      extract rt { options with merge := merge } source (commented gap remarks) =
        (extractEach rt { options with merge := false } markdown (remarks.map Remark.document)).map
          (arrange { options with merge := merge }) := by
    intro merge
    rw [extract, documentationBlocks, if_neg (by simp [hsource]), blocks_commented hgap hremarks,
      componentsOf_merge, componentsOf_eq_extractEach rt options hmarkdown]
  have hplain : extract rt { options with merge := false } source (commented gap remarks) =
      extractEach rt { options with merge := false } markdown (remarks.map Remark.document) := by
    rw [hblocks false]
    cases extractEach rt { options with merge := false } markdown (remarks.map Remark.document) with
    | error e => rfl
    | ok components => rfl
  have hmerged : extract rt { options with merge := true } source (commented gap remarks) =
      (extractEach rt { options with merge := true } markdown
        (remarks.map Remark.document)).map Component.merge := by
    rw [hblocks true, map_merge_extractEach]
    rfl
  refine ⟨hplain, hmerged, fun e => ?_⟩
  rw [← extractEach_eq_error_iff]
  -- merging changes nothing about errors, so the two equations give them in either case
  obtain ⟨markdownSet, renderable, merge⟩ := options
  cases merge with
  | false => rw [hplain]
  | true => rw [hmerged, map_eq_error_iff]

/-- Two comments with slashes and asterisks at every junction. -/
def junctions : List Comment.Remark :=
  [⟨"*\n", "---\nname: a\n---\nt", "\n*", "*/"⟩, ⟨" ", "/b/", "*", "/"⟩]

open Comment in
/-- What these comments look like in a text, and how they are read. -/
theorem junctions_read_as_documents :
    commented "x/" junctions = ofString "x//**\n---\nname: a\n---\nt\n**/*//* /b/**//" ∧
    extract .own { merge := false } (some "js") (commented "x/" junctions) =
      extractEach .own { merge := false } (some "md") (junctions.map Remark.document) ∧
    extract .own {} (some "js") (commented "x/" junctions) =
      (extractEach .own {} (some "md") (junctions.map Remark.document)).map Component.merge := by
  have h := comments_read_as_documents .own {} (some "js") (some "md") "x/" junctions
    (by decide +kernel) (by decide +kernel) (by decide) (by decide +kernel)
  exact ⟨by decide, h.1, h.2.1⟩

end ComponentDocs.Extraction
