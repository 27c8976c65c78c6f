import ComponentDocs.Proofs.CommentLayout
import ComponentDocs.Proofs.LowerCase
import ComponentDocs.Proofs.ReportedFaults

/-!
# Canonical extensions

An extension is canonical when it is not empty and normalising it changes nothing. Normalising takes
away blank characters and then leading dots, each once, and so reaches a canonical extension from
exactly those texts in which the blank characters and the dots in front stand in this order and are
followed by something else (`IsLed`, `isCanonical_normalise_iff`). A text in which they alternate keeps
a blank character in front, and a text without anything else may become empty (`IsHollow`,
`normalise_eq_nil_iff`).

The extensions that settings list are made from the texts with a character other than dots and spaces,
which may be of all these kinds. The markdown extensions of settings are those that their file lists, or
else the default ones (`load_markdown`). So they are canonical if and only if the texts in the file are
led properly, and a missing extension is not markdown if and only if none of them is hollow
(`listed_extensions_canonical_iff`).
-/

set_option autoImplicit false

namespace ComponentDocs

open Text

namespace Extension

/-! ## Normalising -/

/-- An extension without blank characters around it and without leading dots. -/
def core (t : Text) : Text :=
  t.strip.trimLeft (· == '.')

theorem normalise_eq (t : Text) : normalise t = (core t).lowercase := rfl

/-- The extension is not empty, and normalising it changes nothing. -/
def IsCanonical (x : Text) : Prop :=
  x ≠ [] ∧ normalise x = x

instance (x : Text) : Decidable (IsCanonical x) :=
  inferInstanceAs (Decidable (_ ∧ _))

/-- The text begins with blank characters, then has dots, and then a character that is neither. -/
def IsLed (t : Text) : Prop :=
  ∃ (blanks dots : Text) (c : CodePoint) (rest : Text), t = blanks ++ (dots ++ c :: rest) ∧
    (∀ b ∈ blanks, isBlank b = true) ∧ (∀ d ∈ dots, d = .char '.') ∧ ¬ AtEdge c

/-- A blank character in front makes no difference. -/
theorem core_blank_cons {c : CodePoint} (hc : isBlank c = true) (t : Text) :
    core (c :: t) = core t := by
  have hleft : trimLeft isBlank (c :: t) = trimLeft isBlank t := List.dropWhile_cons_of_pos hc
  rw [core, core, strip, strip, trim, trim, hleft]

theorem core_sublist (t : Text) : (core t).Sublist t := by
  have hright : ∀ u : Text, (trimRight isBlank u).Sublist u := by
    intro u
    rw [trimRight, ← List.reverse_sublist, List.reverse_reverse]
    exact List.dropWhile_sublist _
  exact (List.dropWhile_sublist _).trans ((hright _).trans (List.dropWhile_sublist _))

/-- A dot does not come first in what remains. -/
theorem ne_dot_of_core {t rest : Text} {c : CodePoint} (h : core t = c :: rest) : c ≠ '.' := by
  have hstop := List.head?_dropWhile_not (· == CodePoint.char '.') t.strip
  rw [show t.strip.dropWhile (· == CodePoint.char '.') = c :: rest from h] at hstop
  simpa using hstop

/-- A blank character does not come last in what remains. -/
theorem getLast?_core {t : Text} {c : CodePoint} (h : (core t).getLast? = some c) :
    isBlank c = false := by
  have hparts : t.strip.takeWhile (· == CodePoint.char '.') ++ core t = t.strip :=
    List.takeWhile_append_dropWhile
  apply getLast?_trimRight (t := trimLeft isBlank t)
  show t.strip.getLast? = some c
  rw [← hparts, List.getLast?_append, h]
  rfl

/-- A text that neither begins nor ends in a character to be taken away remains as it is. -/
theorem core_eq_self {c : CodePoint} {rest : Text} (hc : ¬ AtEdge c)
    (hlast : ∀ x, (c :: rest).getLast? = some x → isBlank x = false) :
    core (c :: rest) = c :: rest := by
  rw [AtEdge, not_or] at hc
  have hright : trimRight isBlank ((c :: rest) ++ []) = c :: rest :=
    trimRight_append (by simp) hlast
  have hleft : trimLeft isBlank (c :: rest) = c :: rest := List.dropWhile_cons_of_neg hc.1
  rw [List.append_nil] at hright
  rw [core, strip, trim, hleft, hright]
  exact List.dropWhile_cons_of_neg (by simpa using hc.2)

/-- What remains of a text begins with a character that is not blank exactly if the text is led
properly. -/
theorem exists_core_iff (t : Text) :
    (∃ c rest, core t = c :: rest ∧ isBlank c = false) ↔ IsLed t := by
  constructor
  · rintro ⟨c, rest, hcore, hblank⟩
    have houter := trim_parts isBlank t
    have hinner : t.strip.takeWhile (· == CodePoint.char '.') ++ c :: rest = trim isBlank t := by
      rw [← hcore]
      exact List.takeWhile_append_dropWhile
    rw [← hinner] at houter
    refine ⟨t.takeWhile isBlank, t.strip.takeWhile (· == CodePoint.char '.'), c,
      rest ++ trailing isBlank (trimLeft isBlank t), ?_, ?_, ?_, ?_⟩
    · rw [← List.cons_append, ← List.append_assoc (t.strip.takeWhile _), ← List.append_assoc]
      exact houter
    · intro b hb
      exact List.mem_takeWhile_imp hb
    · intro d hd
      simpa using List.mem_takeWhile_imp hd
    · rintro (h | h)
      · exact absurd h (by simp [hblank])
      · exact ne_dot_of_core hcore h
  · rintro ⟨blanks, dots, c, rest, rfl, hblanks, hdots, hc⟩
    rw [AtEdge, not_or] at hc
    have hcblank : isBlank c = false := Bool.eq_false_iff.2 hc.1
    have hleft : trimLeft isBlank (blanks ++ (dots ++ c :: rest)) = dots ++ c :: rest := by
      rw [trimLeft, List.dropWhile_append_of_pos hblanks]
      -- neither a dot nor the character behind the dots is blank
      cases dots with
      | nil => exact List.dropWhile_cons_of_neg hc.1
      | cons d ds =>
          rw [hdots d List.mem_cons_self]
          exact List.dropWhile_cons_of_neg (by decide)
    have hdots' : ∀ d ∈ dots, (d == CodePoint.char '.') = true :=
      fun d hd => beq_iff_eq.2 (hdots d hd)
    refine ⟨c, trimRight isBlank rest, ?_, hcblank⟩
    rw [core, strip, trim, hleft, trimRight_append_of_mem dots List.mem_cons_self hcblank,
      trimRight_cons hcblank, trimLeft, List.dropWhile_append_of_pos hdots',
      List.dropWhile_cons_of_neg (by simpa using hc.2)]

/-- Normalising gives a canonical extension exactly if the text is led properly. -/
theorem isCanonical_normalise_iff (t : Text) : IsCanonical (normalise t) ↔ IsLed t := by
  rw [← exists_core_iff, normalise_eq]
  constructor
  · rintro ⟨hne, hself⟩
    cases hcore : core t with
    | nil => exact absurd rfl (hcore ▸ hne)
    | cons c rest =>
        refine ⟨c, rest, rfl, ?_⟩
        rw [hcore] at hself
        obtain ⟨x, hx, hecho⟩ := exists_head_echo c rest
        obtain ⟨others, hothers⟩ := List.head?_eq_some_iff.1 hx
        rw [← hecho.isBlank_eq, Bool.eq_false_iff]
        intro hblank
        -- the blank character in front would be taken away, and nothing would take its place
        have hlower : ∀ y ∈ core (lowercase (c :: rest)), IsLower y :=
          fun y hy => isLower_of_mem_lowercase ((core_sublist _).subset hy)
        rw [normalise_eq, lowercase_of_isLower hlower, hothers, core_blank_cons hblank] at hself
        have hshorter := (core_sublist others).length_le
        rw [hself, List.length_cons] at hshorter
        omega
  · rintro ⟨c, rest, hcore, hblank⟩
    rw [hcore]
    obtain ⟨x, hx, hecho⟩ := exists_head_echo c rest
    obtain ⟨others, hothers⟩ := List.head?_eq_some_iff.1 hx
    have hedge : ¬ AtEdge x := by
      intro h
      rcases hecho.1 h with h | h
      · exact absurd h (by simp [hblank])
      · exact ne_dot_of_core hcore h
    have hlast : ∀ y, (x :: others).getLast? = some y → isBlank y = false := by
      intro y hy
      rw [← hothers] at hy
      obtain ⟨d, hd, hecho⟩ := exists_last_echo hy
      rw [hecho.isBlank_eq]
      exact getLast?_core (hcore ▸ hd)
    refine ⟨by rw [hothers]; simp, ?_⟩
    rw [normalise_eq, hothers, core_eq_self hedge hlast, ← hothers, lowercase_lowercase]

/-- The text has nothing but blank characters with dots among them in one place. -/
def IsHollow (t : Text) : Prop :=
  ∃ blanks dots behind : Text, t = blanks ++ (dots ++ behind) ∧ (∀ b ∈ blanks, isBlank b = true) ∧
    (∀ d ∈ dots, d = .char '.') ∧ ∀ b ∈ behind, isBlank b = true

/-- Normalising leaves nothing exactly if the text is hollow. -/
theorem normalise_eq_nil_iff (t : Text) : normalise t = [] ↔ IsHollow t := by
  have hcore : normalise t = [] ↔ core t = [] := lowercaseAfter_eq_nil_iff
  rw [hcore]
  constructor
  · intro h
    refine ⟨t.takeWhile isBlank, t.strip, trailing isBlank (trimLeft isBlank t), ?_, ?_, ?_, ?_⟩
    · rw [← List.append_assoc]
      exact trim_parts isBlank t
    · intro b hb
      exact List.mem_takeWhile_imp hb
    · intro d hd
      simpa using List.dropWhile_eq_nil_iff.1 h d hd
    · intro b hb
      exact List.mem_takeWhile_imp (List.mem_reverse.1 hb)
  · rintro ⟨blanks, dots, behind, rfl, hblanks, hdots, hbehind⟩
    have hdot : ∀ d ∈ dots, isBlank d = false := by
      intro d hd
      rw [hdots d hd]
      rfl
    have hstrip : strip (blanks ++ (dots ++ behind)) = dots := by
      rw [← List.append_assoc]
      exact Comment.trim_padded hblanks hbehind (fun d hd => hdot d (List.mem_of_mem_head? hd))
        fun d hd => hdot d (List.mem_of_getLast? hd)
    rw [core, hstrip]
    exact List.dropWhile_eq_nil_iff.2 fun d hd => beq_iff_eq.2 (hdots d hd)

/-- Canonical extensions of the markdown family name markdown. -/
theorem isMarkdown_of_canonical {markdown : List Text} (h : ∀ x ∈ markdown, IsCanonical x) :
    ∀ x ∈ markdown, isMarkdown markdown (some x) = true := by
  intro x hx
  show markdown.contains (normalise x) = true
  rw [(h x hx).2]
  exact List.contains_iff_mem.2 hx

/-- A missing extension does not name markdown exactly if no listed one is empty. -/
theorem isMarkdown_none_iff {markdown : List Text} :
    isMarkdown markdown none = false ↔ ∀ x ∈ markdown, x ≠ [] := by
  show markdown.contains [] = false ↔ _
  rw [Bool.eq_false_iff, ne_eq, List.contains_iff_mem, List.forall_mem_ne']

end Extension

/-! ## Settings -/

namespace Settings

open Extension

/-- The texts that a value lists as extensions are all led properly. -/
def ListsLed (v : Value) : Prop :=
  ∀ t ∈ textsOf v, isExtension t = true → IsLed t

/-- One of the texts that a value lists as extensions is hollow. -/
def ListsHollow (v : Value) : Prop :=
  ∃ t ∈ textsOf v, isExtension t = true ∧ IsHollow t

theorem extensionsOf_canonical_iff (v : Value) :
    (∀ x ∈ extensionsOf v, IsCanonical x) ↔ ListsLed v := by
  rw [extensionsOf, List.forall_mem_map]
  constructor
  · intro h t ht hextension
    exact (isCanonical_normalise_iff t).1 (h t (List.mem_filter.2 ⟨ht, hextension⟩))
  · intro h t ht
    obtain ⟨htext, hextension⟩ := List.mem_filter.1 ht
    exact (isCanonical_normalise_iff t).2 (h t htext hextension)

theorem nil_mem_extensionsOf_iff (v : Value) : [] ∈ extensionsOf v ↔ ListsHollow v := by
  rw [extensionsOf, List.mem_map]
  constructor
  · rintro ⟨t, ht, hnil⟩
    obtain ⟨htext, hextension⟩ := List.mem_filter.1 ht
    exact ⟨t, htext, hextension, (normalise_eq_nil_iff t).1 hnil⟩
  · rintro ⟨t, htext, hextension, hhollow⟩
    exact ⟨t, List.mem_filter.2 ⟨htext, hextension⟩, (normalise_eq_nil_iff t).2 hhollow⟩

theorem defaultMarkdown_canonical : ∀ x ∈ defaultMarkdown, IsCanonical x := by
  decide +kernel

/-- The extensions of a family have a property that the default ones have exactly if those that are
set have it. -/
theorem forall_mem_extensionsOr_iff {P : Text → Prop} {otherwise : List Text}
    (h : ∀ x ∈ otherwise, P x) (listed : Option Value) :
    (∀ x ∈ extensionsOr otherwise listed, P x) ↔
      ∀ v, listed = some v → ∀ x ∈ extensionsOf v, P x := by
  cases listed with
  | none => simpa [extensionsOr] using h
  | some v =>
      simp only [Option.some.injEq, forall_eq']
      rw [extensionsOr, Option.map_some, Option.getD_some]
      cases extensionsOf v with
      | nil => simpa using h
      | cons x others => exact Iff.rfl

/-- The value for the markdown extensions in the text of a file with settings. -/
def markdownInText (rt : Runtime) (t : Text) : Option Value :=
  if t.isBlankText then none
  else
    match rt.load t with
    | .ok (some d) => markdownIn d
    | _ => none

/-- The value for the markdown extensions in the file with the settings. -/
def markdownInFile (rt : Runtime) (fs : FileSystem) (p : Path) : Option Value :=
  match locate fs p with
  | .ok file =>
      match fs.find file with
      | .ok (some (.file octets)) => (FileSystem.decode octets).bind (markdownInText rt)
      | _ => none
  | .error _ => none

/-- A document that is no mapping has no markdown extensions. -/
theorem markdownIn_of_no_mapping {d : Yaml.Document} (h : d.mappingAt? d.root = none) :
    markdownIn d = none := by
  rw [markdownIn, inner?, Yaml.Document.memberAt?, h]
  rfl

theorem parse_markdown {rt : Runtime} {file : Path} {t : Text} {s : Settings}
    (h : parse rt file t = .ok s) :
    s.markdown = extensionsOr defaultMarkdown (markdownInText rt t) := by
  rw [parse] at h
  rw [markdownInText]
  split at h
  case isTrue hblank =>
      rw [if_pos hblank, ← Except.ok.inj h]
      rfl
  case isFalse hblank =>
      rw [if_neg hblank]
      cases hload : rt.load t with
      | error e =>
          rw [hload] at h
          cases h
      | ok content =>
          rw [hload] at h
          cases content with
          | none =>
              rw [← Except.ok.inj h]
              rfl
          | some d =>
              show s.markdown = extensionsOr defaultMarkdown (markdownIn d)
              cases hmapping : d.mappingAt? d.root with
              | some entries =>
                  simp only [hmapping] at h
                  split at h
                  case isTrue =>
                      rw [← Except.ok.inj h]
                      rfl
                  case isFalse => cases h
              | none =>
                  rw [markdownIn_of_no_mapping hmapping]
                  cases hvalue : d.value with
                  | null =>
                      simp only [hmapping, hvalue] at h
                      rw [← Except.ok.inj h]
                      rfl
                  | _ =>
                      simp only [hmapping, hvalue] at h
                      cases h

/-- The markdown extensions of settings are those that their file sets, or else the default ones. -/
theorem load_markdown {rt : Runtime} {fs : FileSystem} {p : Path} {s : Settings}
    (h : load rt fs p = .ok s) :
    s.markdown = extensionsOr defaultMarkdown (markdownInFile rt fs p) := by
  obtain ⟨file, hfile, h⟩ := bind_eq_ok_iff.1 h
  obtain ⟨found, hfound, h⟩ := bind_eq_ok_iff.1 h
  rw [markdownInFile, hfile]
  simp only [mapError_eq_ok_iff.1 hfound]
  cases found with
  | none =>
      rw [← Except.ok.inj h]
      rfl
  | some tree =>
      cases tree with
      | directory entries => cases h
      | file octets =>
          show s.markdown = extensionsOr _ ((FileSystem.decode octets).bind (markdownInText rt))
          simp only at h
          cases htext : FileSystem.decode octets with
          | none =>
              rw [htext] at h
              cases h
          | some t =>
              rw [htext] at h
              exact parse_markdown h

/-- The extensions that a value lists are canonical if and only if their texts are led properly. For
all settings that can be loaded, the same holds of the markdown extensions and the value that the
file has for them; if they are canonical, each of them names markdown and a missing extension does
not; and the latter holds if and only if no text of the value is hollow. -/
theorem listed_extensions_canonical_iff (v : Value) (rt : Runtime) (fs : FileSystem) (p : Path) :
    ((∀ x ∈ extensionsOf v, IsCanonical x) ↔ ListsLed v) ∧
    ∀ s, load rt fs p = .ok s →
      ((∀ x ∈ s.markdown, IsCanonical x) ↔ ∀ v, markdownInFile rt fs p = some v → ListsLed v) ∧
      ((∀ x ∈ s.markdown, IsCanonical x) →
        (∀ x ∈ s.markdown, isMarkdown s.markdown (some x) = true) ∧
        isMarkdown s.markdown none = false) ∧
      (isMarkdown s.markdown none = false ↔
        ∀ v, markdownInFile rt fs p = some v → ¬ ListsHollow v) := by
  refine ⟨extensionsOf_canonical_iff v, ?_⟩
  intro s hload
  have hmarkdown := load_markdown hload
  refine ⟨?_, ?_, ?_⟩
  · rw [hmarkdown, forall_mem_extensionsOr_iff defaultMarkdown_canonical]
    simp only [extensionsOf_canonical_iff]
  · intro h
    exact ⟨isMarkdown_of_canonical h, isMarkdown_none_iff.2 fun x hx => (h x hx).1⟩
  · rw [isMarkdown_none_iff, hmarkdown,
      forall_mem_extensionsOr_iff fun x hx => (defaultMarkdown_canonical x hx).1]
    simp only [← nil_mem_extensionsOf_iff, ne_eq, List.forall_mem_ne']

/-- A file with settings that lists markdown extensions. -/
def listing (extensions : Text) : FileSystem :=
  settingsFolder (octetsOf ("parser: \x7bmarkdown_extensions: " ++ extensions ++ "\x7d"))

/-- Extensions with blank characters and then dots in front are canonical. -/
theorem led_extensions_name_markdown :
    ListsLed (.list [.text "md", .text " ..MDX "]) ∧
    ∃ s, load .own (listing "[md, ' ..MDX ']") (.parse ".") = .ok s ∧ s.markdown = ["md", "mdx"] ∧
      (∀ x ∈ s.markdown, isMarkdown s.markdown (some x) = true) ∧
      isMarkdown s.markdown none = false := by
  obtain ⟨hlisted, hloaded⟩ := listed_extensions_canonical_iff
    (.list [.text "md", .text " ..MDX "]) .own (listing "[md, ' ..MDX ']") (.parse ".")
  obtain ⟨s, hload, hmarkdown, -, hnames, -⟩ :=
    exists_ok_and (f := markdown) (b := ["md", "mdx"]) (by decide +kernel) hloaded
  refine ⟨hlisted.1 (by decide +kernel), s, hload, hmarkdown, hnames ?_⟩
  rw [hmarkdown]
  decide +kernel

/-- A tabulator is listed as an empty extension, for which a missing one is markdown, and an extension
with a space behind its dot as one that does not name markdown. -/
theorem tabulator_and_parted_dot_not_canonical :
    extensionsOf (.list [.text "\t", .text ". md"]) = [[], " md"] ∧
    normalise " md" = "md" ∧
    ∃ s, load .own (listing "[\"\\t\", '. md']") (.parse ".") = .ok s ∧ s.markdown = [[], " md"] ∧
      isMarkdown s.markdown (some " md") = false ∧ isMarkdown s.markdown none = true := by
  refine ⟨by decide +kernel, by decide +kernel, ?_⟩
  obtain ⟨s, hload, hmarkdown⟩ :
      ∃ s, load .own (listing "[\"\\t\", '. md']") (.parse ".") = .ok s ∧ s.markdown = [[], " md"] :=
    map_eq_ok_iff.1 (toOption_eq_some_iff.1 (by decide +kernel))
  refine ⟨s, hload, hmarkdown, ?_⟩
  rw [hmarkdown]
  decide +kernel

end Settings

end ComponentDocs
