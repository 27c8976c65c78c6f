import ComponentDocs.Proofs.BlockByBlock
import ComponentDocs.Settings
import Mathlib.Data.List.Induction
import Mathlib.Data.List.Lex

/-!
# The order of source files

The source files of a project are an ordered union of what its patterns select. It is described here
without the run that puts it together (`IsUnion`): each file that a pattern selects stands in it once,
and of two files the one whose first pattern is the earlier one comes first, or, within one pattern,
the one that the order of paths puts first.

Adding paths to those found keeps these as they are and appends the new ones in order
(`exists_foldl_addNew`). So one more pattern appends the files that no earlier one selects
(`union_concat`), and the order follows by induction on the patterns (`pairwise_union`). It rests on
the order of paths, which tells any two of them apart (`Path.linearlyOrders_before`).
-/

set_option autoImplicit false

namespace ComponentDocs

universe u

/-! ## The order of paths -/

/-- The comparison puts any two different things in one order: of such, one comes before the other
and not the other way round, and whatever is not before one of them is behind the other. -/
structure LinearlyOrders {α : Type u} (before : α → α → Bool) : Prop where
  asymm : ∀ {a b}, before a b = true → before b a = false
  connected : ∀ {a c} (b), before a c = true → before a b = true ∨ before b c = true
  total : ∀ {a b}, a ≠ b → before a b = true ∨ before b a = true

namespace LinearlyOrders

variable {α : Type u} {before : α → α → Bool}

/-- Lists are ordered by their first difference. -/
theorem lex [BEq α] [LawfulBEq α] (h : LinearlyOrders before) :
    LinearlyOrders fun s t : List α => s.lex t before := by
  have hasymm : Std.Asymm fun a b => before a b = true :=
    ⟨fun a b hab => Bool.eq_false_iff.1 (h.asymm hab)⟩
  have hconnected : IsOrderConnected α fun a b => before a b = true :=
    ⟨fun a b c hac => h.connected b hac⟩
  have htotal : Std.Trichotomous fun a b => before a b = true := by
    constructor
    intro a b hab hba
    by_contra hne
    exact (h.total hne).elim hab hba
  refine { asymm := ?_, connected := ?_, total := ?_ }
  · intro s t hst
    rw [List.lex_eq_true_iff_lex] at hst
    rw [Bool.eq_false_iff, Ne, List.lex_eq_true_iff_lex]
    exact List.Lex.asymm _ |>.asymm _ _ hst
  · intro s u t hsu
    rw [List.lex_eq_true_iff_lex] at hsu ⊢
    rw [List.lex_eq_true_iff_lex]
    exact IsOrderConnected.conn s t u hsu
  · intro s t hne
    rw [List.lex_eq_true_iff_lex, List.lex_eq_true_iff_lex]
    by_contra hnot
    rw [not_or] at hnot
    exact hne (Std.Trichotomous.trichotomous s t hnot.1 hnot.2)

/-- Things are ordered by a key, and those of one key by a number, if key and number tell them
apart. -/
theorem keyed {β : Type u} [DecidableEq β] {before : β → β → Bool} (h : LinearlyOrders before)
    {key : α → β} {number : α → Nat}
    (hinj : ∀ {a b}, key a = key b → number a = number b → a = b) :
    LinearlyOrders fun a b : α =>
      if key a = key b then decide (number a < number b) else before (key a) (key b) := by
  refine { asymm := ?_, connected := ?_, total := ?_ }
  · intro a b hab
    by_cases hkey : key a = key b
    · rw [if_pos hkey, decide_eq_true_iff] at hab
      rw [if_pos hkey.symm, decide_eq_false_iff_not]
      omega
    · rw [if_neg hkey] at hab
      rw [if_neg (Ne.symm hkey)]
      exact h.asymm hab
  · intro a c b hac
    by_cases hab : key a = key b
    · by_cases hbc : key b = key c
      · -- all three have one key, so that the numbers decide
        rw [if_pos (hab.trans hbc), decide_eq_true_iff] at hac
        rw [if_pos hab, if_pos hbc, decide_eq_true_iff, decide_eq_true_iff]
        omega
      · rw [hab, if_neg hbc] at hac
        rw [if_neg hbc]
        exact Or.inr hac
    · rw [if_neg hab]
      by_cases hbc : key b = key c
      · rw [← hbc, if_neg hab] at hac
        exact Or.inl hac
      · rw [if_neg hbc]
        by_cases hkey : key a = key c
        · rw [hkey]
          exact h.total (Ne.symm hbc)
        · rw [if_neg hkey] at hac
          exact h.connected (key b) hac
  · intro a b hne
    by_cases hkey : key a = key b
    · have hnumber : number a ≠ number b := fun hn => hne (hinj hkey hn)
      rw [if_pos hkey, if_pos hkey.symm, decide_eq_true_iff, decide_eq_true_iff]
      omega
    · rw [if_neg hkey, if_neg (Ne.symm hkey)]
      exact h.total hkey

end LinearlyOrders

theorem CodePoint.eq_of_toNat {a b : CodePoint} (h : a.toNat = b.toNat) : a = b := by
  rw [← ofNat_toNat a, h, ofNat_toNat]

theorem Text.linearlyOrders_before : LinearlyOrders Text.before := by
  apply LinearlyOrders.lex
  refine { asymm := ?_, connected := ?_, total := ?_ }
  · intro a b hab
    have hlt : a.toNat < b.toNat := of_decide_eq_true hab
    exact decide_eq_false (show ¬ b.toNat < a.toNat by omega)
  · intro a c b hac
    have hlt : a.toNat < c.toNat := of_decide_eq_true hac
    rw [decide_eq_true_iff, decide_eq_true_iff]
    show a.toNat < b.toNat ∨ b.toNat < c.toNat
    omega
  · intro a b hne
    have hnum : a.toNat ≠ b.toNat := fun h => hne (CodePoint.eq_of_toNat h)
    rw [decide_eq_true_iff, decide_eq_true_iff]
    show a.toNat < b.toNat ∨ b.toNat < a.toNat
    omega

namespace Path

theorem Start.eq_of_marks {s t : Start} (h : s.marks = t.marks) : s = t := by
  cases s <;> cases t <;> simp_all [marks, render]

/-- A path is known by what is compared of it, once the number of its names is known. -/
theorem eq_of_components {p q : Path} (h : p.components = q.components)
    (hlength : p.parts.length = q.parts.length) : p = q := by
  obtain ⟨hmarks, hparts⟩ := List.append_inj' h hlength
  have hstart := Start.eq_of_marks hmarks
  cases p
  cases q
  simp_all

theorem linearlyOrders_before : LinearlyOrders before :=
  Text.linearlyOrders_before.lex.keyed eq_of_components

end Path

/-! ## Adding paths -/

namespace Sources

/-- Adding paths to those found keeps these in front. The added ones follow in order, each once. -/
theorem exists_foldl_addNew (found paths : List Path) :
    ∃ new, paths.foldl addNew found = found ++ new ∧ new.Sublist paths ∧ new.Nodup ∧
      ∀ p, p ∈ new ↔ p ∈ paths ∧ p ∉ found := by
  induction paths generalizing found with
  | nil => exact ⟨[], by simp, .refl _, .nil, by simp⟩
  | cons p paths ih =>
      rw [List.foldl_cons, addNew]
      by_cases hp : p ∈ found
      · obtain ⟨new, hfold, hsub, hnodup, hmem⟩ := ih found
        rw [if_pos (List.contains_iff_mem.2 hp)]
        refine ⟨new, hfold, hsub.cons p, hnodup, ?_⟩
        intro q
        rw [hmem, List.mem_cons]
        constructor
        · rintro ⟨hq, hnew⟩
          exact ⟨Or.inr hq, hnew⟩
        · rintro ⟨rfl | hq, hnew⟩
          · exact absurd hp hnew
          · exact ⟨hq, hnew⟩
      · obtain ⟨new, hfold, hsub, hnodup, hmem⟩ := ih (found ++ [p])
        rw [if_neg (mt List.contains_iff_mem.1 hp)]
        have hnew : p ∉ new := fun h => ((hmem p).1 h).2 (by simp)
        refine ⟨p :: new, ?_, hsub.cons_cons p, List.nodup_cons.2 ⟨hnew, hnodup⟩, ?_⟩
        · rw [hfold, List.append_assoc, List.singleton_append]
        · intro q
          rw [List.mem_cons, hmem, List.mem_cons, List.mem_append, List.mem_singleton]
          by_cases hq : q = p
          · simp [hq, hp]
          · simp [hq]

/-- The paths of one pattern stand in order. -/
theorem pairwise_sorted (paths : List Path) :
    (sorted paths).Pairwise fun p q => q.before p = false := by
  have horder := Path.linearlyOrders_before
  have hsorted : (sorted paths).Pairwise fun p q => (!q.before p) = true := by
    apply List.pairwise_mergeSort
    · intro p q r hqp hrq
      rw [Bool.not_eq_true'] at hqp hrq ⊢
      rw [Bool.eq_false_iff] at hqp hrq ⊢
      intro hrp
      exact (horder.connected q hrp).elim hrq hqp
    · intro p q
      cases hpq : p.before q with
      | false => rw [Bool.not_false, Bool.or_true]
      | true => rw [horder.asymm hpq, Bool.not_false, Bool.true_or]
  exact hsorted.imp fun h => by simpa using h

/-- One more selection appends its files that are not among those found, in order. -/
theorem union_concat (isFile : Path → Bool) (selections : List (List Path)) (paths : List Path) :
    ∃ new, union isFile (selections ++ [paths]) = union isFile selections ++ new ∧
      new.Pairwise (fun p q => p.before q = true) ∧
      ∀ p, p ∈ new ↔ (isFile p = true ∧ p ∈ paths) ∧ p ∉ union isFile selections := by
  obtain ⟨new, hfold, hsub, hnodup, hmem⟩ :=
    exists_foldl_addNew (union isFile selections) ((sorted paths).filter isFile)
  refine ⟨new, ?_, ?_, ?_⟩
  · rw [union, List.flatMap_append, List.foldl_append, ← union, ← hfold]
    simp
  · -- of two different paths one comes first, and the sorted ones are not the wrong way round
    have hsorted := (pairwise_sorted paths).sublist (hsub.trans List.filter_sublist)
    refine hsorted.imp₂ (fun p q hqp hne => ?_) hnodup
    exact (Path.linearlyOrders_before.total hne).resolve_right (Bool.eq_false_iff.1 hqp)
  · intro p
    rw [hmem, List.mem_filter, sorted, List.mem_mergeSort, and_comm (a := p ∈ paths)]

/-- The files found so far stay in front when further selections are added. -/
theorem union_prefix (isFile : Path → Bool) (selections more : List (List Path)) :
    union isFile selections <+: union isFile (selections ++ more) := by
  induction more using List.reverseRecOn with
  | nil => exact ⟨[], by simp⟩
  | append_singleton more paths ih =>
      obtain ⟨new, hnew, -, -⟩ := union_concat isFile (selections ++ more) paths
      rw [← List.append_assoc, hnew]
      exact ih.trans (List.prefix_append _ _)

theorem mem_union {isFile : Path → Bool} {selections : List (List Path)} {p : Path} :
    p ∈ union isFile selections ↔ isFile p = true ∧ ∃ paths ∈ selections, p ∈ paths := by
  obtain ⟨new, hfold, -, -, hmem⟩ :=
    exists_foldl_addNew [] (selections.flatMap fun paths => (sorted paths).filter isFile)
  rw [union, hfold, List.nil_append, hmem, List.mem_flatMap]
  simp only [sorted, List.mem_filter, List.mem_mergeSort, List.not_mem_nil, not_false_eq_true,
    and_true]
  constructor
  · rintro ⟨paths, hpaths, hp, hfile⟩
    exact ⟨hfile, paths, hpaths, hp⟩
  · rintro ⟨hfile, paths, hpaths, hp⟩
    exact ⟨paths, hpaths, hp, hfile⟩

/-! ## The union of patterns -/

section Patterns

variable (isFile : Path → Bool) (glob : Text → List Path)

/-- The place of the first pattern that selects a path. -/
def firstPattern (patterns : List Text) (p : Path) : Nat :=
  patterns.findIdx fun pattern => (glob pattern).contains p

/-- The first pattern of the one path is the earlier one, or it is the same and the path comes
first. -/
def Precedes (patterns : List Text) (p q : Path) : Prop :=
  firstPattern glob patterns p < firstPattern glob patterns q ∨
    firstPattern glob patterns p = firstPattern glob patterns q ∧ p.before q = true

/-- The paths are the files that the patterns select: each of them once, and in order. -/
structure IsUnion (patterns : List Text) (paths : List Path) : Prop where
  nodup : paths.Nodup
  mem_iff : ∀ p, p ∈ paths ↔ isFile p = true ∧ ∃ pattern ∈ patterns, p ∈ glob pattern
  order : ∀ p ∈ paths, ∀ q ∈ paths,
    paths.idxOf p < paths.idxOf q ↔ Precedes glob patterns p q

variable {isFile glob} {patterns : List Text}

theorem Precedes.asymm {p q : Path} (h : Precedes glob patterns p q) :
    ¬ Precedes glob patterns q p := by
  rintro (hlt | ⟨heq, hbefore⟩)
  · rcases h with hlt' | ⟨heq', -⟩ <;> omega
  · rcases h with hlt' | ⟨-, hbefore'⟩
    · omega
    · exact Bool.eq_false_iff.1 (Path.linearlyOrders_before.asymm hbefore) hbefore'

theorem mem_union_map {p : Path} : p ∈ union isFile (patterns.map glob) ↔
    isFile p = true ∧ ∃ pattern ∈ patterns, p ∈ glob pattern := by
  rw [mem_union]
  simp only [List.mem_map, exists_exists_and_eq_and]

/-- The first pattern of a path that one of the patterns selects is among these. -/
theorem firstPattern_lt_length {p : Path} (h : ∃ pattern ∈ patterns, p ∈ glob pattern) :
    firstPattern glob patterns p < patterns.length := by
  obtain ⟨pattern, hpattern, hp⟩ := h
  exact List.findIdx_lt_length.2 ⟨pattern, hpattern, List.contains_iff_mem.2 hp⟩

/-- A later pattern makes no difference to a path that an earlier one selects. -/
theorem firstPattern_append {p : Path} (h : ∃ pattern ∈ patterns, p ∈ glob pattern)
    (more : List Text) : firstPattern glob (patterns ++ more) p = firstPattern glob patterns p :=
  List.findIdx_append.trans (if_pos (firstPattern_lt_length h))

/-- A path that is selected by the last pattern alone has this for its first one. -/
theorem firstPattern_concat {p : Path} {pattern : Text} (hp : p ∈ glob pattern)
    (hnew : ¬ ∃ pattern ∈ patterns, p ∈ glob pattern) :
    firstPattern glob (patterns ++ [pattern]) p = patterns.length := by
  have hnone : ¬ firstPattern glob patterns p < patterns.length := by
    intro hlt
    obtain ⟨earlier, hmem, hp⟩ := List.findIdx_lt_length.1 hlt
    exact hnew ⟨earlier, hmem, List.contains_iff_mem.1 hp⟩
  refine (List.findIdx_append.trans (if_neg hnone)).trans ?_
  simp [hp]

/-- The files that patterns select stand in order. -/
theorem pairwise_union (isFile : Path → Bool) (glob : Text → List Path) (patterns : List Text) :
    (union isFile (patterns.map glob)).Pairwise (Precedes glob patterns) := by
  induction patterns using List.reverseRecOn with
  | nil => exact .nil
  | append_singleton patterns pattern ih =>
      rw [List.map_append, List.map_singleton]
      obtain ⟨new, hunion, hbefore, hmem⟩ := union_concat isFile (patterns.map glob) (glob pattern)
      have hold : ∀ {p}, p ∈ union isFile (patterns.map glob) →
          ∃ pattern ∈ patterns, p ∈ glob pattern := fun hp => (mem_union_map.1 hp).2
      -- what the last pattern adds has it for its first pattern
      have hnew : ∀ {p}, p ∈ new →
          firstPattern glob (patterns ++ [pattern]) p = patterns.length := by
        intro p hp
        obtain ⟨⟨hfile, hpattern⟩, hnotMem⟩ := (hmem p).1 hp
        refine firstPattern_concat hpattern fun h => hnotMem ?_
        exact mem_union_map.2 ⟨hfile, h⟩
      rw [hunion, List.pairwise_append]
      refine ⟨?_, ?_, ?_⟩
      · refine ih.imp_of_mem fun hp hq hpq => ?_
        rw [Precedes, firstPattern_append (hold hp), firstPattern_append (hold hq)]
        exact hpq
      · refine hbefore.imp_of_mem fun hp hq hpq => ?_
        exact Or.inr ⟨(hnew hp).trans (hnew hq).symm, hpq⟩
      · intro p hp q hq
        left
        rw [hnew hq, firstPattern_append (hold hp)]
        exact firstPattern_lt_length (hold hp)

/-- In a list that stands in order, a path stands before another one exactly if it precedes it. -/
theorem idxOf_lt_idxOf_iff {paths : List Path} (h : paths.Pairwise (Precedes glob patterns))
    {p q : Path} (hp : p ∈ paths) (hq : q ∈ paths) :
    paths.idxOf p < paths.idxOf q ↔ Precedes glob patterns p q := by
  have hplaces : ∀ {p q}, p ∈ paths → q ∈ paths → paths.idxOf p < paths.idxOf q →
      Precedes glob patterns p q := by
    intro p q hp hq hlt
    have hprecedes := List.pairwise_iff_getElem.1 h _ _ (List.idxOf_lt_length_iff.2 hp)
      (List.idxOf_lt_length_iff.2 hq) hlt
    rwa [List.getElem_idxOf, List.getElem_idxOf] at hprecedes
  refine ⟨hplaces hp hq, fun hpq => ?_⟩
  rcases Nat.lt_trichotomy (paths.idxOf p) (paths.idxOf q) with hlt | heq | hgt
  · exact hlt
  · obtain rfl := (List.idxOf_inj hp).1 heq
    exact absurd hpq hpq.asymm
  · exact absurd hpq (hplaces hq hp hgt).asymm

theorem isUnion_union (isFile : Path → Bool) (glob : Text → List Path) (patterns : List Text) :
    IsUnion isFile glob patterns (union isFile (patterns.map glob)) := by
  have hpairwise := pairwise_union isFile glob patterns
  refine { nodup := ?_, mem_iff := ?_, order := ?_ }
  · refine hpairwise.imp fun hpq => ?_
    rintro rfl
    exact hpq.asymm hpq
  · intro p
    exact mem_union_map
  · intro p hp q hq
    exact idxOf_lt_idxOf_iff hpairwise hp hq

theorem IsUnion.pairwise {paths : List Path} (h : IsUnion isFile glob patterns paths) :
    paths.Pairwise (Precedes glob patterns) := by
  rw [List.pairwise_iff_getElem]
  intro i j hi hj hij
  rw [← h.order _ (List.getElem_mem hi) _ (List.getElem_mem hj), h.nodup.idxOf_getElem,
    h.nodup.idxOf_getElem]
  exact hij

/-- Patterns have only one union. -/
theorem IsUnion.unique {paths paths' : List Path} (h : IsUnion isFile glob patterns paths)
    (h' : IsUnion isFile glob patterns paths') : paths = paths' := by
  have hperm : paths.Perm paths' := by
    rw [List.perm_ext_iff_of_nodup h.nodup h'.nodup]
    intro p
    rw [h.mem_iff, h'.mem_iff]
  apply List.Perm.eq_of_pairwise _ h.pairwise h'.pairwise hperm
  intro p q _ _ hpq hqp
  exact absurd hqp hpq.asymm

end Patterns

/-! ## The source files of settings -/

/-- Patterns that can all be used select one after the other. -/
theorem mapM_eq_ok {ε : Type} {find : Text → Except ε (List Path)} {glob : Text → List Path}
    {patterns : List Text} (h : ∀ pattern ∈ patterns, find pattern = .ok (glob pattern)) :
    patterns.mapM find = .ok (patterns.map glob) := by
  induction patterns with
  | nil => rfl
  | cons pattern patterns ih =>
      rw [List.mapM_cons, h pattern List.mem_cons_self,
        ih fun later hlater => h later (List.mem_cons_of_mem pattern hlater)]
      rfl

theorem select_eq_ok {fs : FileSystem} {directory : Path} {patterns : List Text}
    {glob : Text → List Path}
    (h : ∀ pattern ∈ patterns, Glob.glob fs directory pattern = .ok (glob pattern)) :
    select fs directory patterns = .ok (union fs.isFile (patterns.map glob)) := by
  rw [select, mapM_eq_ok h]
  rfl

/-- Whatever paths the patterns select, and whichever of them are files: the source files are each
file that a pattern selects, once and nothing else, in the order of their first patterns and, within
one pattern, in the order of paths. These conditions determine the list, and further patterns leave it
in front of what they add. The source files of settings are put together in this way from what their
patterns select. -/
theorem source_paths_are_an_ordered_union :
    (∀ (isFile : Path → Bool) (glob : Text → List Path) (patterns : List Text),
      (∀ paths, IsUnion isFile glob patterns paths ↔ paths = union isFile (patterns.map glob)) ∧
      ∀ more : List Text,
        union isFile (patterns.map glob) <+: union isFile ((patterns ++ more).map glob)) ∧
    ∀ (s : Settings) (fs : FileSystem) (glob : Text → List Path),
      (∀ pattern ∈ s.sources, Glob.glob fs s.root pattern = .ok (glob pattern)) →
        ∃ paths, s.sourcePaths fs = .ok paths ∧ IsUnion fs.isFile glob s.sources paths := by
  refine ⟨fun isFile glob patterns => ⟨fun paths => ⟨?_, ?_⟩, ?_⟩, ?_⟩
  · intro h
    exact h.unique (isUnion_union isFile glob patterns)
  · rintro rfl
    exact isUnion_union isFile glob patterns
  · intro more
    rw [List.map_append]
    exact union_prefix isFile _ _
  · intro s fs glob h
    exact ⟨_, select_eq_ok h, isUnion_union fs.isFile glob s.sources⟩

/-- A file of the name b, and one more in a directory beside another file. -/
def documents : FileSystem where
  root := .directory [("b", .file []), ("d", .directory [("a", .file []), ("b", .file [])])]

/-- Settings with patterns that overlap, the last of which selects the directory. -/
def overlapping : Settings where
  root := .parse "/"
  sources := ["d/b", "**/b", "d"]

/-- What a pattern selects below the root. -/
def selected (pattern : Text) : List Path :=
  (Glob.glob documents overlapping.root pattern).toOption.getD []

theorem map_selected : overlapping.sources.map selected =
    [[.parse "/d/b"], [.parse "/b", .parse "/d/b"], [.parse "/d"]] := by
  decide +kernel

/-- A file that two patterns select stands where the first of them puts it, and a directory is left
out. -/
theorem overlapping_patterns_in_order :
    (∀ pattern ∈ overlapping.sources,
      Glob.glob documents overlapping.root pattern = .ok (selected pattern)) ∧
    (∃ paths, overlapping.sourcePaths documents = .ok paths ∧
      IsUnion documents.isFile selected overlapping.sources paths) ∧
    union documents.isFile (overlapping.sources.map selected) =
      [.parse "/d/b", .parse "/b"] := by
  have husable : ∀ pattern ∈ overlapping.sources,
      Glob.glob documents overlapping.root pattern = .ok (selected pattern) := by
    have hsome : ∀ pattern ∈ overlapping.sources,
        (Glob.glob documents overlapping.root pattern).toOption.isSome = true := by decide +kernel
    intro pattern hpattern
    obtain ⟨paths, hpaths⟩ := Option.isSome_iff_exists.1 (hsome pattern hpattern)
    rw [selected, hpaths, Option.getD_some]
    exact toOption_eq_some_iff.1 hpaths
  -- sorting is recursive in a way that is not evaluated, but here it changes nothing
  have hsorted : ∀ paths ∈ overlapping.sources.map selected, sorted paths = paths := by
    rw [map_selected]
    intro paths hpaths
    apply List.mergeSort_of_pairwise
    revert paths
    decide +kernel
  refine ⟨husable, ?_, ?_⟩
  · exact source_paths_are_an_ordered_union.2 overlapping documents selected husable
  · rw [union, List.flatMap_congr fun paths hpaths => by rw [hsorted paths hpaths], map_selected]
    decide +kernel

end Sources

end ComponentDocs
