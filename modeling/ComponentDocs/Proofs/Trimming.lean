import ComponentDocs.Text.Basic
import Mathlib.Data.List.TakeWhile

/-!
# Trimming

What trimming does to a text in two parts: it takes away a part that is in the class as a whole, and
does not reach beyond a part that has a character outside of the class. Trimming at the one end and
trimming at the other can be done in either order (`trimLeft_trimRight`). What it leaves begins and ends
outside of the class (`head?_trim`, `getLast?_trimRight`), and what it takes away is in it
(`trim_parts`, `mem_trailing`).
-/

set_option autoImplicit false

namespace ComponentDocs.Text

variable {p : CodePoint → Bool}

/-- What trimming keeps of a text whose end is in the class up to a character that is not. -/
theorem trimRight_append {a e : Text} (he : ∀ c ∈ e, p c = true)
    (ha : ∀ c, a.getLast? = some c → p c = false) : trimRight p (a ++ e) = a := by
  have hrev : ∀ c ∈ e.reverse, p c = true := fun c hc => he c (List.mem_reverse.1 hc)
  rw [trimRight, List.reverse_append, List.dropWhile_append_of_pos hrev]
  cases hr : a.reverse with
  | nil => simpa using hr
  | cons c rest =>
      have hlast : a.getLast? = some c := by rw [← List.head?_reverse, hr]; rfl
      rw [List.dropWhile_cons_of_neg (by simp [ha c hlast]), ← hr, List.reverse_reverse]

/-- What trimming removes of such a text. -/
theorem trailing_append {a e : Text} (he : ∀ c ∈ e, p c = true)
    (ha : ∀ c, a.getLast? = some c → p c = false) : trailing p (a ++ e) = e := by
  have h := trimRight_append_trailing p (a ++ e)
  rw [trimRight_append he ha] at h
  exact List.append_cancel_left h

theorem dropWhile_ne_nil {t : Text} {c : CodePoint} (hc : c ∈ t) (hp : p c = false) :
    t.dropWhile p ≠ [] := by
  intro hnil
  rw [List.dropWhile_eq_nil_iff] at hnil
  exact absurd (hnil c hc) (by simp [hp])

/-- Trimming keeps the characters outside of the class. -/
theorem mem_trimLeft {t : Text} {c : CodePoint} (hc : c ∈ t) (hp : p c = false) :
    c ∈ trimLeft p t := by
  rw [← List.takeWhile_append_dropWhile (p := p) (l := t)] at hc
  rcases List.mem_append.1 hc with h | h
  · exact absurd (List.mem_takeWhile_imp h) (by simp [hp])
  · exact h

theorem mem_trimRight {t : Text} {c : CodePoint} (hc : c ∈ t) (hp : p c = false) :
    c ∈ trimRight p t :=
  List.mem_reverse.2 (mem_trimLeft (List.mem_reverse.2 hc) hp)

/-- Trimming at the front does not reach beyond a character outside of the class. -/
theorem trimLeft_append_of_mem {t : Text} {c : CodePoint} (hc : c ∈ t) (hp : p c = false)
    (s : Text) : trimLeft p (t ++ s) = trimLeft p t ++ s := by
  have hne : (t.dropWhile p).isEmpty = false := by
    rw [List.isEmpty_eq_false_iff]
    exact dropWhile_ne_nil hc hp
  rw [trimLeft, trimLeft, List.dropWhile_append, hne, if_neg (by simp)]

/-- Trimming at the back does not reach beyond a character outside of the class. -/
theorem trimRight_append_of_mem (s : Text) {t : Text} {c : CodePoint} (hc : c ∈ t)
    (hp : p c = false) : trimRight p (s ++ t) = s ++ trimRight p t := by
  have h := trimLeft_append_of_mem (List.mem_reverse.2 hc) hp s.reverse
  rw [trimLeft, trimLeft] at h
  rw [trimRight, List.reverse_append, h, List.reverse_append, List.reverse_reverse, trimRight]

/-- A text that begins outside of the class keeps its beginning when it is trimmed at the back. -/
theorem trimRight_cons {c : CodePoint} (hp : p c = false) (t : Text) :
    trimRight p (c :: t) = c :: trimRight p t := by
  by_cases ht : ∀ d ∈ t, p d = true
  · have hnil : trimRight p ([] ++ t) = [] := trimRight_append ht (by simp)
    have hcons : trimRight p ([c] ++ t) = [c] := by
      refine trimRight_append ht fun d hd => ?_
      obtain rfl : c = d := by simpa using hd
      exact hp
    rw [List.nil_append] at hnil
    rw [hnil, ← hcons]
    rfl
  · obtain ⟨d, hd, hpd⟩ : ∃ d ∈ t, p d = false := by simpa using ht
    exact trimRight_append_of_mem [c] hd hpd

/-- The two ends of a text may be trimmed in either order. -/
theorem trimLeft_trimRight {t : Text} {c : CodePoint} (hc : c ∈ t) (hp : p c = false) :
    trimLeft p (trimRight p t) = trimRight p (trimLeft p t) := by
  -- neither trimming reaches beyond the first character `d` outside of the class
  have hsplit : t.takeWhile p ++ t.dropWhile p = t := List.takeWhile_append_dropWhile
  obtain ⟨d, rest, hd⟩ := List.exists_cons_of_ne_nil (dropWhile_ne_nil hc hp)
  have hpd : p d = false := by
    have h := List.head?_dropWhile_not p t
    rw [hd] at h
    simpa using h
  have hright : trimRight p t = t.takeWhile p ++ trimRight p (d :: rest) := by
    rw [← trimRight_append_of_mem (t.takeWhile p) List.mem_cons_self hpd, ← hd, hsplit]
  have hall : ∀ e ∈ t.takeWhile p, p e = true := fun e he => List.mem_takeWhile_imp he
  rw [hright, trimLeft, trimLeft, List.dropWhile_append_of_pos hall, hd, trimRight_cons hpd]
  exact List.dropWhile_cons_of_neg (by simp [hpd])

/-! ## What trimming leaves -/

/-- A text is what trimming leaves of it between characters of the class. -/
theorem trim_parts (p : CodePoint → Bool) (t : Text) :
    t = t.takeWhile p ++ trim p t ++ trailing p (trimLeft p t) := by
  rw [List.append_assoc, trim, trimRight_append_trailing, trimLeft,
    List.takeWhile_append_dropWhile]

theorem mem_trailing {t : Text} {c : CodePoint} (hc : c ∈ trailing p t) : p c = true :=
  List.mem_takeWhile_imp (List.mem_reverse.1 hc)

/-- What trimming leaves does not end in a character of the class. -/
theorem getLast?_trimRight {t : Text} {c : CodePoint} (hc : c ∈ (trimRight p t).getLast?) :
    p c = false := by
  have hstop := List.head?_dropWhile_not p t.reverse
  rw [trimRight, List.getLast?_reverse] at hc
  rw [Option.mem_def.1 hc] at hstop
  simpa using hstop

/-- Nor does it begin with one. -/
theorem head?_trim {t : Text} {c : CodePoint} (hc : c ∈ (trim p t).head?) : p c = false := by
  -- trimming at the back keeps the beginning of what trimming at the front has left
  obtain ⟨rest, hrest⟩ := List.head?_eq_some_iff.1 (Option.mem_def.1 hc)
  have hstop := List.head?_dropWhile_not p t
  have hleft := trimRight_append_trailing p (trimLeft p t)
  rw [← trim, hrest, trimLeft] at hleft
  rw [← hleft] at hstop
  simpa using hstop

end ComponentDocs.Text
