import Mathlib.Data.List.Infix

/-!
# Searching a text

`find` is the position of the first occurrence of a pattern, over an
arbitrary character type, as `std::string::find` gives it; where the first
occurrence is, `List.dropInfix?` decides.

A text with a pattern in it does not always show where the pattern is
found: it can occur earlier, also across the place where it was written.
`find_append` and `find_append_of_not_mem` are the two cases where it
cannot.
-/

namespace TextSearch

variable {α : Type*} [DecidableEq α]

/-- The position of the first occurrence of the pattern, `none` for `npos`. -/
def find (pat s : List α) : Option Nat := (s.dropInfix? pat).map fun r => r.1.length

theorem eq_append_of_find {pat s : List α} {n : Nat} (h : find pat s = some n) :
    ∃ pre post, s = pre ++ (pat ++ post) ∧ pre.length = n := by
  obtain ⟨⟨pre, post⟩, hdrop, rfl⟩ := Option.map_eq_some_iff.mp h
  obtain ⟨⟨pat', rfl, hpat⟩, -⟩ := List.dropInfix?_eq_some_iff.mp hdrop
  obtain rfl := eq_of_beq hpat
  exact ⟨pre, post, List.append_assoc .., rfl⟩

omit [DecidableEq α] in
/-- An occurrence that starts before the pattern's own place lies in what
stands before, when the pattern's first character does not come back. -/
theorem infix_of_append_eq {x : α} {ps pre post pre' post' : List α} (hx : x ∉ ps)
    (h : pre ++ (x :: ps ++ post) = pre' ++ (x :: ps ++ post'))
    (hlt : pre'.length < pre.length) : x :: ps <:+: pre := by
  obtain ⟨mid, rfl, hmid⟩ : ∃ mid, pre = pre' ++ mid
      ∧ mid ++ (x :: ps ++ post) = x :: ps ++ post' := by
    rcases List.append_eq_append_iff.mp h with ⟨mid, rfl, hmid⟩ | ⟨mid, rfl, hmid⟩
    · rw [List.length_append] at hlt
      omega
    · exact ⟨mid, rfl, hmid.symm⟩
  rcases List.append_eq_append_iff.mp hmid with ⟨tail, htail, hrest⟩ | ⟨tail, rfl, -⟩
  · cases tail with
    | nil =>
        rw [List.append_nil] at htail
        exact ⟨pre', [], by rw [htail, List.append_nil]⟩
    | cons y tail =>
        -- the pattern would begin again inside itself
        obtain rfl : x = y := (List.cons.inj hrest).1
        cases mid with
        | nil => simp at hlt
        | cons z mid =>
            obtain ⟨-, rfl⟩ := List.cons.inj htail
            exact absurd (by simp) hx
  · exact ⟨pre', tail, by simp⟩

/-- A pattern is found at the first place where it stands. -/
theorem find_of_first {pat pre : List α} (post : List α)
    (hfirst : ∀ pre' post', pre ++ (pat ++ post) = pre' ++ (pat ++ post') →
      pre.length ≤ pre'.length) :
    find pat (pre ++ (pat ++ post)) = some pre.length := by
  have hdrop : (pre ++ (pat ++ post)).dropInfix? pat = some (pre, post) := by
    refine List.dropInfix?_eq_some_iff.mpr
      ⟨⟨pat, (List.append_assoc ..).symm, beq_self_eq_true _⟩, fun pre' pat' post' h hpat => ?_⟩
    obtain rfl := eq_of_beq hpat
    rw [List.append_assoc] at h
    exact hfirst pre' post' h
  rw [find, hdrop, Option.map_some]

/-- A pattern that does not overlap itself is found where it was written,
unless it occurs in what stands before. -/
theorem find_append {x : α} {ps pre : List α} (hx : x ∉ ps) (hpre : ¬ x :: ps <:+: pre)
    (post : List α) : find (x :: ps) (pre ++ (x :: ps ++ post)) = some pre.length := by
  refine find_of_first post fun pre' post' h => ?_
  by_contra hlt
  exact hpre (infix_of_append_eq hx h (Nat.lt_of_not_le hlt))

/-- Any pattern is, where its first character does not stand before. -/
theorem find_append_of_not_mem {x : α} {ps pre : List α} (hpre : x ∉ pre) (post : List α) :
    find (x :: ps) (pre ++ (x :: ps ++ post)) = some pre.length := by
  refine find_of_first post fun pre' post' h => ?_
  rcases List.append_eq_append_iff.mp h with ⟨mid, rfl, -⟩ | ⟨mid, rfl, hmid⟩
  · exact List.length_append ▸ Nat.le_add_right ..
  · cases mid with
    | nil => exact (List.append_nil pre').symm ▸ Nat.le_refl _
    | cons y mid =>
        obtain rfl : x = y := (List.cons.inj hmid).1
        exact absurd (List.mem_append_right pre' (List.mem_cons_self ..)) hpre

end TextSearch
