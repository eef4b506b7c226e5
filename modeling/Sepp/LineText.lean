import Mathlib.Data.List.Basic
import Mathlib.Data.List.TakeWhile

/-!
# Line-oriented text

Reading a text line by line and a line token by token, over an arbitrary
character type: `getlines` cuts a text at a terminator the way repeated
`std::getline` calls do (no line after a final terminator), `popBack`
drops one trailing character, `splitFirst` cuts a line at the first
separator, `token` is one whitespace-delimited extraction.

The lemmas say how each reader undoes the corresponding concatenation,
so that a text assembled line by line is read back line by line without
unfolding a reader.
-/

namespace LineText

variable {α : Type*} [DecidableEq α]

/-! ## Lines -/

/-- The lines of a text. A terminator ends a line; what follows the last
terminator is a line of its own only when it is not empty. -/
def getlines (nl : α) : List α → List (List α)
  | [] => []
  | c :: cs =>
      if c = nl then [] :: getlines nl cs
      else
        match getlines nl cs with
        | [] => [[c]]
        | l :: ls => (c :: l) :: ls

theorem getlines_line (nl : α) {l : List α} (hl : nl ∉ l) (rest : List α) :
    getlines nl (l ++ nl :: rest) = l :: getlines nl rest := by
  induction l with
  | nil => simp [getlines]
  | cons c cs ih =>
      obtain ⟨hc, hcs⟩ : nl ≠ c ∧ nl ∉ cs := by simpa using hl
      simp only [List.cons_append, getlines, if_neg (Ne.symm hc), ih hcs]

theorem getlines_ne_nil (nl : α) {s : List α} (hs : s ≠ []) :
    getlines nl s ≠ [] := by
  cases s with
  | nil => exact absurd rfl hs
  | cons c cs =>
      simp only [getlines]
      split
      · simp
      · split <;> simp

/-- A text whose first part ends with a terminator is read part by part. -/
theorem getlines_append (nl : α) (s rest : List α) :
    getlines nl (s ++ nl :: rest)
      = getlines nl (s ++ [nl]) ++ getlines nl rest := by
  induction s with
  | nil => simp [getlines]
  | cons c cs ih =>
      have hne : getlines nl (cs ++ [nl]) ≠ [] := getlines_ne_nil nl (by simp)
      simp only [List.cons_append, getlines, ih]
      split
      · rfl
      · cases hcs : getlines nl (cs ++ [nl]) with
        | nil => exact absurd hcs hne
        | cons l ls => rfl

theorem getlines_of_not_mem {nl : α} {s : List α} (hs : nl ∉ s) :
    getlines nl s = if s = [] then [] else [s] := by
  induction s with
  | nil => rfl
  | cons c cs ih =>
      obtain ⟨hc, hcs⟩ : nl ≠ c ∧ nl ∉ cs := by simpa using hs
      rw [getlines, if_neg (Ne.symm hc), ih hcs, if_neg (List.cons_ne_nil c cs)]
      split
      · rename_i hnil
        split at hnil
        · rename_i hempty
          rw [hempty]
        · cases hnil
      · rename_i l ls hls
        split at hls
        · cases hls
        · obtain ⟨rfl, rfl⟩ := List.cons.inj hls
          rfl

/-- A text that is cut short is read part by part as well. -/
theorem getlines_take_append (nl : α) (s rest : List α) (n : ℕ) :
    getlines nl ((s ++ nl :: rest).take n)
      = getlines nl ((s ++ [nl]).take n) ++ getlines nl (rest.take (n - (s.length + 1))) := by
  have hlength : (s ++ [nl]).length = s.length + 1 := by simp
  rw [show s ++ nl :: rest = (s ++ [nl]) ++ rest by simp, List.take_append, hlength]
  by_cases hn : s.length + 1 ≤ n
  · rw [List.take_of_length_le (by rw [hlength]; exact hn), List.append_assoc,
      List.singleton_append, getlines_append]
  · rw [Nat.sub_eq_zero_of_le (by omega), List.take_zero, List.append_nil, getlines,
      List.append_nil]

theorem getlines_take_line {nl : α} {l : List α} (hl : nl ∉ l) (n : ℕ) :
    getlines nl ((l ++ [nl]).take n) = if n = 0 then [] else [l.take n] := by
  by_cases hn : l.length + 1 ≤ n
  · rw [List.take_of_length_le (by simpa using hn), getlines_line nl hl, getlines,
      if_neg (by omega), List.take_of_length_le (by omega)]
  · rw [List.take_append_of_le_length (by omega),
      getlines_of_not_mem fun h => hl (List.mem_of_mem_take h)]
    refine if_congr ?_ rfl rfl
    rw [List.take_eq_nil_iff]
    constructor
    · rintro (h | rfl)
      · exact h
      · simpa using hn
    · exact Or.inl

theorem not_mem_of_mem_getlines {nl : α} {s l : List α}
    (hl : l ∈ getlines nl s) : nl ∉ l := by
  induction s generalizing l with
  | nil => simp [getlines] at hl
  | cons c cs ih =>
      simp only [getlines] at hl
      split at hl
      · rcases List.mem_cons.mp hl with rfl | hl'
        · exact List.not_mem_nil
        · exact ih hl'
      · rename_i hc
        split at hl
        · obtain rfl := List.mem_singleton.mp hl
          exact fun h => hc (List.mem_singleton.mp h).symm
        · rename_i l0 ls hcs
          rcases List.mem_cons.mp hl with rfl | hl'
          · rintro (_ | ⟨_, hm⟩)
            · exact hc rfl
            · exact ih (hcs ▸ List.mem_cons_self ..) hm
          · exact ih (hcs ▸ List.mem_cons_of_mem _ hl')

theorem prefix_iff_head_getlines {nl : α} {w : List α} (hw : nl ∉ w) (hne : w ≠ [])
    (s : List α) : w <+: s ↔ ∃ l, (getlines nl s).head? = some l ∧ w <+: l := by
  induction s generalizing w with
  | nil => simp [getlines, hne]
  | cons c cs ih =>
      obtain ⟨b, bs, rfl⟩ := List.exists_cons_of_ne_nil hne
      obtain ⟨hb, hbs⟩ : nl ≠ b ∧ nl ∉ bs := by simpa using hw
      simp only [getlines]
      by_cases hc : c = nl
      · subst hc
        simp [List.cons_prefix_cons, Ne.symm hb]
      · rw [if_neg hc, List.cons_prefix_cons]
        by_cases hnil : bs = []
        · subst hnil
          split <;> simp [List.cons_prefix_cons]
        · rw [ih hbs hnil]
          split
          · rename_i h; simp [h, hnil]
          · rename_i h; simp [h, List.cons_prefix_cons]

/-- Some line after the first starts with `w` just when the text has `w`
right behind a terminator. -/
theorem infix_iff_mem_tail_getlines {nl : α} {w : List α} (hw : nl ∉ w)
    (hne : w ≠ []) (s : List α) :
    nl :: w <:+: s ↔ ∃ l ∈ (getlines nl s).tail, w <+: l := by
  induction s with
  | nil => simp [getlines]
  | cons c cs ih =>
      rw [List.infix_cons_iff, List.cons_prefix_cons, ih]
      simp only [getlines]
      by_cases hc : c = nl
      · subst hc
        rw [if_pos rfl, List.tail_cons, prefix_iff_head_getlines hw hne]
        cases getlines c cs <;> simp
      · rw [if_neg hc]
        cases getlines nl cs <;> simp [Ne.symm hc]

/-! ## One trailing character -/

/-- Drop the last character when it is `cr`. -/
def popBack (cr : α) (l : List α) : List α :=
  if l.getLast? = some cr then l.dropLast else l

@[simp] theorem popBack_concat (cr : α) (l : List α) :
    popBack cr (l ++ [cr]) = l := by
  simp [popBack]

theorem mem_of_mem_popBack {cr c : α} {l : List α} (h : c ∈ popBack cr l) :
    c ∈ l := by
  unfold popBack at h
  split at h
  · exact (List.dropLast_sublist l).mem h
  · exact h

theorem popBack_of_not_mem {cr : α} {l : List α} (h : cr ∉ l) : popBack cr l = l :=
  if_neg fun hlast => h (List.mem_of_getLast? hlast)

theorem length_popBack_le (cr : α) (l : List α) : (popBack cr l).length ≤ l.length := by
  unfold popBack
  split
  · rw [List.length_dropLast]
    exact Nat.sub_le _ _
  · exact le_rfl

theorem popBack_eq_self_iff {cr : α} {l : List α} (hl : l ≠ []) :
    popBack cr l = l ↔ l.getLast? ≠ some cr := by
  unfold popBack
  split
  · rename_i hlast
    refine iff_of_false (fun h => ?_) (not_not_intro hlast)
    have hlength := congrArg List.length h
    have hpos := List.length_pos_iff.mpr hl
    rw [List.length_dropLast] at hlength
    omega
  · rename_i hlast
    exact iff_of_true rfl hlast

/-- Cut short, the line has lost the character or keeps it as its last. -/
theorem popBack_take_concat {cr : α} {l : List α} (h : cr ∉ l) (n : ℕ) :
    popBack cr ((l ++ [cr]).take n) = l.take n := by
  by_cases hn : l.length + 1 ≤ n
  · rw [List.take_of_length_le (by simpa using hn), popBack_concat,
      List.take_of_length_le (by omega)]
  · rw [List.take_append_of_le_length (by omega),
      popBack_of_not_mem fun hmem => h (List.mem_of_mem_take hmem)]

theorem popBack_append_cons {cr c : α} (hc : c ≠ cr) (l r : List α) :
    popBack cr (l ++ c :: r) = l ++ c :: popBack cr r := by
  cases r with
  | nil => simp [popBack, hc]
  | cons b bs =>
      simp only [popBack, List.getLast?_append, List.getLast?_cons_cons,
        List.dropLast_append_cons, List.dropLast_cons_cons]
      cases hlast : (b :: bs).getLast? with
      | none => simp at hlast
      | some d =>
          simp only [Option.some.injEq]
          split <;> simp_all

/-! ## The first separator -/

/-- The parts of a line before and after its first separator. -/
def splitFirst (sep : α) : List α → Option (List α × List α)
  | [] => none
  | c :: cs =>
      if c = sep then some ([], cs)
      else (splitFirst sep cs).map fun p => (c :: p.1, p.2)

theorem splitFirst_append {sep : α} {l : List α} (hl : sep ∉ l)
    (r : List α) : splitFirst sep (l ++ sep :: r) = some (l, r) := by
  induction l with
  | nil => simp [splitFirst]
  | cons c cs ih =>
      obtain ⟨hc, hcs⟩ : sep ≠ c ∧ sep ∉ cs := by simpa using hl
      simp [splitFirst, if_neg (Ne.symm hc), ih hcs]

theorem splitFirst_eq_none {sep : α} {s : List α} :
    splitFirst sep s = none ↔ sep ∉ s := by
  induction s with
  | nil => simp [splitFirst]
  | cons c cs ih =>
      simp only [splitFirst, List.mem_cons, not_or]
      split
      · rename_i hc; simp [hc]
      · rename_i hc; simp [ih, Ne.symm hc]

theorem eq_append_of_splitFirst {sep : α} {s l r : List α}
    (h : splitFirst sep s = some (l, r)) : s = l ++ sep :: r := by
  induction s generalizing l with
  | nil => simp [splitFirst] at h
  | cons c cs ih =>
      simp only [splitFirst] at h
      split at h
      · rename_i hc
        simp only [Option.some.injEq, Prod.mk.injEq] at h
        obtain ⟨rfl, rfl⟩ := h
        simp [hc]
      · simp only [Option.map_eq_some_iff, Prod.mk.injEq] at h
        obtain ⟨⟨l', r'⟩, hp, rfl, rfl⟩ := h
        simp [ih hp]

theorem not_mem_of_splitFirst {sep : α} {s l r : List α}
    (h : splitFirst sep s = some (l, r)) : sep ∉ l := by
  induction s generalizing l r with
  | nil => simp [splitFirst] at h
  | cons c cs ih =>
      simp only [splitFirst] at h
      split at h
      · simp only [Option.some.injEq, Prod.mk.injEq] at h
        simp [← h.1]
      · rename_i hc
        simp only [Option.map_eq_some_iff, Prod.mk.injEq] at h
        obtain ⟨⟨l', r'⟩, hp, rfl, -⟩ := h
        simp only [List.mem_cons, not_or]
        exact ⟨Ne.symm hc, ih hp⟩

/-- The position `std::string::find` gives for one character. -/
theorem idxOf?_eq_splitFirst (sep : α) (s : List α) :
    s.idxOf? sep = (splitFirst sep s).map fun p => p.1.length := by
  induction s with
  | nil => rfl
  | cons c cs ih =>
      rw [List.idxOf?_cons, splitFirst]
      by_cases hc : c = sep
      · simp [hc]
      · simp [hc, ih, Function.comp_def]

omit [DecidableEq α] in
/-- Where a separator cannot stand, nothing that ends with one ends. -/
theorem infix_append_iff {c : α} {w s t : List α} (hc : c ∉ t) :
    w ++ [c] <:+: s ++ t ↔ w ++ [c] <:+: s := by
  constructor
  · rintro ⟨u, v, h⟩
    rw [← List.append_assoc] at h
    rcases List.append_eq_append_iff.mp h with ⟨x, hs, -⟩ | ⟨x, hu, ht⟩
    · exact ⟨u, x, by simp [hs]⟩
    · rcases List.eq_nil_or_concat x with rfl | ⟨y, d, rfl⟩
      · exact ⟨u, [], by simpa using hu⟩
      · have hlast := congrArg List.getLast? hu
        obtain rfl : c = d := by simpa [← List.append_assoc] using hlast
        exact absurd (by rw [ht]; simp) hc
  · exact fun h => h.trans (List.infix_append' [] s t)

/-! ## Tokens -/

/-- One extraction `stream >> token`: leading blanks are skipped, the
token runs up to the next blank, and the rest stays in the stream. -/
def token (blank : α → Bool) (s : List α) : List α × List α :=
  let t := s.dropWhile blank
  (t.takeWhile fun c => !blank c, t.dropWhile fun c => !blank c)

omit [DecidableEq α] in
/-- A word ends where a blank follows it. -/
theorem token_append_blank {blank : α → Bool} {w : List α} {b : α} (hw : w ≠ [])
    (hblank : ∀ c ∈ w, blank c = false) (hb : blank b = true) (rest : List α) :
    token blank (w ++ b :: rest) = (w, b :: rest) := by
  have hdrop : (w ++ b :: rest).dropWhile blank = w ++ b :: rest := by
    cases w with
    | nil => exact absurd rfl hw
    | cons c cs =>
        rw [List.cons_append,
          List.dropWhile_cons_of_neg (by simp [hblank c (List.mem_cons_self ..)])]
  have hw' : ∀ c ∈ w, (!blank c) = true := fun c hc => by simp [hblank c hc]
  simp only [token, hdrop, List.takeWhile_append_of_pos hw',
    List.dropWhile_append_of_pos hw', List.takeWhile_cons, List.dropWhile_cons, hb,
    Bool.not_true, Bool.false_eq_true, if_false, List.append_nil]

omit [DecidableEq α] in
theorem token_word {blank : α → Bool} {w : List α} (hblank : ∀ c ∈ w, blank c = false) :
    (token blank w).1 = w := by
  have hdrop : w.dropWhile blank = w := by
    cases w with
    | nil => rfl
    | cons c cs => rw [List.dropWhile_cons_of_neg (by simp [hblank c (List.mem_cons_self ..)])]
  simp only [token, hdrop]
  exact List.takeWhile_eq_self_iff.mpr fun c hc => by simp [hblank c hc]

omit [DecidableEq α] in
theorem token_blank {blank : α → Bool} {b : α} (hb : blank b = true)
    (s : List α) : token blank (b :: s) = token blank s := by
  simp [token, List.dropWhile_cons_of_pos hb]

omit [DecidableEq α] in
theorem not_blank_of_mem_token {blank : α → Bool} {s : List α} {c : α}
    (h : c ∈ (token blank s).1) : blank c = false := by
  have := List.mem_takeWhile_imp h
  simpa using this

end LineText
