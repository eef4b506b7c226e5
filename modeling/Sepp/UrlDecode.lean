import Sepp.Bytes

/-!
# Percent decoding

`url_decode` of `sepp_n32f_forward.cpp`, as the loop over positions it is:
every character that is looked at is read at its index, and a read outside
the text would end the loop without a result.

`urlDecode_eq` says that this never happens: the loop computes `unescaped`,
the same scan by recursion over the text. What is proved about decoding is
proved there.
-/

namespace Sepp

abbrev percent : UInt8 := 37

abbrev plus : UInt8 := 43

/-! ## The loop -/

/-- The value of a hex digit, `none` for the source's -1. -/
def hexToInt (c : UInt8) : Option Nat :=
  if 48 ≤ c.toNat ∧ c.toNat ≤ 57 then some (c.toNat - 48)
  else if 97 ≤ c.toNat ∧ c.toNat ≤ 102 then some (c.toNat - 97 + 10)
  else if 65 ≤ c.toNat ∧ c.toNat ≤ 70 then some (c.toNat - 65 + 10)
  else none

/-- The byte two digits stand for, when both are hex digits. -/
def hexByte (high low : UInt8) : Option UInt8 :=
  match hexToInt high, hexToInt low with
  | some hi, some lo => some (UInt8.ofNat (hi <<< 4 ||| lo))
  | _, _ => none

/-- A character that begins no escape. -/
def unescapedChar (c : UInt8) : UInt8 := if c = plus then space else c

/-- One iteration at `i`: the character appended, and by how much `i`
advances; `none` when a character outside the text is read. -/
def urlDecodeStep (text : Str) (i : Nat) : Option (UInt8 × Nat) :=
  match text[i]? with
  | none => none
  | some c =>
      if c = percent ∧ i + 2 < text.length then
        match text[i + 1]?, text[i + 2]? with
        | some high, some low =>
            match hexByte high low with
            | some b => some (b, 3)
            | none => some (unescapedChar c, 1)
        | _, _ => none
      else some (unescapedChar c, 1)

theorem urlDecodeStep_pos {text : Str} {i n : Nat} {c : UInt8}
    (h : urlDecodeStep text i = some (c, n)) : 0 < n := by
  unfold urlDecodeStep at h
  split at h
  · cases h
  · split at h
    · split at h
      · split at h
        · obtain ⟨-, rfl⟩ := Prod.mk.inj (Option.some.inj h)
          omega
        · obtain ⟨-, rfl⟩ := Prod.mk.inj (Option.some.inj h)
          omega
      · cases h
    · obtain ⟨-, rfl⟩ := Prod.mk.inj (Option.some.inj h)
      omega

def urlDecodeLoop (text : Str) (i : Nat) (out : Str) : Option Str :=
  if i < text.length then
    match _h : urlDecodeStep text i with
    | none => none
    | some (c, n) => urlDecodeLoop text (i + n) (out ++ [c])
  else some out
termination_by text.length - i
decreasing_by
  have := urlDecodeStep_pos ‹_›
  omega

def urlDecode (text : Str) : Option Str := urlDecodeLoop text 0 []

/-! ## The scan -/

/-- The byte of the escape a text begins with. -/
def escapeHead : Str → Option UInt8
  | c :: high :: low :: _ => if c = percent then hexByte high low else none
  | _ => none

/-- The text with its escapes replaced. -/
def unescaped : Str → Str
  | [] => []
  | c :: high :: low :: rest =>
      match escapeHead (c :: high :: low :: rest) with
      | some b => b :: unescaped rest
      | none => unescapedChar c :: unescaped (high :: low :: rest)
  | c :: rest => unescapedChar c :: unescaped rest

theorem unescaped_escape {high low b : UInt8} (h : hexByte high low = some b) (rest : Str) :
    unescaped (percent :: high :: low :: rest) = b :: unescaped rest := by
  have hhead : escapeHead (percent :: high :: low :: rest) = some b := h
  rw [unescaped, hhead]

theorem unescaped_char {c : UInt8} {rest : Str} (h : escapeHead (c :: rest) = none) :
    unescaped (c :: rest) = unescapedChar c :: unescaped rest := by
  cases rest with
  | nil => rfl
  | cons high rest =>
      cases rest with
      | nil => rfl
      | cons low rest => rw [unescaped, h]

theorem unescaped_length_le (text : Str) : (unescaped text).length ≤ text.length := by
  fun_induction unescaped text with
  | case1 => exact Nat.le_refl _
  | case2 c high low rest b _ ih =>
      simp only [List.length_cons]
      omega
  | case3 c high low rest _ ih =>
      simp only [List.length_cons] at ih ⊢
      omega
  | case4 c rest _ ih =>
      simp only [List.length_cons]
      omega

/-! ## The loop computes the scan -/

section Loop

variable {pre rest : Str}

theorem urlDecodeStep_escape {high low b : UInt8} (h : hexByte high low = some b) :
    urlDecodeStep (pre ++ percent :: high :: low :: rest) pre.length = some (b, 3) := by
  simp [urlDecodeStep, h]

theorem urlDecodeStep_char {c : UInt8} (h : escapeHead (c :: rest) = none) :
    urlDecodeStep (pre ++ c :: rest) pre.length = some (unescapedChar c, 1) := by
  by_cases hc : c = percent ∧ pre.length + 2 < (pre ++ c :: rest).length
  · obtain ⟨rfl, hlength⟩ := hc
    rcases rest with _ | ⟨high, _ | ⟨low, rest⟩⟩
    · simp at hlength
    · simp at hlength
    · have hbyte : hexByte high low = none := h
      simp [urlDecodeStep, hbyte]
  · simp only [urlDecodeStep, List.getElem?_append_right, Nat.le_refl, Nat.sub_self,
      List.getElem?_cons_zero, if_neg hc]

theorem urlDecodeLoop_step {text out : Str} {i n : Nat} {c : UInt8} (hi : i < text.length)
    (h : urlDecodeStep text i = some (c, n)) :
    urlDecodeLoop text i out = urlDecodeLoop text (i + n) (out ++ [c]) := by
  rw [urlDecodeLoop, if_pos hi]
  split
  · rename_i hnone
    rw [h] at hnone
    cases hnone
  · rename_i hsome
    rw [h] at hsome
    obtain ⟨rfl, rfl⟩ := Prod.mk.inj (Option.some.inj hsome)
    rfl

/-- What is left of the text is appended as the scan reads it. -/
theorem urlDecodeLoop_append (pre rest out : Str) :
    urlDecodeLoop (pre ++ rest) pre.length out = some (out ++ unescaped rest) := by
  fun_induction unescaped rest generalizing pre out with
  | case1 =>
      rw [urlDecodeLoop, if_neg (by simp), List.append_nil]
  | case2 c high low rest b hhead ih =>
      obtain ⟨rfl, hbyte⟩ : c = percent ∧ hexByte high low = some b := by
        simpa [escapeHead] using hhead
      have hnext := ih (pre ++ [percent, high, low]) (out ++ [b])
      rw [urlDecodeLoop_step (by simp) (urlDecodeStep_escape hbyte)]
      simpa using hnext
  | case3 c high low rest hhead ih =>
      have hnext := ih (pre ++ [c]) (out ++ [unescapedChar c])
      rw [urlDecodeLoop_step (by simp) (urlDecodeStep_char hhead)]
      simpa using hnext
  | case4 c rest hshort ih =>
      have hhead : escapeHead (c :: rest) = none := by
        unfold escapeHead
        split
        · rename_i heq
          obtain ⟨rfl, rfl⟩ := List.cons.inj heq
          exact absurd rfl (hshort _ _ _)
        · rfl
      have hnext := ih (pre ++ [c]) (out ++ [unescapedChar c])
      rw [urlDecodeLoop_step (by simp) (urlDecodeStep_char hhead)]
      simpa using hnext

end Loop

/-- Nothing outside the text is read, and the scan is what is computed. -/
theorem urlDecode_eq (text : Str) : urlDecode text = some (unescaped text) :=
  urlDecodeLoop_append [] text []

/-! ## Encodings -/

/-- The lower and the upper case digit of a value below 16. -/
def lowerDigit (v : Nat) : UInt8 := if v < 10 then UInt8.ofNat (48 + v) else UInt8.ofNat (87 + v)

def upperDigit (v : Nat) : UInt8 := if v < 10 then UInt8.ofNat (48 + v) else UInt8.ofNat (55 + v)

def IsHexDigit (v : Nat) (c : UInt8) : Prop := c = lowerDigit v ∨ c = upperDigit v

/-- A byte string and a way to write it: each byte literally (but for `%` and
`+`), as `+` for a space, or as an escape in digits of either case. -/
inductive Encodes : Str → Str → Prop
  | nil : Encodes [] []
  | literal {c : UInt8} {s e : Str} (hpercent : c ≠ percent) (hplus : c ≠ plus) :
      Encodes s e → Encodes (c :: s) (c :: e)
  | plus {s e : Str} : Encodes s e → Encodes (space :: s) (plus :: e)
  | escaped {c high low : UInt8} {s e : Str} (hhigh : IsHexDigit (c.toNat / 16) high)
      (hlow : IsHexDigit (c.toNat % 16) low) :
      Encodes s e → Encodes (c :: s) (percent :: high :: low :: e)

theorem hexToInt_digit {v : Nat} (hv : v < 16) {c : UInt8} (h : IsHexDigit v c) :
    hexToInt c = some v := by
  have hdigits : ∀ i : Fin 16, hexToInt (lowerDigit i) = some (i : Nat)
      ∧ hexToInt (upperDigit i) = some (i : Nat) := by decide
  obtain ⟨hlower, hupper⟩ := hdigits ⟨v, hv⟩
  rcases h with rfl | rfl
  · exact hlower
  · exact hupper

theorem hexByte_digits {c high low : UInt8} (hhigh : IsHexDigit (c.toNat / 16) high)
    (hlow : IsHexDigit (c.toNat % 16) low) : hexByte high low = some c := by
  have hc := c.toNat_lt
  have hvalue : (c.toNat / 16) <<< 4 ||| c.toNat % 16 = c.toNat := by
    rw [← Nat.shiftLeft_add_eq_or_of_lt (by omega), Nat.shiftLeft_eq]
    omega
  simp only [hexByte, hexToInt_digit (show c.toNat / 16 < 16 by omega) hhigh,
    hexToInt_digit (show c.toNat % 16 < 16 by omega) hlow, hvalue, UInt8.ofNat_toNat]

theorem escapeHead_of_ne {c : UInt8} (hc : c ≠ percent) (rest : Str) :
    escapeHead (c :: rest) = none := by
  unfold escapeHead
  split
  · rename_i heq
    rw [← (List.cons.inj heq).1, if_neg hc]
  · rfl

theorem unescaped_encodes {s e : Str} (h : Encodes s e) : unescaped e = s := by
  induction h with
  | nil => rfl
  | @literal c s e hpercent hplus _ ih =>
      rw [unescaped_char (escapeHead_of_ne hpercent e), ih, unescapedChar, if_neg hplus]
  | @plus s e _ ih =>
      rw [unescaped_char (escapeHead_of_ne (by decide) e), ih]
      rfl
  | @escaped c high low s e hhigh hlow _ ih =>
      rw [unescaped_escape (hexByte_digits hhigh hlow), ih]

/-- Decoding undoes every encoding, and whatever the text is, it ends within
it with an output that is not longer. -/
theorem urlDecode_inverts :
    (∀ s e, Encodes s e → urlDecode e = some s)
      ∧ ∀ text, ∃ out, urlDecode text = some out ∧ out.length ≤ text.length := by
  refine ⟨fun s e h => ?_, fun text => ⟨unescaped text, urlDecode_eq text, ?_⟩⟩
  · rw [urlDecode_eq, unescaped_encodes h]
  · exact unescaped_length_le text

/-- Literals, a plus, and escapes in both cases up to the end of the text. -/
theorem urlDecode_inverts_sample :
    urlDecode (ascii "a+b%2B%c3%A9") = some (ascii "a b+" ++ [195, 169]) := by
  refine urlDecode_inverts.1 _ _ ?_
  refine .literal (by decide) (by decide) (.plus (.literal (by decide) (by decide) ?_))
  exact .escaped (Or.inl rfl) (Or.inr rfl) (.escaped (Or.inl rfl) (Or.inl rfl)
    (.escaped (Or.inr rfl) (Or.inl rfl) .nil))

end Sepp
