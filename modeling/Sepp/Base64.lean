import Mathlib.Data.Fin.Basic
import Mathlib.Data.List.Basic

/-!
# Base 64

The Base 64 encoding of RFC 4648, section 4, on byte strings: groups of
three bytes become four characters of a 64-character alphabet, a final
group of one or two bytes is padded with `=`.

`decode` accepts padded texts over the alphabet and undoes `encode`
(`decode_encode`). The facts about single characters (`decodeDigit_digit`,
`digit_ne_pad`) are checked once over the 64 values; everything else is
one induction over groups.
-/

namespace Base64

/-! ## The alphabet -/

/-- The padding character `=`. -/
def pad : UInt8 := 61

/-- The character of a value below 64: `A-Z`, `a-z`, `0-9`, `+`, `/`. -/
def digit (v : Nat) : UInt8 :=
  if v < 26 then UInt8.ofNat (65 + v)
  else if v < 52 then UInt8.ofNat (97 + (v - 26))
  else if v < 62 then UInt8.ofNat (48 + (v - 52))
  else if v = 62 then 43
  else 47

/-- The value of a character of the alphabet. -/
def decodeDigit (c : UInt8) : Option Nat :=
  if 65 ≤ c.toNat ∧ c.toNat < 91 then some (c.toNat - 65)
  else if 97 ≤ c.toNat ∧ c.toNat < 123 then some (c.toNat - 97 + 26)
  else if 48 ≤ c.toNat ∧ c.toNat < 58 then some (c.toNat - 48 + 52)
  else if c = 43 then some 62
  else if c = 47 then some 63
  else none

theorem decodeDigit_digit {v : Nat} (hv : v < 64) :
    decodeDigit (digit v) = some v := by
  have h : ∀ i : Fin 64, decodeDigit (digit i) = some (i : Nat) := by decide
  exact h ⟨v, hv⟩

/-- No character of the alphabet is `=`, `-` or `_`. -/
theorem digit_ne {v : Nat} (hv : v < 64) :
    digit v ≠ pad ∧ digit v ≠ 45 ∧ digit v ≠ 95 := by
  have h : ∀ i : Fin 64, digit i ≠ pad ∧ digit i ≠ 45 ∧ digit i ≠ 95 := by decide
  exact h ⟨v, hv⟩

/-! ## Encoding and decoding -/

/-- The four values of a group of three bytes. -/
def sextets (a b c : UInt8) : Nat × Nat × Nat × Nat :=
  (a.toNat / 4, a.toNat % 4 * 16 + b.toNat / 16,
    b.toNat % 16 * 4 + c.toNat / 64, c.toNat % 64)

theorem sextets_lt (a b c : UInt8) :
    (sextets a b c).1 < 64 ∧ (sextets a b c).2.1 < 64
      ∧ (sextets a b c).2.2.1 < 64 ∧ (sextets a b c).2.2.2 < 64 := by
  have ha := a.toNat_lt
  have hb := b.toNat_lt
  have hc := c.toNat_lt
  simp only [sextets]
  omega

def encode : List UInt8 → List UInt8
  | a :: b :: c :: rest =>
      let (v, w, x, y) := sextets a b c
      digit v :: digit w :: digit x :: digit y :: encode rest
  | [a, b] =>
      let (v, w, x, _) := sextets a b 0
      [digit v, digit w, digit x, pad]
  | [a] =>
      let (v, w, _, _) := sextets a 0 0
      [digit v, digit w, pad, pad]
  | [] => []

/-- The bytes of a group of four values. -/
def octets (v w x y : Nat) : UInt8 × UInt8 × UInt8 :=
  (UInt8.ofNat (v * 4 + w / 16), UInt8.ofNat (w % 16 * 16 + x / 4),
    UInt8.ofNat (x % 4 * 64 + y))

theorem octets_sextets (a b c : UInt8) :
    octets (sextets a b c).1 (sextets a b c).2.1 (sextets a b c).2.2.1
      (sextets a b c).2.2.2 = (a, b, c) := by
  have ha := a.toNat_lt
  have hb := b.toNat_lt
  have hc := c.toNat_lt
  simp only [sextets, octets, Prod.mk.injEq]
  refine ⟨?_, ?_, ?_⟩
  · rw [show a.toNat / 4 * 4 + (a.toNat % 4 * 16 + b.toNat / 16) / 16 = a.toNat by
      omega, UInt8.ofNat_toNat]
  · rw [show (a.toNat % 4 * 16 + b.toNat / 16) % 16 * 16
        + (b.toNat % 16 * 4 + c.toNat / 64) / 4 = b.toNat by omega,
      UInt8.ofNat_toNat]
  · rw [show (b.toNat % 16 * 4 + c.toNat / 64) % 4 * 64 + c.toNat % 64
        = c.toNat by omega, UInt8.ofNat_toNat]

/-- The bytes a padded text stands for, `none` when the text is not one:
padding is accepted in the last group only. -/
def decode : List UInt8 → Option (List UInt8)
  | [] => some []
  | c₁ :: c₂ :: c₃ :: c₄ :: rest =>
      match decodeDigit c₁, decodeDigit c₂ with
      | some v, some w =>
          if rest = [] ∧ c₄ = pad then
            if c₃ = pad then some [(octets v w 0 0).1]
            else (decodeDigit c₃).map fun x =>
              [(octets v w x 0).1, (octets v w x 0).2.1]
          else
            match decodeDigit c₃, decodeDigit c₄, decode rest with
            | some x, some y, some bytes =>
                some ((octets v w x y).1 :: (octets v w x y).2.1
                  :: (octets v w x y).2.2 :: bytes)
            | _, _, _ => none
      | _, _ => none
  | _ => none

theorem decode_encode (s : List UInt8) : decode (encode s) = some s := by
  fun_induction encode s with
  | case1 a b c rest v w x y hs ih =>
      obtain ⟨hv, hw, hx, hy⟩ := sextets_lt a b c
      have hoct := octets_sextets a b c
      rw [hs] at hv hw hx hy hoct
      simp [decode, decodeDigit_digit hv, decodeDigit_digit hw,
        decodeDigit_digit hx, decodeDigit_digit hy, (digit_ne hy).1, ih, hoct]
  | case2 a b v w x y hs =>
      obtain ⟨hv, hw, hx, hy⟩ := sextets_lt a b 0
      have hoct := octets_sextets a b 0
      have hy0 : y = 0 := congrArg (·.2.2.2) hs.symm
      rw [hs] at hv hw hx hoct
      subst hy0
      simp [decode, decodeDigit_digit hv, decodeDigit_digit hw,
        decodeDigit_digit hx, (digit_ne hx).1, hoct]
  | case3 a v w x y hs =>
      obtain ⟨hv, hw, hx, hy⟩ := sextets_lt a 0 0
      have hoct := octets_sextets a 0 0
      have hx0 : x = 0 := congrArg (·.2.2.1) hs.symm
      have hy0 : y = 0 := congrArg (·.2.2.2) hs.symm
      rw [hs] at hv hw hoct
      subst hx0 hy0
      simp [decode, decodeDigit_digit hv, decodeDigit_digit hw, hoct]
  | case4 => rfl

/-- Every group, whole or padded, is written as four characters. -/
theorem length_encode (s : List UInt8) : (encode s).length = 4 * ((s.length + 2) / 3) := by
  fun_induction encode s with
  | case1 a b c rest v w x y hs ih =>
      simp only [List.length_cons, ih]
      omega
  | case2 => simp
  | case3 => simp
  | case4 => rfl

/-- A text stands for no more bytes than it has characters. -/
theorem length_decode_le {s bytes : List UInt8} (h : decode s = some bytes) :
    bytes.length ≤ s.length := by
  fun_induction decode s generalizing bytes with
  | case1 =>
      cases h
      exact Nat.le_refl _
  | case2 =>
      cases h
      simp
  | case3 =>
      obtain ⟨x, -, rfl⟩ := Option.map_eq_some_iff.mp h
      simp
  | case4 _ _ _ _ _ _ _ _ _ _ _ _ _ hrest _ _ ih =>
      cases h
      have hlength := ih hrest
      simp only [List.length_cons]
      omega
  | case5 => cases h
  | case6 => cases h
  | case7 => cases h

end Base64
