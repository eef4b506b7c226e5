import Mathlib.Data.List.TakeWhile

/-!
# Decimal integers

The decimal text of an integer and the reader of C's `strtol` family:
leading blanks and one sign are accepted, the longest run of digits is
read, and what follows it is ignored. `readInt_toText` is the round
trip; `stoi` adds the range check of a 32-bit `int`.
-/

namespace Decimal

/-- The decimal text of an integer, as `std::to_string` writes it. -/
def toText : Int → List UInt8
  | .ofNat n => (Nat.toDigits 10 n).map Char.toUInt8
  | .negSucc n => 45 :: (Nat.toDigits 10 (n + 1)).map Char.toUInt8

def isDigit (c : UInt8) : Bool := decide (48 ≤ c.toNat ∧ c.toNat ≤ 57)

/-- The number the leading digits stand for, `none` without a digit. -/
def readNat (s : List UInt8) : Option Nat :=
  let ds := s.takeWhile isDigit
  if ds = [] then none
  else some (Nat.ofDigitChars 10 (ds.map fun c => Char.ofNat c.toNat) 0)

def readInt (blank : UInt8 → Bool) (s : List UInt8) : Option Int :=
  match s.dropWhile blank with
  | c :: cs =>
      if c = 45 then (readNat cs).map fun n => -(n : Int)
      else if c = 43 then (readNat cs).map fun n => (n : Int)
      else (readNat (c :: cs)).map fun n => (n : Int)
  | [] => none

/-- `std::stoi`: the integer read, when a 32-bit `int` holds it. -/
def stoi (blank : UInt8 → Bool) (s : List UInt8) : Option Int :=
  (readInt blank s).filter fun i => decide (-2147483648 ≤ i ∧ i ≤ 2147483647)

/-! ## Digits -/

theorem toUInt8_toNat_of_isDigit {c : Char} (hc : c.isDigit = true) :
    c.toUInt8.toNat = c.toNat := by
  simp only [Char.isDigit, Bool.and_eq_true, decide_eq_true_eq] at hc
  have hle : c.toNat ≤ 57 := hc.2
  simp only [Char.toUInt8, Char.toNat] at hle ⊢
  simp only [UInt32.toNat_toUInt8]
  omega

theorem isDigit_toUInt8 {c : Char} (hc : c.isDigit = true) :
    isDigit c.toUInt8 = true := by
  rw [isDigit, toUInt8_toNat_of_isDigit hc]
  simp only [Char.isDigit, Bool.and_eq_true, decide_eq_true_eq] at hc
  exact decide_eq_true ⟨hc.1, hc.2⟩

theorem map_ofNat_toUInt8 {l : List Char} (hl : ∀ c ∈ l, c.isDigit = true) :
    (l.map Char.toUInt8).map (fun c => Char.ofNat c.toNat) = l := by
  rw [List.map_map]
  conv => rhs; rw [← List.map_id l]
  refine List.map_congr_left fun c hc => ?_
  simp only [Function.comp_apply, toUInt8_toNat_of_isDigit (hl c hc),
    Char.ofNat_toNat, id_eq]

theorem readNat_toDigits (n : Nat) :
    readNat ((Nat.toDigits 10 n).map Char.toUInt8) = some n := by
  have hdig : ∀ c ∈ Nat.toDigits 10 n, c.isDigit = true := fun c hc =>
    Nat.isDigit_of_mem_toDigits (by omega) (by omega) hc
  have hall : ∀ c ∈ (Nat.toDigits 10 n).map Char.toUInt8, isDigit c = true := by
    intro c hc
    obtain ⟨d, hd, rfl⟩ := List.mem_map.mp hc
    exact isDigit_toUInt8 (hdig d hd)
  have hne : (Nat.toDigits 10 n).map Char.toUInt8 ≠ [] := by
    simp [Nat.toDigits_ne_nil]
  simp only [readNat, List.takeWhile_eq_self_iff.mpr hall, if_neg hne,
    map_ofNat_toUInt8 hdig, Nat.ofDigitChars_ten_toDigits]

/-! ## The round trip -/

section RoundTrip

variable {blank : UInt8 → Bool}

/-- Digits and the minus sign are not blanks. -/
def Visible (blank : UInt8 → Bool) : Prop :=
  blank 45 = false ∧ ∀ c, isDigit c = true → blank c = false

theorem toText_ne_nil (i : Int) : toText i ≠ [] := by
  cases i with
  | ofNat n => simp [toText, Nat.toDigits_ne_nil]
  | negSucc n => simp [toText]

theorem mem_toText {i : Int} {c : UInt8} (hc : c ∈ toText i) :
    c = 45 ∨ isDigit c = true := by
  have hdig : ∀ n : Nat, c ∈ (Nat.toDigits 10 n).map Char.toUInt8 →
      isDigit c = true := by
    intro n hn
    obtain ⟨d, hd, rfl⟩ := List.mem_map.mp hn
    exact isDigit_toUInt8 (Nat.isDigit_of_mem_toDigits (by omega) (by omega) hd)
  cases i with
  | ofNat n => exact Or.inr (hdig n hc)
  | negSucc n =>
      rcases List.mem_cons.mp hc with rfl | hc'
      · exact Or.inl rfl
      · exact Or.inr (hdig _ hc')

theorem not_blank_of_mem_toText (hv : Visible blank) {i : Int} {c : UInt8}
    (hc : c ∈ toText i) : blank c = false := by
  rcases mem_toText hc with rfl | hd
  · exact hv.1
  · exact hv.2 c hd

theorem readInt_toText (hv : Visible blank) (i : Int) :
    readInt blank (toText i) = some i := by
  have hdrop : (toText i).dropWhile blank = toText i := by
    cases ht : toText i with
    | nil => rfl
    | cons c cs =>
        have hc : blank c = false :=
          not_blank_of_mem_toText hv (i := i) (ht ▸ List.mem_cons_self ..)
        rw [List.dropWhile_cons_of_neg (by simp [hc])]
  rw [readInt, hdrop]
  cases i with
  | negSucc n =>
      simp only [toText, if_true, readNat_toDigits]
      rfl
  | ofNat n =>
      cases ht : toText (.ofNat n) with
      | nil => exact absurd ht (toText_ne_nil _)
      | cons c cs =>
          have hread : readNat (c :: cs) = some n := by
            rw [← ht]; exact readNat_toDigits n
          have hc : isDigit c = true := by
            rcases List.mem_map.mp (show c ∈ (Nat.toDigits 10 n).map Char.toUInt8 by
              rw [show (Nat.toDigits 10 n).map Char.toUInt8 = c :: cs from ht]
              exact List.mem_cons_self ..) with ⟨d, hd, rfl⟩
            exact isDigit_toUInt8
              (Nat.isDigit_of_mem_toDigits (by omega) (by omega) hd)
          have h45 : c ≠ 45 := by rintro rfl; exact absurd hc (by decide)
          have h43 : c ≠ 43 := by rintro rfl; exact absurd hc (by decide)
          simp only [if_neg h45, if_neg h43, hread]
          rfl

theorem stoi_toText (hv : Visible blank) (i : Int) :
    stoi blank (toText i)
      = if -2147483648 ≤ i ∧ i ≤ 2147483647 then some i else none := by
  rw [stoi, readInt_toText hv, Option.filter_some]
  simp only [decide_eq_true_eq]

end RoundTrip

end Decimal
