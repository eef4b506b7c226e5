import Sepp.Decimal
import Mathlib.Data.List.Basic
import Mathlib.Data.List.Infix

/-!
# Byte strings

`std::string` and `std::vector<uint8_t>` as lists of bytes, the ASCII
literals of the source, and the two character tests it relies on.
Lengths are natural numbers; `Sepp.Jose` casts them where the source does
and it matters.
-/

namespace Sepp

abbrev Str := List UInt8

/-- Byte strings of exactly `n` bytes. -/
abbrev Bytes (n : Nat) := {s : Str // s.length = n}

/-- The bytes of an ASCII literal. -/
def ascii (s : String) : Str := s.toList.map Char.toUInt8

/-- Carriage return. -/
abbrev cr : UInt8 := 13

/-- Line feed. -/
abbrev lf : UInt8 := 10

abbrev space : UInt8 := 32

abbrev colon : UInt8 := 58

abbrev questionMark : UInt8 := 63

/-- `isspace` in the C locale. -/
def isSpace (c : UInt8) : Bool :=
  c = space || (9 ≤ c.toNat && c.toNat ≤ 13)

/-- No character of a decimal number is a blank. -/
theorem visible_isSpace : Decimal.Visible isSpace := by
  refine ⟨by decide, fun c hc => ?_⟩
  simp only [Decimal.isDigit, decide_eq_true_eq] at hc
  have h32 : c ≠ 32 := by
    rintro rfl
    exact absurd hc (by decide)
  simp only [isSpace, Bool.or_eq_false_iff, Bool.and_eq_false_iff, decide_eq_false_iff_not]
  exact ⟨h32, Or.inr (by omega)⟩

/-- The test of `find_first_of("\r\n") == npos`. -/
def noCrLf (s : Str) : Bool := !s.contains cr && !s.contains lf

theorem noCrLf_iff {s : Str} : noCrLf s = true ↔ cr ∉ s ∧ lf ∉ s := by
  simp [noCrLf]

/-- A closed text is checked by running the test over it. -/
theorem not_space_of_all {s : Str} (hs : (s.all fun c => !isSpace c) = true) :
    ∀ c ∈ s, isSpace c = false := by
  intro c hc
  simpa using List.all_eq_true.mp hs c hc

/-- A string without blanks has in particular no line feed. -/
theorem lf_not_mem_of_not_space {s : Str} (hs : ∀ c ∈ s, isSpace c = false) :
    lf ∉ s := fun h => absurd (hs lf h) (by decide)

/-! ## URI schemes -/

/-- A leading `https://` becomes `http://`, a leading `http://` is kept,
and anything else gets `http://` in front. -/
def forcePlainHttp (s : Str) : Str :=
  if ascii "https://" <+: s then ascii "http://" ++ s.drop 8
  else if ascii "http://" <+: s then s
  else ascii "http://" ++ s

theorem http_prefix_forcePlainHttp (s : Str) :
    ascii "http://" <+: forcePlainHttp s := by
  unfold forcePlainHttp
  split
  · exact List.prefix_append ..
  · split
    · assumption
    · exact List.prefix_append ..

theorem not_https_of_http {s : Str} (h : ascii "http://" <+: s) :
    ¬ ascii "https://" <+: s := by
  intro h'
  rcases List.prefix_or_prefix_of_prefix h h' with hp | hp
  · exact absurd hp (by decide)
  · exact absurd hp (by decide)

theorem forcePlainHttp_of_http {s : Str} (h : ascii "http://" <+: s) :
    forcePlainHttp s = s := by
  rw [forcePlainHttp, if_neg (not_https_of_http h), if_pos h]

/-- Forcing the scheme a second time changes nothing. -/
@[simp] theorem forcePlainHttp_idem (s : Str) :
    forcePlainHttp (forcePlainHttp s) = forcePlainHttp s :=
  forcePlainHttp_of_http (http_prefix_forcePlainHttp s)

theorem forcePlainHttp_ne_nil (s : Str) : forcePlainHttp s ≠ [] := by
  intro h
  have := (http_prefix_forcePlainHttp s).length_le
  rw [h] at this
  exact absurd this (by decide)

theorem forcePlainHttp_http (s : Str) :
    forcePlainHttp (ascii "http://" ++ s) = ascii "http://" ++ s :=
  forcePlainHttp_of_http (List.prefix_append ..)

theorem forcePlainHttp_https (s : Str) :
    forcePlainHttp (ascii "https://" ++ s) = ascii "http://" ++ s := by
  rw [forcePlainHttp, if_pos (List.prefix_append ..)]
  congr 1

end Sepp
