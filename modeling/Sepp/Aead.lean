import Mathlib.Data.List.Basic

/-!
# Authenticated encryption with associated data

The abstract interface of an AEAD cipher. The laws are carried by the
structure: decryption undoes encryption, nothing but an encrypted message
decrypts (verification fails unless the tag is the one for that key,
nonce, associated data and ciphertext), and the ciphertext is as long as
the plaintext, as in counter-mode ciphers.
-/

structure Aead (Key Nonce Tag α : Type*) where
  encrypt : Key → Nonce → List α → List α → List α × Tag
  /-- The plaintext of a ciphertext, `none` when verification fails. -/
  decrypt : Key → Nonce → List α → List α → Tag → Option (List α)
  decrypt_encrypt : ∀ k n ad m,
    decrypt k n ad (encrypt k n ad m).1 (encrypt k n ad m).2 = some m
  encrypt_of_decrypt : ∀ k n ad c t m,
    decrypt k n ad c t = some m → encrypt k n ad m = (c, t)
  length_encrypt : ∀ k n ad m, (encrypt k n ad m).1.length = m.length

namespace Aead

variable {Key Nonce Tag α : Type*}

/-- The tag verifies over this ciphertext and associated data. -/
def Verifies (A : Aead Key Nonce Tag α) (k : Key) (n : Nonce) (ad c : List α)
    (t : Tag) : Prop :=
  ∃ m, A.decrypt k n ad c t = some m

theorem encrypt_ne_nil (A : Aead Key Nonce Tag α) {m : List α} (hm : m ≠ [])
    (k : Key) (n : Nonce) (ad : List α) : (A.encrypt k n ad m).1 ≠ [] := by
  intro h
  have hlen := A.length_encrypt k n ad m
  rw [h, List.length_nil] at hlen
  exact hm (List.length_eq_zero_iff.mp hlen.symm)

end Aead
