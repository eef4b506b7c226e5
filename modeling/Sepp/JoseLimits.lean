import Sepp.Reference

/-!
# What JOSE protection carries

Which byte strings survive base64url (`lossless_iff`), and which payloads
`apply_jwe_encryption` and `decrypt_jwe_payload` protect
(`payload_protected_iff`). Both hold for short strings; the `int` lengths of
OpenSSL and the results the code does not look at set the limits.
-/

namespace Sepp

variable {O : OpenSsl}

/-! ## base64url -/

/-- What base64url is for: nothing is lost, the text is safe in a URL and as
short as it can be, and no other byte string has it. -/
structure Lossless (O : OpenSsl) (s : Str) : Prop where
  decoded : base64urlDecode O (base64urlEncode O s) = s
  alphabet : ∀ c ∈ base64urlEncode O s, isBase64urlChar c = true
  length : (base64urlEncode O s).length = (4 * s.length + 2) / 3
  injective : ∀ t : Str, t.length < 2147483648 →
    base64urlEncode O t = base64urlEncode O s → t = s

theorem base64urlEncode_alphabet (O : OpenSsl) (s : Str) :
    ∀ c ∈ base64urlEncode O s, isBase64urlChar c = true := by
  have hvalid := isBase64url_encode O s
  simp only [isBase64url, Bool.and_eq_true] at hvalid
  exact List.all_eq_true.mp hvalid.1

theorem base64urlEncode_of_lt {s : Str} (h : s.length < 2147483648) :
    base64urlEncode O s = urlSafe (Base64.encode (s.take (O.written s.length))) := by
  rw [base64urlEncode, castInt_of_lt h, Int.toNat_natCast]

/-- Another length is written as these bytes: they have the text of a longer
string as well. -/
theorem encode_append_replicate {s : Str} {n : ℕ} (hn : n < 2147483648)
    (hwritten : O.written n = s.length) (hs : O.written s.length = s.length) :
    base64urlEncode O (s ++ List.replicate (n - s.length) 0) = base64urlEncode O s := by
  have hle := O.written_le n
  have hlength : (s ++ List.replicate (n - s.length) 0).length = n := by
    rw [List.length_append, List.length_replicate]
    omega
  rw [base64urlEncode_of_lt (by rw [hlength]; exact hn), base64urlEncode_of_lt (by omega),
    hlength, hwritten, hs, List.take_left' rfl, List.take_length]

/-- For byte strings of any length. -/
theorem lossless_iff (O : OpenSsl) (s : Str) :
    Lossless O s ↔ O.written s.length = s.length ∧ paddedLength s.length < 2147483648
      ∧ ∀ n < 2147483648, O.written n = s.length → n = s.length := by
  constructor
  · intro h
    obtain ⟨hwritten, hshort⟩ := carries_iff.mp ((base64urlDecode_encode_iff O s).mp h.decoded)
    refine ⟨hwritten, hshort, fun n hn hsame => ?_⟩
    have hle := O.written_le n
    have heq := congrArg List.length (h.injective (s ++ List.replicate (n - s.length) 0)
      (by rw [List.length_append, List.length_replicate]; omega)
      (encode_append_replicate hn hsame hwritten))
    rw [List.length_append, List.length_replicate] at heq
    omega
  · rintro ⟨hwritten, hshort, honly⟩
    have hcarries : O.Carries s := carries_iff.mpr ⟨hwritten, hshort⟩
    have hencoded := base64urlEncode_of_lt (O := O) hcarries.lt
    rw [hwritten, List.take_length] at hencoded
    refine ⟨base64urlDecode_encode_of_carries hcarries, base64urlEncode_alphabet O s, ?_,
      fun t ht hsame => ?_⟩
    · rw [hencoded, length_urlSafe_encode]
    · rw [base64urlEncode_of_lt ht, hencoded] at hsame
      have htake : t.take (O.written t.length) = s := urlSafe_encode_injective hsame
      have hle := O.written_le t.length
      have hlength : O.written t.length = s.length := by
        rw [← htake, List.length_take_of_le hle]
      rw [hlength, ← honly t.length ht hlength, List.take_length] at htake
      exact htake

/-- The shortest byte string whose padded text has 2^31 bytes. -/
def longInput : Str := List.replicate 1610612734 0

theorem length_longInput : longInput.length = 1610612734 := List.length_replicate

theorem longInput_ne_nil : longInput ≠ [] :=
  List.ne_nil_of_length_pos (by rw [length_longInput]; decide)

theorem not_carries_longInput (O : OpenSsl) : ¬ O.Carries longInput := by
  intro h
  have hshort := (carries_iff.mp h).2
  rw [length_longInput] at hshort
  exact absurd hshort (by decide)

/-- What comes back of it is as long as what the library takes at all. -/
theorem longInput_not_lossless : longInput.length < 2147483648
    ∧ (base64urlDecode Reference.openSsl (base64urlEncode Reference.openSsl longInput)).length
        = 1582361055
    ∧ ¬ Lossless Reference.openSsl longInput := by
  refine ⟨by rw [length_longInput]; decide, ?_, fun h => ?_⟩
  · rw [base64urlDecode_encode, List.length_take_of_le (carried_le _ _), length_longInput]
    decide
  · exact not_carries_longInput _ ((base64urlDecode_encode_iff _ _).mp h.decoded)

/-! ## JWE payloads -/

/-- Encryption wants a key of 16 bytes and nothing else, and decryption
recovers what was encrypted. -/
structure Protects (O : OpenSsl) (iv : Bytes 12) (plaintext aadB64 key : Str) : Prop where
  succeeds : ∀ out, (applyJweEncryption O (some iv) plaintext aadB64 key out).1 = true
    ↔ key.length = 16
  recovers : ∀ out p outPlaintext,
    applyJweEncryption O (some iv) plaintext aadB64 key out = (true, p) →
      decryptJwePayload O p.ciphertext aadB64 p.iv p.tag key outPlaintext = (true, plaintext)

/-- Decryption accepts nothing that does not verify over the AAD, and writes
nothing unless it accepts. -/
structure Rejects (O : OpenSsl) (ciphertextB64 aadB64 ivB64 tagB64 key : Str) : Prop where
  verified : ∀ outPlaintext,
    (decryptJwePayload O ciphertextB64 aadB64 ivB64 tagB64 key outPlaintext).1 = true →
      TagVerifies O key ciphertextB64 aadB64 ivB64 tagB64
  unchanged : ∀ outPlaintext,
    (decryptJwePayload O ciphertextB64 aadB64 ivB64 tagB64 key outPlaintext).1 = false →
      (decryptJwePayload O ciphertextB64 aadB64 ivB64 tagB64 key outPlaintext).2 = outPlaintext

theorem key_of_applied {rand : Option (Bytes 12)} {plaintext aadB64 key : Str}
    {out p : JwePayload} (h : applyJweEncryption O rand plaintext aadB64 key out = (true, p)) :
    key.length = 16 := by
  obtain ⟨k, -, -, rfl, -⟩ := applyJweEncryption_eq_true h
  exact k.2

theorem applied_of_carries {plaintext aadB64 key : Str} (hkey : key.length = 16)
    (h : O.Carries plaintext) (iv : Bytes 12) (out : JwePayload) :
    ∃ p, applyJweEncryption O (some iv) plaintext aadB64 key out = (true, p) :=
  ⟨_, applyJweEncryption_of_key (k := ⟨key, hkey⟩) (evpUpdate_of_lt h.lt)⟩

theorem protects_iff (iv : Bytes 12) (plaintext aadB64 key : Str) :
    Protects O iv plaintext aadB64 key ↔ (key.length = 16 → O.Carries plaintext) := by
  constructor
  · intro h hkey
    have hok := (h.succeeds {}).mpr hkey
    have happly : applyJweEncryption O (some iv) plaintext aadB64 key {} = (true, _) :=
      Prod.ext hok rfl
    exact (decrypt_applyJweEncryption_iff [] happly).mp (h.recovers {} _ [] happly)
  · intro hcarries
    refine ⟨fun out => ⟨fun hok => key_of_applied (Prod.ext hok rfl), fun hkey => ?_⟩,
      fun out p outPlaintext happly => ?_⟩
    · obtain ⟨p, hp⟩ := applied_of_carries hkey (hcarries hkey) iv out
      rw [hp]
    · exact (decrypt_applyJweEncryption_iff outPlaintext happly).mpr
        (hcarries (key_of_applied happly))

theorem rejects_iff (ciphertextB64 aadB64 ivB64 tagB64 key : Str) :
    Rejects O ciphertextB64 aadB64 ivB64 tagB64 key
      ↔ (2147483648 ≤ aadB64.length →
          TagVerifies O key ciphertextB64 (associated aadB64) ivB64 tagB64 →
          TagVerifies O key ciphertextB64 aadB64 ivB64 tagB64) := by
  constructor
  · intro h _ hverifies
    exact h.verified [] (decryptJwePayload_true_iff.mpr hverifies)
  · intro h
    refine ⟨fun outPlaintext hok => ?_, fun outPlaintext hfalse => ?_⟩
    · have hverifies := decryptJwePayload_true_iff.mp hok
      by_cases hshort : aadB64.length < 2147483648
      · rwa [associated_of_lt hshort] at hverifies
      · exact h (Nat.le_of_not_lt hshort) hverifies
    · rcases decryptJwePayload_cases O ciphertextB64 aadB64 ivB64 tagB64 key outPlaintext
        with hsame | ⟨-, -, -, m, -, -, -, -, htrue⟩
      · rw [hsame]
      · rw [htrue] at hfalse
        cases hfalse

/-- For every key, nonce, AAD and plaintext, and for every message. -/
theorem payload_protected_iff (O : OpenSsl) :
    (∀ (iv : Bytes 12) (plaintext aadB64 key : Str),
      Protects O iv plaintext aadB64 key ↔ (key.length = 16 → O.Carries plaintext))
    ∧ ∀ ciphertextB64 aadB64 ivB64 tagB64 key : Str,
        Rejects O ciphertextB64 aadB64 ivB64 tagB64 key
          ↔ (2147483648 ≤ aadB64.length →
              TagVerifies O key ciphertextB64 (associated aadB64) ivB64 tagB64 →
              TagVerifies O key ciphertextB64 aadB64 ivB64 tagB64) :=
  ⟨protects_iff, rejects_iff⟩

/-- A payload that is encrypted and cannot be decrypted again. -/
theorem longInput_not_protected :
    ¬ Protects Reference.openSsl ⟨List.replicate 12 0, rfl⟩ longInput []
      (List.replicate 16 0) := by
  intro h
  exact not_carries_longInput _ ((protects_iff _ _ _ _).mp h rfl)

end Sepp
