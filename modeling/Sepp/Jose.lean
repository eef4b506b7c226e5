import Sepp.Aead
import Sepp.Base64
import Sepp.Bytes

/-!
# JOSE payload protection

`sepp_JOSE.cpp`: base64url on top of OpenSSL's padded Base 64 filter, and
AES-128-GCM protection of a payload with the encoded AAD as associated
data. Random nonces are arguments, `none` where `RAND_bytes` fails; the
other set-up calls succeed.

OpenSSL counts in `int`, and the code passes it `size_t` lengths: with a
cast in the base64url helpers, without one to `EVP_EncryptUpdate` and
`EVP_DecryptUpdate`. It looks neither at what `BIO_write` and `BIO_flush`
return nor at what comes of the associated data. `OpenSsl` is what the code
uses of the library:

- of the bytes `BIO_write` is given a first part arrives in the memory BIO,
  and never less than the filter's first block;
- `BIO_read` undoes the filter on a text whose length an `int` holds, and
  never yields more than it was asked for;
- GCM is an AEAD on the bytes it is given.

`base64urlDecode_encode` says what is left of a byte string that goes through
both helpers: a first part of it, of a length that the length decides.
-/

namespace Sepp

/-! ## Lengths -/

/-- A `size_t` as an `int`. -/
def castInt (n : Nat) : Int := (n : Int).bmod 4294967296

theorem castInt_of_lt {n : Nat} (h : n < 2147483648) : castInt n = n := by
  unfold castInt
  exact Int.bmod_eq_of_le (by omega) (by omega)

theorem castInt_lt (n : Nat) : castInt n < 2147483648 := Int.bmod_lt (by decide)

/-- Half of the lengths that do not fit become negative. -/
theorem castInt_neg {n : Nat} (h : 2147483648 ≤ n) (hlt : n < 4294967296) : castInt n < 0 := by
  unfold castInt
  rw [Int.bmod_def]
  omega

theorem castInt_le (n : Nat) : castInt n ≤ n := by
  unfold castInt
  rw [Int.bmod_def]
  omega

/-- The length of the padded Base 64 text of `n` bytes. -/
def paddedLength (n : Nat) : Nat := 4 * ((n + 2) / 3)

structure OpenSsl where
  /-- How many of `n` bytes `BIO_write` and `BIO_flush` bring through
  `BIO_f_base64` into a memory BIO. -/
  written : Nat → Nat
  written_le : ∀ n, written n ≤ n
  /-- The filter's first block gets through. -/
  written_block : ∀ n, min n 1023 ≤ written n
  /-- `BIO_read` of `dlen` bytes through `BIO_f_base64` from `len` bytes of a
  buffer, `none` for a negative result. -/
  bioRead (buf : Str) (len dlen : Int) : Option Str
  bioRead_encode : ∀ s : Str, paddedLength s.length < 2147483648 →
    bioRead (Base64.encode s) (paddedLength s.length) (paddedLength s.length) = some s
  bioRead_length : ∀ buf len dlen out,
    bioRead buf len dlen = some out → (out.length : Int) ≤ max 0 dlen
  gcm : Aead (Bytes 16) (Bytes 12) (Bytes 16) UInt8

/-! ## base64url -/

/-- `+` becomes `-`, `/` becomes `_`, and padding is dropped. -/
def urlSafe (s : Str) : Str :=
  s.filterMap fun c =>
    if c = 43 then some 45 else if c = 47 then some 95
    else if c ≠ Base64.pad then some c else none

/-- The characters of the padded alphabet again. -/
def urlUnsafe (s : Str) : Str :=
  s.map fun c => if c = 45 then 43 else if c = 95 then 47 else c

/-- Push `=` until the length is a multiple of four. -/
def repad (s : Str) : Str :=
  s ++ List.replicate ((4 - s.length % 4) % 4) Base64.pad

def base64urlEncode (O : OpenSsl) (input : Str) : Str :=
  urlSafe (Base64.encode (input.take (O.written (castInt input.length).toNat)))

def base64urlDecode (O : OpenSsl) (input : Str) : Str :=
  let b64 := repad (urlUnsafe input)
  (O.bioRead b64 (castInt b64.length) (castInt b64.length)).getD []

/-- How much of a string of `n` bytes is left after both. -/
def OpenSsl.carried (O : OpenSsl) (n : Nat) : Nat :=
  let w := O.written (castInt n).toNat
  if paddedLength w < 2147483648 then w else 0

/-- base64url carries the byte string whole. -/
def OpenSsl.Carries (O : OpenSsl) (s : Str) : Prop := O.carried s.length = s.length

instance OpenSsl.decidableCarries (O : OpenSsl) (s : Str) : Decidable (O.Carries s) :=
  inferInstanceAs (Decidable (_ = _))

section Base64url

theorem urlUnsafe_urlSafe_digit {v : Nat} (hv : v < 64) (s : Str) :
    urlUnsafe (urlSafe (Base64.digit v :: s))
      = Base64.digit v :: urlUnsafe (urlSafe s) := by
  obtain ⟨h61, h45, h95⟩ := Base64.digit_ne hv
  simp only [urlSafe, urlUnsafe, List.filterMap_cons]
  by_cases h43 : Base64.digit v = 43
  · simp [h43]
  · by_cases h47 : Base64.digit v = 47
    · simp [h47]
    · simp [h43, h47, h61, h45, h95]

theorem urlSafe_pad (s : Str) : urlSafe (Base64.pad :: s) = urlSafe s := by
  simp [urlSafe, show Base64.pad ≠ 43 by decide,
    show Base64.pad ≠ 47 by decide]

theorem repad_cons4 (a b c d : UInt8) (s : Str) :
    repad (a :: b :: c :: d :: s) = a :: b :: c :: d :: repad s := by
  simp only [repad, List.length_cons, List.cons_append, List.cons.injEq, true_and]
  rw [show (s.length + 1 + 1 + 1 + 1) % 4 = s.length % 4 by omega]

/-- What the encoder removes, the decoder puts back. -/
theorem repad_urlUnsafe_urlSafe_encode (s : Str) :
    repad (urlUnsafe (urlSafe (Base64.encode s))) = Base64.encode s := by
  fun_induction Base64.encode s with
  | case1 a b c rest v w x y hs ih =>
      obtain ⟨hv, hw, hx, hy⟩ := Base64.sextets_lt a b c
      rw [hs] at hv hw hx hy
      rw [urlUnsafe_urlSafe_digit hv, urlUnsafe_urlSafe_digit hw,
        urlUnsafe_urlSafe_digit hx, urlUnsafe_urlSafe_digit hy, repad_cons4, ih]
  | case2 a b v w x y hs =>
      obtain ⟨hv, hw, hx, -⟩ := Base64.sextets_lt a b 0
      rw [hs] at hv hw hx
      rw [urlUnsafe_urlSafe_digit hv, urlUnsafe_urlSafe_digit hw,
        urlUnsafe_urlSafe_digit hx, urlSafe_pad]
      rfl
  | case3 a v w x y hs =>
      obtain ⟨hv, hw, -, -⟩ := Base64.sextets_lt a 0 0
      rw [hs] at hv hw
      rw [urlUnsafe_urlSafe_digit hv, urlUnsafe_urlSafe_digit hw, urlSafe_pad,
        urlSafe_pad]
      rfl
  | case4 => rfl

/-- The characters of base64url: letters, digits, `-` and `_`. -/
def isBase64urlChar (c : UInt8) : Bool :=
  (65 ≤ c.toNat && c.toNat ≤ 90) || (97 ≤ c.toNat && c.toNat ≤ 122)
    || (48 ≤ c.toNat && c.toNat ≤ 57) || c.toNat == 45 || c.toNat == 95

/-- A text of these characters, of a length that whole bytes have. -/
def isBase64url (s : Str) : Bool := s.all isBase64urlChar && s.length % 4 != 1

theorem urlSafe_digit {v : Nat} (hv : v < 64) (s : Str) :
    ∃ c, isBase64urlChar c = true ∧ urlSafe (Base64.digit v :: s) = c :: urlSafe s := by
  have hchar : ∀ i : Fin 64, isBase64urlChar (if Base64.digit i = 43 then 45
      else if Base64.digit i = 47 then 95 else Base64.digit i) = true := by decide
  refine ⟨_, hchar ⟨v, hv⟩, ?_⟩
  have hpad := (Base64.digit_ne hv).1
  simp only [urlSafe, List.filterMap_cons]
  split_ifs <;> simp_all

theorem isBase64url_cons4 {a b c d : UInt8} {s : Str}
    (hall : [a, b, c, d].all isBase64urlChar = true) (hs : isBase64url s = true) :
    isBase64url (a :: b :: c :: d :: s) = true := by
  have hlength : (a :: b :: c :: d :: s).length % 4 = s.length % 4 := by
    simp only [List.length_cons]
    omega
  unfold isBase64url at hs ⊢
  rw [hlength]
  simp_all

theorem isBase64url_urlSafe_encode (s : Str) :
    isBase64url (urlSafe (Base64.encode s)) = true := by
  fun_induction Base64.encode s with
  | case1 a b c rest v w x y hs ih =>
      obtain ⟨hv, hw, hx, hy⟩ := Base64.sextets_lt a b c
      rw [hs] at hv hw hx hy
      obtain ⟨c₁, h₁, e₁⟩ := urlSafe_digit hv
        (Base64.digit w :: Base64.digit x :: Base64.digit y :: Base64.encode rest)
      obtain ⟨c₂, h₂, e₂⟩ := urlSafe_digit hw
        (Base64.digit x :: Base64.digit y :: Base64.encode rest)
      obtain ⟨c₃, h₃, e₃⟩ := urlSafe_digit hx (Base64.digit y :: Base64.encode rest)
      obtain ⟨c₄, h₄, e₄⟩ := urlSafe_digit hy (Base64.encode rest)
      rw [e₁, e₂, e₃, e₄]
      exact isBase64url_cons4 (by simp [h₁, h₂, h₃, h₄]) ih
  | case2 a b v w x y hs =>
      obtain ⟨hv, hw, hx, -⟩ := Base64.sextets_lt a b 0
      rw [hs] at hv hw hx
      obtain ⟨c₁, h₁, e₁⟩ := urlSafe_digit hv
        [Base64.digit w, Base64.digit x, Base64.pad]
      obtain ⟨c₂, h₂, e₂⟩ := urlSafe_digit hw [Base64.digit x, Base64.pad]
      obtain ⟨c₃, h₃, e₃⟩ := urlSafe_digit hx [Base64.pad]
      rw [e₁, e₂, e₃, urlSafe_pad]
      simp [isBase64url, urlSafe, h₁, h₂, h₃]
  | case3 a v w x y hs =>
      obtain ⟨hv, hw, -, -⟩ := Base64.sextets_lt a 0 0
      rw [hs] at hv hw
      obtain ⟨c₁, h₁, e₁⟩ := urlSafe_digit hv [Base64.digit w, Base64.pad, Base64.pad]
      obtain ⟨c₂, h₂, e₂⟩ := urlSafe_digit hw [Base64.pad, Base64.pad]
      rw [e₁, e₂, urlSafe_pad, urlSafe_pad]
      simp [isBase64url, urlSafe, h₁, h₂]
  | case4 => rfl

theorem length_urlSafe_digit {v : Nat} (hv : v < 64) (s : Str) :
    (urlSafe (Base64.digit v :: s)).length = (urlSafe s).length + 1 := by
  obtain ⟨c, -, hc⟩ := urlSafe_digit hv s
  rw [hc, List.length_cons]

/-- Without padding, a byte string takes four thirds of its length, rounded
up. -/
theorem length_urlSafe_encode (s : Str) :
    (urlSafe (Base64.encode s)).length = (4 * s.length + 2) / 3 := by
  fun_induction Base64.encode s with
  | case1 a b c rest v w x y hs ih =>
      obtain ⟨hv, hw, hx, hy⟩ := Base64.sextets_lt a b c
      rw [hs] at hv hw hx hy
      rw [length_urlSafe_digit hv, length_urlSafe_digit hw, length_urlSafe_digit hx,
        length_urlSafe_digit hy, ih]
      simp only [List.length_cons]
      omega
  | case2 a b v w x y hs =>
      obtain ⟨hv, hw, hx, -⟩ := Base64.sextets_lt a b 0
      rw [hs] at hv hw hx
      rw [length_urlSafe_digit hv, length_urlSafe_digit hw, length_urlSafe_digit hx, urlSafe_pad]
      simp [urlSafe]
  | case3 a v w x y hs =>
      obtain ⟨hv, hw, -, -⟩ := Base64.sextets_lt a 0 0
      rw [hs] at hv hw
      rw [length_urlSafe_digit hv, length_urlSafe_digit hw, urlSafe_pad, urlSafe_pad]
      simp [urlSafe]
  | case4 => rfl

theorem urlSafe_encode_injective : Function.Injective fun s => urlSafe (Base64.encode s) := by
  intro s t h
  have hs := repad_urlUnsafe_urlSafe_encode s
  have ht := repad_urlUnsafe_urlSafe_encode t
  have hsame : Base64.encode s = Base64.encode t := by
    rw [← hs, ← ht]
    exact congrArg (fun e => repad (urlUnsafe e)) h
  have hdecoded := congrArg Base64.decode hsame
  rw [Base64.decode_encode, Base64.decode_encode] at hdecoded
  exact Option.some.inj hdecoded

variable {O : OpenSsl}

theorem isBase64url_encode (O : OpenSsl) (s : Str) : isBase64url (base64urlEncode O s) = true :=
  isBase64url_urlSafe_encode _

/-! ### What is carried -/

theorem written_castInt_le (O : OpenSsl) (n : Nat) : O.written (castInt n).toNat ≤ n := by
  have hle := O.written_le (castInt n).toNat
  have hcast := castInt_le n
  omega

theorem carried_le (O : OpenSsl) (n : Nat) : O.carried n ≤ n := by
  have hle := written_castInt_le O n
  simp only [OpenSsl.carried]
  split <;> omega

/-- No negative length is read. -/
theorem bioRead_neg {buf : Str} {len dlen : Int} (h : dlen < 0) :
    (O.bioRead buf len dlen).getD [] = [] := by
  cases hread : O.bioRead buf len dlen with
  | none => rfl
  | some out =>
      have hlength := O.bioRead_length _ _ _ _ hread
      rw [Option.getD_some]
      exact List.length_eq_zero_iff.mp (by omega)

theorem base64urlDecode_encode (O : OpenSsl) (s : Str) :
    base64urlDecode O (base64urlEncode O s) = s.take (O.carried s.length) := by
  have hle := written_castInt_le O s.length
  have hcast := castInt_lt s.length
  have hwritten := O.written_le (castInt s.length).toNat
  simp only [base64urlDecode, base64urlEncode, OpenSsl.carried, repad_urlUnsafe_urlSafe_encode,
    Base64.length_encode]
  generalize O.written (castInt s.length).toNat = w at *
  have hlength : (s.take w).length = w := List.length_take_of_le hle
  rw [show 4 * (((s.take w).length + 2) / 3) = paddedLength w by rw [hlength]; rfl]
  split
  · rename_i hshort
    have hback := O.bioRead_encode (s.take w) (by rw [hlength]; exact hshort)
    rw [hlength] at hback
    rw [castInt_of_lt hshort, hback, Option.getD_some]
  · rename_i hlong
    -- The padded text has too many characters for an `int`, but not twice as many.
    have hneg : castInt (paddedLength w) < 0 := by
      refine castInt_neg (Nat.le_of_not_lt hlong) ?_
      unfold paddedLength
      omega
    rw [bioRead_neg hneg, List.take_zero]

theorem base64urlDecode_encode_of_carries {s : Str} (h : O.Carries s) :
    base64urlDecode O (base64urlEncode O s) = s := by
  rw [base64urlDecode_encode, show O.carried s.length = s.length from h, List.take_length]

theorem base64urlDecode_encode_iff (O : OpenSsl) (s : Str) :
    base64urlDecode O (base64urlEncode O s) = s ↔ O.Carries s := by
  refine ⟨fun h => ?_, base64urlDecode_encode_of_carries⟩
  have hlength := congrArg List.length h
  rwa [base64urlDecode_encode, List.length_take_of_le (carried_le O _)] at hlength

/-- `BIO_write` takes all of it, and an `int` holds the length of its padded
text. -/
theorem carries_iff {s : Str} :
    O.Carries s ↔ O.written s.length = s.length ∧ paddedLength s.length < 2147483648 := by
  have hcast := castInt_le s.length
  have hwritten := O.written_le (castInt s.length).toNat
  constructor
  · intro h
    unfold OpenSsl.Carries OpenSsl.carried at h
    dsimp only at h
    split at h
    · rename_i hshort
      rw [h] at hshort hwritten
      rw [show (castInt s.length).toNat = s.length by omega] at h
      exact ⟨h, hshort⟩
    · rw [← h]
      exact ⟨Nat.le_zero.mp (O.written_le 0), by decide⟩
  · rintro ⟨hw, hshort⟩
    have hlt : s.length < 2147483648 := by
      unfold paddedLength at hshort
      omega
    simp only [OpenSsl.Carries, OpenSsl.carried, castInt_of_lt hlt, Int.toNat_natCast, hw,
      if_pos hshort]

theorem OpenSsl.Carries.lt {s : Str} (h : O.Carries s) : s.length < 2147483648 := by
  have hshort := (carries_iff.mp h).2
  unfold paddedLength at hshort
  omega

/-- Carrying is a matter of the length. -/
theorem OpenSsl.Carries.of_length {s t : Str} (h : O.Carries s) (hlength : t.length = s.length) :
    O.Carries t := by
  unfold OpenSsl.Carries at h ⊢
  rw [hlength, h]

theorem carries_of_le {s : Str} (h : s.length ≤ 1023) : O.Carries s := by
  refine carries_iff.mpr ⟨?_, ?_⟩
  · have hle := O.written_le s.length
    have hblock := O.written_block s.length
    omega
  · unfold paddedLength
    omega

theorem base64urlDecode_nil (O : OpenSsl) : base64urlDecode O [] = [] := by
  have hnil : O.Carries [] := carries_of_le (Nat.zero_le _)
  have hencoded : base64urlEncode O [] = [] := by
    rw [base64urlEncode, List.take_nil]
    rfl
  have hback := base64urlDecode_encode_of_carries hnil
  rwa [hencoded] at hback

/-- The text of what is decoded to something is not empty. -/
theorem ne_nil_of_base64urlDecode {text : Str} (h : base64urlDecode O text ≠ []) :
    text ≠ [] := by
  rintro rfl
  exact h (base64urlDecode_nil O)

theorem base64urlDecode_length_lt (O : OpenSsl) (text : Str) :
    (base64urlDecode O text).length < 2147483648 := by
  simp only [base64urlDecode]
  have hcast := castInt_lt (repad (urlUnsafe text)).length
  cases hread : O.bioRead (repad (urlUnsafe text)) (castInt (repad (urlUnsafe text)).length)
      (castInt (repad (urlUnsafe text)).length) with
  | none => decide
  | some out =>
      have hlength := O.bioRead_length _ _ _ _ hread
      rw [Option.getD_some]
      omega

/-- A nonce or a tag is carried. -/
theorem base64urlDecode_encode_bytes (O : OpenSsl) {n : Nat} (hn : n ≤ 1023) (b : Bytes n) :
    base64urlDecode O (base64urlEncode O b.1) = b.1 :=
  base64urlDecode_encode_of_carries (carries_of_le (by rw [b.2]; exact hn))

end Base64url

/-! ## JWE payloads -/

/-- What `EVP_EncryptUpdate` or `EVP_DecryptUpdate` processes of a byte
string, `none` where the length has become negative and the call fails. -/
def evpUpdate (s : Str) : Option Str :=
  if castInt s.length < 0 then none else some (s.take (castInt s.length).toNat)

/-- The associated data: nobody looks whether that update fails. -/
def associated (aadB64 : Str) : Str := (evpUpdate aadB64).getD []

theorem evpUpdate_of_lt {s : Str} (h : s.length < 2147483648) : evpUpdate s = some s := by
  rw [evpUpdate, castInt_of_lt h, if_neg (by omega), Int.toNat_natCast, List.take_length]

theorem associated_of_lt {s : Str} (h : s.length < 2147483648) : associated s = s := by
  rw [associated, evpUpdate_of_lt h, Option.getD_some]

theorem evpUpdate_length {s t : Str} (h : evpUpdate s = some t) :
    t.length ≤ s.length ∧ (t.length = s.length → t = s) := by
  unfold evpUpdate at h
  split at h
  · cases h
  · obtain rfl := Option.some.inj h
    refine ⟨List.length_take_le' _ _, fun hlength => ?_⟩
    rw [List.length_take] at hlength
    exact List.take_of_length_le (by omega)

/-- The outputs of `apply_jwe_encryption`. -/
structure JwePayload where
  iv : Str := []
  ciphertext : Str := []
  tag : Str := []

/-- `apply_jwe_encryption` with its output parameters. -/
def applyJweEncryption (O : OpenSsl) (rand : Option (Bytes 12)) (plaintext aadB64 key : Str)
    (out : JwePayload) : Bool × JwePayload :=
  if h : key.length = 16 then
    match rand, evpUpdate plaintext with
    | some iv, some plaintext =>
        let (ciphertext, tag) := O.gcm.encrypt ⟨key, h⟩ iv (associated aadB64) plaintext
        (true,
          { iv := base64urlEncode O iv.1
            ciphertext := base64urlEncode O ciphertext
            tag := base64urlEncode O tag.1 })
    | _, _ => (false, out)
  else (false, out)

/-- `decrypt_jwe_payload` with its output parameter. -/
def decryptJwePayload (O : OpenSsl) (ciphertextB64 aadB64 ivB64 tagB64 key outPlaintext : Str) :
    Bool × Str :=
  let ciphertextRaw := base64urlDecode O ciphertextB64
  let ivRaw := base64urlDecode O ivB64
  let tagRaw := base64urlDecode O tagB64
  if h : key.length = 16 ∧ ivRaw.length = 12 ∧ tagRaw.length = 16 then
    match (evpUpdate ciphertextRaw).bind fun c =>
        O.gcm.decrypt ⟨key, h.1⟩ ⟨ivRaw, h.2.1⟩ (associated aadB64) c ⟨tagRaw, h.2.2⟩ with
    | none => (false, outPlaintext)
    | some plaintext => (true, plaintext)
  else (false, outPlaintext)

/-- The message has a nonce and a tag of their sizes, and the tag verifies
under the key over the message's ciphertext and `ad`. -/
def TagVerifies (O : OpenSsl) (key ciphertextB64 ad ivB64 tagB64 : Str) : Prop :=
  ∃ (k : Bytes 16) (iv : Bytes 12) (tag : Bytes 16),
    k.1 = key ∧ iv.1 = base64urlDecode O ivB64 ∧ tag.1 = base64urlDecode O tagB64
      ∧ O.gcm.Verifies k iv ad (base64urlDecode O ciphertextB64) tag

section Payload

variable {O : OpenSsl} {rand : Option (Bytes 12)}
  {plaintext ciphertextB64 aadB64 ivB64 tagB64 key outPlaintext : Str} {out p : JwePayload}

/-- A rejected message writes nothing, an accepted one is the output of the
cipher for what is written. -/
theorem decryptJwePayload_cases (O : OpenSsl)
    (ciphertextB64 aadB64 ivB64 tagB64 key outPlaintext : Str) :
    decryptJwePayload O ciphertextB64 aadB64 ivB64 tagB64 key outPlaintext = (false, outPlaintext)
    ∨ ∃ (k : Bytes 16) (iv : Bytes 12) (tag : Bytes 16) (m : Str),
        k.1 = key ∧ iv.1 = base64urlDecode O ivB64 ∧ tag.1 = base64urlDecode O tagB64
        ∧ O.gcm.decrypt k iv (associated aadB64) (base64urlDecode O ciphertextB64) tag = some m
        ∧ decryptJwePayload O ciphertextB64 aadB64 ivB64 tagB64 key outPlaintext = (true, m) := by
  unfold decryptJwePayload
  simp only [evpUpdate_of_lt (base64urlDecode_length_lt O ciphertextB64), Option.bind_some]
  split
  · rename_i hsizes
    split
    · exact Or.inl rfl
    · rename_i m hm
      exact Or.inr ⟨⟨key, hsizes.1⟩, ⟨_, hsizes.2.1⟩, ⟨_, hsizes.2.2⟩, m, rfl, rfl, rfl, hm, rfl⟩
  · exact Or.inl rfl

theorem decryptJwePayload_of_decrypt {k : Bytes 16} {iv : Bytes 12} {tag : Bytes 16} {m : Str}
    (hk : k.1 = key) (hiv : iv.1 = base64urlDecode O ivB64)
    (htag : tag.1 = base64urlDecode O tagB64)
    (hm : O.gcm.decrypt k iv (associated aadB64) (base64urlDecode O ciphertextB64) tag = some m) :
    decryptJwePayload O ciphertextB64 aadB64 ivB64 tagB64 key outPlaintext = (true, m) := by
  have hsizes : key.length = 16 ∧ (base64urlDecode O ivB64).length = 12
      ∧ (base64urlDecode O tagB64).length = 16 :=
    ⟨hk ▸ k.2, hiv ▸ iv.2, htag ▸ tag.2⟩
  obtain rfl : k = ⟨key, hsizes.1⟩ := Subtype.ext hk
  obtain rfl : iv = ⟨_, hsizes.2.1⟩ := Subtype.ext hiv
  obtain rfl : tag = ⟨_, hsizes.2.2⟩ := Subtype.ext htag
  simp only [decryptJwePayload, dif_pos hsizes,
    evpUpdate_of_lt (base64urlDecode_length_lt O ciphertextB64), Option.bind_some, hm]

theorem decryptJwePayload_true_iff :
    (decryptJwePayload O ciphertextB64 aadB64 ivB64 tagB64 key outPlaintext).1 = true
      ↔ TagVerifies O key ciphertextB64 (associated aadB64) ivB64 tagB64 := by
  constructor
  · intro h
    rcases decryptJwePayload_cases O ciphertextB64 aadB64 ivB64 tagB64 key outPlaintext
      with hfalse | ⟨k, iv, tag, m, hk, hiv, htag, hm, -⟩
    · rw [hfalse] at h
      cases h
    · exact ⟨k, iv, tag, hk, hiv, htag, m, hm⟩
  · rintro ⟨k, iv, tag, hk, hiv, htag, m, hm⟩
    rw [decryptJwePayload_of_decrypt hk hiv htag hm]

/-- Without a nonce or a tag nothing verifies. -/
theorem TagVerifies.ne_nil {ad : Str} (h : TagVerifies O key ciphertextB64 ad ivB64 tagB64) :
    ivB64 ≠ [] ∧ tagB64 ≠ [] := by
  obtain ⟨k, iv, tag, -, hiv, htag, -⟩ := h
  refine ⟨ne_nil_of_base64urlDecode (O := O) ?_, ne_nil_of_base64urlDecode (O := O) ?_⟩
  · rw [← hiv]
    exact List.ne_nil_of_length_pos (by rw [iv.2]; decide)
  · rw [← htag]
    exact List.ne_nil_of_length_pos (by rw [tag.2]; decide)

/-- What an encryption was made of. -/
theorem applyJweEncryption_eq_true
    (h : applyJweEncryption O rand plaintext aadB64 key out = (true, p)) :
    ∃ (k : Bytes 16) (iv : Bytes 12) (m : Str), k.1 = key ∧ rand = some iv
      ∧ evpUpdate plaintext = some m
      ∧ p = { iv := base64urlEncode O iv.1
              ciphertext := base64urlEncode O (O.gcm.encrypt k iv (associated aadB64) m).1
              tag := base64urlEncode O (O.gcm.encrypt k iv (associated aadB64) m).2.1 } := by
  unfold applyJweEncryption at h
  split at h
  · rename_i hkey
    split at h
    · rename_i iv m hm
      exact ⟨⟨key, hkey⟩, iv, m, rfl, rfl, hm, (Prod.mk.inj h).2.symm⟩
    · cases (Prod.mk.inj h).1
  · cases (Prod.mk.inj h).1

theorem applyJweEncryption_of_key {k : Bytes 16} {iv : Bytes 12} {m : Str}
    (hplaintext : evpUpdate plaintext = some m) :
    applyJweEncryption O (some iv) plaintext aadB64 k.1 out
      = (true,
          { iv := base64urlEncode O iv.1
            ciphertext := base64urlEncode O (O.gcm.encrypt k iv (associated aadB64) m).1
            tag := base64urlEncode O (O.gcm.encrypt k iv (associated aadB64) m).2.1 }) := by
  simp only [applyJweEncryption, dif_pos k.2, hplaintext]

/-- What `apply_jwe_encryption` protects, `decrypt_jwe_payload` recovers under
the same key and AAD, exactly when base64url carries it. -/
theorem decrypt_applyJweEncryption_iff (outPlaintext : Str)
    (h : applyJweEncryption O rand plaintext aadB64 key out = (true, p)) :
    decryptJwePayload O p.ciphertext aadB64 p.iv p.tag key outPlaintext = (true, plaintext)
      ↔ O.Carries plaintext := by
  obtain ⟨k, iv, m, rfl, -, hm, rfl⟩ := applyJweEncryption_eq_true h
  obtain ⟨hle, heq⟩ := evpUpdate_length hm
  have hlength := O.gcm.length_encrypt k iv (associated aadB64) m
  have hiv := (base64urlDecode_encode_bytes O (by decide) iv).symm
  have htag := (base64urlDecode_encode_bytes O (by decide)
    (O.gcm.encrypt k iv (associated aadB64) m).2).symm
  constructor
  · intro hrecovered
    rcases decryptJwePayload_cases O
      (base64urlEncode O (O.gcm.encrypt k iv (associated aadB64) m).1) aadB64
      (base64urlEncode O iv.1) (base64urlEncode O (O.gcm.encrypt k iv (associated aadB64) m).2.1)
      k.1 outPlaintext
      with hfalse | ⟨k', iv', tag', m', -, -, -, hdecrypt, htrue⟩
    · cases (Prod.mk.inj (hfalse.symm.trans hrecovered)).1
    · -- What is decrypted is as long as the part of the ciphertext that arrived.
      obtain rfl := (Prod.mk.inj (htrue.symm.trans hrecovered)).2
      have hback := O.gcm.length_encrypt k' iv' (associated aadB64) m'
      rw [O.gcm.encrypt_of_decrypt _ _ _ _ _ _ hdecrypt, base64urlDecode_encode,
        List.length_take_of_le (carried_le O _), hlength] at hback
      have hcarried := carried_le O m.length
      have hsame : m.length = m'.length := by omega
      unfold OpenSsl.Carries
      rw [← hsame]
      omega
  · intro hcarries
    obtain rfl : m = plaintext := Option.some.inj (hm.symm.trans (evpUpdate_of_lt hcarries.lt))
    have hback := base64urlDecode_encode_of_carries (hcarries.of_length hlength)
    refine decryptJwePayload_of_decrypt rfl hiv htag ?_
    rw [hback]
    exact O.gcm.decrypt_encrypt ..

/-- A nonce and a tag are always put out. -/
theorem applyJweEncryption_ne_nil
    (h : applyJweEncryption O rand plaintext aadB64 key out = (true, p)) :
    p.iv ≠ [] ∧ p.tag ≠ [] := by
  obtain ⟨k, iv, m, -, -, -, rfl⟩ := applyJweEncryption_eq_true h
  refine ⟨ne_nil_of_base64urlDecode (O := O) ?_, ne_nil_of_base64urlDecode (O := O) ?_⟩
  · rw [base64urlDecode_encode_bytes O (by decide)]
    exact List.ne_nil_of_length_pos (by rw [iv.2]; decide)
  · rw [base64urlDecode_encode_bytes O (by decide)]
    exact List.ne_nil_of_length_pos (by rw [(O.gcm.encrypt _ _ _ _).2.2]; decide)

theorem applyJweEncryption_ciphertext_ne_nil (hplaintext : plaintext ≠ [])
    (hcarries : O.Carries plaintext)
    (h : applyJweEncryption O rand plaintext aadB64 key out = (true, p)) :
    p.ciphertext ≠ [] := by
  obtain ⟨k, iv, m, rfl, -, hm, rfl⟩ := applyJweEncryption_eq_true h
  obtain rfl : m = plaintext := Option.some.inj (hm.symm.trans (evpUpdate_of_lt hcarries.lt))
  refine ne_nil_of_base64urlDecode (O := O) ?_
  rw [base64urlDecode_encode_of_carries (hcarries.of_length (O.gcm.length_encrypt ..))]
  exact O.gcm.encrypt_ne_nil hplaintext _ _ _

end Payload

end Sepp
