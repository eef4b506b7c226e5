import Sepp.ContextRuns

/-!
# The protected header of a message

`build_reformatted_data` writes one cipher name into every protected header
and encrypts when a key is configured; what was negotiated on N32-c goes
into neither. `header_truthful_iff` says in which states of an application
the header of a message with a body is nevertheless true.
-/

namespace Sepp

/-! ## Declared and applied encryption -/

/-- The members of the protected header. -/
def headerJson (encKey : Str) : Json :=
  .obj [(ascii "alg", .str (if encKey = [] then ascii "dir" else ascii "A128GCMKW")),
    (ascii "enc", .str (ascii "A128GCM")), (ascii "n32fMsgId", .str (ascii "1"))]

theorem writable_headerJson (encKey : Str) : JsonText.writable (headerJson encKey) = true := by
  unfold headerJson
  split
  · decide +kernel
  · decide +kernel

theorem write_headerJson (encKey : Str) :
    JsonText.write (headerJson encKey) = protectedHdr encKey := by
  unfold headerJson protectedHdr
  split
  · decide +kernel
  · decide +kernel

/-- The protected header of the message is a JSON text with this `enc`. -/
def DeclaresEnc (O : OpenSsl) (data : FlatJweJson) (enc : Str) : Prop :=
  ∃ header, JsonText.parse (base64urlDecode O data.rProtected) = .ok header
    ∧ header.find? (ascii "enc") = some (.str enc)

/-- The message is the output of the cipher of that name under the key, over
the body with the message's AAD. The one cipher there is is AES-128-GCM. -/
def Applied (O : OpenSsl) (cipher key body : Str) (data : FlatJweJson) : Prop :=
  cipher = ascii "A128GCM" ∧ ∃ rand, applyJweEncryption O rand body data.aad key {}
    = (true, { iv := data.iv, ciphertext := data.ciphertext, tag := data.tag })

/-- The header names the negotiated cipher, and that cipher was applied. -/
def HeaderTruthful (E : Platform) (s : SeppApp) (body : Str) (data : FlatJweJson) : Prop :=
  DeclaresEnc E.toOpenSsl data s.handshake.selectedJweCipher
    ∧ Applied E.toOpenSsl s.handshake.selectedJweCipher s.forward.encKey body data

section Build

variable {E : Platform} {σ : N32fForward} {rand : Option (Bytes 12)}
  {m p a body ctx : Str} {H : HeaderMap} {data : FlatJweJson}

theorem carries_protectedHdr (encKey : Str) : E.Carries (protectedHdr encKey) := by
  refine carries_of_le ?_
  unfold protectedHdr
  split <;> decide

/-- Whatever was negotiated, the header declares A128GCM. -/
theorem declaresEnc_build_iff
    (h : buildReformattedData E σ rand m p a body ctx H = some data) (enc : Str) :
    DeclaresEnc E.toOpenSsl data enc ↔ enc = ascii "A128GCM" := by
  have hheader : JsonText.parse (base64urlDecode E.toOpenSsl data.rProtected)
      = .ok (headerJson σ.encKey) := by
    rw [(build_frame h).2.2, base64urlDecode_encode_of_carries (carries_protectedHdr σ.encKey),
      ← write_headerJson]
    exact JsonText.parse_write (writable_headerJson σ.encKey)
  have henc : (headerJson σ.encKey).find? (ascii "enc") = some (.str (ascii "A128GCM")) := rfl
  constructor
  · rintro ⟨header, hread, hfind⟩
    obtain rfl := Except.ok.inj (hheader.symm.trans hread)
    exact (Json.str.inj (Option.some.inj (henc.symm.trans hfind))).symm
  · rintro rfl
    exact ⟨headerJson σ.encKey, hheader, henc⟩

/-- A body is encrypted exactly when there is a key. -/
theorem encrypted_build_iff (hbody : body ≠ [])
    (h : buildReformattedData E σ rand m p a body ctx H = some data) :
    (∃ rand', applyJweEncryption E.toOpenSsl rand' body data.aad σ.encKey {}
      = (true, { iv := data.iv, ciphertext := data.ciphertext, tag := data.tag }))
      ↔ σ.encKey ≠ [] := by
  constructor
  · rintro ⟨rand', hencrypted⟩ hnil
    rw [hnil] at hencrypted
    cases hencrypted
  · intro hkey
    rcases build_cases h with ⟨hnil, -⟩ | ⟨-, hnil, -⟩ | ⟨-, -, happly⟩
    · exact absurd hnil hbody
    · exact absurd hnil hkey
    · exact ⟨rand, happly⟩

/-- After any run of a SEPP under PRINS, the header of a message with a body
is true exactly when there is a key and A128GCM was negotiated. -/
theorem header_truthful_iff (cfg : SeppConfig) (encKey : Str) (url : Option Str)
    (es : List AppEvent) (hbody : body ≠ []) :
    let s := (appMachine E cfg).run (SeppApp.fresh (ascii "PRINS") encKey url) es
    buildReformattedData E s.forward rand m p a body ctx H = some data →
      (HeaderTruthful E s body data
        ↔ encKey ≠ [] ∧ s.handshake.selectedJweCipher = ascii "A128GCM") := by
  intro s hbuild
  have hkey : s.forward.encKey = encKey :=
    (run_configured E cfg (SeppApp.fresh (ascii "PRINS") encKey url) es).2.2
  have hdeclares := declaresEnc_build_iff hbuild s.handshake.selectedJweCipher
  have hencrypted := encrypted_build_iff hbody hbuild
  unfold HeaderTruthful Applied
  rw [hdeclares, hencrypted, hkey]
  constructor
  · rintro ⟨hcipher, -, hne⟩
    exact ⟨hne, hcipher⟩
  · rintro ⟨hne, hcipher⟩
    exact ⟨hcipher, hcipher, hne⟩

end Build

/-! ### With a key and without -/

/-- What a SEPP sends as `hello`, posted to the UDM. -/
def sampleHello (σ : N32fForward) : Option FlatJweJson :=
  buildReformattedData Reference.platform σ (some ⟨List.replicate 12 0, rfl⟩)
    Method.POST.name (ascii "/nudm-sdm/v1") (ascii "udm:80") (ascii "hello") (ascii "c1") ∅

def helloKey : Str := ascii "0123456789abcdef"

/-- A partner that offers no suite gets the default one. -/
def helloExchange : AppEvent :=
  .exchangeParams sampleContext (Reference.platform.secParamExchReq.toJson
    { n32fContextId := ascii "c1"
      sender := ascii "sepp"
      jweCipherSuiteList := none
      jwsCipherSuiteList := none
      protectionPolicyInfo := none })

theorem header_truthful_iff_keyed :
    let s := sampleMachine.run (SeppApp.fresh (ascii "PRINS") helloKey (some samplePeer))
      [helloExchange]
    ∃ data, sampleHello s.forward = some data
      ∧ HeaderTruthful Reference.platform s (ascii "hello") data := by
  intro s
  have hsome : (sampleHello s.forward).isSome = true := by decide +kernel
  obtain ⟨data, hdata⟩ := Option.isSome_iff_exists.mp hsome
  exact ⟨data, hdata, (header_truthful_iff Reference.config helloKey (some samplePeer)
    [helloExchange] (List.cons_ne_nil _ _) hdata).mpr ⟨List.cons_ne_nil _ _, rfl⟩⟩

/-- Without a key the body is only encoded, under a header that declares
A128GCM. -/
theorem not_headerTruthful_unkeyed :
    let s := sampleMachine.run sampleStart [sampleNegotiation]
    ∃ data, sampleHello s.forward = some data
      ∧ DeclaresEnc Reference.openSsl data (ascii "A128GCM")
      ∧ ¬ HeaderTruthful Reference.platform s (ascii "hello") data := by
  intro s
  have hs : s = sampleEstablished := next_sampleNegotiation
  rw [hs]
  have hsome : (sampleHello sampleEstablished.forward).isSome = true := by decide +kernel
  obtain ⟨data, hdata⟩ := Option.isSome_iff_exists.mp hsome
  refine ⟨data, hdata, (declaresEnc_build_iff hdata _).mpr rfl, ?_⟩
  rintro ⟨-, -, hencrypted⟩
  exact (encrypted_build_iff (List.cons_ne_nil _ _) hdata).mp hencrypted rfl

end Sepp
