import Sepp.JsonText
import Sepp.N32fForward

/-!
# A reference platform

Concrete instances of everything the SEPP calls outside this repository,
for runs on concrete messages: Base 64 and JSON as in `Base64` and
`JsonText`, the message models with the member names of their OpenAPI
documents, and an AEAD that keeps every law but the secrecy, which no
result here is about.
-/

namespace Sepp

namespace Reference

/-! ## Models -/

def strMember (j : Json) (key : Str) : Option Str :=
  match j.find? key with
  | some (.str s) => some s
  | _ => none

def boolMember (j : Json) (key : Str) : Option Bool :=
  match j.find? key with
  | some (.bool b) => some b
  | _ => none

def arrMember (j : Json) (key : Str) : Option (List Json) :=
  match j.find? key with
  | some (.arr items) => some items
  | _ => none

def strsMember (j : Json) (key : Str) : Option (List Str) :=
  (arrMember j key).map fun items => items.filterMap fun
    | .str s => some s
    | _ => none

/-- A member that is only written when it was set. -/
def optional {α : Type} (key : Str) (write : α → Json) (v : Option α) : List (Str × Json) :=
  v.toList.map fun a => (key, write a)

def strs (l : List Str) : Json := .arr (l.map .str)

def contextInfo : JsonModel N32fContextInfo where
  toJson m := .obj [(ascii "n32fContextId", .str m.n32fContextId)]
  fromJson j := (strMember j (ascii "n32fContextId")).map fun s => { n32fContextId := s }
  fromJson_toJson _ := rfl
  isObject_toJson _ := rfl

def unlessEmpty (s : Str) : Option Str := if s = [] then none else some s

theorem unlessEmpty_getD (s : Str) : (unlessEmpty s).getD [] = s := by
  unfold unlessEmpty
  split
  · rename_i h
    exact h.symm
  · rfl

def flatToJson (m : FlatJweJson) : Json :=
  .obj ([(ascii "aad", .str m.aad), (ascii "ciphertext", .str m.ciphertext)]
    ++ optional (ascii "iv") .str (unlessEmpty m.iv)
    ++ [(ascii "protected", .str m.rProtected)]
    ++ optional (ascii "tag") .str (unlessEmpty m.tag)
    ++ [(ascii "unprotected", m.unprotected)])

def flatFromJson (j : Json) : Option FlatJweJson :=
  (strMember j (ascii "ciphertext")).map fun ciphertext =>
    { rProtected := (strMember j (ascii "protected")).getD []
      unprotected := (j.find? (ascii "unprotected")).getD .null
      aad := (strMember j (ascii "aad")).getD []
      ciphertext
      iv := (strMember j (ascii "iv")).getD []
      tag := (strMember j (ascii "tag")).getD [] }

theorem flatFromJson_toJson (m : FlatJweJson) : flatFromJson (flatToJson m) = some m := by
  have hread : flatFromJson (flatToJson m) = some
      { m with iv := (unlessEmpty m.iv).getD [], tag := (unlessEmpty m.tag).getD [] } := by
    unfold flatToJson
    cases unlessEmpty m.iv <;> cases unlessEmpty m.tag <;> rfl
  rw [hread, unlessEmpty_getD, unlessEmpty_getD]

def reformattedToJson (m : FlatJweJson) : Json :=
  .obj [(ascii "reformattedData", flatToJson m)]

def reformattedFromJson (j : Json) : Option FlatJweJson :=
  (j.find? (ascii "reformattedData")).bind flatFromJson

theorem reformattedFromJson_toJson (m : FlatJweJson) :
    reformattedFromJson (reformattedToJson m) = some m := flatFromJson_toJson m

theorem printable_of_isBase64url {s : Str} (h : isBase64url s = true) :
    JsonText.printable s = true := by
  have hchar : ∀ c, isBase64urlChar c = true → 32 ≤ c.toNat ∧ c.toNat ≤ 126 := by
    intro c hc
    simp only [isBase64urlChar, Bool.or_eq_true, Bool.and_eq_true, decide_eq_true_eq,
      beq_iff_eq] at hc
    omega
  obtain ⟨hall, -⟩ := Bool.and_eq_true_iff.mp h
  exact List.all_eq_true.mpr fun c hc =>
    decide_eq_true (hchar c (List.all_eq_true.mp hall c hc))

/-- A message without a nonce and a tag can be written when its parts can. -/
theorem writable_reformatted {m : FlatJweJson} (hprotected : JsonText.printable m.rProtected = true)
    (haad : JsonText.printable m.aad = true) (hciphertext : JsonText.printable m.ciphertext = true)
    (hun : JsonText.writable m.unprotected = true) (hiv : m.iv = []) (htag : m.tag = []) :
    JsonText.writable (reformattedToJson m) = true := by
  have hkeys : ∀ k ∈ [ascii "reformattedData", ascii "aad", ascii "ciphertext",
      ascii "protected", ascii "unprotected"], JsonText.printable k = true := by decide
  simp only [List.forall_mem_cons] at hkeys
  simp [reformattedToJson, flatToJson, optional, unlessEmpty, hiv, htag, JsonText.writable,
    JsonText.writableMembers, hprotected, haad, hciphertext, hun, hkeys]

def reqMsg : JsonModel N32fReformattedReqMsg where
  toJson m := reformattedToJson m.reformattedData
  fromJson j := (reformattedFromJson j).map fun data => { reformattedData := data }
  fromJson_toJson m := by rw [reformattedFromJson_toJson]; rfl
  isObject_toJson _ := rfl

def rspMsg : JsonModel N32fReformattedRspMsg where
  toJson m := reformattedToJson m.reformattedData
  fromJson j := (reformattedFromJson j).map fun data => { reformattedData := data }
  fromJson_toJson m := by rw [reformattedFromJson_toJson]; rfl
  isObject_toJson _ := rfl

def secNegotiateReq : JsonModel SecNegotiateReqData where
  toJson m := .obj (optional (ascii "3GppSbiTargetApiRootSupported") .bool
      m.r3GppSbiTargetApiRootSupported
    ++ [(ascii "intendedUsagePurpose", .arr m.intendedUsagePurpose),
      (ascii "sender", .str m.sender)])
  fromJson j := (strMember j (ascii "sender")).map fun sender =>
    { sender
      r3GppSbiTargetApiRootSupported := boolMember j (ascii "3GppSbiTargetApiRootSupported")
      intendedUsagePurpose := (arrMember j (ascii "intendedUsagePurpose")).getD [] }
  fromJson_toJson m := by
    obtain ⟨sender, supported, purposes⟩ := m
    cases supported <;> rfl
  isObject_toJson _ := rfl

def secParamExchReq : JsonModel SecParamExchReqData where
  toJson m := .obj (optional (ascii "jweCipherSuiteList") strs m.jweCipherSuiteList
    ++ optional (ascii "jwsCipherSuiteList") strs m.jwsCipherSuiteList
    ++ [(ascii "n32fContextId", .str m.n32fContextId)]
    ++ optional (ascii "protectionPolicyInfo") id m.protectionPolicyInfo
    ++ [(ascii "sender", .str m.sender)])
  fromJson j := (strMember j (ascii "n32fContextId")).map fun n32fContextId =>
    { n32fContextId
      sender := (strMember j (ascii "sender")).getD []
      jweCipherSuiteList := strsMember j (ascii "jweCipherSuiteList")
      jwsCipherSuiteList := strsMember j (ascii "jwsCipherSuiteList")
      protectionPolicyInfo := j.find? (ascii "protectionPolicyInfo") }
  fromJson_toJson m := by
    obtain ⟨id, sender, jwe, jws, policy⟩ := m
    have hjwe : jwe = jwe.map fun l => (l.map Json.str).filterMap fun
        | .str s => some s
        | _ => none := by
      cases jwe <;> simp
    have hjws : jws = jws.map fun l => (l.map Json.str).filterMap fun
        | .str s => some s
        | _ => none := by
      cases jws <;> simp
    conv => rhs; rw [hjwe, hjws]
    cases jwe <;> cases jws <;> cases policy <;> rfl
  isObject_toJson _ := rfl

def secParamExchRsp : JsonModel SecParamExchRspData where
  toJson m := .obj ([(ascii "n32fContextId", .str m.n32fContextId)]
    ++ optional (ascii "selProtectionPolicyInfo") id m.selProtectionPolicyInfo
    ++ optional (ascii "selectedJweCipherSuite") .str m.selectedJweCipherSuite
    ++ optional (ascii "selectedJwsCipherSuite") .str m.selectedJwsCipherSuite
    ++ [(ascii "sender", .str m.sender)])
  fromJson j := (strMember j (ascii "n32fContextId")).map fun n32fContextId =>
    { n32fContextId
      sender := (strMember j (ascii "sender")).getD []
      selectedJweCipherSuite := strMember j (ascii "selectedJweCipherSuite")
      selectedJwsCipherSuite := strMember j (ascii "selectedJwsCipherSuite")
      selProtectionPolicyInfo := j.find? (ascii "selProtectionPolicyInfo") }
  fromJson_toJson m := by
    obtain ⟨id, sender, jwe, jws, policy⟩ := m
    cases jwe <;> cases jws <;> cases policy <;> rfl
  isObject_toJson _ := rfl

/-! ## Cryptography -/

def zeroTag : Bytes 16 := ⟨List.replicate 16 0, rfl⟩

/-- The cipher that leaves the text as it is and has one tag. -/
def gcm : Aead (Bytes 16) (Bytes 12) (Bytes 16) UInt8 where
  encrypt _ _ _ m := (m, zeroTag)
  decrypt _ _ _ c t := if t = zeroTag then some c else none
  decrypt_encrypt _ _ _ _ := if_pos rfl
  encrypt_of_decrypt _ _ _ c t m h := by
    split at h
    · rename_i ht
      cases h
      rw [ht]
    · cases h
  length_encrypt _ _ _ _ := rfl

/-- A memory BIO does not grow any further at this many bytes, and what it
holds then are the filter's whole blocks of 1023 bytes. -/
def bioLimit : Nat := 1582362078

def openSsl : OpenSsl where
  written n := if n < bioLimit then n else bioLimit - 1023
  written_le n := by
    unfold bioLimit
    split <;> omega
  written_block n := by
    unfold bioLimit
    split <;> omega
  bioRead buf len dlen := (Base64.decode (buf.take len.toNat)).map fun out => out.take dlen.toNat
  bioRead_encode s _ := by
    have hlength : (Base64.encode s).length = paddedLength s.length := Base64.length_encode s
    rw [← hlength, Int.toNat_natCast, List.take_length, Base64.decode_encode, Option.map_some,
      List.take_of_length_le (Base64.length_decode_le (Base64.decode_encode s))]
  bioRead_length buf len dlen out h := by
    obtain ⟨bytes, -, rfl⟩ := Option.map_eq_some_iff.mp h
    rw [List.length_take]
    omega
  gcm := gcm

/-! ## The platform -/

def platform : Platform where
  toOpenSsl := openSsl
  toJsonLib := JsonText.lib
  contextInfo := contextInfo
  reqMsg := reqMsg
  rspMsg := rspMsg
  secNegotiateReq := secNegotiateReq
  secParamExchReq := secParamExchReq
  secParamExchRsp := secParamExchRsp
  validateSecNegotiateReq _ := true
  jsonHeaders := (∅ : HeaderMap).insert (ascii "content-type") (ascii "application/json")

theorem dump_of_writable {j : Json} (hj : JsonText.writable j = true) :
    platform.dump j = .ok (JsonText.write j) := JsonText.dump_of_writable hj

theorem parse_write {j : Json} (hj : JsonText.writable j = true) :
    platform.parse (JsonText.write j) = .ok j := JsonText.parse_write hj

/-- A SEPP without TLS on its own side. -/
def config : SeppConfig where
  nrfUrl := ascii "http://nrf:80"
  nbiUrl := ascii "http://sepp:8080"
  tlsEnabled := false

/-- A network function that gives one answer to every request. -/
def nf (statusCode : Int) (body : Str) : HttpRequest → HttpResponse :=
  fun _ => { statusCode, headers := ∅, body }

end Reference

end Sepp
