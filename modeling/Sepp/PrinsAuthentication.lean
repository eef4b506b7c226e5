import Sepp.PrinsTransport

/-!
# What a configured key guarantees

Both receive paths check a tag only on messages that carry a nonce, a tag
and a ciphertext. `receivedBody_authentic_iff` is the shared decision;
`authentic_iff` lifts it to the request that is sent to a local NF and to
the answer that is handed to the consumer.
-/

namespace Sepp

/-- The tag of a message verifies over its ciphertext and AAD. -/
def Authentic (E : Platform) (key : Str) (data : FlatJweJson) : Prop :=
  TagVerifies E.toOpenSsl key data.ciphertext data.aad data.iv data.tag

/-- Nonce and tag are there, and either there is a ciphertext, so that the
code verifies the tag, or the tag verifies unasked. An AAD whose length an
`int` does not hold is not what the code verifies the tag over. -/
def TagChecked (E : Platform) (key : Str) (data : FlatJweJson) : Prop :=
  data.iv ≠ [] ∧ data.tag ≠ [] ∧ (data.ciphertext ≠ [] ∨ Authentic E key data)
    ∧ (2147483648 ≤ data.aad.length →
        TagVerifies E.toOpenSsl key data.ciphertext (associated data.aad) data.iv data.tag →
        Authentic E key data)

/-- A message with a key, a nonce, a tag and a ciphertext is decrypted. -/
theorem receivedBody_decrypts {E : Platform} {key : Str} {data : FlatJweJson} (hkey : key ≠ [])
    (hiv : data.iv ≠ []) (htag : data.tag ≠ []) (hc : data.ciphertext ≠ []) :
    (∃ body, receivedBody E key data = some body)
      ↔ TagVerifies E.toOpenSsl key data.ciphertext (associated data.aad) data.iv data.tag := by
  have htrue := @decryptJwePayload_true_iff E.toOpenSsl data.ciphertext data.aad data.iv data.tag
    key []
  rw [receivedBody, if_neg hc, if_pos ⟨hkey, hiv, htag⟩, ← htrue]
  rcases decryptJwePayload E.toOpenSsl data.ciphertext data.aad data.iv data.tag key []
    with ⟨ok, plaintext⟩
  cases ok <;> simp

theorem receivedBody_authentic_iff {E : Platform} {key : Str} (hkey : key ≠ [])
    (data : FlatJweJson) :
    ((∃ body, receivedBody E key data = some body) → Authentic E key data)
      ↔ TagChecked E key data := by
  constructor
  · intro h
    by_cases hc : data.ciphertext = []
    · have hauth : Authentic E key data := h ⟨[], by simp [receivedBody, hc]⟩
      exact ⟨hauth.ne_nil.1, hauth.ne_nil.2, Or.inr hauth, fun _ _ => hauth⟩
    · by_cases hparts : data.iv ≠ [] ∧ data.tag ≠ []
      · rw [receivedBody_decrypts hkey hparts.1 hparts.2 hc] at h
        exact ⟨hparts.1, hparts.2, Or.inl hc, fun _ => h⟩
      · have hplain : receivedBody E key data
            = some (base64urlDecode E.toOpenSsl data.ciphertext) := by
          rw [receivedBody, if_neg hc, if_neg fun hall => hparts hall.2]
        exact absurd (h ⟨_, hplain⟩).ne_nil hparts
  · rintro ⟨hiv, htag, hor, hlong⟩ hbody
    by_cases hc : data.ciphertext = []
    · exact hor.resolve_left (not_not_intro hc)
    · rw [receivedBody_decrypts hkey hiv htag hc] at hbody
      by_cases hshort : data.aad.length < 2147483648
      · rwa [associated_of_lt hshort] at hbody
      · exact hlong (Nat.le_of_not_lt hshort) hbody

/-! ## Answers -/

/-- A success answer that carries a message whose AAD names a status that
can be delivered. -/
def Deliverable (E : Platform) (answer : HttpResponse) (respData : NfHttpResponse)
    (data : FlatJweJson) : Prop :=
  (answer.statusCode = 200 ∨ answer.statusCode = 201)
    ∧ (∃ j, E.parse answer.body = .ok j
        ∧ E.rspMsg.fromJson j = some { reformattedData := data })
    ∧ ∃ t status, parseAad (base64urlDecode E.toOpenSsl data.aad) respData.headers = some t
        ∧ Decimal.stoi isSpace t.method = some status ∧ 100 ≤ status ∧ status ≤ 599

theorem Deliverable.unique {E : Platform} {answer : HttpResponse}
    {respData : NfHttpResponse} {data data' : FlatJweJson}
    (h : Deliverable E answer respData data) (h' : Deliverable E answer respData data') :
    data = data' := by
  obtain ⟨-, ⟨j, hj, hmsg⟩, -⟩ := h
  obtain ⟨-, ⟨j', hj', hmsg'⟩, -⟩ := h'
  rw [hj, Except.ok.injEq] at hj'
  subst hj'
  rw [hmsg, Option.some.injEq] at hmsg'
  exact congrArg N32fReformattedRspMsg.reformattedData hmsg'

theorem readProcessResponse_true_iff {E : Platform} {key : Str} {answer : HttpResponse}
    {respData : NfHttpResponse}
    (hstatus : answer.statusCode = 200 ∨ answer.statusCode = 201) :
    (SeppApp.readProcessResponse E key answer.body respData).1 = true
      ↔ ∃ data, Deliverable E answer respData data
          ∧ ∃ body, receivedBody E key data = some body := by
  unfold SeppApp.readProcessResponse
  constructor
  · intro h
    split at h
    · cases h
    · rename_i j hj
      split at h
      · cases h
      · rename_i rspMsg hmsg
        simp only at h
        split at h
        · cases h
        · rename_i body hbody
          split at h
          · cases h
          · rename_i t ht
            split at h
            · cases h
            · rename_i status hst
              split at h
              · cases h
              · rename_i hrange
                exact ⟨rspMsg.reformattedData, ⟨hstatus, ⟨j, hj, hmsg⟩, t, status, ht, hst,
                  by omega, by omega⟩, body, hbody⟩
  · rintro ⟨data, ⟨-, ⟨j, hj, hmsg⟩, t, status, ht, hst, hlo, hhi⟩, body, hbody⟩
    simp only [hj, hmsg, hbody, ht, hst,
      if_neg (show ¬ (status < 100 ∨ status > 599) by omega)]

/-- The consumer's own request can be wrapped and written. -/
def Sendable (E : Platform) (σ : N32fForward) (rand : Option (Bytes 12))
    (authority path method body : Str) : Prop :=
  ∃ reqBody text, createN32fProcessRequest E σ rand authority path method body = some reqBody
    ∧ E.dump reqBody = .ok text

theorem handleNfServiceRequestPrins_true_iff {E : Platform} {σ : N32fForward} {url : Str}
    {rand : Option (Bytes 12)} {answer : HttpResponse} {authority path method body : Str}
    {respData : NfHttpResponse} :
    (SeppApp.handleNfServiceRequestPrins E σ url rand answer authority path method body
        respData).ret = .ok true
      ↔ Sendable E σ rand authority path method body
        ∧ ∃ data, Deliverable E answer respData data
          ∧ ∃ body, receivedBody E σ.encKey data = some body := by
  unfold SeppApp.handleNfServiceRequestPrins Sendable
  cases hreq : createN32fProcessRequest E σ rand authority path method body with
  | none => simp
  | some reqBody =>
      cases htext : E.dump reqBody with
      | error e => simp [htext]
      | ok text =>
          simp only [Option.some.injEq, htext]
          by_cases hstatus : answer.statusCode = 200 ∨ answer.statusCode = 201
          · rw [if_neg (by omega), ← readProcessResponse_true_iff hstatus]
            simp [htext]
          · rw [if_pos (by omega)]
            constructor
            · intro h
              cases h
            · rintro ⟨-, data, hdel, -⟩
              exact absurd hdel.1 hstatus

/-! ## Both directions -/

/-- With a key configured, a request is sent only for an authentic message
just when every message that gets that far is checked; and an answer is
delivered only for an authentic message just when every deliverable one is
checked. -/
theorem authentic_iff {E : Platform} {cfg : SeppConfig} {σ : N32fForward}
    {rand : Option (Bytes 12)} {nf : HttpRequest → HttpResponse}
    {reqData respJson : Json} {respHeaders : HeaderMap} (url : Str)
    (rand' : Option (Bytes 12)) (answer : HttpResponse) (authority path method body : Str)
    (respData : NfHttpResponse) (hkey : σ.encKey ≠ []) :
    (((handleN32fProcessPost E cfg σ rand nf reqData respJson respHeaders).sent ≠ [] →
        ∃ env, readEnvelope E reqData = .ok (some env) ∧ Authentic E σ.encKey env.data)
      ↔ (validateN32fMessage reqData = true → σ.securityCapability = ascii "PRINS" →
          ∀ env, readEnvelope E reqData = .ok (some env) → TagChecked E σ.encKey env.data))
    ∧ (((SeppApp.handleNfServiceRequestPrins E σ url rand' answer authority path method body
          respData).ret = .ok true →
        ∃ data, Deliverable E answer respData data ∧ Authentic E σ.encKey data)
      ↔ (Sendable E σ rand' authority path method body →
          ∀ data, Deliverable E answer respData data → TagChecked E σ.encKey data)) := by
  constructor
  · constructor
    · intro h hv hcap env henv
      refine (receivedBody_authentic_iff hkey env.data).mp ?_
      rintro ⟨payload, hbody⟩
      have hsent : (handleN32fProcessPost E cfg σ rand nf reqData respJson respHeaders).sent
          ≠ [] := by
        rw [handleN32fProcessPost_of_readable ⟨hv, hcap, henv, hbody⟩, relayToTarget_sent]
        simp
      obtain ⟨env', henv', hauth⟩ := h hsent
      rw [henv] at henv'
      cases henv'
      exact hauth
    · intro h hsent
      by_cases hread : ∃ env payload, Readable E σ reqData env payload
      · obtain ⟨env, payload, hv, hcap, henv, hbody⟩ := hread
        exact ⟨env, henv,
          (receivedBody_authentic_iff hkey env.data).mpr (h hv hcap env henv) ⟨payload, hbody⟩⟩
      · exact absurd (handleN32fProcessPost_of_not_readable fun env payload hr =>
          hread ⟨env, payload, hr⟩).1 hsent
  · rw [handleNfServiceRequestPrins_true_iff]
    constructor
    · intro h hsend data hdel
      refine (receivedBody_authentic_iff hkey data).mp fun hbody => ?_
      obtain ⟨data', hdel', hauth⟩ := h ⟨hsend, data, hdel, hbody⟩
      rwa [hdel.unique hdel']
    · rintro h ⟨hsend, data, hdel, hbody⟩
      exact ⟨data, hdel,
        (receivedBody_authentic_iff hkey data).mpr (h hsend data hdel) hbody⟩

def sampleKey : Str := List.replicate 16 7

/-- A request without a body, and so without nonce and tag. -/
def bareRequest : Json :=
  (createN32fProcessRequest Reference.platform {} none (ascii "udm:80")
    (ascii "/nudm-sdm/v1") Method.DELETE.name []).getD .null

def handledWithKey (reqData : Json) : Handled :=
  handleN32fProcessPost Reference.platform Reference.config { encKey := sampleKey } none
    (Reference.nf 204 []) reqData .null ∅

set_option maxRecDepth 4000 in
theorem authentic_iff_bareRequest :
    ¬ ((handledWithKey bareRequest).sent ≠ [] →
      ∃ env, readEnvelope Reference.platform bareRequest = .ok (some env)
        ∧ Authentic Reference.platform sampleKey env.data) := by
  intro h
  have hkey : ({ encKey := sampleKey } : N32fForward).encKey ≠ [] := by decide
  have hchecked := (authentic_iff [] none { statusCode := 0, headers := ∅, body := [] }
    [] [] [] [] {} hkey).1.mp h rfl rfl _ rfl
  exact hchecked.1 rfl

set_option maxRecDepth 4000 in
/-- The bare request is sent on by a SEPP with a key. -/
theorem sent_bareRequest :
    (handledWithKey bareRequest).sent ≠ []
      ∧ ∀ env, readEnvelope Reference.platform bareRequest = .ok (some env) →
          ¬ Authentic Reference.platform sampleKey env.data := by
  constructor
  · exact List.cons_ne_nil _ _
  · intro env henv hauth
    obtain rfl := Option.some.inj (Except.ok.inj henv)
    exact hauth.ne_nil.1 rfl

end Sepp
