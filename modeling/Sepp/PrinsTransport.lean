import Sepp.N32fAadCut
import Sepp.JoseLimits
import Sepp.SeppApp

/-!
# Transport under PRINS

Which requests the consumer's SEPP wraps are sent to the local NF by the
producer's SEPP as they were (`sent_request_iff`), and which of the NF's
answers reach the consumer with their status, body and kept headers
(`answer_transported_iff`). Both are a matter of length: what base64url
carries whole is transported.

Both directions go through one message format. `build_reformatted_data`
and the two receive paths meet in `receivedBody_build_iff`: as long as both
ends hold the same key, the body a message was built from is the body
received if it is empty or base64url carries it.
-/

namespace Sepp

section Messages

variable {E : Platform} {σ : N32fForward} {rand : Option (Bytes 12)}
  {m p a body ctx : Str} {H : HeaderMap} {data : FlatJweJson}

/-- What a message was built of. -/
theorem build_cases (h : buildReformattedData E σ rand m p a body ctx H = some data) :
    (body = [] ∧ data.ciphertext = [])
    ∨ (body ≠ [] ∧ σ.encKey = [] ∧ data.ciphertext = base64urlEncode E.toOpenSsl body)
    ∨ body ≠ [] ∧ σ.encKey ≠ []
        ∧ applyJweEncryption E.toOpenSsl rand body data.aad σ.encKey {}
            = (true, { iv := data.iv, ciphertext := data.ciphertext, tag := data.tag }) := by
  simp only [buildReformattedData] at h
  split at h
  · rename_i hbody
    obtain rfl := Option.some.inj h
    exact Or.inl ⟨hbody, rfl⟩
  · rename_i hbody
    split at h
    · rename_i hkey
      split at h
      · rename_i hok
        obtain rfl := Option.some.inj h
        exact Or.inr (Or.inr ⟨hbody, hkey, Prod.ext hok rfl⟩)
      · cases h
    · rename_i hkey
      obtain rfl := Option.some.inj h
      exact Or.inr (Or.inl ⟨hbody, not_not.mp hkey, rfl⟩)

/-- The members of a message that do not depend on the body. -/
theorem build_frame (h : buildReformattedData E σ rand m p a body ctx H = some data) :
    data.aad = base64urlEncode E.toOpenSsl (aadRaw m p a H)
      ∧ data.unprotected = E.contextInfo.toJson { n32fContextId := ctx }
      ∧ data.rProtected = base64urlEncode E.toOpenSsl (protectedHdr σ.encKey) := by
  simp only [buildReformattedData] at h
  split at h
  · obtain rfl := Option.some.inj h
    exact ⟨rfl, rfl, rfl⟩
  · split at h
    · split at h
      · obtain rfl := Option.some.inj h
        exact ⟨rfl, rfl, rfl⟩
      · cases h
    · obtain rfl := Option.some.inj h
      exact ⟨rfl, rfl, rfl⟩

/-- The AAD text that arrives. -/
theorem decodedAad_of_build (h : buildReformattedData E σ rand m p a body ctx H = some data) :
    base64urlDecode E.toOpenSsl data.aad
      = (aadRaw m p a H).take (E.carried (aadRaw m p a H).length) := by
  rw [(build_frame h).1, base64urlDecode_encode]

/-- The body a message was built from is the body received, unless it was too
long. -/
theorem receivedBody_build_iff
    (h : buildReformattedData E σ rand m p a body ctx H = some data) :
    receivedBody E σ.encKey data = some body ↔ body = [] ∨ E.Carries body := by
  rcases build_cases h with ⟨rfl, hc⟩ | ⟨hbody, hkey, hc⟩ | ⟨hbody, hkey, happly⟩
  · simp [receivedBody, hc]
  · rw [or_iff_right hbody, receivedBody]
    by_cases hnil : data.ciphertext = []
    · rw [if_pos hnil]
      refine iff_of_false (fun hsame => hbody (Option.some.inj hsame).symm) fun hcarries => ?_
      have hback := base64urlDecode_encode_of_carries hcarries
      rw [← hc, hnil, base64urlDecode_nil] at hback
      exact hbody hback.symm
    · rw [if_neg hnil, if_neg fun hall => hall.1 hkey, Option.some.injEq, hc,
        base64urlDecode_encode_iff]
  · obtain ⟨hiv, htag⟩ := applyJweEncryption_ne_nil happly
    rw [or_iff_right hbody, ← decrypt_applyJweEncryption_iff [] happly, receivedBody]
    by_cases hnil : data.ciphertext = []
    · rw [if_pos hnil]
      refine iff_of_false (fun hsame => hbody (Option.some.inj hsame).symm) fun hdecrypt => ?_
      have hcarries := (decrypt_applyJweEncryption_iff [] happly).mp hdecrypt
      exact applyJweEncryption_ciphertext_ne_nil hbody hcarries happly hnil
    · rw [if_neg hnil, if_pos ⟨hkey, hiv, htag⟩]
      rcases decryptJwePayload E.toOpenSsl data.ciphertext data.aad data.iv data.tag σ.encKey []
        with ⟨ok, plaintext⟩
      cases ok <;> simp

/-- The envelope of a message with a context id and a readable AAD. -/
theorem readEnvelope_toJson {t : ParsedAad} (hctx : ctx ≠ [])
    (hun : data.unprotected = E.contextInfo.toJson { n32fContextId := ctx })
    (haad : parseAad (base64urlDecode E.toOpenSsl data.aad) ∅ = some t) :
    readEnvelope E (E.reqMsg.toJson { reformattedData := data })
      = .ok (some { data, contextId := ctx, target := t }) := by
  have hid : extractContextId E (E.reqMsg.toJson { reformattedData := data }) data
      = .ok ctx := by
    simp [extractContextId, hun, E.contextInfo.isObject_toJson,
      E.contextInfo.fromJson_toJson, hctx, bind, Except.bind]
  simp only [readEnvelope, E.reqMsg.fromJson_toJson, hid, if_neg hctx, haad,
    Option.map_some]

/-- The target in an envelope was read from an AAD. -/
theorem readEnvelope_target {reqData : Json} {env : Envelope}
    (h : readEnvelope E reqData = .ok (some env)) : ∃ s, parseAad s ∅ = some env.target := by
  unfold readEnvelope at h
  split at h
  · cases h
  · simp only at h
    split at h
    · cases h
    · split at h
      · cases h
      · simp only [Except.ok.injEq, Option.map_eq_some_iff] at h
        obtain ⟨t, ht, rfl⟩ := h
        exact ⟨_, ht⟩

end Messages

/-! ## What the producer's SEPP does with a message -/

section Process

variable {E : Platform} {cfg : SeppConfig} {σ : N32fForward} {rand : Option (Bytes 12)}
  {nf : HttpRequest → HttpResponse} {reqData respData : Json} {respHeaders : HeaderMap}

theorem validateN32fMessage_iff {j : Json} :
    validateN32fMessage j = true ↔ j.isObject = true := by
  cases j <;> rfl

/-- A message under PRINS whose envelope and body can be read. -/
def Readable (E : Platform) (σ : N32fForward) (reqData : Json) (env : Envelope)
    (body : Str) : Prop :=
  validateN32fMessage reqData = true ∧ σ.securityCapability = ascii "PRINS"
    ∧ readEnvelope E reqData = .ok (some env) ∧ receivedBody E σ.encKey env.data = some body

/-- The request sent to the local NF for a message. -/
def processRequest (E : Platform) (cfg : SeppConfig) (env : Envelope) (body : Str) :
    HttpRequest :=
  targetRequest E cfg env.target.authority env.target.path env.target.method body
    env.target.headers

/-- The message that carries the NF's answer back. -/
def processAnswer (E : Platform) (σ : N32fForward) (rand : Option (Bytes 12))
    (env : Envelope) (answer : HttpResponse) : Option FlatJweJson :=
  buildReformattedData E σ rand (Decimal.toText answer.statusCode) env.target.path
    env.target.authority answer.body env.contextId (keptOf answer.headers)

theorem handleN32fProcessPost_of_readable {env : Envelope} {body : Str}
    (h : Readable E σ reqData env body) :
    handleN32fProcessPost E cfg σ rand nf reqData respData respHeaders
      = relayToTarget E cfg σ rand nf env body respData respHeaders := by
  obtain ⟨hv, hcap, henv, hbody⟩ := h
  simp only [handleN32fProcessPost, hv, Bool.not_true, Bool.false_eq_true, if_false,
    if_neg (not_not_intro hcap), henv, hbody]

/-- Nothing is sent for a message that cannot be read. -/
theorem handleN32fProcessPost_of_not_readable
    (h : ∀ env body, ¬ Readable E σ reqData env body) :
    (handleN32fProcessPost E cfg σ rand nf reqData respData respHeaders).sent = []
      ∧ (handleN32fProcessPost E cfg σ rand nf reqData respData respHeaders).ret
          ≠ .ok true := by
  unfold handleN32fProcessPost
  split
  · simp
  · rename_i hv
    split
    · simp
    · rename_i hcap
      split
      · simp
      · simp
      · rename_i env henv
        split
        · simp
        · rename_i body hbody
          exact absurd ⟨by simpa using hv, not_not.mp hcap, henv, hbody⟩ (h env body)

theorem relayToTarget_sent (env : Envelope) (body : Str) :
    (relayToTarget E cfg σ rand nf env body respData respHeaders).sent
      = [processRequest E cfg env body] := by
  simp only [relayToTarget, sendHttpRequestToTarget]
  split
  · rfl
  · split <;> rfl

/-- The NF answered, and its answer is on its way. -/
theorem relayToTarget_accepted {env : Envelope} {body : Str}
    (h : (relayToTarget E cfg σ rand nf env body respData respHeaders).ret = .ok true) :
    ∃ data, processAnswer E σ rand env (nf (processRequest E cfg env body)) = some data
      ∧ (relayToTarget E cfg σ rand nf env body respData respHeaders).respData
          = E.rspMsg.toJson { reformattedData := data } := by
  simp only [relayToTarget, sendHttpRequestToTarget] at h ⊢
  split at h
  · cases h
  · rename_i json raw hraw
    split at hraw
    · cases hraw
    · rename_i hst
      obtain ⟨-, rfl⟩ : _ ∧ _ = raw := by simpa using hraw
      split at h
      · cases h
      · rename_i data hdata
        exact ⟨data, hdata, rfl⟩

theorem relayToTarget_of_answer {env : Envelope} {body : Str} {data : FlatJweJson}
    (hstatus : (nf (processRequest E cfg env body)).statusCode ≠ 0)
    (hdata : processAnswer E σ rand env (nf (processRequest E cfg env body)) = some data) :
    (relayToTarget E cfg σ rand nf env body respData respHeaders).ret = .ok true
      ∧ (relayToTarget E cfg σ rand nf env body respData respHeaders).respData
          = E.rspMsg.toJson { reformattedData := data } := by
  unfold processRequest at hstatus hdata
  unfold processAnswer at hdata
  simp only [relayToTarget, sendHttpRequestToTarget, if_neg hstatus, hdata, and_self]

end Process

/-! ## Requests -/

theorem targetRequest_target (E : Platform) (cfg : SeppConfig)
    (authority path methodStr payload : Str) (headers : HeaderMap) :
    (targetRequest E cfg authority path methodStr payload headers).uri
        = targetEndpoint cfg authority headers ++ path
      ∧ (targetRequest E cfg authority path methodStr payload headers).body = payload := by
  by_cases hpayload : payload = []
  · simp [targetRequest, hpayload]
  · simp [targetRequest, hpayload, prepareJsonRequest]

/-- The request sent where an AAD brings no header but the authority's. -/
theorem targetRequest_of_names (E : Platform) (cfg : SeppConfig) (method : Method)
    (a path body : Str) {headers : HeaderMap}
    (hnames : ∀ k ∈ headers, k = authorityName ∨ k = targetApiRoot) :
    targetRequest E cfg a path method.name body headers =
      { method
        uri := targetEndpoint cfg a headers ++ path
        headers := if body = [] then ∅ else E.jsonHeaders
        body } := by
  have hnone : forwardedHeaders headers = [] := by
    refine List.filter_eq_nil_iff.mpr fun e he => ?_
    have hk : e.1 ∈ headers := List.mem_map_of_mem he
    rcases hnames e.1 hk with hk | hk <;> simp [hk]
  by_cases hbody : body = []
  · simp only [targetRequest, hnone, Method.ofName_name, hbody, ne_eq, not_true_eq_false,
      if_false, if_true, HeaderMap.insertAll_nil]
  · simp only [targetRequest, hnone, Method.ofName_name, hbody, ne_eq, not_false_eq_true,
      if_false, if_true, prepareJsonRequest, HeaderMap.insertAll_nil]

/-- The request sent for the target and headers of a whole AAD. -/
theorem targetRequest_honest (E : Platform) (cfg : SeppConfig) (method : Method)
    (a path body : Str) :
    targetRequest E cfg a path method.name body
        (((∅ : HeaderMap).insert authorityName a).insert targetApiRoot (forcePlainHttp a)) =
      { method
        uri := forcePlainHttp a ++ path
        headers := if body = [] then ∅ else E.jsonHeaders
        body } := by
  have hnames : ∀ k ∈ ((∅ : HeaderMap).insert authorityName a).insert targetApiRoot
      (forcePlainHttp a), k = authorityName ∨ k = targetApiRoot := by
    intro k hk
    simp only [AList.mem_insert, AList.notMem_empty, or_false] at hk
    exact hk.symm
  rw [targetRequest_of_names E cfg method a path body hnames, targetEndpoint_eq]
  simp only [AList.lookup_insert, Option.getD_some, forcePlainHttp_ne_nil, if_false,
    forcePlainHttp_idem]

/-- What the consumer's SEPP puts on the wire. -/
theorem createN32fProcessRequest_prins {E : Platform} {σ : N32fForward}
    {rand : Option (Bytes 12)} {a p m body : Str} {msg : Json}
    (hcap : σ.securityCapability = ascii "PRINS")
    (h : createN32fProcessRequest E σ rand a p m body = some msg) :
    ∃ ctx data, ctx ≠ [] ∧ (σ.n32fContextId ≠ [] → ctx = σ.n32fContextId)
      ∧ buildReformattedData E σ rand m p a body ctx ∅ = some data
      ∧ msg = E.reqMsg.toJson { reformattedData := data } := by
  unfold createN32fProcessRequest at h
  rw [if_neg (by rw [hcap]; decide)] at h
  obtain ⟨data, hdata, rfl⟩ := Option.map_eq_some_iff.mp h
  refine ⟨_, data, ?_, ?_, hdata, rfl⟩
  · split
    · decide
    · assumption
  · exact fun hne => if_neg hne

/-- What base64url carries of the AAD names the host of the request. -/
def HostArrives (O : OpenSsl) (method path authority : Str) : Prop :=
  let host := cutHost method path authority
    (O.carried (aadRaw method path authority ∅).length)
  host ≠ [] ∧ forcePlainHttp host = forcePlainHttp authority

/-- The whole AAD does. -/
theorem HostArrives.of_carries {O : OpenSsl} {method path authority : Str}
    (hauth : authority ≠ []) (h : O.Carries (aadRaw method path authority ∅)) :
    HostArrives O method path authority := by
  have hlength := length_headerLine targetApiRoot (forcePlainHttp authority)
  have htarget : cutTarget method path authority (O.carried (aadRaw method path authority ∅).length)
      = forcePlainHttp authority := by
    refine cutValue_of_le ?_
    rw [show O.carried _ = _ from h, aadRaw, show responseHeaderLines ∅ = [] from rfl,
      List.append_nil, authorityLines, if_neg hauth]
    simp only [List.length_append]
    omega
  unfold HostArrives cutHost
  dsimp only
  rw [htarget, if_neg (forcePlainHttp_ne_nil authority)]
  exact ⟨forcePlainHttp_ne_nil authority, forcePlainHttp_idem authority⟩

section Sent

variable {E : Platform} {cfg : SeppConfig} {τ : N32fForward} {rand' : Option (Bytes 12)}
  {nf : HttpRequest → HttpResponse} {respData : Json} {respHeaders : HeaderMap}
  {data : FlatJweJson} {ctx : Str}

/-- What is sent for a message in a context. -/
theorem sent_of_message (hτ : τ.securityCapability = ascii "PRINS") (hctx : ctx ≠ [])
    (hun : data.unprotected = E.contextInfo.toJson { n32fContextId := ctx })
    {t : ParsedAad} (haad : parseAad (base64urlDecode E.toOpenSsl data.aad) ∅ = some t)
    {payload : Str} (hbody : receivedBody E τ.encKey data = some payload) :
    (handleN32fProcessPost E cfg τ rand' nf (E.reqMsg.toJson { reformattedData := data })
      respData respHeaders).sent
      = [targetRequest E cfg t.authority t.path t.method payload t.headers] := by
  have hread : Readable E τ (E.reqMsg.toJson { reformattedData := data })
      { data, contextId := ctx, target := t } payload :=
    ⟨validateN32fMessage_iff.mpr (E.reqMsg.isObject_toJson _), hτ,
      readEnvelope_toJson hctx hun haad, hbody⟩
  rw [handleN32fProcessPost_of_readable hread, relayToTarget_sent, processRequest]

/-- Nothing is sent unless AAD and body can be read. -/
theorem message_of_sent (h : (handleN32fProcessPost E cfg τ rand' nf
      (E.reqMsg.toJson { reformattedData := data }) respData respHeaders).sent ≠ []) :
    (∃ t, parseAad (base64urlDecode E.toOpenSsl data.aad) ∅ = some t)
      ∧ ∃ payload, receivedBody E τ.encKey data = some payload := by
  by_contra hno
  refine h (handleN32fProcessPost_of_not_readable fun env payload hread => hno ?_).1
  obtain ⟨-, -, henv, hbody⟩ := hread
  unfold readEnvelope at henv
  rw [E.reqMsg.fromJson_toJson] at henv
  dsimp only at henv
  split at henv
  · cases henv
  · split at henv
    · cases henv
    · obtain ⟨t, ht, rfl⟩ := Option.map_eq_some_iff.mp (Except.ok.inj henv)
      exact ⟨⟨t, ht⟩, payload, hbody⟩

end Sent

/-- Two NRFs a SEPP may be configured with. -/
theorem nrfUrl_irrelevant {path uri : Str}
    (h : ∀ cfg : SeppConfig, forcePlainHttp cfg.nrfUrl ++ path = uri) : False := by
  have hnone := h { nrfUrl := [], nbiUrl := [], tlsEnabled := false }
  have hone := h { nrfUrl := ascii "x", nbiUrl := [], tlsEnabled := false }
  have hsame := List.append_cancel_right (hnone.trans hone.symm)
  exact absurd hsame (by decide)

/-- A request wrapped by one SEPP is sent to the local NF by the other, once
and as it was, whatever NRF that one has, exactly when base64url carries the
body and as much of the AAD as names the host. Nothing of the AAD becomes a
header. -/
theorem sent_request_iff {E : Platform} {σ τ : N32fForward} {rand : Option (Bytes 12)}
    {method : Method} {path authority body : Str} {msg : Json}
    (hσ : σ.securityCapability = ascii "PRINS") (hτ : τ.securityCapability = ascii "PRINS")
    (hkey : τ.encKey = σ.encKey) (hpath : path ≠ [])
    (hblank : ∀ c ∈ path, isSpace c = false) (hauth : authority ≠ [])
    (hline : noCrLf authority = true)
    (hmsg : createN32fProcessRequest E σ rand authority path method.name body = some msg) :
    (∀ (cfg : SeppConfig) (rand' : Option (Bytes 12)) (nf : HttpRequest → HttpResponse)
        (respData : Json) (respHeaders : HeaderMap),
      (handleN32fProcessPost E cfg τ rand' nf msg respData respHeaders).sent =
        [{ method
           uri := forcePlainHttp authority ++ path
           headers := if body = [] then ∅ else E.jsonHeaders
           body }])
      ↔ HostArrives E.toOpenSsl method.name path authority ∧ (body = [] ∨ E.Carries body) := by
  obtain ⟨ctx, data, hctx, -, hdata, rfl⟩ := createN32fProcessRequest_prins hσ hmsg
  obtain ⟨-, hun, -⟩ := build_frame hdata
  have haad := decodedAad_of_build hdata
  have hbody := receivedBody_build_iff hdata
  have hread := fun {n : ℕ} (hn : 0 < n) =>
    parseAad_aadRaw_take method.name_ne_nil method.not_space_of_mem_name hpath hblank hauth
      hline hn
  unfold HostArrives
  rw [← hkey] at hbody
  dsimp only
  generalize E.carried (aadRaw method.name path authority ∅).length = n at haad ⊢
  constructor
  · intro h
    have hsent := fun cfg : SeppConfig => h cfg none (Reference.nf 200 []) .null ∅
    have hsome := hsent Reference.config ▸ List.cons_ne_nil _ []
    obtain ⟨⟨t, ht⟩, payload, hpayload⟩ := message_of_sent hsome
    have hn : 0 < n := by
      refine Nat.pos_of_ne_zero ?_
      rintro rfl
      rw [haad, List.take_zero] at ht
      cases ht
    obtain ⟨t', ht', hnamed, hnames, hhost⟩ := hread hn
    obtain rfl : t' = t := by
      rw [haad] at ht
      exact Option.some.inj (ht'.symm.trans ht)
    have hsame := fun cfg : SeppConfig => List.singleton_inj.mp
      ((sent_of_message hτ hctx hun ht hpayload).symm.trans (hsent cfg))
    have huri : ∀ cfg : SeppConfig, forcePlainHttp (if cutHost method.name path authority n = []
        then cfg.nrfUrl else cutHost method.name path authority n) ++ t'.path
          = forcePlainHttp authority ++ path := by
      intro cfg
      rw [← hhost cfg, ← (targetRequest_target E cfg t'.authority t'.path t'.method payload
        t'.headers).1]
      exact congrArg HttpRequest.uri (hsame cfg)
    have hhere : cutHost method.name path authority n ≠ [] := by
      intro hnil
      simp only [hnil, if_true] at huri
      exact nrfUrl_irrelevant huri
    refine ⟨⟨hhere, ?_⟩, ?_⟩
    · have huri := huri Reference.config
      rw [(hnamed hhere).2, if_neg hhere] at huri
      exact List.append_cancel_right huri
    · have hsent := congrArg HttpRequest.body (hsame Reference.config)
      rw [(targetRequest_target ..).2] at hsent
      obtain rfl : payload = body := hsent
      exact hbody.mp hpayload
  · rintro ⟨⟨hhere, hsame⟩, hcarries⟩ cfg rand' nf respData respHeaders
    have hn : 0 < n := by
      refine Nat.pos_of_ne_zero ?_
      rintro rfl
      exact hhere (cutHost_zero ..)
    obtain ⟨t, ht, hnamed, hnames, hhost⟩ := hread hn
    obtain ⟨hmethod, htpath⟩ := hnamed hhere
    rw [sent_of_message hτ hctx hun (by rw [haad]; exact ht) (hbody.mpr hcarries), hmethod,
      htpath, targetRequest_of_names E cfg method t.authority path body hnames, hhost cfg,
      if_neg hhere, hsame]

def sampleRequest : Json :=
  (createN32fProcessRequest Reference.platform {} none (ascii "udm:80")
    (ascii "/nudm-sdm/v1") Method.POST.name (ascii "hello")).getD .null

theorem createN32fProcessRequest_sample :
    createN32fProcessRequest Reference.platform {} none (ascii "udm:80")
      (ascii "/nudm-sdm/v1") Method.POST.name (ascii "hello") = some sampleRequest := rfl

theorem sent_request_iff_sample :
    (handleN32fProcessPost Reference.platform Reference.config {} none
        (Reference.nf 200 []) sampleRequest .null ∅).sent =
      [{ method := .POST
         uri := ascii "http://udm:80/nudm-sdm/v1"
         headers := Reference.platform.jsonHeaders
         body := ascii "hello" }] :=
  (sent_request_iff rfl rfl rfl (List.cons_ne_nil _ _) (not_space_of_all rfl)
    (List.cons_ne_nil _ _) rfl createN32fProcessRequest_sample).mpr
      ⟨HostArrives.of_carries (List.cons_ne_nil _ _) (carries_of_le (by decide)),
        Or.inr (carries_of_le (by decide))⟩ _ _ _ _ _

/-- Without a key nothing can fail. -/
theorem exists_build_unkeyed (E : Platform) {σ : N32fForward} (hkey : σ.encKey = [])
    (rand : Option (Bytes 12)) (m p a body ctx : Str) (H : HeaderMap) :
    ∃ data, buildReformattedData E σ rand m p a body ctx H = some data
      ∧ data.iv = [] ∧ data.tag = [] := by
  unfold buildReformattedData
  by_cases hbody : body = []
  · rw [if_pos hbody]
    exact ⟨_, rfl, rfl, rfl⟩
  · rw [if_neg hbody, if_neg (not_not_intro hkey)]
    exact ⟨_, rfl, rfl, rfl⟩

/-- A body that is too long: the NF is sent another one, or nothing. -/
theorem not_sent_longInput : ∃ msg,
    createN32fProcessRequest Reference.platform {} none (ascii "udm:80")
        (ascii "/nudm-sdm/v1") Method.POST.name longInput = some msg
      ∧ (handleN32fProcessPost Reference.platform Reference.config {} none
          (Reference.nf 200 []) msg .null ∅).sent ≠
        [{ method := .POST
           uri := ascii "http://udm:80/nudm-sdm/v1"
           headers := Reference.platform.jsonHeaders
           body := longInput }] := by
  obtain ⟨data, hdata, -⟩ := exists_build_unkeyed Reference.platform rfl
    none Method.POST.name (ascii "/nudm-sdm/v1") (ascii "udm:80") longInput
    (ascii "dummy_context_id") ∅ (σ := {})
  refine ⟨_, congrArg (Option.map fun data =>
    Reference.platform.reqMsg.toJson { reformattedData := data }) hdata, fun hsent => ?_⟩
  have hsome := hsent ▸ List.cons_ne_nil _ []
  obtain ⟨⟨t, ht⟩, payload, hpayload⟩ := message_of_sent hsome
  have hsame := congrArg HttpRequest.body (List.singleton_inj.mp
    ((sent_of_message rfl (by decide) (build_frame hdata).2.1 ht hpayload).symm.trans hsent))
  rw [(targetRequest_target ..).2] at hsame
  rw [show payload = longInput from hsame] at hpayload
  rcases (receivedBody_build_iff hdata).mp hpayload with hnil | hcarries
  · exact longInput_ne_nil hnil
  · exact not_carries_longInput _ hcarries

/-! ## Answers -/

section Answers

theorem colon_not_mem_keptHeaders : ∀ k ∈ keptHeaders, colon ∉ k := by decide

theorem keptHeaders_ne : ∀ k ∈ keptHeaders,
    k ≠ authorityName ∧ k ≠ targetApiRoot ∧ noCrLf k = true := by decide

/-- The headers an answer keeps, looked up. -/
theorem lookup_kept (H : HeaderMap) {k : Str} (hk : k ∈ keptHeaders) :
    (keptOf H).lookup k = H.lookup k := by
  rw [keptOf, HeaderMap.lookup_insertAll_filter rfl]
  cases H.lookup k with
  | none => rfl
  | some v => rw [Option.filter_some, if_pos (by simpa using hk)]

theorem mem_keptHeaders_of_mem {H : HeaderMap} {e : Σ _ : Str, Str}
    (he : e ∈ (keptOf H).entries) : e.1 ∈ keptHeaders := by
  obtain ⟨k, v⟩ := e
  have hl := AList.mem_lookup_iff.mpr he
  rw [keptOf, HeaderMap.lookup_insertAll_filter rfl] at hl
  obtain ⟨-, hk⟩ := Option.filter_eq_some_iff.mp hl
  simpa using hk

/-- The kept headers without CR and LF, as they are looked up. -/
theorem lookup_kept_iff {H headers : HeaderMap}
    (hnone : ∀ k ∉ (cleanHeaders (keptOf H)).keys, k ≠ authorityName → k ≠ targetApiRoot →
      headers.lookup k = none) :
    (∀ k ∈ keptHeaders, headers.lookup k = (H.lookup k).filter noCrLf)
      ↔ ∀ e ∈ cleanHeaders (keptOf H), headers.lookup e.1 = some e.2 := by
  have hclean : ∀ k ∈ keptHeaders, ∀ v, ⟨k, v⟩ ∈ cleanHeaders (keptOf H)
      ↔ (H.lookup k).filter noCrLf = some v := by
    intro k hk v
    rw [mem_cleanHeaders, lookup_kept H hk]
    simp only [(keptHeaders_ne k hk).2.2, Bool.true_and]
  constructor
  · rintro h ⟨k, v⟩ he
    have hk := mem_keptHeaders_of_mem (List.mem_filter.mp he).1
    rw [h k hk]
    exact (hclean k hk v).mp he
  · intro h k hk
    obtain ⟨hka, hkr, -⟩ := keptHeaders_ne k hk
    cases hv : (H.lookup k).filter noCrLf with
    | some v => exact h ⟨k, v⟩ ((hclean k hk v).mpr hv)
    | none =>
        refine hnone k (fun hmem => ?_) hka hkr
        obtain ⟨v, hv'⟩ := List.exists_of_mem_keys hmem
        cases hv.symm.trans ((hclean k hk v).mp hv')

/-- Once the message is out and answered with success, what is returned is
what is read from the answer. -/
theorem handleNfServiceRequestPrins_of_sent {E : Platform} {τ : N32fForward}
    {rand : Option (Bytes 12)} {answer : HttpResponse} {url authority path method body : Str}
    {respData : NfHttpResponse}
    (hstatus : answer.statusCode = 200 ∨ answer.statusCode = 201)
    (hsent : (SeppApp.handleNfServiceRequestPrins E τ url rand answer authority path method
      body respData).sent ≠ []) :
    let c := SeppApp.handleNfServiceRequestPrins E τ url rand answer authority path method
      body respData
    let r := SeppApp.readProcessResponse E τ.encKey answer.body respData
    c.ret = .ok r.1 ∧ c.respData = r.2 := by
  unfold SeppApp.handleNfServiceRequestPrins at hsent ⊢
  split at hsent
  · exact absurd rfl hsent
  · split at hsent
    · exact absurd rfl hsent
    · simp only [if_neg (show ¬ (answer.statusCode ≠ 200 ∧ answer.statusCode ≠ 201) by omega)]
      exact ⟨trivial, trivial⟩

/-! ### The status -/

/-- A status that is delivered to the NF. -/
def Delivered (status : Int) : Prop := 100 ≤ status ∧ status ≤ 599

theorem length_statusText {status : Int} (h : Delivered status) :
    (Decimal.toText status).length = 3 := by
  have hall : ∀ i : Fin 500, (Decimal.toText (100 + i.1 : Nat)).length = 3 := by
    decide +kernel
  obtain ⟨hlo, hhi⟩ := h
  have hread := hall ⟨(status - 100).toNat, by omega⟩
  rwa [show ((100 + (status - 100).toNat : Nat) : Int) = status by omega] at hread

/-- One or two digits of it are another number. -/
theorem stoi_statusText_take {status i : Int} (h : Delivered status) {n : ℕ} (hn : n < 3)
    (hread : Decimal.stoi isSpace ((Decimal.toText status).take n) = some i) : i < 100 := by
  have hall : ∀ (i : Fin 500) (n : Fin 3), ((Decimal.stoi isSpace
      ((Decimal.toText (100 + i.1 : Nat)).take n)).all fun j => decide (j < 100)) = true := by
    decide +kernel
  obtain ⟨hlo, hhi⟩ := h
  have hlt := hall ⟨(status - 100).toNat, by omega⟩ ⟨n, hn⟩
  rw [show ((100 + (status - 100).toNat : Nat) : Int) = status by omega, hread] at hlt
  exact of_decide_eq_true hlt

theorem stoi_statusText {status : Int} (h : Delivered status) :
    Decimal.stoi isSpace (Decimal.toText status) = some status := by
  obtain ⟨hlo, hhi⟩ := h
  rw [Decimal.stoi_toText visible_isSpace, if_pos (by omega)]

/-! ### The message -/

/-- The AAD of an answer. -/
def answerAad (env : Envelope) (answer : HttpResponse) : Str :=
  aadRaw (Decimal.toText answer.statusCode) env.target.path env.target.authority
    (keptOf answer.headers)

/-- What base64url carries of an answer to be delivered holds its status, its
headers and its body; what it carries of another is no such answer, or its
ciphertext does not decrypt. -/
def AnswerArrives (E : Platform) (key : Str) (env : Envelope) (answer : HttpResponse)
    (data : FlatJweJson) : Prop :=
  let st := Decimal.toText answer.statusCode
  let n := E.carried (answerAad env answer).length
  (Delivered answer.statusCode →
      3 ≤ n ∧ HeadersIn st env.target.path env.target.authority (keptOf answer.headers) n
        ∧ (answer.body = [] ∨ E.Carries answer.body))
    ∧ (¬ Delivered answer.statusCode →
      ∀ status, Decimal.stoi isSpace (st.take n) = some status → Delivered status →
        receivedBody E key data = none)

/-- An answer whose AAD and body are carried whole. -/
theorem AnswerArrives.of_carries {E : Platform} {key : Str} {env : Envelope}
    {answer : HttpResponse} {data : FlatJweJson} (haad : E.Carries (answerAad env answer))
    (hbody : answer.body = [] ∨ E.Carries answer.body) :
    AnswerArrives E key env answer data := by
  have hlength : (Decimal.toText answer.statusCode).length + 12
      ≤ (answerAad env answer).length := by
    unfold answerAad aadRaw
    rw [List.length_append, List.length_append, length_startLine]
    omega
  unfold AnswerArrives
  rw [show E.carried (answerAad env answer).length = _ from haad]
  refine ⟨fun _ => ⟨by omega, Or.inr (Or.inl (Nat.le_add_right _ 2)), hbody⟩,
    fun hno status hstatus hdelivered => ?_⟩
  rw [List.take_of_length_le (by omega), Decimal.stoi_toText visible_isSpace] at hstatus
  split at hstatus
  · obtain rfl := Option.some.inj hstatus
    exact absurd hdelivered hno
  · cases hstatus

/-- Delivered just when its status is to be, and then as it was. -/
def Faithful (answer : HttpResponse) (delivered : Prop) (respData : NfHttpResponse) : Prop :=
  (delivered ↔ Delivered answer.statusCode)
    ∧ (delivered → respData.statusCode = answer.statusCode ∧ respData.body = answer.body
        ∧ ∀ k ∈ keptHeaders,
            respData.headers.lookup k = (answer.headers.lookup k).filter noCrLf)

/-- What the consumer's SEPP makes of an answer's message. -/
theorem readProcessResponse_answer {E : Platform} {σ : N32fForward}
    {rand : Option (Bytes 12)} {env : Envelope} {answer : HttpResponse}
    {data : FlatJweJson} {text : Str} (hpath : ∀ c ∈ env.target.path, isSpace c = false)
    (hauth : lf ∉ env.target.authority)
    (hdata : processAnswer E σ rand env answer = some data)
    (htext : E.parse text = .ok (E.rspMsg.toJson { reformattedData := data })) :
    let st := Decimal.toText answer.statusCode
    let n := E.carried (answerAad env answer).length
    let r := SeppApp.readProcessResponse E σ.encKey text {}
    (r.1 = true ↔ (∃ body, receivedBody E σ.encKey data = some body)
        ∧ ∃ status, Decimal.stoi isSpace (st.take n) = some status ∧ Delivered status)
      ∧ (r.1 = true → receivedBody E σ.encKey data = some r.2.body
        ∧ Decimal.stoi isSpace (st.take n) = some r.2.statusCode
        ∧ ((∀ k ∈ keptHeaders, r.2.headers.lookup k = (answer.headers.lookup k).filter noCrLf)
          ↔ HeadersIn st env.target.path env.target.authority (keptOf answer.headers) n)) := by
  intro st n r
  have haad : base64urlDecode E.toOpenSsl data.aad
      = (aadRaw st env.target.path env.target.authority (keptOf answer.headers)).take n :=
    decodedAad_of_build hdata
  have hr : r = _ := SeppApp.readProcessResponse.eq_1 E σ.encKey text {}
  simp only [htext, E.rspMsg.fromJson_toJson] at hr
  cases hbody : receivedBody E σ.encKey data with
  | none =>
      simp only [hbody] at hr
      rw [hr]
      simp
  | some body =>
      simp only [hbody] at hr
      rcases Nat.eq_zero_or_pos n with hzero | hn
      · have hnone : parseAad (base64urlDecode E.toOpenSsl data.aad) ∅ = none := by
          rw [haad, hzero, List.take_zero]
          rfl
        simp only [hnone] at hr
        rw [hr, hzero, List.take_zero]
        refine ⟨iff_of_false Bool.false_ne_true ?_, fun h => absurd h Bool.false_ne_true⟩
        rintro ⟨-, status, hstatus, -⟩
        cases hstatus
      · obtain ⟨t, ht, hmethod, hnone, hheaders⟩ := parseAad_aadRaw_response_take
          (Decimal.toText_ne_nil answer.statusCode)
          (fun c hc => Decimal.not_blank_of_mem_toText visible_isSpace hc) hpath hauth
          (H := keptOf answer.headers)
          (fun e he => colon_not_mem_keptHeaders _ (mem_keptHeaders_of_mem he))
          (fun e he => ⟨(keptHeaders_ne _ (mem_keptHeaders_of_mem he)).1,
            (keptHeaders_ne _ (mem_keptHeaders_of_mem he)).2.1⟩) hn
        rw [haad, ht] at hr
        simp only [hmethod] at hr
        cases hstatus : Decimal.stoi isSpace (st.take n) with
        | none =>
            simp only [st, hstatus] at hr
            rw [hr]
            simp
        | some status =>
            simp only [st, hstatus] at hr
            by_cases hrange : Delivered status
            · rw [if_neg (by unfold Delivered at hrange; omega)] at hr
              rw [hr]
              refine ⟨iff_of_true rfl ⟨⟨body, rfl⟩, status, rfl, hrange⟩, fun _ => ⟨rfl, rfl, ?_⟩⟩
              rw [lookup_kept_iff hnone]
              exact hheaders
            · rw [if_pos (by unfold Delivered at hrange; omega)] at hr
              rw [hr]
              refine ⟨iff_of_false Bool.false_ne_true ?_, fun h => absurd h Bool.false_ne_true⟩
              rintro ⟨-, status', hstatus', hrange'⟩
              obtain rfl := Option.some.inj hstatus'
              exact hrange hrange'

/-- An answer that arrives is delivered as it was, and no other is. -/
theorem readProcessResponse_faithful_iff {E : Platform} {σ : N32fForward}
    {rand : Option (Bytes 12)} {env : Envelope} {answer : HttpResponse}
    {data : FlatJweJson} {text : Str} (hpath : ∀ c ∈ env.target.path, isSpace c = false)
    (hauth : lf ∉ env.target.authority)
    (hdata : processAnswer E σ rand env answer = some data)
    (htext : E.parse text = .ok (E.rspMsg.toJson { reformattedData := data })) :
    let r := SeppApp.readProcessResponse E σ.encKey text {}
    Faithful answer (r.1 = true) r.2 ↔ AnswerArrives E σ.encKey env answer data := by
  intro r
  obtain ⟨htrue, hread⟩ := readProcessResponse_answer hpath hauth hdata htext
  have hbody := receivedBody_build_iff hdata
  unfold Faithful AnswerArrives
  dsimp only at htrue hread ⊢
  generalize E.carried (answerAad env answer).length = n at htrue hread ⊢
  by_cases hrange : Delivered answer.statusCode
  · have hlength := length_statusText hrange
    simp only [hrange, iff_true, not_true_eq_false, false_implies, and_true, true_implies]
    constructor
    · rintro ⟨hdelivered, h⟩
      obtain ⟨hstatus, hsame, hheaders⟩ := h hdelivered
      obtain ⟨hreceived, hstoi, hin⟩ := hread hdelivered
      refine ⟨?_, hin.mp hheaders, ?_⟩
      · by_contra hshort
        have hlt := stoi_statusText_take hrange (Nat.lt_of_not_le hshort) hstoi
        rw [hstatus] at hlt
        exact absurd hrange.1 (by omega)
      · rw [hsame] at hreceived
        exact hbody.mp hreceived
    · rintro ⟨hthree, hin, hcarries⟩
      have hwhole : (Decimal.toText answer.statusCode).take n = Decimal.toText answer.statusCode :=
        List.take_of_length_le (by omega)
      have hstoi := stoi_statusText hrange
      have hreceived := hbody.mpr hcarries
      rw [hwhole] at htrue hread
      have hdelivered := htrue.mpr ⟨⟨_, hreceived⟩, _, hstoi, hrange⟩
      obtain ⟨hreceived', hstoi', hheaders⟩ := hread hdelivered
      exact ⟨hdelivered, fun _ => ⟨Option.some.inj (hstoi'.symm.trans hstoi),
        Option.some.inj (hreceived'.symm.trans hreceived), hheaders.mpr hin⟩⟩
  · simp only [hrange, iff_false, not_false_eq_true, true_implies, false_implies, true_and]
    constructor
    · rintro ⟨hno, -⟩ status hstatus hdelivered
      rw [htrue] at hno
      exact Option.eq_none_iff_forall_ne_some.mpr fun body hreceived =>
        hno ⟨⟨body, hreceived⟩, status, hstatus, hdelivered⟩
    · intro h
      have hno : ¬ r.1 = true := by
        intro hdelivered
        obtain ⟨⟨body, hreceived⟩, status, hstatus, hdelivered'⟩ := htrue.mp hdelivered
        cases hreceived.symm.trans (h status hstatus hdelivered')
      exact ⟨hno, fun hdelivered => absurd hdelivered hno⟩

/-- An NF's answer to a request the producer's SEPP accepted reaches the
consumer as it was exactly when it arrives: the status decides whether the
answer is delivered, and with it come the body and the kept headers without
CR and LF. The message also names the context of the request. -/
theorem answer_transported_iff {E : Platform} {cfg : SeppConfig} {σ τ : N32fForward}
    {rand rand' : Option (Bytes 12)} {nf : HttpRequest → HttpResponse}
    {reqData respData : Json} {respHeaders : HeaderMap} {answer : HttpResponse}
    {url authority path method body : Str} (hkey : τ.encKey = σ.encKey)
    (haccepted : (handleN32fProcessPost E cfg σ rand nf reqData respData respHeaders).ret
      = .ok true)
    (hstatus : answer.statusCode = 200 ∨ answer.statusCode = 201)
    (htext : E.parse answer.body
      = .ok (handleN32fProcessPost E cfg σ rand nf reqData respData respHeaders).respData)
    (hsent : (SeppApp.handleNfServiceRequestPrins E τ url rand' answer authority path method
      body {}).sent ≠ []) :
    let h := handleN32fProcessPost E cfg σ rand nf reqData respData respHeaders
    let c := SeppApp.handleNfServiceRequestPrins E τ url rand' answer authority path method
      body {}
    ∃ r env data, h.sent = [r] ∧ readEnvelope E reqData = .ok (some env)
      ∧ h.respData = E.rspMsg.toJson { reformattedData := data }
      ∧ data.unprotected = E.contextInfo.toJson { n32fContextId := env.contextId }
      ∧ (Faithful (nf r) (c.ret = .ok true) c.respData
          ↔ AnswerArrives E τ.encKey env (nf r) data) := by
  intro h c
  by_cases hread : ∃ env reqBody, Readable E σ reqData env reqBody
  swap
  · have hno : ∀ env reqBody, ¬ Readable E σ reqData env reqBody := fun env reqBody hr =>
      hread ⟨env, reqBody, hr⟩
    exact absurd haccepted (handleN32fProcessPost_of_not_readable hno).2
  obtain ⟨env, reqBody, hr⟩ := hread
  have hh : h = relayToTarget E cfg σ rand nf env reqBody respData respHeaders :=
    handleN32fProcessPost_of_readable hr
  rw [show (handleN32fProcessPost E cfg σ rand nf reqData respData respHeaders) = h from rfl,
    hh] at haccepted htext
  obtain ⟨data, hdata, hresp⟩ := relayToTarget_accepted haccepted
  have htarget : ∃ s, parseAad s ∅ = some env.target := readEnvelope_target hr.2.2.1
  obtain ⟨s, hs⟩ := htarget
  obtain ⟨hpath, hauth⟩ := parseAad_clean hs
  refine ⟨processRequest E cfg env reqBody, env, data, ?_, hr.2.2.1, ?_, ?_, ?_⟩
  · rw [hh, relayToTarget_sent]
  · rw [hh, hresp]
  · exact (build_frame hdata).2.1
  · obtain ⟨hret, hrespData⟩ := handleNfServiceRequestPrins_of_sent hstatus hsent
    rw [show c.ret = _ from hret, show c.respData = _ from hrespData, Except.ok.injEq, hkey]
    exact readProcessResponse_faithful_iff hpath hauth hdata (by rw [htext, hresp])

/-- The sample request, handled where the NF refuses it. -/
def sampleHandled : Handled :=
  handleN32fProcessPost Reference.platform Reference.config {} none
    (Reference.nf 404 (ascii "gone")) sampleRequest .null ∅

def sampleAnswer : HttpResponse :=
  { statusCode := 200, headers := ∅, body := JsonText.write sampleHandled.respData }

theorem writable_sampleRequest : JsonText.writable sampleRequest = true := by
  decide +kernel

theorem writable_sampleHandled : JsonText.writable sampleHandled.respData = true := by
  decide +kernel

/-- The sample request is sent to the peer, whatever it answers. -/
theorem sent_sampleRequest (answer : HttpResponse) :
    (SeppApp.handleNfServiceRequestPrins Reference.platform {} (ascii "http://peer") none answer
      (ascii "udm:80") (ascii "/nudm-sdm/v1") Method.POST.name (ascii "hello") {}).sent ≠ [] := by
  have hdump := Reference.dump_of_writable writable_sampleRequest
  simp only [SeppApp.handleNfServiceRequestPrins, createN32fProcessRequest_sample, hdump]
  split <;> exact List.cons_ne_nil _ _

set_option maxRecDepth 4000 in
theorem readable_sampleRequest : ∃ env,
    Readable Reference.platform {} sampleRequest env (ascii "hello")
    ∧ env.target.path = ascii "/nudm-sdm/v1" ∧ env.target.authority = ascii "udm:80"
    ∧ env.contextId = ascii "dummy_context_id" :=
  ⟨_, ⟨rfl, rfl, rfl, rfl⟩, rfl, rfl, rfl⟩

set_option maxRecDepth 4000 in
theorem answer_transported_iff_sample :
    let c := SeppApp.handleNfServiceRequestPrins Reference.platform {} (ascii "http://peer")
      none sampleAnswer (ascii "udm:80") (ascii "/nudm-sdm/v1") Method.POST.name
      (ascii "hello") {}
    c.ret = .ok true ∧ c.respData.statusCode = 404 ∧ c.respData.body = ascii "gone" := by
  have haccepted : sampleHandled.ret = .ok true := rfl
  have hbody : sampleAnswer.body = JsonText.write sampleHandled.respData := rfl
  have htext := Reference.parse_write writable_sampleHandled
  rw [← hbody] at htext
  obtain ⟨r, env, data, -, henv, -, -, hiff⟩ :=
    answer_transported_iff rfl haccepted (Or.inl rfl) htext (sent_sampleRequest sampleAnswer)
  obtain ⟨env', ⟨-, -, henv', -⟩, hpath, hauthority, -⟩ := readable_sampleRequest
  obtain rfl := Option.some.inj (Except.ok.inj (henv.symm.trans henv'))
  have harrives : AnswerArrives Reference.platform [] env (Reference.nf 404 (ascii "gone") r)
      data := by
    refine AnswerArrives.of_carries (carries_of_le ?_)
      (Or.inr (carries_of_le (show (ascii "gone").length ≤ 1023 by decide)))
    rw [answerAad, hpath, hauthority]
    show (aadRaw (Decimal.toText 404) (ascii "/nudm-sdm/v1") (ascii "udm:80")
      (keptOf ∅)).length ≤ 1023
    decide +kernel
  obtain ⟨hdelivered, h⟩ := hiff.mpr harrives
  have hret := hdelivered.mpr (by simp [Delivered, Reference.nf])
  exact ⟨hret, (h hret).1, (h hret).2.1⟩

/-- A message is built and arrives without a key, whatever is in it. -/
theorem exists_parsed_unkeyed {σ : N32fForward} (hkey : σ.encKey = []) {ctx : Str}
    (hctx : JsonText.writable
      (Reference.platform.contextInfo.toJson { n32fContextId := ctx }) = true)
    (rand : Option (Bytes 12)) (m p a body : Str) (H : HeaderMap) :
    ∃ data text, buildReformattedData Reference.platform σ rand m p a body ctx H = some data
      ∧ Reference.platform.parse text
        = .ok (Reference.platform.rspMsg.toJson { reformattedData := data }) := by
  obtain ⟨data, hdata, hiv, htag⟩ :=
    exists_build_unkeyed Reference.platform hkey rand m p a body ctx H
  obtain ⟨haad, hun, hprotected⟩ := build_frame hdata
  have hciphertext : isBase64url data.ciphertext = true := by
    rcases build_cases hdata with ⟨-, hc⟩ | ⟨-, -, hc⟩ | ⟨-, hne, -⟩
    · rw [hc]
      rfl
    · rw [hc]
      exact isBase64url_encode ..
    · exact absurd hkey hne
  have hwritable : JsonText.writable (Reference.platform.rspMsg.toJson
      { reformattedData := data }) = true := by
    refine Reference.writable_reformatted ?_ ?_ ?_ ?_ hiv htag
    · rw [hprotected]
      exact Reference.printable_of_isBase64url (isBase64url_encode ..)
    · rw [haad]
      exact Reference.printable_of_isBase64url (isBase64url_encode ..)
    · exact Reference.printable_of_isBase64url hciphertext
    · rw [hun]
      exact hctx
  exact ⟨data, _, hdata, Reference.parse_write hwritable⟩

/-- An answer that is too long: it is delivered with another body, or not. -/
theorem not_faithful_longInput :
    let h := handleN32fProcessPost Reference.platform Reference.config {} none
      (Reference.nf 200 longInput) sampleRequest .null ∅
    h.ret = .ok true ∧ ∃ answer : HttpResponse, answer.statusCode = 200
      ∧ Reference.platform.parse answer.body = .ok h.respData
      ∧ let c := SeppApp.handleNfServiceRequestPrins Reference.platform {} (ascii "http://peer")
          none answer (ascii "udm:80") (ascii "/nudm-sdm/v1") Method.POST.name (ascii "hello") {}
        ¬ Faithful { statusCode := 200, headers := ∅, body := longInput } (c.ret = .ok true)
          c.respData := by
  intro h
  obtain ⟨env, hread, hpath, hauthority, hcontext⟩ := readable_sampleRequest
  have hctx : JsonText.writable
      (Reference.platform.contextInfo.toJson { n32fContextId := env.contextId }) = true := by
    rw [hcontext]
    decide +kernel
  obtain ⟨data, text, hdata, htext⟩ := exists_parsed_unkeyed (σ := {}) rfl hctx none
    (Decimal.toText 200) env.target.path env.target.authority longInput (keptOf ∅)
  have hh : h = relayToTarget Reference.platform Reference.config {} none
      (Reference.nf 200 longInput) env (ascii "hello") .null ∅ :=
    handleN32fProcessPost_of_readable hread
  have hanswer : processAnswer Reference.platform {} none env
      { statusCode := 200, headers := ∅, body := longInput } = some data := hdata
  have hstatus : (Reference.nf 200 longInput (processRequest Reference.platform Reference.config env
      (ascii "hello"))).statusCode ≠ 0 := show (200 : Int) ≠ 0 by decide
  obtain ⟨hret, hresp⟩ : h.ret = .ok true ∧ h.respData
      = Reference.platform.rspMsg.toJson { reformattedData := data } := by
    rw [hh]
    exact relayToTarget_of_answer hstatus hdata
  clear_value h
  refine ⟨hret, { statusCode := 200, headers := ∅, body := text }, rfl, ?_, fun hfaithful => ?_⟩
  · rw [hresp]
    exact htext
  obtain ⟨s, hs⟩ := readEnvelope_target hread.2.2.1
  obtain ⟨hblank, hlf⟩ := parseAad_clean hs
  have hsent := handleNfServiceRequestPrins_of_sent (Or.inl rfl)
    (sent_sampleRequest { statusCode := 200, headers := ∅, body := text })
  rw [hsent.1, hsent.2, Except.ok.injEq] at hfaithful
  have harrives := (readProcessResponse_faithful_iff hblank hlf hanswer htext).mp hfaithful
  rcases (harrives.1 (by simp [Delivered])).2.2 with hnil | hcarries
  · exact longInput_ne_nil hnil
  · exact not_carries_longInput _ hcarries

end Answers

end Sepp
