import Sepp.PrinsTransport

/-!
# Malformed N32-f messages

The decoder reports failure as an empty text, and the AAD reader only
rejects a text without any line, so a malformed part of a message turns
into an empty method, path or body of a request that is sent all the same.
`fails_closed_iff` says which malformed messages are refused.
-/

namespace Sepp

/-! ## Malformed messages -/

/-- The text starts with a line of at least two words: the method and the
path. -/
def HasRequestLine (text : Str) : Prop :=
  ∃ indent method gap path rest, text = indent ++ method ++ gap ++ path ++ rest
    ∧ (∀ c ∈ indent ++ gap, isSpace c = true ∧ c ≠ lf)
    ∧ (∀ c ∈ method ++ path, isSpace c = false)
    ∧ method ≠ [] ∧ gap ≠ [] ∧ path ≠ []

/-- A ciphertext with nonce and tag that does not verify under the key over
what the cipher is given of the AAD. -/
def DecryptFails (E : Platform) (key : Str) (data : FlatJweJson) : Prop :=
  data.ciphertext ≠ [] ∧ key ≠ [] ∧ data.iv ≠ [] ∧ data.tag ≠ []
    ∧ ¬ TagVerifies E.toOpenSsl key data.ciphertext (associated data.aad) data.iv data.tag

def Malformed (E : Platform) (key : Str) (data : FlatJweJson) : Prop :=
  ¬ HasRequestLine (base64urlDecode E.toOpenSsl data.aad)
    ∨ (data.ciphertext ≠ [] ∧ key = [] ∧ isBase64url data.ciphertext = false)
    ∨ DecryptFails E key data

/-- Refused, with the response as it was and no request to an NF. -/
def FailsClosed (h : Handled) (respData : Json) : Prop :=
  h.ret = .ok false ∧ h.respData = respData ∧ h.sent = []

/-- A malformed message whose context id cannot be read, or that names a
context, carries some AAD text and has no ciphertext to reject. -/
def Leaks (E : Platform) (key : Str) (reqData : Json) : Prop :=
  ∃ reqMsg, reqData.isObject = true ∧ E.reqMsg.fromJson reqData = some reqMsg
    ∧ Malformed E key reqMsg.reformattedData
    ∧ ((∃ e, extractContextId E reqData reqMsg.reformattedData = .error e)
      ∨ ∃ id, extractContextId E reqData reqMsg.reformattedData = .ok id ∧ id ≠ []
          ∧ base64urlDecode E.toOpenSsl reqMsg.reformattedData.aad ≠ []
          ∧ ¬ DecryptFails E key reqMsg.reformattedData)

/-! ## What the SEPP builds itself -/

section Built

theorem hasRequestLine_aadRaw {method path : Str} (authority : Str) (headers : HeaderMap)
    (hmethod : method ≠ []) (hpath : path ≠ [])
    (hwords : ∀ c ∈ method ++ path, isSpace c = false) :
    HasRequestLine (aadRaw method path authority headers) := by
  refine ⟨[], method, [space], path, ascii " HTTP/2.0" ++ crlf ++ authorityLines authority
    ++ responseHeaderLines headers, ?_, ?_, hwords, hmethod, List.cons_ne_nil _ _, hpath⟩
  · simp [aadRaw, startLine, List.append_assoc]
  · intro c hc
    obtain rfl := List.mem_singleton.mp hc
    exact ⟨rfl, by decide⟩

end Built

/-! ## What is refused -/

section Refused

variable {E : Platform} {cfg : SeppConfig} {σ : N32fForward} {rand : Option (Bytes 12)}
  {nf : HttpRequest → HttpResponse} {reqData respData : Json} {respHeaders : HeaderMap}

/-- Only the empty text has no line. -/
theorem parseAad_eq_none_iff {text : Str} {headers : HeaderMap} :
    parseAad text headers = none ↔ text = [] := by
  unfold parseAad
  constructor
  · intro h
    by_contra hne
    obtain ⟨line, lines, hlines⟩ :=
      List.exists_cons_of_ne_nil (LineText.getlines_ne_nil lf hne)
    rw [hlines] at h
    cases h
  · rintro rfl
    rfl

theorem receivedBody_eq_none_iff {key : Str} {data : FlatJweJson} :
    receivedBody E key data = none ↔ DecryptFails E key data := by
  unfold receivedBody DecryptFails
  split
  · rename_i hnil
    exact iff_of_false nofun fun h => h.1 hnil
  · rename_i hne
    split
    · rename_i hparts
      obtain ⟨hkey, hiv, htag⟩ := hparts
      have htrue := @decryptJwePayload_true_iff E.toOpenSsl data.ciphertext data.aad data.iv data.tag
        key []
      rw [← htrue]
      rcases decryptJwePayload E.toOpenSsl data.ciphertext data.aad data.iv data.tag key []
        with ⟨ok, plaintext⟩
      cases ok <;> simp [hne, hkey, hiv, htag]
    · rename_i hparts
      exact iff_of_false nofun fun h => hparts ⟨h.2.1, h.2.2.1, h.2.2.2.1⟩

/-- A message that the SEPP builds for a method and a path is not malformed
for a SEPP with the same key, unless it was too long. -/
theorem not_malformed_build {method path authority body ctx : Str} {headers : HeaderMap}
    {data : FlatJweJson}
    (hmethod : method ≠ []) (hpath : path ≠ [])
    (hwords : ∀ c ∈ method ++ path, isSpace c = false)
    (haad : E.Carries (aadRaw method path authority headers))
    (hbody : body = [] ∨ E.Carries body)
    (h : buildReformattedData E σ rand method path authority body ctx headers = some data) :
    ¬ Malformed E σ.encKey data := by
  rintro (hline | ⟨hne, hkey, hbad⟩ | hfails)
  · rw [(build_frame h).1, base64urlDecode_encode_of_carries haad] at hline
    exact hline (hasRequestLine_aadRaw authority headers hmethod hpath hwords)
  · rcases build_cases h with ⟨-, hc⟩ | ⟨-, -, hc⟩ | ⟨-, hne', -⟩
    · exact hne hc
    · rw [hc, isBase64url_encode] at hbad
      cases hbad
    · exact hne' hkey
  · rw [← receivedBody_eq_none_iff, (receivedBody_build_iff h).mpr hbody] at hfails
    cases hfails

/-- The stages of the handler under PRINS: the context id, the AAD, the
ciphertext. Past them a request is sent. -/
theorem failsClosed_iff {reqMsg : N32fReformattedReqMsg}
    (hcap : σ.securityCapability = ascii "PRINS") (hobj : reqData.isObject = true)
    (hmsg : E.reqMsg.fromJson reqData = some reqMsg) :
    FailsClosed (handleN32fProcessPost E cfg σ rand nf reqData respData respHeaders) respData
      ↔ ∃ id, extractContextId E reqData reqMsg.reformattedData = .ok id
          ∧ (id = [] ∨ base64urlDecode E.toOpenSsl reqMsg.reformattedData.aad = []
            ∨ DecryptFails E σ.encKey reqMsg.reformattedData) := by
  have hv := validateN32fMessage_iff.mpr hobj
  simp only [handleN32fProcessPost, hv, Bool.not_true, Bool.false_eq_true, if_false,
    if_neg (not_not_intro hcap), readEnvelope, hmsg]
  cases hid : extractContextId E reqData reqMsg.reformattedData with
  | error e =>
      refine iff_of_false ?_ ?_
      · rintro ⟨hret, -⟩
        cases hret
      · rintro ⟨id, hok, -⟩
        cases hok
  | ok id =>
      simp only [Except.ok.injEq, exists_eq_left']
      by_cases hnil : id = []
      · rw [if_pos hnil]
        exact iff_of_true ⟨rfl, rfl, rfl⟩ (Or.inl hnil)
      · rw [if_neg hnil]
        cases haad : parseAad (base64urlDecode E.toOpenSsl reqMsg.reformattedData.aad) ∅ with
        | none =>
            have hempty := parseAad_eq_none_iff.mp haad
            exact iff_of_true ⟨rfl, rfl, rfl⟩ (Or.inr (Or.inl hempty))
        | some target =>
            have hsome : base64urlDecode E.toOpenSsl reqMsg.reformattedData.aad ≠ [] := by
              intro hempty
              cases (parseAad_eq_none_iff.mpr hempty).symm.trans haad
            rw [← receivedBody_eq_none_iff]
            simp only [Option.map_some]
            cases hbody : receivedBody E σ.encKey reqMsg.reformattedData with
            | none => exact iff_of_true ⟨rfl, rfl, rfl⟩ (Or.inr (Or.inr rfl))
            | some body =>
                refine iff_of_false (fun h => ?_) ?_
                · have hsent := h.2.2
                  rw [relayToTarget_sent] at hsent
                  cases hsent
                · rintro (h | h | h)
                  · exact hnil h
                  · exact hsome h
                  · cases h

/-- Malformed messages are refused, all but those that leak. -/
theorem fails_closed_iff (hcap : σ.securityCapability = ascii "PRINS") :
    (∀ reqMsg, reqData.isObject = true → E.reqMsg.fromJson reqData = some reqMsg →
      Malformed E σ.encKey reqMsg.reformattedData →
      FailsClosed (handleN32fProcessPost E cfg σ rand nf reqData respData respHeaders)
        respData)
    ↔ ¬ Leaks E σ.encKey reqData := by
  constructor
  · rintro h ⟨reqMsg, hobj, hmsg, hbad, hleak⟩
    obtain ⟨id, hid, hstage⟩ :=
      (failsClosed_iff hcap hobj hmsg).mp (h reqMsg hobj hmsg hbad)
    rcases hleak with ⟨e, he⟩ | ⟨id', hid', hne, haad, hdecrypts⟩
    · cases he.symm.trans hid
    · obtain rfl := Except.ok.inj (hid'.symm.trans hid)
      rcases hstage with hnil | hempty | hfails
      · exact hne hnil
      · exact haad hempty
      · exact hdecrypts hfails
  · intro hleaks reqMsg hobj hmsg hbad
    refine (failsClosed_iff hcap hobj hmsg).mpr ?_
    by_contra hno
    refine hleaks ⟨reqMsg, hobj, hmsg, hbad, ?_⟩
    cases hid : extractContextId E reqData reqMsg.reformattedData with
    | error e => exact Or.inl ⟨e, rfl⟩
    | ok id =>
        refine Or.inr ⟨id, rfl, fun hnil => ?_, fun hempty => ?_, fun hfails => ?_⟩
        · exact hno ⟨id, hid, Or.inl hnil⟩
        · exact hno ⟨id, hid, Or.inr (Or.inl hempty)⟩
        · exact hno ⟨id, hid, Or.inr (Or.inr hfails)⟩

end Refused

/-! ### Two malformed messages -/

/-- A message in a context, with that AAD text and no body. -/
def messageWithAad (text : Str) : N32fReformattedReqMsg :=
  { reformattedData :=
      { aad := base64urlEncode Reference.openSsl text
        unprotected := Reference.platform.contextInfo.toJson { n32fContextId := ascii "c1" } } }

def handledAad (text : Str) : Handled :=
  handleN32fProcessPost Reference.platform Reference.config {} none (Reference.nf 200 [])
    (Reference.platform.reqMsg.toJson (messageWithAad text)) .null ∅

theorem not_hasRequestLine_of_word {text : Str} (h : ∀ c ∈ text, isSpace c = false) :
    ¬ HasRequestLine text := by
  rintro ⟨indent, method, gap, path, rest, rfl, hblank, -, -, hgap, -⟩
  obtain ⟨c, gap, rfl⟩ := List.exists_cons_of_ne_nil hgap
  have hspace := (hblank c (by simp)).1
  have hword := h c (by simp)
  exact Bool.false_ne_true (hword.symm.trans hspace)

theorem extractContextId_messageWithAad (text : Str) :
    extractContextId Reference.platform (Reference.platform.reqMsg.toJson (messageWithAad text))
      (messageWithAad text).reformattedData = .ok (ascii "c1") := rfl

theorem decodedAad_messageWithAad {text : Str} (h : text.length ≤ 1023) :
    base64urlDecode Reference.openSsl (messageWithAad text).reformattedData.aad = text := by
  simp only [messageWithAad]
  exact base64urlDecode_encode_of_carries (carries_of_le h)

/-- A message with an empty AAD is refused. -/
theorem fails_closed_iff_empty :
    Malformed Reference.platform [] (messageWithAad []).reformattedData
      ∧ FailsClosed (handledAad []) .null := by
  have hmsg := Reference.platform.reqMsg.fromJson_toJson (messageWithAad [])
  have hempty : base64urlDecode Reference.openSsl (messageWithAad []).reformattedData.aad = [] :=
    decodedAad_messageWithAad (Nat.zero_le _)
  have hbad : Malformed Reference.platform [] (messageWithAad []).reformattedData := by
    refine Or.inl ?_
    show ¬ HasRequestLine (base64urlDecode Reference.openSsl _)
    rw [hempty]
    exact not_hasRequestLine_of_word nofun
  have hleaks : ¬ Leaks Reference.platform []
      (Reference.platform.reqMsg.toJson (messageWithAad [])) := by
    rintro ⟨reqMsg, -, hread, -, hstage⟩
    obtain rfl := Option.some.inj (hmsg.symm.trans hread)
    rcases hstage with ⟨e, he⟩ | ⟨id, -, -, haad, -⟩
    · cases (extractContextId_messageWithAad []).symm.trans he
    · exact haad hempty
  exact ⟨hbad, (fails_closed_iff (σ := {}) rfl).mpr hleaks (messageWithAad []) rfl hmsg hbad⟩

/-- A request line without a path: a request without one is sent. -/
theorem not_failsClosed_noPath :
    Malformed Reference.platform [] (messageWithAad (ascii "GET")).reformattedData
      ∧ ¬ FailsClosed (handledAad (ascii "GET")) .null := by
  have hmsg := Reference.platform.reqMsg.fromJson_toJson (messageWithAad (ascii "GET"))
  have htext : base64urlDecode Reference.openSsl
      (messageWithAad (ascii "GET")).reformattedData.aad = ascii "GET" :=
    decodedAad_messageWithAad (by decide)
  constructor
  · refine Or.inl ?_
    show ¬ HasRequestLine (base64urlDecode Reference.openSsl _)
    rw [htext]
    exact not_hasRequestLine_of_word (not_space_of_all rfl)
  · intro h
    obtain ⟨id, hid, hnil | hempty | hfails⟩ := (failsClosed_iff (σ := {}) rfl rfl hmsg).mp h
    · rw [extractContextId_messageWithAad] at hid
      obtain rfl := Except.ok.inj hid
      exact List.cons_ne_nil _ _ hnil
    · exact List.cons_ne_nil _ _ (htext.symm.trans hempty)
    · exact hfails.1 rfl

end Sepp
