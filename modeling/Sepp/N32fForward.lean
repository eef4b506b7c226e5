import Sepp.Decimal
import Sepp.Http
import Sepp.Jose
import Sepp.LineText
import Sepp.Models

/-!
# N32-f forwarding

`sepp_n32f_forward.cpp`: the SEPP end that wraps an NF request or answer
into a reformatted JOSE message and unwraps the peer's. The request or
status line, the target and the filtered response headers travel as a
line-oriented text, the AAD; the body travels as the ciphertext.

A handler is a function of the object, the message and the local NFs
(`nf`, what they answer to a request). Its result lists the requests it
sent, so that "issues no request" is a statement about its value. The
PLMN that `extract_plmn_from_path` finds is written to members of the
target request that nothing reads; it is left out here.
-/

namespace Sepp

/-- Everything outside this repository that the SEPP calls. -/
structure Platform extends OpenSsl, JsonLib, Models where
  /-- The headers `prepare_json_request` sets. -/
  jsonHeaders : HeaderMap

/-- What the SEPP reads of `sepp_cfg`. -/
structure SeppConfig where
  /-- The SBI URL of the local NRF. -/
  nrfUrl : Str
  /-- The SEPP's own NBI URL. -/
  nbiUrl : Str
  tlsEnabled : Bool

structure N32fForward where
  n32fContextId : Str := []
  securityCapability : Str := ascii "PRINS"
  encKey : Str := []

structure NfHttpResponse where
  statusCode : Int := 200
  body : Str := []
  headers : HeaderMap := ∅

/-- `prepare_json_request` of the HTTP client library, which is not part of the
repository. Of it is assumed that the request keeps the URI and the body it is
given, and that its headers depend on neither. -/
def prepareJsonRequest (E : Platform) (method : Method) (uri body : Str) : HttpRequest :=
  { method, uri, headers := E.jsonHeaders, body }

/-! ## The AAD text -/

def crlf : Str := [cr, lf]

/-- The name of the header that carries the target of a request. -/
def targetApiRoot : Str := ascii "3gpp-sbi-target-apiroot"

def authorityName : Str := ascii "authority"

/-- The first line of an AAD. -/
def startLine (methodOrStatus path : Str) : Str :=
  methodOrStatus ++ space :: path ++ ascii " HTTP/2.0" ++ crlf

def headerLine (name value : Str) : Str := name ++ colon :: space :: value ++ crlf

def authorityLines (authority : Str) : Str :=
  if authority = [] then []
  else headerLine authorityName authority
    ++ headerLine targetApiRoot (forcePlainHttp authority)

/-- One line for every response header without CR and LF. -/
def responseHeaderLines (headers : HeaderMap) : Str :=
  headers.entries.flatMap fun e =>
    if noCrLf e.1 && noCrLf e.2 then headerLine e.1 e.2 else []

def aadRaw (methodOrStatus path authority : Str) (responseHeaders : HeaderMap) : Str :=
  startLine methodOrStatus path ++ authorityLines authority
    ++ responseHeaderLines responseHeaders

/-- `protected_hdr.dump()`: the members in key order, without blanks. -/
def protectedHdr (encKey : Str) : Str :=
  ascii "\x7b\"alg\":\"" ++ (if encKey = [] then ascii "dir" else ascii "A128GCMKW")
    ++ ascii "\",\"enc\":\"A128GCM\",\"n32fMsgId\":\"1\"\x7d"

/-- The message for a request or an answer; `none` where it returns false. -/
def buildReformattedData (E : Platform) (σ : N32fForward) (rand : Option (Bytes 12))
    (methodOrStatus path authority body contextId : Str)
    (responseHeaders : HeaderMap) : Option FlatJweJson :=
  let aadB64 := base64urlEncode E.toOpenSsl (aadRaw methodOrStatus path authority responseHeaders)
  let out : FlatJweJson :=
    { rProtected := base64urlEncode E.toOpenSsl (protectedHdr σ.encKey)
      aad := aadB64
      unprotected := E.contextInfo.toJson { n32fContextId := contextId }
      ciphertext := [] }
  if body = [] then some out
  else if σ.encKey ≠ [] then
    let (ok, p) := applyJweEncryption E.toOpenSsl rand body aadB64 σ.encKey {}
    if ok then some { out with iv := p.iv, ciphertext := p.ciphertext, tag := p.tag } else none
  else some { out with ciphertext := base64urlEncode E.toOpenSsl body }

structure ParsedAad where
  method : Str
  path : Str
  authority : Str
  headers : HeaderMap

/-- What one line after the first contributes. -/
def aadHeaderLine (acc : ParsedAad) (line : Str) : ParsedAad :=
  match LineText.splitFirst colon (LineText.popBack cr line) with
  | none => acc
  | some (name, rest) =>
      let value := if rest.head? = some space then rest.tail else rest
      { acc with
        authority := if name = authorityName then value else acc.authority
        headers := acc.headers.insert name value }

/-- The reader of an AAD text, adding to the header map it is given; `none`
for a text without any line. -/
def parseAad (decodedAad : Str) (headers : HeaderMap) : Option ParsedAad :=
  match LineText.getlines lf decodedAad with
  | [] => none
  | first :: lines =>
      let (method, stream) := LineText.token isSpace (LineText.popBack cr first)
      let path := (LineText.token isSpace stream).1
      some (lines.foldl aadHeaderLine { method, path, authority := [], headers })

/-- The body of a received message. Both receive paths decide alike:
decrypt when a key is configured and the message has a nonce and a tag,
otherwise take a ciphertext as encoded plain text. -/
def receivedBody (E : Platform) (encKey : Str) (m : FlatJweJson) : Option Str :=
  if m.ciphertext = [] then some []
  else if encKey ≠ [] ∧ m.iv ≠ [] ∧ m.tag ≠ [] then
    let (ok, body) := decryptJwePayload E.toOpenSsl m.ciphertext m.aad m.iv m.tag encKey []
    if ok then some body else none
  else some (base64urlDecode E.toOpenSsl m.ciphertext)

/-! ## The local leg -/

/-- The host a request is sent to. -/
def targetEndpoint (cfg : SeppConfig) (authority : Str) (headers : HeaderMap) : Str :=
  forcePlainHttp <|
    match headers.lookup targetApiRoot with
    | some v => if v ≠ [] then v else if authority ≠ [] then authority else cfg.nrfUrl
    | none => if authority ≠ [] then authority else cfg.nrfUrl

/-- The headers that are passed on to the local NF. -/
def forwardedHeaders (headers : HeaderMap) : List (Σ _ : Str, Str) :=
  headers.entries.filter fun e =>
    decide (e.1 ≠ authorityName) && decide (e.1 ≠ targetApiRoot)

def targetRequest (E : Platform) (cfg : SeppConfig) (authority path methodStr payload : Str)
    (headers : HeaderMap) : HttpRequest :=
  let method := Method.ofName methodStr
  let uri := targetEndpoint cfg authority headers ++ path
  let req := if payload ≠ [] then prepareJsonRequest E method uri payload
    else { method, uri, headers := ∅, body := [] }
  { req with headers := req.headers.insertAll (forwardedHeaders headers) }

/-- The names of the NF's headers that an answer keeps. -/
def keptHeaders : List Str := [ascii "location", ascii "content-type", ascii "retry-after"]

/-- The body of an answer as JSON. -/
def responseJson (E : Platform) (r : HttpResponse) : Json :=
  if r.body ≠ [] then (E.getJson r.body).getD (.obj [(ascii "body", .str r.body)])
  else .obj []

def keptOf (headers : HeaderMap) : HeaderMap :=
  HeaderMap.insertAll ∅ (headers.entries.filter fun e => decide (e.1 ∈ keptHeaders))

structure SendOutcome where
  request : HttpRequest
  statusCode : Int
  /-- The body as JSON and the raw response; `none` where it returns false. -/
  answer : Option (Json × NfHttpResponse)

def sendHttpRequestToTarget (E : Platform) (cfg : SeppConfig)
    (nf : HttpRequest → HttpResponse) (authority path methodStr payload : Str)
    (headers : HeaderMap) : SendOutcome :=
  let request := targetRequest E cfg authority path methodStr payload headers
  let r := nf request
  { request
    statusCode := r.statusCode
    answer :=
      if r.statusCode = 0 then none
      else
        some (responseJson E r,
          { statusCode := r.statusCode
            body := r.body
            headers := keptOf r.headers }) }

/-! ## The handlers -/

/-- What a handler leaves behind: its result or the exception it lets out,
the response it wrote, and the requests it sent to local NFs. -/
structure Handled where
  ret : Except Exn Bool
  respData : Json
  respHeaders : HeaderMap
  sent : List HttpRequest

def validateN32fMessage (reqData : Json) : Bool := !reqData.isNull && reqData.isObject

def invalidCapability (detail : Str) : Json :=
  .obj [(ascii "status", .num (ascii "400")), (ascii "title", .str (ascii "Bad Request")),
    (ascii "cause", .str (ascii "INVALID_CAPABILITY_ENDPOINT")),
    (ascii "detail", .str detail)]

def addStringMember (m : HeaderMap) (kv : Str × Json) : HeaderMap :=
  match kv.2 with
  | .str v => m.insert kv.1 v
  | _ => m

/-- The string members of the request's `headers` object. -/
def wrappedHeaders (reqData : Json) : HeaderMap :=
  match reqData.find? (ascii "headers") with
  | some (.obj members) =>
      members.foldl addStringMember ∅
  | _ => ∅

/-- The authority and the path with query of a wrapped request. The query
separator is always there. -/
def wrappedTarget (reqData : Json) : Except Exn (Str × Str) := do
  let authority ← reqData.value authorityName []
  let path ← reqData.value (ascii "path") []
  let query ← reqData.value (ascii "query") []
  return (authority, path ++ questionMark :: query)

/-- What the answer to a wrapped request is returned as. -/
def forwardedJson (json : Json) (statusCode : Int) : Json :=
  if json.empty ∧ statusCode = 200 then .obj [(ascii "status", .str (ascii "OK"))]
  else json

/-- `handle_n32f_forward`, the TLS side: `reqData` wraps a request, and what
is sent is a GET without a body. -/
def handleN32fForward (E : Platform) (cfg : SeppConfig) (σ : N32fForward)
    (nf : HttpRequest → HttpResponse) (reqData respData : Json)
    (respHeaders : HeaderMap) : Handled :=
  if !validateN32fMessage reqData then
    { ret := .ok false, respData, respHeaders, sent := [] }
  else if σ.securityCapability ≠ ascii "TLS" then
    { ret := .ok false
      respData := invalidCapability (ascii "Endpoint requires TLS capability")
      respHeaders := respHeaders.insert (ascii "content-type") (ascii "application/problem+json")
      sent := [] }
  else
    match wrappedTarget reqData with
    | .error e => { ret := .error e, respData, respHeaders, sent := [] }
    | .ok (authority, path) =>
        let out := sendHttpRequestToTarget E cfg nf authority path (ascii "GET") []
          (wrappedHeaders reqData)
        match out.answer with
        | none => { ret := .ok false, respData, respHeaders, sent := [out.request] }
        | some (json, _) =>
            { ret := .ok true
              respData := forwardedJson json out.statusCode
              respHeaders := respHeaders.insert (ascii "content-type") (ascii "application/json")
              sent := [out.request] }

def contextIdName : Str := ascii "n32fContextId"

/-- The context id a message names: in its unprotected part, else beside the
reformatted data. -/
def extractContextId (E : Platform) (reqData : Json) (m : FlatJweJson) : Except Exn Str := do
  let contextId ←
    if m.unprotected.isObject then
      match E.contextInfo.fromJson m.unprotected with
      | some info => .ok info.n32fContextId
      | none => m.unprotected.value contextIdName []
    else .ok []
  if contextId = [] ∧ reqData.contains contextIdName then
    reqData.value contextIdName []
  else .ok contextId

/-- What `handle_n32f_process_post` knows once it has read the message's
envelope: the reformatted data, the context id and the target request. -/
structure Envelope where
  data : FlatJweJson
  contextId : Str
  target : ParsedAad

/-- The part of `handle_n32f_process_post` before the payload: `none` where
it returns false there. -/
def readEnvelope (E : Platform) (reqData : Json) : Except Exn (Option Envelope) :=
  match E.reqMsg.fromJson reqData with
  | none => .ok none
  | some reqMsg =>
      let data := reqMsg.reformattedData
      match extractContextId E reqData data with
      | .error e => .error e
      | .ok contextId =>
          if contextId = [] then .ok none
          else .ok <| (parseAad (base64urlDecode E.toOpenSsl data.aad) ∅).map
            fun target => { data, contextId, target }

/-- The part of `handle_n32f_process_post` after the payload: the local leg
and the message that carries the answer back. -/
def relayToTarget (E : Platform) (cfg : SeppConfig) (σ : N32fForward)
    (rand : Option (Bytes 12)) (nf : HttpRequest → HttpResponse) (env : Envelope)
    (body : Str) (respData : Json) (respHeaders : HeaderMap) : Handled :=
  let out := sendHttpRequestToTarget E cfg nf env.target.authority env.target.path
    env.target.method body env.target.headers
  match out.answer with
  | none => { ret := .ok false, respData, respHeaders, sent := [out.request] }
  | some (_, raw) =>
      match buildReformattedData E σ rand (Decimal.toText out.statusCode)
        env.target.path env.target.authority raw.body env.contextId raw.headers with
      | none => { ret := .ok false, respData, respHeaders, sent := [out.request] }
      | some data =>
          { ret := .ok true
            respData := E.rspMsg.toJson { reformattedData := data }
            respHeaders := respHeaders.insert (ascii "content-type") (ascii "application/json")
            sent := [out.request] }

def handleN32fProcessPost (E : Platform) (cfg : SeppConfig) (σ : N32fForward)
    (rand : Option (Bytes 12)) (nf : HttpRequest → HttpResponse)
    (reqData respData : Json) (respHeaders : HeaderMap) : Handled :=
  if !validateN32fMessage reqData then
    { ret := .ok false, respData, respHeaders, sent := [] }
  else if σ.securityCapability ≠ ascii "PRINS" then
    { ret := .ok false
      respData := invalidCapability
        (ascii "Endpoint /n32f-process requires PRINS capability")
      respHeaders := respHeaders.insert (ascii "content-type") (ascii "application/problem+json")
      sent := [] }
  else
    match readEnvelope E reqData with
    | .error e => { ret := .error e, respData, respHeaders, sent := [] }
    | .ok none => { ret := .ok false, respData, respHeaders, sent := [] }
    | .ok (some env) =>
        match receivedBody E σ.encKey env.data with
        | none => { ret := .ok false, respData, respHeaders, sent := [] }
        | some body => relayToTarget E cfg σ rand nf env body respData respHeaders

/-- `create_n32f_process_request`: `none` where it returns false, and the
request JSON is left as it is (null) under TLS. -/
def createN32fProcessRequest (E : Platform) (σ : N32fForward) (rand : Option (Bytes 12))
    (authority path method body : Str) : Option Json :=
  if σ.securityCapability = ascii "TLS" then some .null
  else
    let ctxId := if σ.n32fContextId = [] then ascii "dummy_context_id" else σ.n32fContextId
    (buildReformattedData E σ rand method path authority body ctxId ∅).map fun data =>
      E.reqMsg.toJson { reformattedData := data }

end Sepp
