import Sepp.SeppApp

/-!
# The NBI server

`sepp-http2-nbi-server.cpp`: the HTTP end a peer SEPP talks to, for the
`/` resource. A GET is wrapped into JSON for `handle_n32f_forward`; a POST
body is parsed and handed over as if it were such a wrapper; any other
method is refused.

A response's head is written once: where an exception is caught after the
head, the status already written stays and only the body is the problem
report. `none` as the application is `sepp_app_inst == nullptr`; an
exception no handler catches leaves the request without a reply.
-/

namespace Sepp

/-- A request as the HTTP/2 server presents it. -/
structure NbiRequest where
  method : Str
  path : Str
  rawQuery : Str
  headers : HeaderMap
  body : Str

structure NbiResponse where
  statusCode : Int
  /-- The header fields, in the order they were added. -/
  headers : List (Str × Str)
  body : Str

/-- A reply, or the exception that prevented it, and the requests that
were sent to local NFs on the way. -/
structure NbiHandled where
  reply : Except Exn NbiResponse
  sent : List HttpRequest

namespace NbiServer

def jsonHeaders : List (Str × Str) := [(ascii "content-type", ascii "application/json")]

def problemHeaders : List (Str × Str) :=
  [(ascii "content-type", ascii "application/problem+json")]

def problemDetails (statusCode : Int) (title cause detail : Str) : Json :=
  .obj [(ascii "status", .num (Decimal.toText statusCode)), (ascii "title", .str title),
    (ascii "cause", .str cause), (ascii "detail", .str detail)]

def sendProblemDetails (E : Platform) (statusCode : Int) (title cause detail : Str) :
    Except Exn NbiResponse :=
  (E.dump (problemDetails statusCode title cause detail)).map fun body =>
    { statusCode, headers := problemHeaders, body }

/-- The headers of a successful reply. -/
def okHeaders (respHeaders : HeaderMap) : List (Str × Str) :=
  jsonHeaders ++ respHeaders.entries.map fun e => (e.1, e.2)

/-- A reply with status 200 and a JSON body. When the body cannot be
serialised the problem report goes out under the head already written. -/
def sendOk (E : Platform) (respJson : Json) (respHeaders : HeaderMap) (cause : Str) :
    Except Exn NbiResponse :=
  let headers := okHeaders respHeaders
  match E.dump respJson with
  | .ok body => .ok { statusCode := 200, headers, body }
  | .error what =>
      (sendProblemDetails E 400 (ascii "400: Bad Request") cause what).map fun r =>
        { r with statusCode := 200, headers }

/-- The reply to a request whose handler has run; `onThrow` is the cause
reported for an exception. -/
def replyTo (E : Platform) (h : Handled) (onThrow failureCause failureDetail : Str)
    (allowNoContent : Bool) : Except Exn NbiResponse :=
  match h.ret with
  | .error what => sendProblemDetails E 400 (ascii "400: Bad Request") onThrow what
  | .ok false =>
      sendProblemDetails E 400 (ascii "400: Bad Request") failureCause failureDetail
  | .ok true =>
      if allowNoContent && h.respData.empty then
        .ok { statusCode := 204, headers := jsonHeaders, body := [] }
      else sendOk E h.respData h.respHeaders onThrow

def systemUnavailable (E : Platform) : NbiHandled :=
  { reply := sendProblemDetails E 503 (ascii "503: Service Unavailable")
      (ascii "SYSTEM_UNAVAILABLE") (ascii "SEPP instance uninitialized")
    sent := [] }

def processPostRequest (E : Platform) (inst : Option SeppApp) (req : NbiRequest)
    (appHandler : SeppApp → Json → Handled) (failureCause failureDetail : Str)
    (allowNoContent : Bool) : NbiHandled :=
  if req.method ≠ ascii "POST" then
    { reply := sendProblemDetails E 405 (ascii "Method Not Allowed")
        (ascii "ONLY_POST_SUPPORTED") (ascii "Endpoint supports HTTP POST only")
      sent := [] }
  else
    match inst with
    | none => systemUnavailable E
    | some s =>
        match E.parse req.body with
        | .error what =>
            { reply := sendProblemDetails E 400 (ascii "400: Bad Request")
                (ascii "MALFORMED_JSON") what
              sent := [] }
        | .ok reqJson =>
            let h := appHandler s reqJson
            { reply := replyTo E h (ascii "MALFORMED_JSON") failureCause failureDetail
                allowNoContent
              sent := h.sent }

/-- The authority a request names: its `authority` header, else its `host`. -/
def requestAuthority (headers : HeaderMap) : Str :=
  match headers.lookup authorityName with
  | some v => v
  | none => (headers.lookup (ascii "host")).getD []

/-- The JSON that wraps a GET request. -/
def wrapRequest (req : NbiRequest) : Json :=
  .obj [(ascii "path", .str req.path), (ascii "query", .str req.rawQuery),
    (authorityName, .str (requestAuthority req.headers)),
    (ascii "headers", .obj (req.headers.entries.map fun e => (e.1, .str e.2)))]

/-- The application's part of the `/` resource. -/
def forwardHandler (E : Platform) (cfg : SeppConfig) (nf : HttpRequest → HttpResponse)
    (s : SeppApp) (reqData : Json) : Handled :=
  Sepp.handleN32fForward E cfg s.forward nf reqData .null ∅

def handleN32fForward (E : Platform) (cfg : SeppConfig) (inst : Option SeppApp)
    (nf : HttpRequest → HttpResponse) (req : NbiRequest) : NbiHandled :=
  if req.method = ascii "GET" then
    match inst with
    | none => systemUnavailable E
    | some s =>
        let h := forwardHandler E cfg nf s (wrapRequest req)
        { reply := replyTo E h (ascii "MALFORMED_REQUEST") (ascii "FORWARDING_FAILED")
            (ascii "N32-F GET forwarding failed") false
          sent := h.sent }
  else
    processPostRequest E inst req (forwardHandler E cfg nf) (ascii "FORWARDING_FAILED")
      (ascii "N32-F message forwarding failed") false

end NbiServer

end Sepp
