import Ecosystem.Research.Url

/-!
# The HTTPS transport

`SafeHttpsTransport.request` of `transport.py`: every hop along the redirects of the
remote side is checked before it is contacted.

A run meets a list of hops and returns its contacts besides its result.  `zlib` is a
parameter; a list that ends stands for a remote side that answers no more.
-/

namespace Ecosystem.Research

open Ecosystem.Lib Ecosystem.Lib.Checks
open Ecosystem.Projections (lit)

/-! ## Surroundings -/

/-- An exception of an access to the network or of the decompressor. -/
inductive NetError
  /-- `TimeoutError`, which is an `OSError`. -/
  | timeout
  /-- Any other `OSError`. -/
  | os
  /-- `HTTPException`. -/
  | protocol
  /-- `EOFError` or `zlib.error`. -/
  | data
  | foreign (name : String)

structure Read where
  expired : Bool
  socketGone : Bool
  block : Except NetError Bytes

structure Response where
  status : ℕ
  headers : List (Text × Text)
  reads : List Read

structure Hop where
  expired : Bool
  /-- The addresses that the resolver answers; `none` is an `OSError`. -/
  answers : Option (List Text)
  response : Except NetError Response

inductive Coding
  | gzip | deflate

/-- A decompressor object of `zlib`. -/
structure Zlib where
  State : Type
  start : Coding → State
  /-- `decompress(chunk, max_length)`, and whether input is left over. -/
  decompress : State → Bytes → ℕ → Except NetError (Bytes × Bool × State)
  flush : State → ℕ → Except NetError (Bytes × State)
  eof : State → Bool

structure TransportPolicy where
  domainRules : List DomainRule
  maxRedirects : ℕ
  maxWireBytes : ℕ
  maxDecodedBytes : ℕ
  allowedMediaTypes : List Text
  allowedUrlQueryKeys : List Text

structure TransportResponse where
  body : Bytes
  mediaType : Text
  sourceUrl : Text
  finalUrl : Text
  redirectChain : List Text

inductive Method
  | get | post
deriving DecidableEq

/-- A connection that was opened, and what was asked on it. -/
structure Contact where
  target : NormalizedUrl
  address : Text
  method : Method
  body : Option Bytes

/-! ## Failures -/

def requestTimeout : Failure := .tool "ECO_RESEARCH_TIMEOUT" "Research request timed out"

def transportFailed : Failure :=
  .tool "ECO_RESEARCH_TRANSPORT_FAILED" "Research transport failed"

def wireLimit : Failure :=
  .tool "ECO_RESEARCH_WIRE_LIMIT" "Research response exceeds the wire limit"

def decodedLimit : Failure :=
  .tool "ECO_RESEARCH_DECODED_LIMIT" "Research response exceeds the decoded limit"

def encodingInvalid : Failure :=
  .tool "ECO_RESEARCH_ENCODING_INVALID" "Research response encoding is invalid"

def redirectInvalid : Failure :=
  .tool "ECO_RESEARCH_REDIRECT_INVALID" "Research redirect is invalid"

def redirectLimit : Failure :=
  .tool "ECO_RESEARCH_REDIRECT_LIMIT" "Research redirect limit is exceeded"

/-- What the loop over the hops makes of an exception. -/
def hopFailure : NetError → Failure
  | .timeout => requestTimeout
  | .os | .protocol => transportFailed
  | .data => .foreign "zlib.error"
  | .foreign name => .foreign name

/-- What `decode_bounded_entity` makes of an exception before the loop sees it. -/
def entityFailure : NetError → Failure
  | .timeout | .os | .data => encodingInvalid
  | error => hopFailure error

/-! ## `decode_bounded_entity` -/

section Entity

variable (zlib : Zlib) (policy : TransportPolicy)

def decodeChunk (decoder : Option zlib.State) (chunk decoded : Bytes) :
    Except Failure (Bytes × Option zlib.State) :=
  match decoder with
  | none => do
    require ((decoded ++ chunk).length ≤ policy.maxDecodedBytes) decodedLimit
    return (decoded ++ chunk, none)
  | some state =>
    match zlib.decompress state chunk (policy.maxDecodedBytes + 1 - decoded.length) with
    | .error error => .error (entityFailure error)
    | .ok (output, unconsumed, state) => do
      require ((decoded ++ output).length ≤ policy.maxDecodedBytes) decodedLimit
      require (!unconsumed) decodedLimit
      return (decoded ++ output, some state)

def finishEntity (decoder : Option zlib.State) (decoded : Bytes) : Except Failure Bytes :=
  match decoder with
  | none => .ok decoded
  | some state =>
    match zlib.flush state (policy.maxDecodedBytes + 1 - decoded.length) with
    | .error error => .error (entityFailure error)
    | .ok (output, state) => do
      require ((decoded ++ output).length ≤ policy.maxDecodedBytes) decodedLimit
      require (zlib.eof state) encodingInvalid
      return decoded ++ output

/-- The loop of `decode_bounded_entity` over `_chunks`. -/
def decodeEntity (decoder : Option zlib.State) (wire : ℕ) (decoded : Bytes) :
    List Read → Except Failure Bytes
  | [] => .error requestTimeout
  | read :: reads =>
    if read.expired then .error requestTimeout
    else if read.socketGone then .error transportFailed
    else
      match read.block with
      | .error error => .error (entityFailure error)
      | .ok chunk =>
        if chunk = [] then finishEntity zlib policy decoder decoded
        else do
          require (wire + chunk.length ≤ policy.maxWireBytes) wireLimit
          let (decoded, decoder) ← decodeChunk zlib policy decoder chunk decoded
          decodeEntity decoder (wire + chunk.length) decoded reads

def decodeBoundedEntity (encoding : Text) (reads : List Read) : Except Failure Bytes :=
  let encoding := asciiLower (strip encoding)
  if encoding = [] || encoding = lit "identity" then decodeEntity zlib policy none 0 [] reads
  else if encoding = lit "gzip" then
    decodeEntity zlib policy (some (zlib.start .gzip)) 0 [] reads
  else if encoding = lit "deflate" then
    decodeEntity zlib policy (some (zlib.start .deflate)) 0 [] reads
  else .error (.tool "ECO_RESEARCH_ENCODING_DENIED" "Research response encoding is denied")

/-- What came over the wire before the end of a body. -/
def wireBytes : List Read → ℕ
  | [] => 0
  | read :: reads =>
    match read.block with
    | .error _ => 0
    | .ok chunk => if chunk = [] then 0 else chunk.length + wireBytes reads

end Entity

/-! ## Responses -/

section Request

variable (tools : UrlTools) (zlib : Zlib) (recursionLimit : ℕ) (policy : TransportPolicy)

/-- `getheader`: the values of all headers of a name. -/
def getheader (response : Response) (name : Text) : Option Text :=
  match response.headers.filter (fun header => asciiLower header.1 = name) with
  | [] => none
  | found => some ((lit ", ").intercalate (found.map Prod.snd))

/-- The size of the headers as it is counted: names in ASCII and values in Latin-1. -/
def headerBytes (response : Response) : ℕ :=
  (response.headers.map fun header =>
    header.1.countP isAscii + header.2.countP fun c => c.toNat < 256).sum

def isRedirect (status : ℕ) : Bool := status ∈ [301, 302, 303, 307, 308]

/-- `Location`, where there is one. -/
def location (response : Response) : Option Text :=
  (getheader response (lit "location")).filter (· ≠ [])

def followRedirect (current : NormalizedUrl) (visited redirects : List Text)
    (response : Response) : Except Failure NormalizedUrl := do
  let location ← expect redirectInvalid (location response)
  require (redirects.length < policy.maxRedirects) redirectLimit
  let joined ← expect (.foreign "ValueError") (tools.urljoin current.value location)
  let next ← normalizeUrl tools false joined
  validateUrlQuery tools next.value policy.allowedUrlQueryKeys
  let allowed ← hostAllowed tools next.host policy.domainRules
  require allowed
    (.tool "ECO_RESEARCH_REDIRECT_DENIED" "Research redirect target is denied")
  require (next.value ∉ visited)
    (.tool "ECO_RESEARCH_REDIRECT_LOOP" "Research redirect loop is denied")
  return next

/-- `Content-Length`, where there is one. -/
def checkContentLength (response : Response) : Except Failure Unit :=
  match getheader response (lit "content-length") with
  | none => .ok ()
  | some length => do
    let declared ← expect
      (.tool "ECO_RESEARCH_HEADERS_INVALID" "Research response headers are invalid")
      (tools.int length)
    require (0 ≤ declared && declared ≤ policy.maxWireBytes) wireLimit

def contentType (response : Response) : Text :=
  asciiLower (strip (before ';' ((getheader response (lit "content-type")).getD [])))

/-- A response that is no redirect: its body and its media type. -/
def receive (response : Response) : Except Failure (Bytes × Text) := do
  require (response.status = 200)
    (.tool "ECO_RESEARCH_HTTP_STATUS" "Research endpoint returned a denied status")
  checkContentLength tools policy response
  let mediaType := contentType response
  require (mediaType ∈ policy.allowedMediaTypes)
    (.tool "ECO_RESEARCH_MEDIA_DENIED" "Research response media type is denied")
  let encoding := ((getheader response (lit "content-encoding")).filter (· ≠ [])).getD
    (lit "identity")
  let decoded ← decodeBoundedEntity zlib policy encoding response.reads
  require (decoded ≠ [] && 0 ∉ decoded)
    (.tool "ECO_RESEARCH_CONTENT_DENIED" "Research response content is denied")
  checkContent recursionLimit mediaType decoded
  return (decoded, mediaType)

/-! ## `SafeHttpsTransport.request` -/

structure LoopState where
  current : NormalizedUrl
  visited : List Text
  redirects : List Text
  method : Method
  body : Option Bytes

/-- The state behind a redirect. -/
def LoopState.follow (state : LoopState) (next : NormalizedUrl) (status : ℕ) : LoopState where
  current := next
  visited := state.visited ++ [next.value]
  redirects := state.redirects ++ [next.value]
  method := if status = 303 then .get else state.method
  body := if status = 303 then none else state.body

/-- The connection that is opened to the first of the addresses. -/
def LoopState.contact (state : LoopState) (addresses : List Text) : Contact where
  target := state.current
  address := addresses.headD []
  method := state.method
  body := state.body

def requestLoop (source : NormalizedUrl) :
    ℕ → LoopState → List Hop → List Contact × Except Failure TransportResponse
  | 0, _, _ => ([], .error redirectLimit)
  | _ + 1, _, [] => ([], .error requestTimeout)
  | n + 1, state, hop :: hops =>
    if hop.expired then ([], .error requestTimeout)
    else
      match resolvePublicAddresses tools state.current.host hop.answers with
      | .error failure => ([], .error failure)
      | .ok addresses =>
        let contact := state.contact addresses
        match hop.response with
        | .error error => ([contact], .error (hopFailure error))
        | .ok response =>
          if 32768 < headerBytes response then
            ([contact], .error (.tool "ECO_RESEARCH_HEADERS_LIMIT"
              "Research response headers exceed the limit"))
          else if isRedirect response.status then
            match followRedirect tools policy state.current state.visited state.redirects
                response with
            | .error failure => ([contact], .error failure)
            | .ok next =>
              let run := requestLoop source n (state.follow next response.status) hops
              (contact :: run.1, run.2)
          else
            match receive tools zlib recursionLimit policy response with
            | .error failure => ([contact], .error failure)
            | .ok (body, mediaType) =>
              ([contact], .ok { body, mediaType, sourceUrl := source.value
                                finalUrl := state.current.value
                                redirectChain := state.redirects })

/-- What is checked of a request before anything is contacted: its source. -/
def checkRequest (method : Method) (url : Text) (body : Option Bytes) :
    Except Failure NormalizedUrl := do
  require (body.all (·.length ≤ 65536))
    (.tool "ECO_RESEARCH_INPUT_LIMIT" "Research request exceeds the input limit")
  require (!(method = .get && body.isSome))
    (.tool "ECO_RESEARCH_REQUEST_INVALID" "Research request is invalid")
  let source ← normalizeUrl tools false url
  validateUrlQuery tools source.value policy.allowedUrlQueryKeys
  let allowed ← hostAllowed tools source.host policy.domainRules
  require allowed (.tool "ECO_RESEARCH_DOMAIN_DENIED" "Research target domain is denied")
  return source

def request (method : Method) (url : Text) (body : Option Bytes) (hops : List Hop) :
    List Contact × Except Failure TransportResponse :=
  match checkRequest tools policy method url body with
  | .error failure => ([], .error failure)
  | .ok source =>
    requestLoop tools zlib recursionLimit policy source (policy.maxRedirects + 1)
      { current := source, visited := [source.value], redirects := [], method, body } hops

end Request

end Ecosystem.Research
