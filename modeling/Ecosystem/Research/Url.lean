import Ecosystem.Lib.Sorting
import Ecosystem.Projections.Compiler
import Ecosystem.Research.StrictJson

/-!
# URLs of the research tools

`url_policy.py` and the part of `urllib.parse` that it rests on.  A URL that is split is
ASCII without control characters and blanks, which `normalize_url` sees to.

Names that are not ASCII, hosts in brackets, addresses, the decoding of a query and the
joining of a location are left to the surroundings.
-/

namespace Ecosystem.Research

open Ecosystem.Lib Ecosystem.Lib.Checks
open Ecosystem.Projections (lit byteSize)

/-! ## Surroundings -/

/-- An address as `ipaddress` reads it: how it is spelled, and what it says of it. -/
structure Address where
  text : Text
  isGlobal : Bool
  isMulticast : Bool

structure UrlTools where
  /-- `value.encode("idna")` of a text that is not ASCII. -/
  idna : Text → Option Text
  /-- The check of an authority with a host in brackets. -/
  bracketsValid : Text → Bool
  /-- `ipaddress.ip_address`. -/
  ipAddress : Text → Option Address
  /-- `unquote_plus`. -/
  unquote : Text → Text
  /-- `str.lower` of a query key. -/
  lower : Text → Text
  /-- `urljoin`. -/
  urljoin : Text → Text → Option Text
  /-- `int` of a header. -/
  int : Text → Option ℤ

/-! ## Splitting -/

/-- What stands in front of the first `c`. -/
def before (c : Char) (text : Text) : Text := text.takeWhile (· ≠ c)

/-- What stands behind the first `c`. -/
def behind (c : Char) (text : Text) : Text := (text.dropWhile (· ≠ c)).tail

/-- What stands behind the last `c`, or the text. -/
def behindLast (c : Char) (text : Text) : Text := (text.reverse.takeWhile (· ≠ c)).reverse

def isAscii (c : Char) : Bool := c.toNat < 128

/-- `lower` of an ASCII text. -/
def asciiLower (text : Text) : Text := text.map Char.toLower

structure SplitResult where
  scheme : Text
  netloc : Text
  path : Text
  query : Text
  fragment : Text

def isSchemeChar (c : Char) : Bool := c.isAlphanum || c ∈ ['+', '-', '.']

def splitScheme (url : Text) : Text × Text :=
  let scheme := before ':' url
  if ':' ∈ url && scheme.head?.any Char.isAlpha && scheme.all isSchemeChar then
    (asciiLower scheme, behind ':' url)
  else ([], url)

def isDelimiter (c : Char) : Bool := c ∈ ['/', '?', '#']

def splitNetloc (rest : Text) : Text × Text :=
  match rest with
  | '/' :: '/' :: rest =>
    (rest.takeWhile fun c => !isDelimiter c, rest.dropWhile fun c => !isDelimiter c)
  | _ => ([], rest)

/-- `urlsplit`; `none` is a `ValueError`. -/
def urlsplit (tools : UrlTools) (url : Text) : Option SplitResult :=
  let (scheme, rest) := splitScheme url
  let (netloc, rest) := splitNetloc rest
  if ('[' ∈ netloc) ≠ (']' ∈ netloc) then none
  else if '[' ∈ netloc && !tools.bracketsValid netloc then none
  else
    let (rest, fragment) := (before '#' rest, behind '#' rest)
    some { scheme, netloc, path := before '?' rest, query := behind '?' rest, fragment }

/-- `urlunsplit` of parts with an authority and without a fragment, whose path begins with
a slash. -/
def urlunsplit (scheme netloc path query : Text) : Text :=
  scheme ++ lit "://" ++ netloc ++ path ++ (if query = [] then [] else '?' :: query)

/-- `SplitResult.username is not None or SplitResult.password is not None`. -/
def hasUserinfo (netloc : Text) : Bool := '@' ∈ netloc

/-- `_hostinfo`: the host and the port as they are written. -/
def hostinfo (netloc : Text) : Text × Text :=
  let info := behindLast '@' netloc
  if '[' ∈ info then
    let bracketed := behind '[' info
    (before ']' bracketed, behind ':' (behind ']' bracketed))
  else (before ':' info, behind ':' info)

/-- `SplitResult.hostname`: in lower case up to a zone. -/
def hostname (netloc : Text) : Option Text :=
  let host := (hostinfo netloc).1
  if host = [] then none
  else some (asciiLower (before '%' host) ++ host.dropWhile (· ≠ '%'))

/-- `SplitResult.port`, with no port as `some none`; `none` is a `ValueError`. -/
def portOf (netloc : Text) : Option (Option ℕ) :=
  let port := (hostinfo netloc).2
  if port = [] then some none
  else if port.all Char.isDigit && port.length ≤ 4300 && Nat.ofDigitChars 10 port 0 ≤ 65535 then
    some (some (Nat.ofDigitChars 10 port 0))
  else none

/-! ## `canonical_host` -/

def urlInvalid : Failure := .tool "ECO_RESEARCH_URL_INVALID" "Research URL is invalid"

def schemeDenied : Failure :=
  .tool "ECO_RESEARCH_SCHEME_DENIED" "Research URL scheme is denied"

def portDenied : Failure := .tool "ECO_RESEARCH_PORT_DENIED" "Research URL port is denied"

/-- `value.encode("idna")`: an ASCII name stays as it is. -/
def encodeIdna (tools : UrlTools) (value : Text) : Option Text :=
  if value.all isAscii then
    let labels := value.splitOn '.'
    if labels.dropLast.all (fun label => label ≠ [] && label.length < 64) &&
        labels.getLast?.all (·.length < 64) then some value
    else none
  else tools.idna value

def isHostChar (c : Char) : Bool := c.isLower || c.isDigit || c = '-'

def labelValid (label : Text) : Bool :=
  label ≠ [] && label.length ≤ 63 && label.head? ≠ some '-' && label.getLast? ≠ some '-' &&
    label.all isHostChar

def canonicalHost (tools : UrlTools) (value : Text) : Except Failure Text := do
  require (value ≠ [] && value.length ≤ 253) urlInvalid
  let value := asciiLower (value.rdropWhile (· = '.'))
  require (value ≠ [] && (cutFirst (lit "..") value).isNone && '%' ∉ value && '\\' ∉ value) urlInvalid
  let canonical ← expect urlInvalid (encodeIdna tools value)
  require ((canonical.splitOn '.').all labelValid) urlInvalid
  return canonical

/-! ## `normalize_url` -/

structure NormalizedUrl where
  value : Text
  host : Text
  port : ℕ
  scheme : Text

/-- `[\x00-\x20\x7f]`. -/
def isControlOrBlank (c : Char) : Bool := c.toNat ≤ 32 || c.toNat = 127

def isUpperHex (c : Char) : Bool := c.isDigit || ('A' ≤ c && c ≤ 'F')

/-- Every percent sign is followed by two upper-case hexadecimal digits. -/
def percentsValid : Text → Bool
  | [] => true
  | c :: rest =>
    (c ≠ '%' || ((rest.take 2).length = 2 && (rest.take 2).all isUpperHex)) &&
      percentsValid rest

def charactersValid (value : Text) : Bool :=
  !value.any isControlOrBlank && '\\' ∉ value && percentsValid value

def httpsScheme : Text := lit "https"

def httpScheme : Text := lit "http"

def defaultPort (scheme : Text) : ℕ := if scheme = httpsScheme then 443 else 80

/-- `raw_port or default_port`. -/
def effectivePort (scheme : Text) : Option ℕ → ℕ
  | none | some 0 => defaultPort scheme
  | some port => port

def canonicalNetloc (scheme host : Text) (port : ℕ) : Text :=
  if port = defaultPort scheme then host else host ++ ':' :: Nat.toDigits 10 port

def normalizeUrl (tools : UrlTools) (allowHttp : Bool) (value : Text) :
    Except Failure NormalizedUrl := do
  require (value ≠ [] && byteSize value ≤ 8192 && charactersValid value) urlInvalid
  require (value.all isAscii) urlInvalid
  let split ← expect urlInvalid (urlsplit tools value)
  require ((split.scheme = httpsScheme || (allowHttp && split.scheme = httpScheme)) &&
    split.netloc ≠ []) schemeDenied
  require (!hasUserinfo split.netloc && split.fragment = []) urlInvalid
  let rawPort ← expect urlInvalid (portOf split.netloc)
  let rawHost ← expect urlInvalid (hostname split.netloc)
  require (':' ∉ rawHost) urlInvalid
  let host ← canonicalHost tools rawHost
  let scheme := split.scheme
  let port := effectivePort scheme rawPort
  require (!(scheme = httpsScheme && port ≠ 443)) portDenied
  let path := if split.path = [] then ['/'] else split.path
  return { value := urlunsplit scheme (canonicalNetloc scheme host port) path split.query
           host, port, scheme }

/-! ## The rules for hosts, queries and addresses -/

structure DomainRule where
  host : Text
  includeSubdomains : Bool

def hostAllowed (tools : UrlTools) (host : Text) (rules : List DomainRule) :
    Except Failure Bool := do
  let canonical ← canonicalHost tools host
  return rules.any fun rule => canonical = rule.host ||
    (rule.includeSubdomains && ('.' :: rule.host).isSuffixOf canonical)

def queryDenied : Failure :=
  .tool "ECO_RESEARCH_URL_QUERY_DENIED" "Research URL query is denied"

/-- The keys of `parse_qsl` with blank values and strict parsing. -/
def queryKeys (tools : UrlTools) (query : Text) : Option (List Text) :=
  if query = [] then some []
  else (query.splitOn '&').mapM fun field =>
    if '=' ∈ field then some (tools.unquote (before '=' field)) else none

def sensitiveWords : List Text :=
  [lit "auth", lit "authorization", lit "credential", lit "key", lit "password",
    lit "secret", lit "signature", lit "token"]

def isSeparator (c : Char) : Bool := c ∈ ['.', '_', '-']

/-- One of the words at the start of a text, and behind it a separator or the end; the end
of a text also stands in front of a last line break. -/
def startsSensitive (text : Text) : Bool :=
  sensitiveWords.any fun word => word.isPrefixOf text &&
    let rest := text.drop word.length
    rest = [] || rest = ['\n'] || rest.head?.any isSeparator

/-- `sensitive.search`. -/
def isSensitive : Bool → Text → Bool
  | start, [] => start && startsSensitive []
  | start, c :: rest => (start && startsSensitive (c :: rest)) || isSensitive (isSeparator c) rest

def validateUrlQuery (tools : UrlTools) (url : Text) (allowedKeys : List Text) :
    Except Failure Unit := do
  let split ← expect queryDenied (urlsplit tools url)
  let keys ← expect queryDenied (queryKeys tools split.query)
  require (keys.Nodup && keys.all fun key =>
    key ∈ allowedKeys && !isSensitive true (tools.lower key)) queryDenied

def targetDenied : Failure :=
  .tool "ECO_RESEARCH_NETWORK_TARGET_DENIED" "Research network target is denied"

def ipIsPublic (tools : UrlTools) (value : Text) : Bool :=
  (tools.ipAddress value).any fun address => address.isGlobal && !address.isMulticast

/-- `resolve_public_addresses`, of an answer of the resolver; `none` is an `OSError`. -/
def resolvePublicAddresses (tools : UrlTools) (host : Text) (answers : Option (List Text)) :
    Except Failure (List Text) := do
  let canonical ← canonicalHost tools host
  require (canonical ≠ lit "localhost" && !(lit ".localhost").isSuffixOf canonical) targetDenied
  match tools.ipAddress canonical with
  | some literal =>
    require (ipIsPublic tools literal.text) targetDenied
    return [literal.text]
  | none =>
    let answers ← expect (.tool "ECO_RESEARCH_DNS_FAILED" "Research target resolution failed")
      answers
    require (answers ≠ [] && answers.all (ipIsPublic tools)) targetDenied
    -- the addresses in their order, each of them once
    return sortOn id answers.dedup

end Ecosystem.Research
