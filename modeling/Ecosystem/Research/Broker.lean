import Ecosystem.Research.Egress

/-!
# The broker behind the transport

`GovernedResearchBroker.fetch` normalises a URL, hands it to the transport and checks the
response once more under the same policy.  The authorisation of a request stands in
front of the transport and is a parameter.
-/

namespace Ecosystem.Research

open Ecosystem.Lib Ecosystem.Lib.Checks
open Ecosystem.Projections (lit)

/-! ## `_validate_response` -/

section Validate

variable (tools : UrlTools) (zlib : Zlib) (recursionLimit : ℕ) (policy : TransportPolicy)

def provenanceInvalid : Failure :=
  .tool "ECO_RESEARCH_REDIRECT_INVALID" "Research redirect provenance is invalid"

/-- Whether the rules allow every host, which are looked at up to the first that is
denied. -/
def hostsAllowed : List NormalizedUrl → Except Failure Bool
  | [] => .ok true
  | url :: urls => do
    if ← hostAllowed tools url.host policy.domainRules then hostsAllowed urls
    else return false

/-- `except (UnicodeDecodeError, ValueError, json.JSONDecodeError, ResearchToolError)`. -/
def asBrokerFailure : Except Failure Unit → Except Failure Unit
  | .error (.foreign name) => .error (.foreign name)
  | .error _ => .error contentInvalid
  | .ok () => .ok ()

def validateResponse (allowHttp : Bool) (response : TransportResponse)
    (expectedSourceUrl : Option Text) : Except Failure TransportResponse := do
  let source ← normalizeUrl tools allowHttp response.sourceUrl
  let final ← normalizeUrl tools allowHttp response.finalUrl
  let targets ← response.redirectChain.mapM (normalizeUrl tools allowHttp)
  let redirects := targets.map (·.value)
  validateUrlQuery tools source.value policy.allowedUrlQueryKeys
  validateUrlQuery tools final.value policy.allowedUrlQueryKeys
  redirects.forM fun url => validateUrlQuery tools url policy.allowedUrlQueryKeys
  require (expectedSourceUrl.all (source.value = ·))
    (.tool "ECO_RESEARCH_TRANSPORT_INVALID" "Research transport response is invalid")
  require (redirects.length ≤ policy.maxRedirects && (source.value :: redirects).Nodup &&
    redirects.getLastD source.value = final.value) provenanceInvalid
  let again ← redirects.mapM (normalizeUrl tools allowHttp)
  let allowed ← hostsAllowed tools policy (source :: final :: again)
  require allowed
    (.tool "ECO_RESEARCH_DOMAIN_DENIED" "Research response domain is denied")
  require (response.mediaType ∈ policy.allowedMediaTypes)
    (.tool "ECO_RESEARCH_MEDIA_DENIED" "Research response media type is denied")
  require (response.body ≠ [] && response.body.length ≤ policy.maxDecodedBytes &&
    0 ∉ response.body) decodedLimit
  asBrokerFailure (checkContent recursionLimit response.mediaType response.body)
  return { body := response.body, mediaType := response.mediaType, sourceUrl := source.value
           finalUrl := final.value, redirectChain := redirects }

/-- `fetch` over `SafeHttpsTransport` up to the publication: the contacts that were made,
and the response. -/
def fetch (authorize : NormalizedUrl → Except Failure Unit) (url : Text) (hops : List Hop) :
    List Contact × Except Failure TransportResponse :=
  let checked := do
    let normalized ← normalizeUrl tools false url
    validateUrlQuery tools normalized.value policy.allowedUrlQueryKeys
    authorize normalized
    return normalized
  match checked with
  | .error failure => ([], .error failure)
  | .ok normalized =>
    let run := request tools zlib recursionLimit policy .get normalized.value none hops
    (run.1, run.2 >>= fun response =>
      validateResponse tools recursionLimit policy false response (some normalized.value))

/-- The URLs that the redirects of a run lead to, as they are before they are normalised. -/
def joinedUrls : NormalizedUrl → List Hop → List Text
  | _, [] => []
  | current, hop :: hops =>
    match hop.response with
    | .error _ => []
    | .ok response =>
      if isRedirect response.status then
        match joinedLocation tools current response with
        | none => []
        | some joined =>
          match normalizeUrl tools false joined with
          | .error _ => [joined]
          | .ok next => joined :: joinedUrls next hops
      else []

end Validate

variable {tools : UrlTools} {zlib : Zlib} {recursionLimit : ℕ} {policy : TransportPolicy}

/-! ## The targets of a run -/

/-- What a run that returns a response went through. -/
structure Followed (tools : UrlTools) (recursionLimit : ℕ) (policy : TransportPolicy)
    (redirects : List Text) (current : NormalizedUrl) (joined : List Text)
    (targets : List NormalizedUrl) (response : TransportResponse) : Prop where
  normalized : List.Forall₂ (fun url target => normalizeUrl tools false url = .ok target)
    joined targets
  inPolicy : ∀ target ∈ targets, TargetInPolicy tools policy target
  chain : response.redirectChain = redirects ++ targets.map (·.value)
  final : response.finalUrl = (targets.getLastD current).value
  media : response.mediaType ∈ policy.allowedMediaTypes
  nonempty : response.body ≠ []
  decoded : response.body.length ≤ policy.maxDecodedBytes
  noNul : 0 ∉ response.body
  content : checkContent recursionLimit response.mediaType response.body = .ok ()

variable {n : ℕ}

theorem requestLoop_followed {source : NormalizedUrl} {state : LoopState} {hops : List Hop}
    {response : TransportResponse}
    (h : (requestLoop tools zlib recursionLimit policy source n state hops).2 = .ok response) :
    response.sourceUrl = source.value ∧
      ∃ targets, Followed tools recursionLimit policy state.redirects state.current
        (joinedUrls tools state.current hops) targets response := by
  induction n generalizing state hops with
  | zero => cases h
  | succ n ih =>
    cases hops with
    | nil => cases h
    | cons hop hops =>
      unfold requestLoop at h
      split at h
      · cases h
      split at h
      · cases h
      dsimp only at h
      split at h
      · cases h
      next answer hanswer =>
        unfold joinedUrls
        simp only [hanswer]
        split at h
        · cases h
        split at h
        · next hredirect =>
            rw [if_pos hredirect]
            split at h
            · cases h
            next next hnext =>
            obtain ⟨hsource, targets, hfollowed⟩ := ih h
            obtain ⟨_, hpolicy, _, joined, hjoined, hnormalized⟩ :=
              followRedirect_eq_ok hnext
            simp only [hjoined, hnormalized]
            refine ⟨hsource, next :: targets, ?_⟩
            exact
              { hfollowed with
                normalized := .cons hnormalized hfollowed.normalized
                inPolicy := by
                  intro target htarget
                  rcases List.mem_cons.mp htarget with rfl | htarget
                  · exact hpolicy
                  · exact hfollowed.inPolicy target htarget
                chain := by
                  rw [hfollowed.chain]
                  show state.redirects ++ [next.value] ++ _ = _
                  rw [List.append_assoc]
                  rfl
                final := by
                  rw [hfollowed.final, List.getLastD_cons]
                  rfl }
        · next hfinal =>
            rw [if_neg hfinal]
            split at h
            · cases h
            next body mediaType hreceived =>
            obtain rfl := Except.ok.inj h
            obtain ⟨hreceived, hne, hcontent⟩ := receive_eq_ok hreceived
            exact ⟨rfl, [],
              { normalized := .nil
                inPolicy := fun _ h => by cases h
                chain := (List.append_nil _).symm
                final := rfl
                media := hreceived.media
                nonempty := hne
                decoded := hreceived.decoded
                noNul := hreceived.noNul
                content := hcontent }⟩

/-! ## The checks of the broker -/

theorem accepted_again {allowHttp : Bool} {url : Text} {target : NormalizedUrl}
    (h : normalizeUrl tools allowHttp url = .ok target) :
    (∃ again, normalizeUrl tools allowHttp target.value = .ok again) ↔ ¬ Tight url := by
  rw [← normalize_idempotent_iff h]
  constructor
  · rintro ⟨again, hagain⟩
    obtain ⟨_, split, rawPort, rawHost, haccepts⟩ := normalizeUrl_eq_ok.mp hagain
    exact (normalize_again h).mpr haccepts.length
  · intro hsame
    exact ⟨target, hsame⟩

theorem targets_accepted_again {joined : List Text} {targets : List NormalizedUrl}
    (h : List.Forall₂ (fun url target => normalizeUrl tools false url = .ok target)
      joined targets) :
    (∀ target ∈ targets, ∃ again, normalizeUrl tools false target.value = .ok again) ↔
      ∀ url ∈ joined, ¬ Tight url := by
  induction h with
  | nil =>
    constructor
    · intro _ _ hmem
      cases hmem
    · intro _ _ hmem
      cases hmem
  | cons hurl _ ih => rw [List.forall_mem_cons, List.forall_mem_cons, ih, accepted_again hurl]

theorem hostsAllowed_of_inPolicy {urls : List NormalizedUrl}
    (h : ∀ url ∈ urls, TargetInPolicy tools policy url) :
    hostsAllowed tools policy urls = .ok true := by
  induction urls with
  | nil => rfl
  | cons url urls ih =>
    rw [List.forall_mem_cons] at h
    unfold hostsAllowed
    rw [h.1.allowed, ok_bind]
    exact ih h.2

/-- **The broker accepts what the transport returns** if and only if it can normalise the
redirects again. -/
theorem validateResponse_accepts_iff {source : NormalizedUrl} {joined : List Text}
    {targets : List NormalizedUrl} {response : TransportResponse}
    (hsource : TargetInPolicy tools policy source)
    (hagain : normalizeUrl tools false source.value = .ok source)
    (hfollowed : Followed tools recursionLimit policy [] source joined targets response)
    (hurl : response.sourceUrl = source.value)
    (hcount : response.redirectChain.length ≤ policy.maxRedirects)
    (hdistinct : (source.value :: response.redirectChain).Nodup) :
    (∃ accepted, validateResponse tools recursionLimit policy false response
      (some source.value) = .ok accepted) ↔ ∀ url ∈ joined, ¬ Tight url := by
  have hchain : response.redirectChain = targets.map (·.value) := by
    rw [hfollowed.chain, List.nil_append]
  rw [← targets_accepted_again hfollowed.normalized]
  unfold validateResponse
  constructor
  · rintro ⟨accepted, h⟩ target htarget
    obtain ⟨_, _, h⟩ := bind_eq_ok.mp h
    obtain ⟨_, _, h⟩ := bind_eq_ok.mp h
    obtain ⟨again, hmap, _⟩ := bind_eq_ok.mp h
    refine exists_mapM_eq_ok.mp ⟨again, hmap⟩ target.value ?_
    rw [hchain]
    exact List.mem_map_of_mem htarget
  · intro hall
    -- every URL of the response is normalised to what it was
    have hsame : ∀ target ∈ source :: targets,
        normalizeUrl tools false target.value = .ok target := by
      rw [List.forall_mem_cons]
      refine ⟨hagain, ?_⟩
      intro target htarget
      obtain ⟨url, hnormalized⟩ := (hfollowed.inPolicy target htarget).normalized
      exact (normalize_idempotent_iff hnormalized).mpr
        ((accepted_again hnormalized).mp (hall target htarget))
    have hmap : (targets.map (·.value)).mapM (normalizeUrl tools false) = .ok targets := by
      rw [mapM_eq_ok, List.forall₂_map_left_iff]
      exact List.forall₂_same.mpr fun target h => hsame target (List.mem_cons_of_mem _ h)
    have hpolicy : ∀ target ∈ source :: targets, TargetInPolicy tools policy target :=
      List.forall_mem_cons.mpr ⟨hsource, hfollowed.inPolicy⟩
    have hmem : targets.getLastD source ∈ source :: targets := List.getLastD_mem_cons
    have hqueries : (targets.map (·.value)).forM (fun url =>
        validateUrlQuery tools url policy.allowedUrlQueryKeys) = .ok () := by
      refine forM_eq_ok.mpr ?_
      intro url hurl
      obtain ⟨target, htarget, rfl⟩ := List.mem_map.mp hurl
      exact (hfollowed.inPolicy target htarget).checked
    have hhosts : hostsAllowed tools policy (source :: targets.getLastD source :: targets) =
        .ok true := by
      apply hostsAllowed_of_inPolicy
      rw [List.forall_mem_cons, List.forall_mem_cons]
      exact ⟨hsource, hpolicy _ hmem, hfollowed.inPolicy⟩
    refine ⟨{ body := response.body, mediaType := response.mediaType
              sourceUrl := source.value, finalUrl := (targets.getLastD source).value
              redirectChain := targets.map (·.value) }, ?_⟩
    rw [hurl, hagain, ok_bind, hfollowed.final, hsame _ hmem, ok_bind, hchain, hmap, ok_bind]
    dsimp only
    rw [hsource.checked, ok_bind, (hpolicy _ hmem).checked, ok_bind, hqueries, ok_bind]
    rw [require_bind_eq_ok]
    refine ⟨decide_eq_true rfl, ?_⟩
    rw [require_bind_eq_ok]
    refine ⟨?_, ?_⟩
    · rw [Bool.and_eq_true, Bool.and_eq_true, decide_eq_true_eq, decide_eq_true_eq,
        decide_eq_true_eq, List.getLastD_map, ← hchain]
      exact ⟨⟨hcount, hdistinct⟩, rfl⟩
    · rw [hmap, ok_bind, hhosts, ok_bind, require_bind_eq_ok]
      refine ⟨rfl, ?_⟩
      rw [require_bind_eq_ok]
      refine ⟨decide_eq_true hfollowed.media, ?_⟩
      rw [require_bind_eq_ok]
      refine ⟨?_, ?_⟩
      · rw [Bool.and_eq_true, Bool.and_eq_true, decide_eq_true_eq, decide_eq_true_eq,
          decide_eq_true_eq]
        exact ⟨⟨hfollowed.nonempty, hfollowed.decoded⟩, hfollowed.noNul⟩
      · rw [hfollowed.content]
        rfl

/-- **Normalisation is idempotent, and the broker accepts what was fetched**, except where
the slash of an empty path makes a URL too long. -/
theorem normalization_agrees_iff (tools : UrlTools) (zlib : Zlib) (recursionLimit : ℕ)
    (policy : TransportPolicy) {url : Text} {normalized : NormalizedUrl} {allowHttp : Bool}
    (h : normalizeUrl tools allowHttp url = .ok normalized) :
    (normalizeUrl tools allowHttp normalized.value = .ok normalized ↔ ¬ Tight url) ∧
    (allowHttp = false → ∀ authorize hops response, authorize normalized = .ok () →
      (request tools zlib recursionLimit policy .get normalized.value none hops).2 =
        .ok response →
      ((∃ accepted, validateResponse tools recursionLimit policy false response
          (some normalized.value) = .ok accepted) ↔
        ∀ joined ∈ joinedUrls tools normalized hops, ¬ Tight joined) ∧
      ((∃ accepted, (fetch tools zlib recursionLimit policy authorize url hops).2 =
          .ok accepted) ↔
        ∀ joined ∈ joinedUrls tools normalized hops, ¬ Tight joined)) := by
  refine ⟨normalize_idempotent_iff h, ?_⟩
  rintro rfl authorize hops response hauthorized hresponse
  have hrequest := hresponse
  unfold request at hresponse
  split at hresponse
  · cases hresponse
  next source hsource =>
  obtain ⟨hagain, hpolicy⟩ := checkRequest_eq_ok hsource
  -- the source of the request is the URL that was normalised for it
  obtain ⟨_, split, rawPort, rawHost, haccepts⟩ := normalizeUrl_eq_ok.mp hagain
  have hsame := (normalize_again h).mpr haccepts.length
  have heq : source = normalized := Except.ok.inj (hagain.symm.trans hsame)
  subst heq
  have hvisiting : Visiting tools policy source []
      { current := source, visited := [source.value], redirects := [], method := .get,
        body := none } :=
    { target := hpolicy
      visited := rfl
      last := rfl
      distinct := List.nodup_singleton _ }
  obtain ⟨hurl, targets, hfollowed⟩ := requestLoop_followed hresponse
  obtain ⟨hstays, _⟩ := @requestLoop_stays tools zlib recursionLimit policy _ _ _ hops
    (policy.maxRedirects + 1) hvisiting
  obtain ⟨hchain, _⟩ := hstays.result response hresponse
  rw [List.nil_append] at hchain
  have haccepts_iff : (∃ accepted, validateResponse tools recursionLimit policy false
      response (some source.value) = .ok accepted) ↔
        ∀ joined ∈ joinedUrls tools source hops, ¬ Tight joined := by
    refine validateResponse_accepts_iff hpolicy hsame hfollowed hurl ?_ ?_
    · have := hstays.count
      have hlength := congrArg List.length hchain
      rw [urls, List.length_map, List.length_cons] at hlength
      omega
    · have := hstays.distinct
      rwa [List.nil_append, ← hchain, hurl] at this
  refine ⟨haccepts_iff, ?_⟩
  have hfetch : (fetch tools zlib recursionLimit policy authorize url hops).2 =
      validateResponse tools recursionLimit policy false response (some source.value) := by
    unfold fetch
    rw [h, ok_bind, hpolicy.checked, ok_bind, hauthorized, ok_bind]
    dsimp only
    show ((request tools zlib recursionLimit policy .get source.value none hops).2 >>= _) =
      validateResponse tools recursionLimit policy false response (some source.value)
    rw [hrequest, ok_bind]
  rw [hfetch]
  exact haccepts_iff

/-! ### A fetch without a redirect -/

def publicTools : UrlTools where
  idna := fun _ => none
  bracketsValid := fun _ => true
  ipAddress := fun text => if text = lit "8.8.8.8" then some ⟨text, true, false⟩ else none
  unquote := id
  lower := asciiLower
  urljoin := fun _ location => some location
  int := fun _ => none

/-- A decompressor that takes nothing. -/
def closedZlib : Zlib where
  State := Unit
  start := fun _ => ()
  decompress := fun _ _ _ => .error .data
  flush := fun _ _ => .error .data
  eof := fun _ => false

def textPolicy : TransportPolicy where
  domainRules := [⟨['a'], false⟩]
  maxRedirects := 0
  maxWireBytes := 10
  maxDecodedBytes := 10
  allowedMediaTypes := [lit "text/plain"]
  allowedUrlQueryKeys := []

def textHop : Hop where
  expired := false
  answers := some [lit "8.8.8.8"]
  response := .ok
    { status := 200
      headers := [(lit "Content-Type", lit "text/plain")]
      reads := [⟨false, false, .ok [120]⟩, ⟨false, false, .ok []⟩] }

def rootTarget : NormalizedUrl := ⟨lit "https://a/", ['a'], 443, httpsScheme⟩

theorem root_is_accepted :
    (normalizeUrl publicTools false rootTarget.value = .ok rootTarget ↔
      ¬ Tight (lit "https://a")) ∧
    ∃ accepted, (fetch publicTools closedZlib 1000 textPolicy (fun _ => .ok ())
      (lit "https://a") [textHop]).2 = .ok accepted := by
  have hroot : normalizeUrl publicTools false (lit "https://a") = .ok rootTarget := rfl
  have hrequest : (request publicTools closedZlib 1000 textPolicy .get rootTarget.value none
      [textHop]).2 = .ok ⟨[120], lit "text/plain", lit "https://a/", lit "https://a/", []⟩ :=
    rfl
  have hjoined : joinedUrls publicTools rootTarget [textHop] = [] := rfl
  obtain ⟨hidempotent, hfetch⟩ :=
    normalization_agrees_iff publicTools closedZlib 1000 textPolicy hroot
  refine ⟨hidempotent, ((hfetch rfl (fun _ => .ok ()) _ _ rfl hrequest).2).mpr ?_⟩
  rw [hjoined]
  exact fun _ h => absurd h List.not_mem_nil

/-! ## A URL without room for the slash -/

def queryUrl (n : ℕ) : Text := lit "https://a?" ++ List.replicate n 'x'

def queryTarget (n : ℕ) : NormalizedUrl where
  value := lit "https://a/?" ++ List.replicate n 'x'
  host := ['a']
  port := 443
  scheme := httpsScheme

theorem mem_queryUrl {c : Char} (h : c ∈ queryUrl n) : c ∈ lit "https://a?" ∨ c = 'x' := by
  rcases List.mem_append.mp h with h | h
  · exact .inl h
  · exact .inr (List.eq_of_mem_replicate h)

theorem length_queryUrl (n : ℕ) : (queryUrl n).length = n + 10 := by
  unfold queryUrl
  rw [List.length_append, List.length_replicate, Nat.add_comm]
  rfl

theorem not_mem_replicate {c : Char} (h : c ≠ 'x') : c ∉ List.replicate n 'x' :=
  fun hmem => h (List.eq_of_mem_replicate hmem)

theorem urlsplit_queryUrl (tools : UrlTools) (hn : n ≠ 0) :
    urlsplit tools (queryUrl n) = some ⟨httpsScheme, ['a'], [], List.replicate n 'x', []⟩ := by
  have hquery : queryPart (List.replicate n 'x') = '?' :: List.replicate n 'x' := by
    rw [queryPart, if_neg]
    rw [List.replicate_eq_nil_iff]
    exact hn
  have := @urlsplit_of_parts tools httpsScheme ['a'] [] (List.replicate n 'x') (.inl (by decide))
    (by simp; decide) (by decide) (by decide)
    ⟨.inl rfl, List.not_mem_nil, List.not_mem_nil, not_mem_replicate (by decide)⟩
  rw [hquery] at this
  exact this

theorem normalizeUrl_queryUrl (tools : UrlTools) (hn : n ≠ 0) (hlength : n ≤ 8182) :
    normalizeUrl tools false (queryUrl n) = .ok (queryTarget n) := by
  refine normalizeUrl_eq_ok.mpr ⟨List.cons_ne_nil _ _,
    ⟨httpsScheme, ['a'], [], List.replicate n 'x', []⟩, none, ['a'], ?_⟩
  have hpercents : percentsValid (queryUrl n) = true := by
    have hpercent : '%' ∉ queryUrl n := by
      intro h
      rcases mem_queryUrl h with h | h
      · exact absurd h (by decide)
      · exact absurd h (by decide)
    have := percentsValid_plain hpercent []
    rwa [List.append_nil] at this
  exact
    { length := by
        rw [length_queryUrl]
        omega
      characters := by
        intro c hc
        have hstart : ∀ c ∈ lit "https://a?", isUrlChar c = true :=
          forall_mem_of_all (by decide)
        rcases mem_queryUrl hc with hc | rfl
        · exact hstart c hc
        · decide
      percents := hpercents
      splits := urlsplit_queryUrl tools hn
      scheme := .inl rfl
      netloc := List.cons_ne_nil _ _
      noUserinfo := by
        show '@' ∉ ['a']
        decide
      noFragment := rfl
      port := rfl
      host := rfl
      noColon := by decide
      canonical := rfl
      scheme_eq := rfl
      port_eq := rfl
      httpsPort := fun _ => rfl
      value_eq := by
        show lit "https://a/?" ++ List.replicate n 'x' = urlunsplit httpsScheme _ ['/'] _
        unfold urlunsplit
        rw [if_neg]
        · rfl
        · rw [List.replicate_eq_nil_iff]
          exact hn }

theorem normalization_outgrows_its_limit :
    normalizeUrl publicTools false (queryUrl 8182) = .ok (queryTarget 8182) ∧
      ∀ normalized, normalizeUrl publicTools false (queryTarget 8182).value ≠ .ok normalized := by
  refine ⟨normalizeUrl_queryUrl publicTools (by omega) (by omega), ?_⟩
  intro normalized h
  obtain ⟨_, split, rawPort, rawHost, haccepts⟩ := normalizeUrl_eq_ok.mp h
  have hlength := haccepts.length
  have : (queryTarget 8182).value.length = 8193 := by
    show (lit "https://a/?" ++ List.replicate 8182 'x').length = 8193
    rw [List.length_append, List.length_replicate]
    rfl
  omega

end Ecosystem.Research
