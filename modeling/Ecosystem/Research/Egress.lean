import Ecosystem.Research.Normalization
import Ecosystem.Research.Transport

/-!
# What a request may contact

Every round of the loop of `request` derives its target, method, body and address anew.
The invariant (`Visiting`) says what all of it still satisfies; a run from such a state
(`Stays`) only contacts what the policy lets through, and its result is bounded.
-/

namespace Ecosystem.Research

open Ecosystem.Lib Ecosystem.Lib.Checks
open Ecosystem.Projections (lit)

variable {tools : UrlTools} {zlib : Zlib} {recursionLimit : ℕ} {policy : TransportPolicy}

/-! ## Targets and addresses -/

structure TargetInPolicy (tools : UrlTools) (policy : TransportPolicy) (target : NormalizedUrl) :
    Prop where
  normalized : ∃ url, normalizeUrl tools false url = .ok target
  https : target.scheme = httpsScheme
  port : target.port = 443
  canonical : canonicalHost tools target.host = .ok target.host
  allowed : hostAllowed tools target.host policy.domainRules = .ok true
  checked : validateUrlQuery tools target.value policy.allowedUrlQueryKeys = .ok ()
  query : ∃ split keys, urlsplit tools target.value = some split ∧
    queryKeys tools split.query = some keys ∧ keys.Nodup ∧
    ∀ key ∈ keys, key ∈ policy.allowedUrlQueryKeys

def PublicAddress (tools : UrlTools) (target : NormalizedUrl) (hop : Hop) (address : Text) :
    Prop :=
  (∃ literal, tools.ipAddress target.host = some literal ∧ address = literal.text ∧
    ipIsPublic tools literal.text = true) ∨
  ∃ answers, hop.answers = some answers ∧ address ∈ answers ∧
    ∀ answer ∈ answers, ipIsPublic tools answer = true

variable {url : Text} {response : Response} {earlier : List Text} {limit : ℕ}
  {body : Option Bytes} {hops : List Hop}

theorem validateUrlQuery_eq_ok {allowedKeys : List Text}
    (h : validateUrlQuery tools url allowedKeys = .ok ()) :
    ∃ split keys, urlsplit tools url = some split ∧ queryKeys tools split.query = some keys ∧
      keys.Nodup ∧ ∀ key ∈ keys, key ∈ allowedKeys := by
  unfold validateUrlQuery at h
  obtain ⟨split, hsplit, h⟩ := expect_bind_eq_ok.mp h
  obtain ⟨keys, hkeys, h⟩ := expect_bind_eq_ok.mp h
  rw [require_eq_ok, Bool.and_eq_true, decide_eq_true_eq, List.all_eq_true] at h
  refine ⟨split, keys, hsplit, hkeys, h.1, ?_⟩
  intro key hkey
  have hallowed := h.2 key hkey
  rw [Bool.and_eq_true, decide_eq_true_eq] at hallowed
  exact hallowed.1

theorem targetInPolicy {target : NormalizedUrl}
    (hurl : normalizeUrl tools false url = .ok target)
    (hquery : validateUrlQuery tools target.value policy.allowedUrlQueryKeys = .ok ())
    (hallowed : hostAllowed tools target.host policy.domainRules = .ok true) :
    TargetInPolicy tools policy target := by
  obtain ⟨_, split, rawPort, rawHost, haccepts⟩ := normalizeUrl_eq_ok.mp hurl
  have hscheme : split.scheme = httpsScheme := by
    rcases haccepts.scheme with h | ⟨h, _⟩
    · exact h
    · cases h
  exact
    { normalized := ⟨url, hurl⟩
      https := by rw [haccepts.scheme_eq, hscheme]
      port := haccepts.httpsPort hscheme
      canonical := haccepts.host_eq.2.accepted
      allowed := hallowed
      checked := hquery
      query := validateUrlQuery_eq_ok hquery }

theorem publicAddress_of_resolved {target : NormalizedUrl} {hop : Hop} {addresses : List Text}
    (hcanonical : canonicalHost tools target.host = .ok target.host)
    (h : resolvePublicAddresses tools target.host hop.answers = .ok addresses) :
    PublicAddress tools target hop (addresses.headD []) := by
  unfold resolvePublicAddresses at h
  rw [hcanonical, ok_bind] at h
  obtain ⟨_, h⟩ := require_bind_eq_ok.mp h
  split at h
  · next literal hliteral =>
      obtain ⟨hpublic, h⟩ := require_bind_eq_ok.mp h
      obtain rfl := Except.ok.inj h
      exact .inl ⟨literal, hliteral, rfl, hpublic⟩
  · obtain ⟨answers, hanswers, h⟩ := expect_bind_eq_ok.mp h
    obtain ⟨hpublic, h⟩ := require_bind_eq_ok.mp h
    obtain rfl := Except.ok.inj h
    rw [Bool.and_eq_true, decide_eq_true_eq, List.all_eq_true] at hpublic
    refine .inr ⟨answers, hanswers, ?_, hpublic.2⟩
    -- the first of the sorted addresses is one of them
    have hmem : ∀ address ∈ sortOn id answers.dedup, address ∈ answers := by
      intro address h
      exact List.mem_dedup.mp (mem_sortOn.mp h)
    cases hsorted : sortOn id answers.dedup with
    | nil =>
      obtain ⟨answer, hanswer⟩ := List.exists_mem_of_ne_nil answers hpublic.1
      have hsome : answer ∈ sortOn id answers.dedup :=
        mem_sortOn.mpr (List.mem_dedup.mpr hanswer)
      rw [hsorted] at hsome
      cases hsome
    | cons address rest =>
      apply hmem
      rw [hsorted]
      exact List.mem_cons_self ..

/-! ## Bodies -/

theorem decodeChunk_length {decoder decoder' : Option zlib.State} {chunk decoded out : Bytes}
    (h : decodeChunk zlib policy decoder chunk decoded = .ok (out, decoder')) :
    out.length ≤ policy.maxDecodedBytes := by
  unfold decodeChunk at h
  cases decoder with
  | none =>
    obtain ⟨hlength, h⟩ := require_bind_eq_ok.mp h
    obtain ⟨rfl, _⟩ := Prod.mk.inj (Except.ok.inj h)
    exact of_decide_eq_true hlength
  | some state =>
    dsimp only at h
    split at h
    · cases h
    obtain ⟨hlength, h⟩ := require_bind_eq_ok.mp h
    obtain ⟨_, h⟩ := require_bind_eq_ok.mp h
    obtain ⟨rfl, _⟩ := Prod.mk.inj (Except.ok.inj h)
    exact of_decide_eq_true hlength

theorem finishEntity_length {decoder : Option zlib.State} {decoded out : Bytes}
    (hdecoded : decoded.length ≤ policy.maxDecodedBytes)
    (h : finishEntity zlib policy decoder decoded = .ok out) :
    out.length ≤ policy.maxDecodedBytes := by
  unfold finishEntity at h
  cases decoder with
  | none =>
    obtain rfl := Except.ok.inj h
    exact hdecoded
  | some state =>
    dsimp only at h
    split at h
    · cases h
    obtain ⟨hlength, h⟩ := require_bind_eq_ok.mp h
    obtain ⟨_, h⟩ := require_bind_eq_ok.mp h
    obtain rfl := Except.ok.inj h
    exact of_decide_eq_true hlength

/-- **Both limits hold of a body that is decoded**, however it comes in blocks. -/
theorem decodeEntity_bounded {decoder : Option zlib.State} {wire : ℕ} {decoded out : Bytes}
    {reads : List Read} (hwire : wire ≤ policy.maxWireBytes)
    (hdecoded : decoded.length ≤ policy.maxDecodedBytes)
    (h : decodeEntity zlib policy decoder wire decoded reads = .ok out) :
    wire + wireBytes reads ≤ policy.maxWireBytes ∧ out.length ≤ policy.maxDecodedBytes := by
  induction reads generalizing decoder wire decoded with
  | nil => cases h
  | cons read reads ih =>
    unfold decodeEntity at h
    unfold wireBytes
    split at h
    · cases h
    split at h
    · cases h
    split at h
    · cases h
    next chunk hblock =>
    by_cases hchunk : chunk = []
    · rw [if_pos hchunk] at h ⊢
      exact ⟨by omega, finishEntity_length hdecoded h⟩
    · rw [if_neg hchunk] at h ⊢
      obtain ⟨hlimit, h⟩ := require_bind_eq_ok.mp h
      obtain ⟨⟨decoded', decoder'⟩, hchunk', h⟩ := bind_eq_ok.mp h
      have hrest := ih (of_decide_eq_true hlimit) (decodeChunk_length hchunk') h
      exact ⟨by omega, hrest.2⟩

theorem decodeBoundedEntity_bounded {encoding : Text} {reads : List Read} {out : Bytes}
    (h : decodeBoundedEntity zlib policy encoding reads = .ok out) :
    wireBytes reads ≤ policy.maxWireBytes ∧ out.length ≤ policy.maxDecodedBytes := by
  have hrun : ∃ decoder, decodeEntity zlib policy decoder 0 [] reads = .ok out := by
    unfold decodeBoundedEntity at h
    dsimp only at h
    split at h
    · exact ⟨_, h⟩
    split at h
    · exact ⟨_, h⟩
    split at h
    · exact ⟨_, h⟩
    · cases h
  obtain ⟨decoder, hrun⟩ := hrun
  have := decodeEntity_bounded (Nat.zero_le _) (Nat.zero_le _) hrun
  rwa [Nat.zero_add] at this

/-- A response whose body and media type came through. -/
structure Received (policy : TransportPolicy) (reads : List Read) (body : Bytes)
    (mediaType : Text) : Prop where
  wire : wireBytes reads ≤ policy.maxWireBytes
  decoded : body.length ≤ policy.maxDecodedBytes
  media : mediaType ∈ policy.allowedMediaTypes
  text : (readUtf8 body).isSome
  noNul : 0 ∉ body

theorem receive_eq_ok {body : Bytes} {mediaType : Text}
    (h : receive tools zlib recursionLimit policy response = .ok (body, mediaType)) :
    Received policy response.reads body mediaType ∧ body ≠ [] ∧
      checkContent recursionLimit mediaType body = .ok () := by
  unfold receive at h
  obtain ⟨_, h⟩ := require_bind_eq_ok.mp h
  obtain ⟨_, _, h⟩ := bind_eq_ok.mp h
  dsimp only at h
  obtain ⟨hmedia, h⟩ := require_bind_eq_ok.mp h
  obtain ⟨decoded, hdecoded, h⟩ := bind_eq_ok.mp h
  obtain ⟨hcontent, h⟩ := require_bind_eq_ok.mp h
  obtain ⟨_, hchecked, h⟩ := bind_eq_ok.mp h
  obtain ⟨rfl, rfl⟩ := Prod.mk.inj (Except.ok.inj h)
  obtain ⟨hwire, hlength⟩ := decodeBoundedEntity_bounded hdecoded
  rw [Bool.and_eq_true, decide_eq_true_eq, decide_eq_true_eq] at hcontent
  have htext : (readUtf8 decoded).isSome = true := by
    unfold checkContent at hchecked
    exact (require_bind_eq_ok.mp hchecked).1
  exact ⟨⟨hwire, hlength, of_decide_eq_true hmedia, htext, hcontent.2⟩, hcontent.1, hchecked⟩

/-! ## One round -/

/-- What the loop knows of its variables: what was visited is the source and the redirects
behind it, and the current target is the last of it. -/
structure Visiting (tools : UrlTools) (policy : TransportPolicy) (source : NormalizedUrl)
    (earlier : List Text) (state : LoopState) : Prop where
  target : TargetInPolicy tools policy state.current
  visited : state.visited = source.value :: state.redirects
  last : state.visited = earlier ++ [state.current.value]
  distinct : state.visited.Nodup

/-- What a `Location` comes to, joined to the URL of the response. -/
def joinedLocation (tools : UrlTools) (current : NormalizedUrl) (response : Response) :
    Option Text :=
  (location response).bind (tools.urljoin current.value)

theorem followRedirect_eq_ok {current next : NormalizedUrl} {visited redirects : List Text}
    (h : followRedirect tools policy current visited redirects response = .ok next) :
    redirects.length < policy.maxRedirects ∧ TargetInPolicy tools policy next ∧
      next.value ∉ visited ∧ ∃ joined, joinedLocation tools current response = some joined ∧
        normalizeUrl tools false joined = .ok next := by
  unfold followRedirect at h
  obtain ⟨written, hwritten, h⟩ := expect_bind_eq_ok.mp h
  obtain ⟨hlength, h⟩ := require_bind_eq_ok.mp h
  obtain ⟨joined, hjoined, h⟩ := expect_bind_eq_ok.mp h
  obtain ⟨target, htarget, h⟩ := bind_eq_ok.mp h
  obtain ⟨_, hquery, h⟩ := bind_eq_ok.mp h
  obtain ⟨allowed, hallowed, h⟩ := bind_eq_ok.mp h
  obtain ⟨htrue, h⟩ := require_bind_eq_ok.mp h
  obtain ⟨hnew, h⟩ := require_bind_eq_ok.mp h
  obtain rfl := Except.ok.inj h
  subst htrue
  refine ⟨of_decide_eq_true hlength, targetInPolicy htarget hquery hallowed,
    of_decide_eq_true hnew, joined, ?_, htarget⟩
  rw [joinedLocation, hwritten]
  exact hjoined

theorem Visiting.follow {source next : NormalizedUrl} {state : LoopState}
    (h : Visiting tools policy source earlier state)
    (hnext : followRedirect tools policy state.current state.visited state.redirects response =
      .ok next) :
    Visiting tools policy source (earlier ++ [state.current.value])
      (state.follow next response.status) := by
  obtain ⟨_, htarget, hnew, _⟩ := followRedirect_eq_ok hnext
  refine ⟨htarget, ?_, ?_, ?_⟩
  · show state.visited ++ [next.value] = source.value :: (state.redirects ++ [next.value])
    rw [h.visited, List.cons_append]
  · show state.visited ++ [next.value] = earlier ++ [state.current.value] ++ [next.value]
    rw [h.last]
  · show (state.visited ++ [next.value]).Nodup
    rw [List.nodup_append]
    refine ⟨h.distinct, List.nodup_singleton _, ?_⟩
    rintro visited hvisited _ hmem rfl
    rw [List.mem_singleton.mp hmem] at hvisited
    exact hnew hvisited

/-! ## Runs -/

def urls (contacts : List Contact) : List Text := contacts.map (·.target.value)

def SeeOther (hop : Hop) : Prop := ∃ response, hop.response = .ok response ∧ response.status = 303

/-- What is said of a run: of its contacts beside the hops they were made at, and of its
result. -/
structure Stays (tools : UrlTools) (policy : TransportPolicy) (limit : ℕ)
    (earlier : List Text) (body : Option Bytes) (hops : List Hop)
    (run : List Contact × Except Failure TransportResponse) : Prop where
  count : run.1.length ≤ limit
  targets : ∀ contact ∈ run.1, TargetInPolicy tools policy contact.target
  addresses : List.Forall₂ (fun contact hop =>
    PublicAddress tools contact.target hop contact.address) run.1 (hops.take run.1.length)
  distinct : (earlier ++ urls run.1).Nodup
  bodies : ∀ contact ∈ run.1, contact.body = none ∨ contact.body = body
  /-- Behind a 303 nothing is sent. -/
  seeOther : ∀ (i j : ℕ) (hop : Hop) (contact : Contact), i < j → hops[i]? = some hop →
    SeeOther hop → run.1[j]? = some contact → contact.body = none
  result : ∀ result, run.2 = .ok result →
    result.sourceUrl :: result.redirectChain = earlier ++ urls run.1 ∧
    (urls run.1).getLast? = some result.finalUrl ∧
    ∃ hop response, hops[run.1.length - 1]? = some hop ∧ hop.response = .ok response ∧
      Received policy response.reads result.body result.mediaType

theorem Stays.nothing (failure : Failure) (hdistinct : earlier.Nodup) :
    Stays tools policy limit earlier body hops ([], .error failure) where
  count := Nat.zero_le _
  targets := fun _ h => by cases h
  addresses := .nil
  distinct := by
    show (earlier ++ []).Nodup
    rwa [List.append_nil]
  bodies := fun _ h => by cases h
  seeOther := fun _ j _ _ _ _ _ h => by simp at h
  result := fun _ h => by cases h

theorem Stays.last (contact : Contact) {hop : Hop}
    {result : Except Failure TransportResponse}
    (htarget : TargetInPolicy tools policy contact.target)
    (haddress : PublicAddress tools contact.target hop contact.address)
    (hdistinct : (earlier ++ [contact.target.value]).Nodup)
    (hresult : ∀ r, result = .ok r →
      r.sourceUrl :: r.redirectChain = earlier ++ [contact.target.value] ∧
      r.finalUrl = contact.target.value ∧ ∃ response, hop.response = .ok response ∧
        Received policy response.reads r.body r.mediaType) :
    Stays tools policy (limit + 1) earlier contact.body (hop :: hops) ([contact], result) where
  count := Nat.succ_le_succ (Nat.zero_le _)
  targets := by
    intro c hc
    rwa [List.mem_singleton.mp hc]
  addresses := .cons haddress .nil
  distinct := hdistinct
  bodies := by
    intro c hc
    rw [List.mem_singleton.mp hc]
    exact .inr rfl
  seeOther := by
    intro i j _ c hij _ _ hc
    obtain ⟨hj, _⟩ := List.getElem?_eq_some_iff.mp hc
    have : j < 1 := hj
    omega
  result := by
    intro r hr
    obtain ⟨hchain, hfinal, response, hresponse, hreceived⟩ := hresult r hr
    refine ⟨hchain, ?_, hop, response, rfl, hresponse, hreceived⟩
    rw [hfinal]
    rfl

theorem Stays.cons (contact : Contact)
    {hop : Hop} {run : List Contact × Except Failure TransportResponse}
    (htarget : TargetInPolicy tools policy contact.target)
    (haddress : PublicAddress tools contact.target hop contact.address)
    (hbody : body = none ∨ body = contact.body) (hseeOther : SeeOther hop → body = none)
    (hcontacts : ∀ r, run.2 = .ok r → run.1 ≠ [])
    (h : Stays tools policy limit (earlier ++ [contact.target.value]) body hops run) :
    Stays tools policy (limit + 1) earlier contact.body (hop :: hops)
      (contact :: run.1, run.2) where
  count := Nat.succ_le_succ h.count
  targets := by
    intro c hc
    rcases List.mem_cons.mp hc with rfl | hc
    · exact htarget
    · exact h.targets c hc
  addresses := .cons haddress h.addresses
  distinct := by
    have := h.distinct
    rwa [List.append_assoc] at this
  bodies := by
    intro c hc
    rcases List.mem_cons.mp hc with rfl | hc
    · exact .inr rfl
    · rcases h.bodies c hc with hnone | hsame
      · exact .inl hnone
      · rw [hsame]
        exact hbody
  seeOther := by
    intro i j other c hij hother hstatus hc
    cases j with
    | zero => omega
    | succ j =>
      rw [List.getElem?_cons_succ] at hc
      cases i with
      | zero =>
        obtain rfl := Option.some.inj hother
        rcases h.bodies c (List.mem_of_getElem? hc) with hnone | hsame
        · exact hnone
        · rw [hsame]
          exact hseeOther hstatus
      | succ i => exact h.seeOther i j other c (by omega) hother hstatus hc
  result := by
    intro r hr
    obtain ⟨hchain, hlast, other, response, hother, hresponse⟩ := h.result r hr
    refine ⟨?_, ?_, other, response, ?_, hresponse⟩
    · rw [hchain, List.append_assoc]
      rfl
    · show (contact.target.value :: urls run.1).getLast? = some r.finalUrl
      rw [List.getLast?_cons, hlast]
      rfl
    · have hpos := List.length_pos_iff.mpr (hcontacts r hr)
      show (hop :: hops)[run.1.length + 1 - 1]? = some other
      obtain ⟨k, hk⟩ : ∃ k, run.1.length = k + 1 := ⟨run.1.length - 1, by omega⟩
      rw [hk] at hother ⊢
      exact hother

/-- **A run of the loop stays inside the policy.** -/
theorem requestLoop_stays {source : NormalizedUrl} {earlier : List Text} {state : LoopState}
    {hops : List Hop} (n : ℕ) (h : Visiting tools policy source earlier state) :
    Stays tools policy n earlier state.body hops
        (requestLoop tools zlib recursionLimit policy source n state hops) ∧
      ∀ result, (requestLoop tools zlib recursionLimit policy source n state hops).2 =
        .ok result → (requestLoop tools zlib recursionLimit policy source n state hops).1 ≠ [] := by
  induction n generalizing earlier state hops with
  | zero =>
    have hearlier : earlier.Nodup := by
      have := h.last ▸ h.distinct
      exact (List.nodup_append.mp this).1
    exact ⟨.nothing _ hearlier, fun _ hr => by cases hr⟩
  | succ n ih =>
    have hdistinct : (earlier ++ [state.current.value]).Nodup := h.last ▸ h.distinct
    have hearlier : earlier.Nodup := (List.nodup_append.mp hdistinct).1
    cases hops with
    | nil => exact ⟨.nothing _ hearlier, fun _ hr => by cases hr⟩
    | cons hop hops =>
      unfold requestLoop
      split
      · exact ⟨.nothing _ hearlier, fun _ hr => by cases hr⟩
      split
      · exact ⟨.nothing _ hearlier, fun _ hr => by cases hr⟩
      next addresses hresolved =>
      have haddress := publicAddress_of_resolved h.target.canonical hresolved
      -- a contact that fails
      have hfails : ∀ failure, Stays tools policy (n + 1) earlier state.body
          (hop :: hops) ([state.contact addresses], .error failure) := by
        intro failure
        refine .last (state.contact addresses) h.target haddress hdistinct ?_
        intro _ hr
        cases hr
      dsimp only
      split
      · exact ⟨hfails _, fun _ hr => by cases hr⟩
      next response hresponse =>
      split
      · exact ⟨hfails _, fun _ hr => by cases hr⟩
      split
      · split
        · exact ⟨hfails _, fun _ hr => by cases hr⟩
        next next hnext =>
        obtain ⟨hstays, hcontacts⟩ := @ih _ _ hops (h.follow hnext)
        refine ⟨.cons (state.contact addresses) h.target haddress ?_ ?_ hcontacts
          hstays, ?_⟩
        · show (if response.status = 303 then none else state.body) = none ∨
            (if response.status = 303 then none else state.body) = state.body
          by_cases h303 : response.status = 303
          · exact .inl (if_pos h303)
          · exact .inr (if_neg h303)
        · rintro ⟨other, hother, hstatus⟩
          rw [hresponse] at hother
          obtain rfl := Except.ok.inj hother
          exact if_pos hstatus
        · intro _ _ hcontra
          cases hcontra
      · split
        · exact ⟨hfails _, fun _ hr => by cases hr⟩
        next body mediaType hreceived =>
        refine ⟨.last (state.contact addresses) h.target haddress hdistinct ?_, ?_⟩
        · intro result hr
          obtain rfl := Except.ok.inj hr
          refine ⟨?_, rfl, response, hresponse, (receive_eq_ok hreceived).1⟩
          show source.value :: state.redirects = _
          rw [← h.visited, h.last]
          rfl
        · intro _ _ hcontra
          cases hcontra

/-! ## Requests -/

theorem checkRequest_eq_ok {method : Method}
    {source : NormalizedUrl} (h : checkRequest tools policy method url body = .ok source) :
    normalizeUrl tools false url = .ok source ∧ TargetInPolicy tools policy source := by
  unfold checkRequest at h
  obtain ⟨_, h⟩ := require_bind_eq_ok.mp h
  obtain ⟨_, h⟩ := require_bind_eq_ok.mp h
  obtain ⟨target, htarget, h⟩ := bind_eq_ok.mp h
  obtain ⟨_, hquery, h⟩ := bind_eq_ok.mp h
  obtain ⟨allowed, hallowed, h⟩ := bind_eq_ok.mp h
  obtain ⟨htrue, h⟩ := require_bind_eq_ok.mp h
  obtain rfl := Except.ok.inj h
  subst htrue
  exact ⟨htarget, targetInPolicy htarget hquery hallowed⟩

/-- **Egress stays inside its policy**: at most one connection more than redirects, each
for a target that the policy lets through and to an address that is public, no URL twice,
no body behind a 303, and a response that keeps the limits and says where it comes from. -/
theorem request_stays_in_policy (tools : UrlTools) (zlib : Zlib) (recursionLimit : ℕ)
    (policy : TransportPolicy) (method : Method) (url : Text) (body : Option Bytes)
    (hops : List Hop) :
    Stays tools policy (policy.maxRedirects + 1) [] body hops
      (request tools zlib recursionLimit policy method url body hops) := by
  unfold request
  split
  · exact .nothing _ .nil
  next source hsource =>
  have hvisiting : Visiting tools policy source []
      { current := source, visited := [source.value], redirects := [], method, body } :=
    { target := (checkRequest_eq_ok hsource).2
      visited := rfl
      last := rfl
      distinct := List.nodup_singleton _ }
  exact (requestLoop_stays _ hvisiting).1

end Ecosystem.Research
