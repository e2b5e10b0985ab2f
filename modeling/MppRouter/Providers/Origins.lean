import MppRouter.Providers.IdClaim
import Mathlib.Data.List.DropRight

/-! # The origins of a provider

Three ways lead to an address that the router will call for a provider: the API of a relayed provider, the origin behind a
hosted paywall, and a new origin for a paywall that keeps its credential. Each has its own checks of the host. They compare
names as the parser spells them, so that a name with a dot at its end is not the name without.
-/

namespace MppRouter.Providers.Onboarding

open Concurrent Concurrent.Machine Typestate List Option

/-! ## Addresses -/

/-- A parsed address. -/
structure Url where
  protocol : List Char
  username : List Char := []
  password : List Char := []
  hostname : List Char
  /-- The hostname, with the port where it is not the usual one. -/
  host : List Char
  pathname : List Char
  deriving DecidableEq, Repr

abbrev UrlParser := String → Option Url

/-- The address on the same host with this path. -/
def Url.withPath (url : Url) (path : List Char) : String := String.ofList (url.protocol ++ "//".toList ++ url.host ++ path)

/-- A parsed address, written down and parsed again, has the scheme and the host it had, also where its path is cut short. -/
def Reparses (parse : UrlParser) : Prop :=
  ∀ raw url, parse raw = some url → url.protocol = "https:".toList → ∀ path, path <+: url.pathname →
    ∃ again, parse (url.withPath path) = some again ∧ again.protocol = url.protocol ∧ again.hostname = url.hostname

/-! ## The checks -/

structure ProviderValidationError where
  field : String
  message : String
  deriving DecidableEq, Repr

def toLowerCase (text : List Char) : List Char := text.map Char.toLower

def endsWith (text tail : List Char) : Bool := tail.isSuffixOf text

/-- `/^\d+\.\d+\.\d+\.\d+$/` -/
def isDottedQuad (host : List Char) : Bool :=
  let parts := host.splitOn '.'
  parts.length == 4 && parts.all fun part => !part.isEmpty && part.all Char.isDigit

/-- A literal address, or a name that is not public. -/
def isInternalHost (host : List Char) : Bool :=
  host == "localhost".toList || endsWith host ".localhost".toList || endsWith host ".internal".toList ||
    endsWith host ".local".toList || isDottedQuad host || host.head? == some '['

/-- Validate a provider's API base URL. -/
def validateApiBaseUrl (parse : UrlParser) (raw : String) : Except ProviderValidationError String :=
  match parse raw with
  | none => .error ⟨"api_base_url", "Not a valid absolute URL."⟩
  | some url =>
    if url.protocol ≠ "https:".toList then
      .error ⟨"api_base_url", "Must be https. Money is being routed to this origin."⟩
    else if !url.username.isEmpty || !url.password.isEmpty then .error ⟨"api_base_url", "Must not embed credentials."⟩
    else if isInternalHost (toLowerCase url.hostname) then
      .error ⟨"api_base_url", "Must be a public hostname, not a literal or internal address."⟩
    else .ok (url.withPath (url.pathname.rdropWhile (· == '/')))

def DEFAULT_HOSTED_SUFFIX : List Char := "-pay.mpprouter.dev".toList

/-- What a deployment is configured with: the suffix of its hosted hostnames, empty where there is none. -/
structure HostingEnv where
  PROVIDER_HOSTED_SUFFIX : List Char := []

def hostedSuffix (env : HostingEnv) : List Char :=
  let raw := toLowerCase (if env.PROVIDER_HOSTED_SUFFIX.isEmpty then DEFAULT_HOSTED_SUFFIX else env.PROVIDER_HOSTED_SUFFIX)
  if raw.head? = some '-' ∨ raw.head? = some '.' then raw else '.' :: raw

/-- The hosted origin a provider id is served on. -/
def hostedOriginFor (env : HostingEnv) (providerId : String) : String :=
  String.ofList ("https://".toList ++ providerId.toList ++ hostedSuffix env)

def isIdChar (c : Char) : Bool := c.isLower || c.isDigit

/-- `/^[a-z0-9](?:[a-z0-9-]{1,30}[a-z0-9])$/` -/
def isProviderId (id : List Char) : Bool :=
  3 ≤ id.length && id.length ≤ 32 && id.head?.any isIdChar && id.getLast?.any isIdChar &&
    id.all fun c => isIdChar c || c == '-'

/-- The provider id a hosted hostname names. -/
def hostedProviderIdFor (env : HostingEnv) (hostname : List Char) : Option (List Char) :=
  let suffix := hostedSuffix env
  let host := toLowerCase hostname
  if endsWith host suffix then
    let id := host.take (host.length - suffix.length)
    if isProviderId id then some id else none
  else none

local instance charsLawful : LawfulBEq (List Char) := inferInstance

/-- The hosts of the router, of its hosted paywalls and of its platform. -/
def isOwnHost (env : HostingEnv) (host : List Char) : Bool :=
  let suffix := hostedSuffix env
  host == suffix.tail || endsWith host suffix ||
    host ∈ ["apiserver.mpprouter.dev".toList, "coupon.rozo.ai".toList, "mpprouter.dev".toList, "www.mpprouter.dev".toList] ||
    endsWith host ".workers.dev".toList

/-- Hostnames the gateway must never call as an origin. -/
def isForbiddenOriginHost (env : HostingEnv) (hostname : List Char) : Bool := isOwnHost env (toLowerCase hostname)

/-- The origin of a hosting block. -/
def validateHosting (env : HostingEnv) (parse : UrlParser) (originUrl : String) : Except ProviderValidationError String := do
  let origin ← validateApiBaseUrl parse originUrl
  if (parse origin).any fun url => isForbiddenOriginHost env url.hostname then
    .error ⟨"hosting", "origin_url cannot point at MPP Router or a hosted hostname."⟩
  else .ok origin

/-! ## Requests -/

/-- The hosting block as it is sent. -/
structure HostingBody where
  keep : Bool := false
  /-- Empty, where there is none. -/
  originUrl : String

/-- A request as it is sent: the addresses, and what is read of the rest. -/
structure Body where
  apiBaseUrl : String
  hosting : Option HostingBody := none
  request : RegisterRequest

variable (env : HostingEnv) (parse : UrlParser)

/-- The address of a hosted paywall, as it is registered. -/
def registeredOrigin (providerId : String) : String :=
  match validateApiBaseUrl parse (hostedOriginFor env providerId) with
  | .ok origin => origin
  | .error _ => ""

/-- A deployment with its own checks of hosts. -/
def checkingHosts (deployment : Deployment) : Deployment :=
  { deployment with
    hostedOriginFor := registeredOrigin env parse
    hostedHost := fun text => (parse text).any fun url => (hostedProviderIdFor env url.hostname).isSome }

/-- The new origin that a hosting block names, checked. A credential that is kept checks it in passing: an address that is
refused there ends the call with an exception, and nothing is stored. -/
def hostingOriginOf (hosting : HostingBody) : Except ProviderValidationError (Option String) :=
  if hosting.keep then
    if hosting.originUrl = "" then .ok none else (validateApiBaseUrl parse hosting.originUrl).map some
  else (validateHosting env parse hosting.originUrl).map some

/-- The request that a body comes to, where its addresses are accepted. -/
def readRegistration (providerId : String) (body : Body) : Except ProviderValidationError RegisterRequest :=
  match body.hosting with
  | none => do
    let apiBaseUrl ← validateApiBaseUrl parse body.apiBaseUrl
    .ok { body.request with registration := { body.request.registration with apiBaseUrl }, hosting := none }
  | some hosting => do
    let originUrl ← hostingOriginOf env parse hosting
    let apiBaseUrl ← validateApiBaseUrl parse (hostedOriginFor env providerId)
    .ok { body.request with
      registration := { body.request.registration with apiBaseUrl }
      hosting := some { keep := hosting.keep, originUrl } }

/-- The party that sends the body. -/
def sending (providerId : String) (body : Body) : Registrant :=
  match readRegistration env parse providerId body with
  | .ok request => .register request
  | .error _ => .idle

/-! ## What is claimed of an origin -/

/-- A host as a name: in lower case, and without a dot at its end. -/
def dnsName (hostname : List Char) : List Char :=
  if (toLowerCase hostname).getLast? = some '.' then (toLowerCase hostname).dropLast else toLowerCase hostname

/-- An `https` address of a public name. -/
def PublicOrigin (text : String) : Prop :=
  ∃ url, parse text = some url ∧ url.protocol = "https:".toList ∧ isInternalHost (dnsName url.hostname) = false

/-- An address of none of the router's own names. -/
def ForeignOrigin (text : String) : Prop :=
  ∃ url, parse text = some url ∧ isOwnHost env (dnsName url.hostname) = false

/-- The addresses of a record are public, and the one behind a hosted paywall is foreign. -/
structure SoundRecord (record : ProviderRecord) : Prop where
  api : PublicOrigin parse record.apiBaseUrl
  hosting : ∀ stored, record.hosting = some stored → PublicOrigin parse stored.originUrl ∧ ForeignOrigin env parse stored.originUrl

/-- Every record ever stored is sound. -/
structure SoundWorld (world : World) : Prop where
  record : ∀ record, world.record = some record → SoundRecord env parse record
  written : ∀ record ∈ world.written, SoundRecord env parse record

/-- The name does not get past a check by a dot at its end. -/
def Undotted (refused : List Char → Bool) (hostname : List Char) : Prop :=
  (toLowerCase hostname).getLast? = some '.' → refused (dnsName hostname) = false

instance (refused : List Char → Bool) (hostname : List Char) : Decidable (Undotted refused hostname) :=
  inferInstanceAs (Decidable (_ → _))

/-- No host of the body gets past a check by a dot at its end, and a body that keeps the credential names no host of the
router's own. -/
structure PlainHosts (providerId : String) (body : Body) : Prop where
  api : ∀ url, parse (if body.hosting.isSome then hostedOriginFor env providerId else body.apiBaseUrl) = some url →
    Undotted isInternalHost url.hostname
  origin : ∀ hosting, body.hosting = some hosting → ∀ url, parse hosting.originUrl = some url →
    Undotted isInternalHost url.hostname ∧ Undotted (isOwnHost env) url.hostname ∧
      (hosting.keep = true → isForbiddenOriginHost env url.hostname = false)

/-- The addresses of a request have been accepted. -/
structure SoundRequest (deployment : Deployment) (request : RegisterRequest) : Prop where
  api : PublicOrigin parse (validated (checkingHosts env parse deployment) request).apiBaseUrl
  hosting : ∀ hosting, request.hosting = some hosting → (hosting.originUrl = none → hosting.keep = true) ∧
    ∀ text, hosting.originUrl = some text → PublicOrigin parse text ∧ ForeignOrigin env parse text

variable {env : HostingEnv} {parse : UrlParser}

theorem not_refused {refused : List Char → Bool} {hostname : List Char} (checked : refused (toLowerCase hostname) = false)
    (undotted : Undotted refused hostname) : refused (dnsName hostname) = false := by
  by_cases dotted : (toLowerCase hostname).getLast? = some '.'
  · exact undotted dotted
  · rw [dnsName, if_neg dotted]
    exact checked

/-- What an accepted address is the address of. -/
theorem validateApiBaseUrl_ok (reparses : Reparses parse) {raw text : String} (accepted : validateApiBaseUrl parse raw = .ok text) :
    ∃ url again, parse raw = some url ∧ parse text = some again ∧ again.protocol = "https:".toList ∧
      again.hostname = url.hostname ∧ isInternalHost (toLowerCase url.hostname) = false := by
  unfold validateApiBaseUrl at accepted
  cases parsed : parse raw with
  | none =>
    rw [parsed] at accepted
    cases accepted
  | some url =>
    rw [parsed] at accepted
    dsimp only at accepted
    split at accepted
    · cases accepted
    next secure =>
      split at accepted
      · cases accepted
      split at accepted
      · cases accepted
      next outside =>
        cases accepted
        rw [ne_eq, not_not] at secure
        obtain ⟨again, reparsed, protocol, hostname⟩ := reparses raw url parsed secure _ ( rdropWhile_prefix _ _)
        exact ⟨url, again, rfl, reparsed, protocol.trans secure, hostname, Bool.eq_false_iff.mpr outside⟩

/-- An accepted address is public, unless a dot hides its name. -/
theorem validateApiBaseUrl_public (reparses : Reparses parse) {raw text : String}
    (accepted : validateApiBaseUrl parse raw = .ok text)
    (undotted : ∀ url, parse raw = some url → Undotted isInternalHost url.hostname) : PublicOrigin parse text := by
  obtain ⟨url, again, parsed, reparsed, secure, hostname, outside⟩ := validateApiBaseUrl_ok reparses accepted
  refine ⟨again, reparsed, secure, ?_⟩
  rw [hostname]
  exact not_refused outside (undotted url parsed)

/-- A new origin that is accepted is public and foreign, unless a dot hides its name or the credential is kept. -/
theorem hostingOriginOf_ok (reparses : Reparses parse) {hosting : HostingBody} {origin : Option String}
    (accepted : hostingOriginOf env parse hosting = .ok origin)
    (plain : ∀ url, parse hosting.originUrl = some url →
      Undotted isInternalHost url.hostname ∧ Undotted (isOwnHost env) url.hostname ∧
        (hosting.keep = true → isForbiddenOriginHost env url.hostname = false)) :
    (origin = none → hosting.keep = true) ∧
      ∀ text, origin = some text → PublicOrigin parse text ∧ ForeignOrigin env parse text := by
  unfold hostingOriginOf at accepted
  split at accepted
  next keep =>
    refine ⟨fun _ => keep, ?_⟩
    split at accepted
    · cases accepted
      intro text impossible
      cases impossible
    · cases validated : validateApiBaseUrl parse hosting.originUrl with
      | error code =>
        rw [validated] at accepted
        cases accepted
      | ok text =>
        rw [validated] at accepted
        cases accepted
        rintro _ ⟨⟩
        refine ⟨validateApiBaseUrl_public reparses validated fun url parsed => (plain url parsed).1, ?_⟩
        obtain ⟨url, again, parsed, reparsed, _, hostname, _⟩ := validateApiBaseUrl_ok reparses validated
        obtain ⟨-, undotted, foreign⟩ := plain url parsed
        refine ⟨again, reparsed, ?_⟩
        rw [hostname]
        exact not_refused (foreign keep) undotted
  next =>
    unfold validateHosting at accepted
    cases validated : validateApiBaseUrl parse hosting.originUrl with
    | error code =>
      rw [validated] at accepted
      cases accepted
    | ok text =>
      rw [validated] at accepted
      obtain ⟨url, again, parsed, reparsed, _, hostname, _⟩ := validateApiBaseUrl_ok reparses validated
      change Except.map some (if (parse text).any _ = true then _ else _) = _ at accepted
      rw [reparsed, any_some] at accepted
      split at accepted
      · cases accepted
      next foreign =>
        cases accepted
        refine ⟨fun impossible => (nomatch impossible), ?_⟩
        rintro _ ⟨⟩
        refine ⟨validateApiBaseUrl_public reparses validated fun url parsed => (plain url parsed).1, again, reparsed, ?_⟩
        rw [hostname] at foreign ⊢
        exact not_refused (Bool.eq_false_iff.mpr foreign) (plain url parsed).2.1

variable {deployment : Deployment}

variable {request : RegisterRequest}

/-- What is read of a body has accepted addresses. -/
theorem readRegistration_sound (reparses : Reparses parse) {body : Body}
    (plain : PlainHosts env parse deployment.providerId body)
    (read : readRegistration env parse deployment.providerId body = .ok request) :
    SoundRequest env parse deployment request := by
  unfold readRegistration at read
  have undotted := plain.api
  cases hosts : body.hosting with
  | none =>
    rw [hosts] at read undotted
    dsimp only at read
    cases accepted : validateApiBaseUrl parse body.apiBaseUrl with
    | error code =>
      rw [accepted] at read
      cases read
    | ok text =>
      rw [accepted] at read
      cases read
      constructor
      · exact validateApiBaseUrl_public reparses accepted undotted
      · intro hosting impossible
        cases impossible
  | some hosting =>
    rw [hosts] at read undotted
    dsimp only at read
    cases new : hostingOriginOf env parse hosting with
    | error code =>
      rw [new] at read
      cases read
    | ok origin =>
      rw [new] at read
      cases accepted : validateApiBaseUrl parse (hostedOriginFor env deployment.providerId) with
      | error code =>
        rw [accepted] at read
        cases read
      | ok text =>
        rw [accepted] at read
        cases read
        have hosted : PublicOrigin parse text := validateApiBaseUrl_public reparses accepted undotted
        have address : registeredOrigin env parse deployment.providerId = text := by
          rw [registeredOrigin, accepted]
        constructor
        · change PublicOrigin parse (registeredOrigin env parse deployment.providerId)
          rw [address]
          exact hosted
        · rintro _ ⟨⟩
          exact hostingOriginOf_ok reparses new (plain.origin hosting hosts)

/-! ## What a call does -/

variable (env parse)

/-- What a call may store, if every record it has read is sound. -/
def mayStoreOrigins (readSound : Prop) : Action → Prop
  | .putRegistration record => readSound → SoundRecord env parse record
  | action => Registering action

/-- Whether every record that the call has read is sound. -/
def originMove (readSound : Prop) : (action : Action) → action.Answer → Prop
  | .getRecord, found => readSound ∧ ∀ record, found = some record → SoundRecord env parse record
  | _, _ => readSound

def originFlow (deployment : Deployment) : Typestate (onboardingMachine (checkingHosts env parse deployment)) :=
  ⟨Prop, mayStoreOrigins env parse, originMove env parse⟩

variable {env parse} {readSound : Prop}

theorem aside_origins {α : Type} {program : Routine α} {post : α → Prop}
    (follows : (asideFlow (checkingHosts env parse deployment)).Follows program (fun value _ => post value) ()) :
    (originFlow env parse deployment).Follows program (fun value after => after = readSound ∧ post value) readSound := by
  refine Follows.of_only (fun action aside => ?_) follows
  cases action with
  | clock | consumeNonce | consumeDomainProof | verifyX402PayToMatch | getDomainProofEvidence | issueDashboardToken
  | sealHosting => exact ⟨trivial, fun _ => rfl⟩
  | _ => exact aside.elim

theorem claim_origins : (originFlow env parse deployment).Follows (claimProviderIdForCreate (checkingHosts env parse deployment))
    (fun _ after => after → readSound) readSound := by
  unfold claimProviderIdForCreate
  split
  · apply Follows.ask trivial
    intro current
    split
    · exact id
    · exact ⟨trivial, fun now => ⟨trivial, fun took => id⟩⟩
  · exact ⟨trivial, fun found sound => sound.1⟩

theorem resolveHosting_origins (sound : SoundRequest env parse deployment request)
    {existing : Option ProviderRecord} (read : readSound → ∀ record, existing = some record → SoundRecord env parse record) :
    (originFlow env parse deployment).Follows (resolveHosting (checkingHosts env parse deployment) request existing)
      (fun resolved after => after = readSound ∧ (readSound → ∀ hosting, resolved = .ok hosting →
        ∀ stored, hosting = some stored → PublicOrigin parse stored.originUrl ∧ ForeignOrigin env parse stored.originUrl))
      readSound := by
  unfold resolveHosting
  split
  next =>
    refine ⟨rfl, fun _ => ?_⟩
    rintro _ ⟨⟩ _ ⟨⟩
  next hosting asked =>
    obtain ⟨kept, fresh⟩ := sound.hosting hosting asked
    split
    next =>
      split
      next =>
        refine ⟨rfl, fun _ => ?_⟩
        rintro _ ⟨⟩
      next stored found =>
        dsimp only
        split
        · refine ⟨rfl, fun _ => ?_⟩
          rintro _ ⟨⟩
        · refine ⟨rfl, fun held => ?_⟩
          rintro _ ⟨⟩ _ ⟨⟩
          obtain ⟨record, exists_, has⟩ := bind_eq_some_iff.mp found
          cases named : hosting.originUrl with
          | none => exact (read held record exists_).hosting stored has
          | some text => exact fresh text named
    next fresh_ =>
      refine ⟨trivial, fun sealed => ⟨rfl, fun _ => ?_⟩⟩
      rintro _ ⟨⟩ _ ⟨⟩
      cases named : hosting.originUrl with
      | none => exact absurd (kept named) fresh_
      | some text => exact fresh text named

theorem storeRegistration_origins (sound : SoundRequest env parse deployment request)
    {existing : Option ProviderRecord} {auth : OwnershipOutcome}
    (read : readSound → ∀ record, existing = some record → SoundRecord env parse record) :
    (originFlow env parse deployment).Follows
      (storeRegistration (checkingHosts env parse deployment) request existing auth) anyhow readSound := by
  have stores {hosting : Option StoredHosting} {now : ℕ} {token : String} {domainVerifiedAt : Option ℕ}
      (good : readSound → ∀ stored, hosting = some stored →
        PublicOrigin parse stored.originUrl ∧ ForeignOrigin env parse stored.originUrl) :
      mayStoreOrigins env parse readSound (.putRegistration
        (registeredRecord (checkingHosts env parse deployment) request existing auth hosting now token domainVerifiedAt)) :=
    fun held => ⟨sound.api, good held⟩
  unfold storeRegistration
  apply Follows.ask trivial
  intro now
  apply Follows.ask trivial
  intro token
  apply Follows.bind
  apply (resolveHosting_origins sound read).mono
  rintro (refused | hosting) _ ⟨rfl, good⟩
  · trivial
  · have fine := fun held => good held hosting rfl
    dsimp only
    split
    · exact ⟨stores fine, fun _ => trivial⟩
    · exact ⟨trivial, fun evidence => ⟨stores fine, fun _ => trivial⟩⟩

/-- A call with accepted addresses stores only sound records. -/
theorem handleProviderRegister_origins (sound : SoundRequest env parse deployment request) :
    (originFlow env parse deployment).Follows (handleProviderRegister (checkingHosts env parse deployment) request)
      anyhow True := by
  unfold handleProviderRegister
  split
  · trivial
  split
  · trivial
  apply Follows.ask trivial
  intro existing
  split
  · trivial
  apply Follows.bind
  apply (aside_origins (resolveProof_follows existing request)).mono
  rintro (code | auth) _ ⟨rfl, -⟩
  · trivial
  dsimp only
  split
  · trivial
  split
  · apply Follows.bind
    apply claim_origins.mono
    rintro (_ | _) after weaker
    · trivial
    · exact storeRegistration_origins sound fun held => (weaker held).2
  · exact storeRegistration_origins sound fun held => held.2

theorem sending_origins (reparses : Reparses parse) {bodies : Option Body}
    (plain : ∀ body, bodies = some body → PlainHosts env parse deployment.providerId body) :
    (originFlow env parse deployment).Follows
      (((bodies.map (sending env parse deployment.providerId)).getD .idle).program (checkingHosts env parse deployment))
      anyhow True := by
  cases bodies with
  | none => trivial
  | some body =>
    rw [map_some, getD_some, sending]
    cases read : readRegistration env parse deployment.providerId body with
    | error code => trivial
    | ok request =>
      apply Follows.bind
      exact (handleProviderRegister_origins (readRegistration_sound reparses (plain body rfl) read)).loose

/-! ## The law -/

variable (env parse deployment) in
/-- Every record ever stored is sound. -/
def originProtocol : Protocol (onboardingMachine (checkingHosts env parse deployment)) where
  Inv := SoundWorld env parse
  Guar _ _ _ := True

theorem origins_kept (tid : ℕ) : (originFlow env parse deployment).Keeps (originProtocol env parse deployment)
    (unrestricted (onboardingMachine (checkingHosts env parse deployment))) tid (fun readSound _ => readSound) where
  stable _ _ _ _ _ _ _ _ now := now
  step readSound action allowed world inv held choice answer after _ performed := by
    cases action with
    | putRegistration record =>
      cases performed
      have good : SoundRecord env parse record := allowed held
      exact ⟨⟨by rintro _ ⟨⟩; exact good, forall_mem_cons.mpr ⟨good, inv.written⟩⟩, trivial, held⟩
    | getRecord =>
      cases performed
      refine ⟨⟨inv.record, inv.written⟩, trivial, held, ?_⟩
      intro record found
      split at found
      · cases found
      · exact inv.record record found
    | commitIdClaim version now =>
      simp only [perform] at performed
      split at performed
      · cases performed
        exact ⟨⟨inv.record, inv.written⟩, trivial, held⟩
      · cases performed
        exact ⟨inv, trivial, held⟩
    | clock | readIdClaim | consumeNonce | consumeDomainProof | verifyX402PayToMatch | getDomainProofEvidence
    | issueDashboardToken | sealHosting =>
      cases performed
      exact ⟨inv, trivial, held⟩
    | tick elapsed =>
      cases performed
      exact ⟨⟨inv.record, inv.written⟩, trivial, held⟩
    | _ => exact (show False from allowed).elim

/-- However registrations of an id interleave, every record they store has public addresses, and a foreign one behind a hosted
paywall, when no host of theirs gets past a check by a dot at its end and none that keeps a credential names a host of the
router's own. -/
theorem origins_public_foreign (env : HostingEnv) (parse : UrlParser) (reparses : Reparses parse) (deployment : Deployment)
    (bodies : ℕ → Option Body) (plain : ∀ tid body, bodies tid = some body → PlainHosts env parse deployment.providerId body)
    {world : World} (sound : SoundWorld env parse world)
    {after : (onboardingMachine (checkingHosts env parse deployment)).Config}
    (run : Run (unrestricted (onboardingMachine (checkingHosts env parse deployment)))
      (registering (checkingHosts env parse deployment) world fun tid =>
        ((bodies tid).map (sending env parse deployment.providerId)).getD .idle) after) :
    SoundWorld env parse after.world := by
  have follows (tid : ℕ) : (originFlow env parse deployment).Follows
      ((((bodies tid).map (sending env parse deployment.providerId)).getD .idle).program (checkingHosts env parse deployment))
      anyhow True := sending_origins reparses (plain tid)
  have inv : (originProtocol env parse deployment).Inv world := sound
  exact Typestate.sound (fun tid => origins_kept tid) True inv (fun _ => trivial) follows run

/-! ## Names with a dot at their end -/

def addressOf (host : String) : Url where
  protocol := "https:".toList
  hostname := host.toList
  host := host.toList
  pathname := ['/']

def knownHosts : List String :=
  ["api.acme.com", "eu.acme.com", "db.internal.", "apiserver.mpprouter.dev", "acme-pay.mpprouter.dev"]

/-- A parser that knows the addresses of these hosts, with and without a slash. -/
def knownAddresses : UrlParser := fun text =>
  (knownHosts.find? fun host => text == (addressOf host).withPath [] || text == (addressOf host).withPath ['/']).map addressOf

theorem knownAddresses_reparses : Reparses knownAddresses := by
  have known : ∀ host ∈ knownHosts, knownAddresses ((addressOf host).withPath []) = some (addressOf host) ∧
      knownAddresses ((addressOf host).withPath ['/']) = some (addressOf host) := by
    simp only [knownHosts, forall_mem_cons]
    decide
  intro raw url parsed _ path begins
  obtain ⟨host, found, rfl⟩ := map_eq_some_iff.mp parsed
  obtain ⟨bare, slashed⟩ := known host (mem_of_find?_eq_some found)
  rcases prefix_cons_iff.mp begins with rfl | ⟨rest, rfl, shorter⟩
  · exact ⟨_, bare, rfl, rfl⟩
  · rw [prefix_nil.mp shorter]
    exact ⟨_, slashed, rfl, rfl⟩

theorem url_of_known (host : String) {text : String} {url : Url} (known : knownAddresses text = some (addressOf host))
    (parsed : knownAddresses text = some url) : url = addressOf host :=
  some.inj (parsed.symm.trans known)

/-- A provider registers behind a hosted paywall with the first origin, and moves its kept credential to the second. -/
def relocating (first second : String) : ℕ → Option Body
  | 0 => some { apiBaseUrl := "", hosting := some { originUrl := first }, request := { registration := acme } }
  | 1 => some {
      apiBaseUrl := "", hosting := some { keep := true, originUrl := second }
      request := { registration := acme, authorization := some "a" } }
  | _ => none

def registeringAt (bodies : ℕ → Option Body) : (onboardingMachine (checkingHosts {} knownAddresses hostingDesk)).Config :=
  registering (checkingHosts {} knownAddresses hostingDesk) World.start fun tid =>
    ((bodies tid).map (sending {} knownAddresses "acme")).getD .idle

def oneByOne : List (ℕ × Choice) := issuing 0 6 "a" 2 ++ List.replicate 5 (1, ({} : Choice))

def World.origins (world : World) : List (Option String) :=
  world.written.map fun record => record.hosting.map StoredHosting.originUrl

theorem origins_public_foreign_acme : ∃ after,
    Run (unrestricted (onboardingMachine (checkingHosts {} knownAddresses hostingDesk)))
      (registeringAt (relocating "https://api.acme.com/" "https://eu.acme.com")) after ∧
      after.world.origins = [some "https://eu.acme.com", some "https://api.acme.com"] ∧
      SoundWorld {} knownAddresses after.world := by
  obtain ⟨after, run, passed⟩ := Config.exec_reaches
    (unrestricted (onboardingMachine (checkingHosts {} knownAddresses hostingDesk)))
    (registeringAt (relocating "https://api.acme.com/" "https://eu.acme.com")) oneByOne
    (fun world => world.origins == [some "https://eu.acme.com", some "https://api.acme.com"]) (by decide +kernel)
  have sound : SoundWorld {} knownAddresses World.start :=
    ⟨fun _ impossible => (nomatch impossible), fun _ impossible => absurd impossible not_mem_nil⟩
  have own : ∀ url, knownAddresses (hostedOriginFor {} "acme") = some url → Undotted isInternalHost url.hostname := by
    intro url parsed
    rw [url_of_known "acme-pay.mpprouter.dev" (by decide) parsed]
    decide
  have plain : ∀ tid body, relocating "https://api.acme.com/" "https://eu.acme.com" tid = some body →
      PlainHosts {} knownAddresses "acme" body := by
    rintro (_ | _ | tid) body sent
    · cases sent
      refine ⟨own, ?_⟩
      rintro hosting ⟨⟩ url parsed
      rw [url_of_known "api.acme.com" (by decide) parsed]
      exact ⟨by decide, by decide, fun impossible => (nomatch impossible)⟩
    · cases sent
      refine ⟨own, ?_⟩
      rintro hosting ⟨⟩ url parsed
      rw [url_of_known "eu.acme.com" (by decide) parsed]
      exact ⟨by decide, by decide, fun _ => by decide⟩
    · cases sent
  exact ⟨after, run, eq_of_beq passed,
    origins_public_foreign {} knownAddresses knownAddresses_reparses hostingDesk _ plain sound run⟩

/-- An internal name with a dot at its end is stored, and then the router's own host. -/
theorem internal_and_own_stored : ∃ after,
    Run (unrestricted (onboardingMachine (checkingHosts {} knownAddresses hostingDesk)))
      (registeringAt (relocating "https://db.internal./" "https://apiserver.mpprouter.dev")) after ∧
      (∃ record ∈ after.world.written, ∃ stored, record.hosting = some stored ∧
        ¬ PublicOrigin knownAddresses stored.originUrl) ∧
      ∃ record ∈ after.world.written, ∃ stored, record.hosting = some stored ∧
        ¬ ForeignOrigin {} knownAddresses stored.originUrl := by
  obtain ⟨after, run, passed⟩ := Config.exec_reaches
    (unrestricted (onboardingMachine (checkingHosts {} knownAddresses hostingDesk)))
    (registeringAt (relocating "https://db.internal./" "https://apiserver.mpprouter.dev")) oneByOne
    (fun world => world.origins == [some "https://apiserver.mpprouter.dev", some "https://db.internal."]) (by decide +kernel)
  have stored (text : String) (member : some text ∈ after.world.origins) :
      ∃ record ∈ after.world.written, ∃ stored, record.hosting = some stored ∧ stored.originUrl = text := by
    obtain ⟨record, written, named⟩ := mem_map.mp member
    obtain ⟨stored, hosting, address⟩ := map_eq_some_iff.mp named
    exact ⟨record, written, stored, hosting, address⟩
  rw [eq_of_beq passed] at stored
  refine ⟨after, run, ?_, ?_⟩
  · obtain ⟨record, written, stored, hosting, address⟩ := stored "https://db.internal." (by decide)
    refine ⟨record, written, stored, hosting, ?_⟩
    rintro ⟨url, parsed, _, outside⟩
    rw [address] at parsed
    rw [url_of_known "db.internal." (by decide) parsed] at outside
    exact absurd outside (by decide)
  · obtain ⟨record, written, stored, hosting, address⟩ := stored "https://apiserver.mpprouter.dev" (by decide)
    refine ⟨record, written, stored, hosting, ?_⟩
    rintro ⟨url, parsed, outside⟩
    rw [address] at parsed
    rw [url_of_known "apiserver.mpprouter.dev" (by decide) parsed] at outside
    exact absurd outside (by decide)

end MppRouter.Providers.Onboarding
