import MppRouter.Core.Finish
import MppRouter.Providers.Register

/-! # Records change only with their owner

All checks of a registration are made on the record it read first, while its proof takes as long as it takes. A
creation is alone by the claim on the id. An update by wallet signatures may replace any later record of the same
owner; any other update must still find the record that it read.
-/

namespace MppRouter.Providers.Onboarding

open Concurrent Machine Typestate List

variable (deployment : Deployment)

/-! ## Entitlement -/

/-- The request carries a signature of the address over what is registered. -/
def SignedFor (request : RegisterRequest) (registration : Registration) (payout : RouteOperatorPayout) : Prop :=
  ∃ entry ∈ request.signatures, entry.network = payout.network ∧
    deployment.verifies (buildSignatureMessage deployment (registrationDigest deployment registration) payout entry)
      entry.signature = true

def SignedByAll (request : RegisterRequest) (registration : Registration) : Prop :=
  ∀ payout ∈ registration.payouts, SignedFor deployment request registration payout

/-- Every payout address of the new record signed it, and the owner is among them; or the token of the replaced
record was presented. -/
def Entitled (request : RegisterRequest) (record old : ProviderRecord) : Prop :=
  (SignedByAll deployment request (registrationOf record) ∧ ownerStillDeclared (registrationOf record) old = true) ∨
    verifyDashboardToken deployment request.authorization old.dashboardTokenHash = true

/-- A record may follow another: the owner is the same, and after a proof by signature comes no weaker one. -/
structure Successor (old record : ProviderRecord) : Prop where
  network : record.ownerKey.network = old.ownerKey.network
  address : record.ownerKey.address = old.ownerKey.address
  proof : old.ownerKey.proof = some .walletSignature → record.ownerKey.proof = some .walletSignature
  signed : old.ownerKey.proof = some .walletSignature → record.verification.ownershipProof = some .walletSignature

theorem Successor.trans {old record newer : ProviderRecord} (earlier : Successor old record)
    (later : Successor record newer) : Successor old newer where
  network := later.network.trans earlier.network
  address := later.address.trans earlier.address
  proof signed := later.proof (earlier.proof signed)
  signed signed := later.signed (earlier.proof signed)

/-! ## The parties and the condition -/

inductive Registrant where
  | idle
  | register (request : RegisterRequest)
  | tick (elapsed : ℕ)
  deriving DecidableEq, Repr

def Registrant.program : Registrant → Routine Unit
  | .idle => pure ()
  | .register request => do
    let _ ← handleProviderRegister deployment request
    pure ()
  | .tick elapsed => ask (.tick elapsed)

def registering (world : World) (parties : ℕ → Registrant) : (onboardingMachine deployment).Config :=
  ⟨world, fun tid => (parties tid).program deployment⟩

/-- An update that no wallet signed finds the record that it read first. Without a durable store for claims, a creation
finds no record. -/
def undisturbed (tid : ℕ) (action : Action) (_ : Choice) (world : World) : Prop :=
  match action with
  | .putRegistration record =>
    (record.verification.ownershipProof ≠ some .walletSignature → ∀ old ∈ (world.firstRead tid).join,
      world.record = some old) ∧
      (deployment.atomicStore = false → world.firstRead tid = some none → world.record = none)
  | _ => True

/-- No call has begun, and what is stored was created under the claim on the id. -/
structure Founded (world : World) : Prop where
  accepted : world.accepted = []
  firstRead : ∀ tid, world.firstRead tid = none
  claimed : deployment.atomicStore = true → world.record.isSome = true → world.idClaim.1.isSome = true

/-! ## What a call does -/

/-- What a call read first, at which version it found the id free, and whether it took it. -/
structure RegisterPhase where
  read : Option (Option ProviderRecord) := none
  free : Option ℕ := none
  creating : Bool := false

/-- The update is by the owner of the record that was read, and nobody else. -/
def Updates (request : RegisterRequest) (old record : ProviderRecord) : Prop :=
  Successor old record ∧
    ((record.verification.ownershipProof = some .walletSignature ∧ record.ownerKey.proof = some .walletSignature ∧
        SignedByAll deployment request (registrationOf record) ∧
        ownerStillDeclared (registrationOf record) old = true) ∨
      (record.verification.ownershipProof ≠ some .walletSignature ∧
        verifyDashboardToken deployment request.authorization old.dashboardTokenHash = true))

def MayStore (request : RegisterRequest) (phase : RegisterPhase) (record : ProviderRecord) : Prop :=
  match phase.read with
  | none => False
  | some none => deployment.atomicStore = true → phase.creating = true
  | some (some old) => Updates deployment request old record

def mayRegister (party : Registrant) (phase : RegisterPhase) : Action → Prop
  | .commitIdClaim version _ => deployment.atomicStore = true ∧ phase.free = some version
  | .putRegistration record => ∃ request, party = .register request ∧ MayStore deployment request phase record
  | .clock | .getRecord | .readIdClaim | .consumeNonce _ | .consumeDomainProof .. | .verifyX402PayToMatch
  | .getDomainProofEvidence | .issueDashboardToken | .sealHosting | .tick _ => True
  | _ => False

def registerMove (phase : RegisterPhase) : (action : Action) → action.Answer → RegisterPhase
  | .getRecord, found => { phase with read := some (phase.read.getD found) }
  | .readIdClaim, (none, version) => { phase with free := some version }
  | .commitIdClaim .., took => { phase with creating := took }
  | .putRegistration _, _ => { phase with creating := false, free := none }
  | _, _ => phase

def registerFlow (party : Registrant) : Typestate (onboardingMachine deployment) :=
  ⟨RegisterPhase, mayRegister deployment party, registerMove⟩

/-- The actions of the proofs, and of what else does not move a call. -/
def Aside : Action → Prop
  | .clock | .consumeNonce _ | .consumeDomainProof .. | .verifyX402PayToMatch | .getDomainProofEvidence
  | .issueDashboardToken | .sealHosting => True
  | _ => False

def asideFlow : Typestate (onboardingMachine deployment) := .only Aside

section Follows

variable {deployment} {party : Registrant} {phase : RegisterPhase}

/-- What is shown aside is shown in a phase that it leaves as it is. -/
theorem aside_follows {α : Type} {program : Routine α} {post : α → Prop}
    (follows : (asideFlow deployment).Follows program (fun value _ => post value) ()) :
    (registerFlow deployment party).Follows program (fun value after => after = phase ∧ post value) phase := by
  refine Follows.of_only (fun action aside => ?_) follows
  cases action <;> first | exact ⟨trivial, fun _ => rfl⟩ | exact aside.elim

theorem verifyPayoutSignature_follows (digest : String) (signatures : List SignatureEntry) (payout : RouteOperatorPayout) :
    (asideFlow deployment).Follows (verifyPayoutSignature deployment digest signatures payout)
      (fun result _ => result = .ok () → ∃ entry ∈ signatures, entry.network = payout.network ∧
        deployment.verifies (buildSignatureMessage deployment digest payout entry) entry.signature = true) () := by
  simp only [verifyPayoutSignature, ask, Prog.call_bind]
  split
  · split
    · exact fun ok => by cases ok
    next entry found =>
      refine ⟨trivial, fun now => ?_⟩
      beta_reduce
      split
      · exact fun ok => by cases ok
      split
      · refine ⟨trivial, fun fresh => ?_⟩
        beta_reduce
        split
        · split
          next verified =>
            have member := mem_of_find?_eq_some found
            exact fun _ => ⟨entry, member, by simpa using find?_some found, verified⟩
          · exact fun ok => by cases ok
        · exact fun ok => by cases ok
      · exact fun ok => by cases ok
  · exact fun ok => by cases ok

theorem verifyPayoutSignatures_follows (digest : String) (signatures : List SignatureEntry)
    (payouts : List RouteOperatorPayout) :
    (asideFlow deployment).Follows (verifyPayoutSignatures deployment digest signatures payouts)
      (fun result _ => result = .ok () → ∀ payout ∈ payouts, ∃ entry ∈ signatures, entry.network = payout.network ∧
        deployment.verifies (buildSignatureMessage deployment digest payout entry) entry.signature = true) () := by
  induction payouts with
  | nil => exact fun _ payout member => absurd member not_mem_nil
  | cons payout payouts ih =>
    apply Follows.bind
    apply (verifyPayoutSignature_follows digest signatures payout).mono
    rintro (code | _) _ signed
    · exact fun ok => by cases ok
    · apply ih.mono
      intro result _ others ok
      exact forall_mem_cons.mpr ⟨signed rfl, others ok⟩

theorem verifyRegistrationSignatures_follows (digest : String) (signatures : List SignatureEntry)
    (payouts : List RouteOperatorPayout) :
    (asideFlow deployment).Follows (verifyRegistrationSignatures deployment digest payouts signatures)
      (fun result _ => ∀ key, result = .ok key → ∀ payout ∈ payouts, ∃ entry ∈ signatures,
        entry.network = payout.network ∧
          deployment.verifies (buildSignatureMessage deployment digest payout entry) entry.signature = true) () := by
  unfold verifyRegistrationSignatures
  split
  · exact fun key ok => by cases ok
  split
  · apply Follows.bind
    apply (verifyPayoutSignatures_follows digest signatures payouts).mono
    rintro (code | _) _ signed
    · exact fun key ok => by cases ok
    dsimp only
    split
    · exact fun key ok => by cases ok
    · exact fun _ _ => signed rfl
  · exact fun key ok => by cases ok

/-- What a proof of ownership has shown when it is a proof by signature. -/
def Shows (deployment : Deployment) (request : RegisterRequest) (registration : Registration) (result : Except AuthCode OwnershipOutcome) : Prop :=
  ∀ auth, result = .ok auth → auth.proof = .walletSignature → SignedByAll deployment request registration

variable {request : RegisterRequest}

theorem Shows.error {registration : Registration} (code : AuthCode) :
    Shows deployment request registration (.error code) := fun _ ok => by cases ok

theorem proveWallet_follows (registration : Registration) (request : RegisterRequest) :
    (asideFlow deployment).Follows (proveWallet deployment registration request)
      (fun result _ => Shows deployment request registration result) () := by
  unfold proveWallet
  split
  · apply Follows.bind
    apply (verifyRegistrationSignatures_follows (registrationDigest deployment registration) request.signatures
      registration.payouts).mono
    rintro (code | key) _ signed
    · exact .error code
    · exact fun _ _ _ => signed key rfl
  · exact .error _

theorem consumeDomainProofs_follows (payouts : List RouteOperatorPayout) (tokens secrets proven : List String) :
    (asideFlow deployment).Follows (consumeDomainProofs deployment payouts tokens secrets proven) anyhow
      () := by
  induction tokens generalizing secrets proven with
  | nil => trivial
  | cons token tokens ih =>
    simp only [consumeDomainProofs, ask, Prog.call_bind]
    split
    · trivial
    split
    · refine ⟨trivial, fun consumed => ?_⟩
      beta_reduce
      split
      · exact ih _ _
      · trivial
    · trivial

theorem proveWellKnown_follows (registration : Registration) (request : RegisterRequest) :
    (asideFlow deployment).Follows (proveWellKnown deployment registration.payouts request)
      (fun result _ => Shows deployment request registration result) () := by
  unfold proveWellKnown
  split
  · exact .error _
  split
  · apply Follows.bind
    apply (consumeDomainProofs_follows ..).mono
    rintro (code | proven) _ -
    · exact .error code
    dsimp only
    split
    · refine ⟨trivial, fun now => ?_⟩
      rintro auth ⟨⟩ wallet
      cases wallet
    · exact .error _
  · exact .error _

theorem proveX402PayTo_follows (registration : Registration) (request : RegisterRequest) :
    (asideFlow deployment).Follows (proveX402PayTo registration.payouts)
      (fun result _ => Shows deployment request registration result) () := by
  simp only [proveX402PayTo, ask, Prog.call_bind]
  refine ⟨trivial, fun matched => ?_⟩
  beta_reduce
  split
  · refine ⟨trivial, fun now => ?_⟩
    rintro auth ⟨⟩ wallet
    cases wallet
  · exact .error _

theorem resolveOwnership_follows (request : RegisterRequest) :
    (asideFlow deployment).Follows (resolveOwnership deployment request)
      (fun result _ => Shows deployment request (validated deployment request) result) () := by
  unfold resolveOwnership
  split
  · refine ⟨trivial, fun now => ?_⟩
    rintro auth ⟨⟩ wallet
    cases wallet
  unfold resolveOwnershipProof
  split
  · exact .error _
  · exact proveWallet_follows _ request
  split
  · split
    · exact proveWellKnown_follows _ request
    · exact proveX402PayTo_follows _ request
  · exact .error _

/-- Proofs of ownership touch neither the record nor the claim on the id. -/
theorem resolveProof_follows (existing : Option ProviderRecord) (request : RegisterRequest) :
    (asideFlow deployment).Follows (resolveProof deployment existing request)
      (fun result _ => ∀ auth, result = .ok auth →
        (auth.proof = .walletSignature → SignedByAll deployment request (validated deployment request)) ∧
          assertNoProofDowngrade existing auth.proof = true) () := by
  apply Follows.bind
  apply (resolveOwnership_follows request).mono
  rintro (code | auth) _ shown
  · exact fun auth ok => by cases ok
  dsimp only
  split
  next kept =>
    rintro _ ⟨⟩
    exact ⟨shown auth rfl, kept⟩
  · exact fun auth ok => by cases ok

theorem claimProviderIdForCreate_follows (found : Option ProviderRecord) (read : phase.read = some found) :
    (registerFlow deployment party).Follows (claimProviderIdForCreate deployment)
      (fun took after => after.read = some found ∧
        (took = true → deployment.atomicStore = true → after.creating = true)) phase := by
  unfold claimProviderIdForCreate
  split
  next bound =>
    simp only [ask, Prog.call_bind]
    refine ⟨trivial, fun current => ?_⟩
    obtain ⟨value, version⟩ := current
    cases value with
    | some claimed => exact ⟨read, fun took => by cases took⟩
    | none => exact ⟨trivial, fun now => ⟨⟨bound, rfl⟩, fun took => ⟨read, fun taken _ => taken⟩⟩⟩
  next unbound =>
    refine ⟨trivial, fun again => ⟨?_, fun _ bound => absurd bound unbound⟩⟩
    exact congrArg some (by rw [read]; rfl)

theorem storeRegistration_follows {existing : Option ProviderRecord} {auth : OwnershipOutcome}
    (asks : party = .register request)
    (may : ∀ hosting now token evidence, MayStore deployment request phase
      (registeredRecord deployment request existing auth hosting now token evidence)) :
    (registerFlow deployment party).Follows (storeRegistration deployment request existing auth) anyhow
      phase := by
  have hosts : (asideFlow deployment).Follows (resolveHosting deployment request existing) anyhow () := by
    unfold resolveHosting
    split
    · trivial
    split
    · split
      · trivial
      dsimp only
      split <;> trivial
    · exact ⟨trivial, fun _ => trivial⟩
  simp only [storeRegistration, ask, Prog.call_bind]
  refine ⟨trivial, fun now => ⟨trivial, fun token => ?_⟩⟩
  apply Follows.bind
  apply (aside_follows hosts).mono
  rintro (refused | hosting) _ ⟨rfl, -⟩
  · trivial
  dsimp only
  split
  · exact ⟨⟨request, asks, may ..⟩, fun _ => trivial⟩
  · exact ⟨trivial, fun evidence => ⟨⟨request, asks, may ..⟩, fun _ => trivial⟩⟩

theorem updates_of_checks {old : ProviderRecord} {auth : OwnershipOutcome}
    (declared : refusedUpdate deployment request old = none)
    (signed : auth.proof = .walletSignature → SignedByAll deployment request (validated deployment request))
    (kept : assertNoProofDowngrade (some old) auth.proof = true)
    (authorized : authorizedUpdate deployment request auth (some old) = true) (hosting : Option StoredHosting) (now : ℕ)
    (token : String) (evidence : Option ℕ) :
    Updates deployment request old (registeredRecord deployment request (some old) auth hosting now token evidence) := by
  have owner : ownerStillDeclared (validated deployment request) old = true := by
    unfold refusedUpdate at declared
    split at declared
    · cases declared
    split at declared
    · cases declared
    next stands =>
      simpa using stands
  by_cases wallet : auth.proof = .walletSignature
  · constructor
    · constructor
      all_goals simp only [registeredRecord, nextOwnerKey, wallet, if_true, implies_true]
    · left
      refine ⟨congrArg some wallet, ?_, signed wallet, owner⟩
      simp only [registeredRecord, nextOwnerKey, wallet, if_true]
  · have weak : old.ownerKey.proof ≠ some .walletSignature := by
      intro strong
      simp [assertNoProofDowngrade, strong, wallet] at kept
    constructor
    · constructor
      all_goals simp only [registeredRecord, nextOwnerKey, wallet, if_false]
      · exact id
      · exact fun strong => absurd strong weak
    · right
      refine ⟨fun same => wallet (Option.some.inj same), ?_⟩
      simpa [authorizedUpdate, wallet] using authorized

theorem handleProviderRegister_follows (asks : party = .register request) :
    (registerFlow deployment party).Follows (handleProviderRegister deployment request) anyhow {} := by
  unfold handleProviderRegister
  split
  · trivial
  split
  · trivial
  simp only [ask, Prog.call_bind]
  refine ⟨trivial, fun existing => ?_⟩
  beta_reduce
  split
  · trivial
  next kept =>
    apply Follows.bind
    apply (aside_follows (resolveProof_follows existing request)).mono
    rintro (code | auth) _ ⟨rfl, proved⟩
    · trivial
    obtain ⟨signed, strong⟩ := proved auth rfl
    dsimp only
    split
    · trivial
    next authorized =>
      cases existing with
      | none =>
        apply Follows.bind
        apply (claimProviderIdForCreate_follows none rfl).mono
        rintro took after ⟨read, creating⟩
        split
        next taken =>
          apply storeRegistration_follows asks
          intro hosting now token evidence
          unfold MayStore
          rw [read]
          exact creating taken
        · trivial
      | some old =>
        apply storeRegistration_follows asks
        intro hosting now token evidence
        exact updates_of_checks kept signed strong (by simpa using authorized) hosting now token evidence

theorem registrant_follows (party : Registrant) :
    (registerFlow deployment party).Follows (party.program deployment) anyhow {} := by
  cases party with
  | idle => trivial
  | register request =>
    apply Follows.bind
    exact (handleProviderRegister_follows rfl).loose
  | tick elapsed => exact ⟨trivial, fun _ => trivial⟩

end Follows

/-! ## The protocol -/

def SameOwner (record other : ProviderRecord) : Prop :=
  record.ownerKey.network = other.ownerKey.network ∧ record.ownerKey.address = other.ownerKey.address

/-- A stored version was written by a call entitled to replace the one before it. -/
def ByOwner (parties : ℕ → Registrant) (version : Accepted) : Prop :=
  ∀ old, version.replaced = some old → Successor old version.record ∧
    ∃ request, parties version.tid = .register request ∧ Entitled deployment request version.record old

/-- Every version is by the owner, the newest is what is stored, and no record stands without the claim on its id. -/
structure Owned (parties : ℕ → Registrant) (world : World) : Prop where
  byOwner : ∀ version ∈ world.accepted, ByOwner deployment parties version
  ordered : world.accepted.Pairwise fun newer older => Successor older.record newer.record
  newest : ∀ version ∈ world.accepted.head?, world.record = some version.record
  claimed : deployment.atomicStore = true → world.record.isSome = true → world.idClaim.1.isSome = true

/-- What a step may do to the record, to the claim on the id and to the reads of others. -/
structure Registers (tid : ℕ) (before after : World) : Prop where
  record : ∀ stored, before.record = some stored → ∃ next, after.record = some next ∧ SameOwner next stored
  creates : deployment.atomicStore = true → before.record = none → after.record ≠ none → before.creator = some tid
  version : before.idClaim.2 ≤ after.idClaim.2
  same : before.idClaim.2 = after.idClaim.2 → after.idClaim = before.idClaim
  creator : before.idClaim.1.isSome = true → after.idClaim = before.idClaim ∧ after.creator = before.creator
  reads : ∀ other, other ≠ tid → after.firstRead other = before.firstRead other

def ownerProtocol (parties : ℕ → Registrant) : Protocol (onboardingMachine deployment) :=
  ⟨Owned deployment parties, Registers deployment⟩

/-- What a call knows of the world. -/
structure Knows (tid : ℕ) (phase : RegisterPhase) (world : World) : Prop where
  firstRead : world.firstRead tid = phase.read
  read : ∀ old, phase.read = some (some old) → ∃ stored, world.record = some stored ∧ SameOwner stored old
  free : ∀ version, phase.free = some version →
    version ≤ world.idClaim.2 ∧ (world.idClaim.2 = version → world.idClaim.1 = none)
  creating : phase.creating = true → deployment.atomicStore = true ∧ world.creator = some tid ∧
    world.idClaim.1.isSome = true ∧ world.record = none

section Steps

variable {deployment} {parties : ℕ → Registrant} {tid : ℕ} {phase : RegisterPhase} {world after : World}

theorem Knows.stable (phase : RegisterPhase) :
    (ownerProtocol deployment parties).Stable tid (Knows deployment tid phase) := by
  intro other world after distinct _ _ registers knows
  constructor
  · rw [registers.reads tid (Ne.symm distinct)]
    exact knows.firstRead
  · intro old read
    obtain ⟨stored, standing, same⟩ := knows.read old read
    obtain ⟨next, stands, sameNext⟩ := registers.record stored standing
    exact ⟨next, stands, sameNext.1.trans same.1, sameNext.2.trans same.2⟩
  · intro version free
    obtain ⟨earlier, unclaimed⟩ := knows.free version free
    refine ⟨earlier.trans registers.version, fun now => ?_⟩
    have unmoved : world.idClaim.2 = version := le_antisymm (now ▸ registers.version) earlier
    rw [registers.same (unmoved.trans now.symm)]
    exact unclaimed unmoved
  · intro creating
    obtain ⟨bound, mine, claimed, nothing⟩ := knows.creating creating
    obtain ⟨sameClaim, sameCreator⟩ := registers.creator claimed
    refine ⟨bound, sameCreator.trans mine, by rwa [sameClaim], ?_⟩
    by_contra stored
    have created := registers.creates bound nothing stored
    exact distinct (Option.some.inj (created.symm.trans mine))

/-- A step that leaves the record, the claim on the id and all reads alone. -/
structure Idles (before after : World) : Prop where
  record : after.record = before.record
  accepted : after.accepted = before.accepted
  idClaim : after.idClaim = before.idClaim
  creator : after.creator = before.creator
  firstRead : after.firstRead = before.firstRead

theorem Idles.owned (idles : Idles world after) (owned : Owned deployment parties world) :
    Owned deployment parties after where
  byOwner := by
    rw [idles.accepted]
    exact owned.byOwner
  ordered := by
    rw [idles.accepted]
    exact owned.ordered
  newest := by
    rw [idles.accepted, idles.record]
    exact owned.newest
  claimed := by
    rw [idles.record, idles.idClaim]
    exact owned.claimed

theorem sameOwner_refl (record : ProviderRecord) : SameOwner record record := ⟨rfl, rfl⟩

theorem Registers.of_record (record : after.record = world.record) (idClaim : after.idClaim = world.idClaim)
    (creator : after.creator = world.creator)
    (reads : ∀ other, other ≠ tid → after.firstRead other = world.firstRead other) :
    Registers deployment tid world after where
  record stored standing := ⟨stored, record.trans standing, sameOwner_refl stored⟩
  creates _ nothing stored := absurd (record.trans nothing) stored
  version := by rw [idClaim]
  same _ := idClaim
  creator _ := ⟨idClaim, creator⟩
  reads := reads

theorem Idles.registers (idles : Idles world after) : Registers deployment tid world after :=
  .of_record idles.record idles.idClaim idles.creator fun _ _ => congrFun idles.firstRead _

theorem Idles.knows (idles : Idles world after) (knows : Knows deployment tid phase world) :
    Knows deployment tid phase after where
  firstRead := by
    rw [idles.firstRead]
    exact knows.firstRead
  read := by
    rw [idles.record]
    exact knows.read
  free := by
    rw [idles.idClaim]
    exact knows.free
  creating := by
    rw [idles.idClaim, idles.creator, idles.record]
    exact knows.creating

theorem getRecord_keeps (owned : Owned deployment parties world) (knows : Knows deployment tid phase world)
    {found : Option ProviderRecord} (stands : ∀ old, found = some old → world.record = some old) :
    Owned deployment parties (world.reading tid found) ∧ Registers deployment tid world (world.reading tid found) ∧
      Knows deployment tid { phase with read := some (phase.read.getD found) } (world.reading tid found) := by
  refine ⟨⟨owned.byOwner, owned.ordered, owned.newest, owned.claimed⟩, ?_, ?_⟩
  · exact .of_record rfl rfl rfl fun other distinct => Function.update_of_ne distinct ..
  · constructor
    · exact (Function.update_self ..).trans (by rw [knows.firstRead])
    · intro old read
      cases before : phase.read with
      | none =>
        rw [before] at read
        exact ⟨old, stands old (Option.some.inj read), sameOwner_refl old⟩
      | some earlier =>
        rw [before] at read
        exact knows.read old (before.trans read)
    · exact knows.free
    · exact knows.creating

theorem ownerStillDeclared_congr {registration : Registration} {old stored : ProviderRecord} (same : SameOwner stored old)
    (declared : ownerStillDeclared registration old = true) : ownerStillDeclared registration stored = true := by
  unfold ownerStillDeclared at declared ⊢
  rw [same.1, same.2]
  exact declared

/-- What a registration replaces: nothing, or a record that it may follow and is entitled to replace. -/
theorem MayStore.replaces {request : RegisterRequest} {record : ProviderRecord} {choice : Choice}
    (knows : Knows deployment tid phase world) (may : MayStore deployment request phase record)
    (admitted : undisturbed deployment tid (.putRegistration record) choice world) :
    world.record = none ∨ ∃ stored, world.record = some stored ∧ Successor stored record ∧
      Entitled deployment request record stored := by
  unfold MayStore at may
  obtain ⟨unchanged, alone⟩ := admitted
  cases read : phase.read with
  | none =>
    rw [read] at may
    exact may.elim
  | some found =>
    rw [read] at may
    cases found with
    | none =>
      left
      cases bound : deployment.atomicStore with
      | true => exact (knows.creating (may bound)).2.2.2
      | false => exact alone bound (knows.firstRead.trans read)
    | some old =>
      right
      obtain ⟨stored, standing, same⟩ := knows.read old read
      obtain ⟨follows, ⟨proof, marked, signed, declared⟩ | ⟨weak, token⟩⟩ := may
      · refine ⟨stored, standing, ⟨?_, ?_, fun _ => marked, fun _ => proof⟩, .inl ⟨signed, ?_⟩⟩
        · exact follows.network.trans same.1.symm
        · exact follows.address.trans same.2.symm
        · exact ownerStillDeclared_congr same declared
      · have first : old ∈ (world.firstRead tid).join := by
          rw [knows.firstRead, read]
          rfl
        exact ⟨old, unchanged weak old first, follows, .inr token⟩

/-- A registration is stored, over a record of the same owner or, by the creator, over none. -/
theorem putRegistration_keeps {request : RegisterRequest} {record : ProviderRecord} {choice : Choice}
    (owned : Owned deployment parties world) (knows : Knows deployment tid phase world)
    (asks : parties tid = .register request) (may : MayStore deployment request phase record)
    (admitted : undisturbed deployment tid (.putRegistration record) choice world)
    (stored : after.record = some record) (accepted : after.accepted = ⟨tid, record, world.record⟩ :: world.accepted)
    (idClaim : after.idClaim = world.idClaim) (creator : after.creator = world.creator)
    (firstRead : after.firstRead = world.firstRead) :
    Owned deployment parties after ∧ Registers deployment tid world after ∧
      Knows deployment tid { phase with creating := false, free := none } after := by
  have replaces := may.replaces knows admitted
  have creating : deployment.atomicStore = true → world.record = none → phase.creating = true := by
    intro bound nothing
    unfold MayStore at may
    split at may
    · exact may.elim
    · exact may bound
    next old read =>
      obtain ⟨stored, standing, -⟩ := knows.read old read
      cases nothing.symm.trans standing
  refine ⟨⟨?_, ?_, ?_, ?_⟩, ⟨?_, ?_, ?_, ?_, ?_, ?_⟩, ⟨?_, ?_, ?_, ?_⟩⟩
  · rw [accepted]
    refine forall_mem_cons.mpr ⟨fun old replaced => ?_, owned.byOwner⟩
    rcases replaces with nothing | ⟨before, standing, follows, entitled⟩
    · cases nothing.symm.trans replaced
    · obtain rfl := Option.some.inj (standing.symm.trans replaced)
      exact ⟨follows, request, asks, entitled⟩
  · rw [accepted]
    apply pairwise_cons.mpr
    refine ⟨fun older member => ?_, owned.ordered⟩
    have ordered := owned.ordered
    have newest := owned.newest
    cases versions : world.accepted with
    | nil =>
      rw [versions] at member
      cases member
    | cons head rest =>
      rw [versions] at member ordered newest
      have standing := newest head rfl
      rcases replaces with nothing | ⟨before, stands, follows, -⟩
      · cases nothing.symm.trans standing
      obtain rfl := Option.some.inj (standing.symm.trans stands)
      rcases mem_cons.mp member with rfl | earlier
      · exact follows
      · exact ((pairwise_cons.mp ordered).1 older earlier).trans follows
  · rw [accepted, stored]
    rintro version ⟨⟩
    rfl
  · intro bound _
    rw [idClaim]
    cases standing : world.record with
    | none => exact (knows.creating (creating bound standing)).2.2.1
    | some before => exact owned.claimed bound (by rw [standing]; rfl)
  · intro before standing
    rcases replaces with nothing | ⟨_, stands, follows, -⟩
    · cases nothing.symm.trans standing
    · obtain rfl := Option.some.inj (standing.symm.trans stands)
      exact ⟨record, stored, follows.network, follows.address⟩
  · intro bound nothing _
    exact (knows.creating (creating bound nothing)).2.1
  · rw [idClaim]
  · exact fun _ => idClaim
  · exact fun _ => ⟨idClaim, creator⟩
  · intro other _
    rw [firstRead]
  · rw [firstRead]
    exact knows.firstRead
  · intro old read
    have follows : Successor old record := by
      unfold MayStore at may
      rw [show phase.read = some (some old) from read] at may
      exact may.1
    exact ⟨record, stored, follows.network, follows.address⟩
  · intro version free
    cases free
  · intro creating
    cases creating

theorem Knows.readIdClaim {value : Option ℕ} {version : ℕ} (knows : Knows deployment tid phase world)
    (claim : world.idClaim = (value, version)) :
    Knows deployment tid (registerMove phase .readIdClaim (value, version)) world := by
  cases value with
  | some claimed => exact knows
  | none =>
    refine ⟨knows.firstRead, knows.read, ?_, knows.creating⟩
    rintro _ ⟨⟩
    rw [claim]
    exact ⟨le_rfl, fun _ => rfl⟩

/-- The claim on a free id is taken: nothing is stored under it. -/
theorem commitIdClaim_keeps {version now : ℕ} (owned : Owned deployment parties world)
    (knows : Knows deployment tid phase world) (bound : deployment.atomicStore = true)
    (unclaimed : world.idClaim.1 = none) (current : world.idClaim.2 = version)
    (record : after.record = world.record) (accepted : after.accepted = world.accepted)
    (idClaim : after.idClaim = (some now, version + 1)) (creator : after.creator = some tid)
    (firstRead : after.firstRead = world.firstRead) :
    Owned deployment parties after ∧ Registers deployment tid world after ∧
      Knows deployment tid { phase with creating := true } after := by
  have nothing : world.record = none := by
    by_contra stored
    have claimed := owned.claimed bound (Option.isSome_iff_ne_none.mpr stored)
    rw [unclaimed] at claimed
    cases claimed
  have newer : world.idClaim.2 < after.idClaim.2 := by
    rw [idClaim, current]
    exact Nat.lt_succ_self version
  refine ⟨⟨?_, ?_, ?_, ?_⟩, ⟨?_, ?_, ?_, ?_, ?_, ?_⟩, ⟨?_, ?_, ?_, ?_⟩⟩
  · rw [accepted]
    exact owned.byOwner
  · rw [accepted]
    exact owned.ordered
  · rw [accepted, record]
    exact owned.newest
  · intro _ _
    rw [idClaim]
    rfl
  · intro stored standing
    cases nothing.symm.trans standing
  · exact fun _ _ stored => absurd (record.trans nothing) stored
  · exact newer.le
  · exact fun same => absurd same newer.ne
  · intro claimed
    rw [unclaimed] at claimed
    cases claimed
  · intro other _
    rw [firstRead]
  · rw [firstRead]
    exact knows.firstRead
  · intro old read
    obtain ⟨stored, standing, -⟩ := knows.read old read
    cases nothing.symm.trans standing
  · intro free found
    have earlier := (knows.free free found).1
    exact ⟨earlier.trans newer.le, fun same => absurd (same ▸ earlier) (not_le.mpr newer)⟩
  · intro _
    exact ⟨bound, creator, by rw [idClaim]; rfl, record.trans nothing⟩

theorem registers_keeps (parties : ℕ → Registrant) (tid : ℕ) :
    (registerFlow deployment (parties tid)).Keeps (ownerProtocol deployment parties) (undisturbed deployment) tid
      (Knows deployment tid) where
  stable := Knows.stable
  step := by
    intro phase action may world owned knows choice answer after admitted performed
    have idle : Idles world world := ⟨rfl, rfl, rfl, rfl, rfl⟩
    cases action with
    | getRecord =>
      cases performed
      apply getRecord_keeps owned knows
      intro old found
      split at found
      · cases found
      · exact found
    | readIdClaim =>
      obtain ⟨value, version⟩ := answer
      obtain ⟨claim, rfl⟩ := Prod.mk.inj (Option.some.inj performed)
      exact ⟨owned, idle.registers, knows.readIdClaim claim⟩
    | commitIdClaim version now =>
      obtain ⟨bound, free⟩ := may
      simp only [perform] at performed
      split at performed
      next current =>
        cases performed
        exact commitIdClaim_keeps owned knows bound ((knows.free version free).2 current) current rfl rfl rfl rfl rfl
      next =>
        cases performed
        exact ⟨owned, idle.registers, knows.firstRead, knows.read, knows.free, fun took => by cases took⟩
    | putRegistration record =>
      obtain ⟨request, asks, stores⟩ := may
      cases performed
      exact putRegistration_keeps owned knows asks stores admitted rfl rfl rfl rfl rfl
    | tick elapsed =>
      cases performed
      have moved : Idles world { world with now := world.now + elapsed } := ⟨rfl, rfl, rfl, rfl, rfl⟩
      exact ⟨moved.owned owned, moved.registers, moved.knows knows⟩
    | clock | consumeNonce | consumeDomainProof | verifyX402PayToMatch | getDomainProofEvidence | issueDashboardToken
    | sealHosting =>
      cases performed
      exact ⟨owned, idle.registers, knows⟩
    | _ => exact may.elim

end Steps

/-! ## The calls together -/

/-- Where every update that no wallet signed finds the record that it read, each version is written by a call entitled
to replace the one before, and the owner never changes. -/
theorem changed_by_owner {parties : ℕ → Registrant} {world : World} (founded : Founded deployment world)
    {after : (onboardingMachine deployment).Config}
    (run : Run (undisturbed deployment) (registering deployment world parties) after) :
    (∀ version ∈ after.world.accepted, ∀ old, version.replaced = some old → Successor old version.record ∧
      ∃ request, parties version.tid = .register request ∧ Entitled deployment request version.record old) ∧
      after.world.accepted.Pairwise fun newer older => Successor older.record newer.record := by
  have owned : (ownerProtocol deployment parties).Inv (registering deployment world parties).world := by
    refine ⟨?_, ?_, ?_, founded.claimed⟩
    all_goals simp only [registering, founded.accepted]
    · exact fun _ member => absurd member not_mem_nil
    · exact .nil
    · rintro _ ⟨⟩
  have knows : ∀ tid, Knows deployment tid {} world := by
    intro tid
    refine ⟨founded.firstRead tid, ?_, ?_, ?_⟩
    · rintro _ ⟨⟩
    · rintro _ ⟨⟩
    · rintro ⟨⟩
  obtain ⟨owned, -⟩ := reached_each (registers_keeps parties) owned
    (fun tid => ⟨{}, knows tid, registrant_follows (parties tid)⟩) run
  exact ⟨owned.byOwner, owned.ordered⟩

/-! ## Runs -/

instance (request : RegisterRequest) (registration : Registration) (payout : RouteOperatorPayout) :
    Decidable (SignedFor deployment request registration payout) :=
  inferInstanceAs (Decidable (∃ entry ∈ _, _))

instance (request : RegisterRequest) (registration : Registration) :
    Decidable (SignedByAll deployment request registration) := inferInstanceAs (Decidable (∀ payout ∈ _, _))

instance (request : RegisterRequest) (record old : ProviderRecord) :
    Decidable (Entitled deployment request record old) := inferInstanceAs (Decidable (_ ∨ _))

instance (tid : ℕ) (action : Action) (choice : Choice) (world : World) :
    Decidable (undisturbed deployment tid action choice world) := by
  unfold undisturbed
  split <;> infer_instance

/-- The hash of a token is its length, thirty-two times. -/
def oneDesk : Deployment where
  providerId := "acme"
  hostedOriginFor id := id
  hostedHost _ := false
  providerIdsForOrigin _ := ["acme"]
  payToFromProofToken _ := none
  baseUnits _ := some 100000
  sha256 registration := registration.name
  hashToken token := List.replicate 32 token.length
  verifies _ signature := signature == "s"
  localeLe first second := decide (first ≤ second)

def acme : Registration where
  apiBaseUrl := "u"
  payouts := [⟨"stellar:p", "G", "USDC"⟩]
  routes := [{ operation := "run", method := "GET", upstreamPath := "/", priceUsd := "0.01" }]

/-- The provider is created, and updated under its first token and by a signature. -/
def threeUpdates : ℕ → Registrant
  | 0 => .register { registration := acme, declaredType := some .x402PayTo }
  | 1 => .register { registration := acme, declaredType := some .x402PayTo, authorization := some "a" }
  | 2 => .register { registration := acme, signatures := [⟨"stellar:p", "s", some 0, "12345678"⟩] }
  | _ => .idle

/-- A call issues this token, after and before so many other steps. -/
def issuing (tid before : ℕ) (token : String) (rest : ℕ) : List (ℕ × Choice) :=
  List.replicate before (tid, ({} : Choice)) ++ (tid, { text := token }) :: List.replicate rest (tid, ({} : Choice))

/-- The provider is created, and then updated by a signature. -/
def createdAndSigned : List (ℕ × Choice) := issuing 0 7 "a" 1 ++ issuing 2 4 "bb" 2

theorem threeUpdates_by_owner : ∃ after,
    Run (undisturbed oneDesk) (registering oneDesk World.start threeUpdates) after ∧
      after.world.accepted.length = 2 ∧
      (∀ version ∈ after.world.accepted, ∀ old, version.replaced = some old → Successor old version.record ∧
        ∃ request, threeUpdates version.tid = .register request ∧ Entitled oneDesk request version.record old) ∧
      after.world.accepted.Pairwise fun newer older => Successor older.record newer.record := by
  obtain ⟨after, run, passed⟩ := Config.exec_reaches (undisturbed oneDesk)
    (registering oneDesk World.start threeUpdates) createdAndSigned (fun world => world.accepted.length == 2)
    (by decide +kernel)
  have founded : Founded oneDesk World.start := ⟨rfl, fun _ => rfl, fun _ stored => by cases stored⟩
  obtain ⟨byOwner, ordered⟩ := changed_by_owner oneDesk founded run
  exact ⟨after, run, eq_of_beq passed, byOwner, ordered⟩

/-- The presented token or signatures entitle the party to the version. -/
def Registrant.entitles (party : Registrant) (record old : ProviderRecord) : Bool :=
  match party with
  | .register request => decide (Entitled oneDesk request record old)
  | _ => false

/-- An update that read the record before its owner signed for it is stored after that: the token is no longer valid,
and the proof is weaker. -/
theorem late_update_downgrades : ∃ after,
    Run (unrestricted (onboardingMachine oneDesk)) (registering oneDesk World.start threeUpdates) after ∧
      ∃ version ∈ after.world.accepted, ∃ old, version.replaced = some old ∧
        old.ownerKey.proof = some .walletSignature ∧ version.record.ownerKey.proof = some .x402PayTo ∧
        ∀ request, threeUpdates version.tid = .register request → ¬ Entitled oneDesk request version.record old := by
  obtain ⟨after, run, passed⟩ := Config.exec_reaches (unrestricted (onboardingMachine oneDesk))
    (registering oneDesk World.start threeUpdates)
    (issuing 0 7 "a" 1 ++ issuing 1 4 "ccc" 0 ++ issuing 2 4 "bb" 2 ++ [(1, ({} : Choice))])
    (fun world => world.accepted.any fun version => version.replaced.any fun old =>
      old.ownerKey.proof == some .walletSignature && version.record.ownerKey.proof == some .x402PayTo &&
        !(threeUpdates version.tid).entitles version.record old)
    (by decide +kernel)
  simp only [any_eq_true, Option.any_eq_true, Bool.and_eq_true, beq_iff_eq, Bool.not_eq_true'] at passed
  obtain ⟨version, member, old, replaced, ⟨signed, weaker⟩, refused⟩ := passed
  refine ⟨after, run, version, member, old, replaced, signed, weaker, fun request asks => ?_⟩
  rw [asks] at refused
  exact of_decide_eq_false refused

end MppRouter.Providers.Onboarding
