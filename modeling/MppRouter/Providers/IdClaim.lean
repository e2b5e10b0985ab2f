import MppRouter.Core.Solo
import MppRouter.Providers.OwnerOnly

/-! # The claim on a new id

The first registration of an id takes a claim on it in a durable store of its own, and then goes on to what may still refuse
or throw before the record is stored. Nothing gives the claim back. A request that asks to keep a credential where there is
none is let through to the claim and refused after it.
-/

namespace MppRouter.Providers.Onboarding

open Concurrent Concurrent.Machine Option

variable (deployment : Deployment)

/-- A first registration that gets to its claim on the id has it. -/
def IdFree (world : World) : Prop :=
  ∀ tid took after, Solo (unrestricted (onboardingMachine deployment)) tid (claimProviderIdForCreate deployment) world took after →
    took = true

/-- The request asks to keep a credential and to be carried out, and nothing refuses it before the claim. -/
def KeepsNothing (request : RegisterRequest) : Prop :=
  refusedRequest deployment request = none ∧ request.dryRun = false ∧
    ∃ hosting, request.hosting = some hosting ∧ hosting.keep = true

variable {deployment} {tid : ℕ} {world after : World}

/-! ## What is left alone -/

/-- The record and the claim on the id are as they were. -/
structure SameClaim (before after : World) : Prop where
  record : after.record = before.record
  idClaim : after.idClaim = before.idClaim

theorem SameClaim.refl (world : World) : SameClaim world world := ⟨rfl, rfl⟩

theorem SameClaim.trans {first second third : World} (one : SameClaim first second) (two : SameClaim second third) :
    SameClaim first third := ⟨two.record.trans one.record, two.idClaim.trans one.idClaim⟩

theorem aside_sameClaim {α : Type} {program : Routine α} {post : α → Unit → Prop}
    (follows : (asideFlow deployment).Follows program post ()) {value : α}
    (solo : Solo (unrestricted (onboardingMachine deployment)) tid program world value after) : SameClaim world after := by
  suffices moves : ∀ action, Aside action → ∀ choice middle answer later, True →
      (onboardingMachine deployment).perform tid action choice middle = some (answer, later) → SameClaim world middle →
      SameClaim world later from Solo.kept moves (follows.performs fun _ _ aside => aside) solo (.refl world)
  intro action aside choice middle answer later _ performed same
  cases action with
  | clock | consumeNonce | consumeDomainProof | verifyX402PayToMatch | getDomainProofEvidence | issueDashboardToken
  | sealHosting =>
    cases performed
    exact same
  | _ => exact aside.elim

theorem getRecord_sameClaim {choice : Choice} {found : Option ProviderRecord}
    (performed : (onboardingMachine deployment).perform tid .getRecord choice world = some (found, after)) (new : world.record = none) :
    found = none ∧ SameClaim world after := by
  cases performed
  refine ⟨?_, rfl, rfl⟩
  rw [new]
  exact ite_self none

/-! ## What the handler does alone -/

theorem claim_taken {took : Bool} (new : world.record = none) (free : world.idClaim.1 = none)
    (solo : Solo (unrestricted (onboardingMachine deployment)) tid (claimProviderIdForCreate deployment) world took after) :
    took = true ∧ after.record = none ∧
      (deployment.atomicStore = true → after.idClaim.1 ≠ none ∧ after.creator = some tid) ∧
      (deployment.atomicStore = false → SameClaim world after) := by
  unfold claimProviderIdForCreate at solo
  cases bound : deployment.atomicStore with
  | false =>
    rw [bound, if_neg Bool.false_ne_true] at solo
    obtain ⟨choice, found, middle, _, performed, ends⟩ := Solo.of_call solo
    obtain ⟨rfl, rfl⟩ := Solo.of_pure ends
    obtain ⟨rfl, same⟩ := getRecord_sameClaim performed new
    exact ⟨rfl, same.record.trans new, by rintro ⟨⟩, fun _ => same⟩
  | true =>
    rw [bound, if_pos rfl] at solo
    obtain ⟨choice, current, middle, _, performed, later⟩ := Solo.of_call solo
    cases performed
    rw [free, isSome_none, if_neg Bool.false_ne_true] at later
    obtain ⟨choice, now, middle, _, performed, later⟩ := Solo.of_call later
    cases performed
    obtain ⟨choice, _, performed⟩ := Solo.of_last later
    simp only [perform, if_true, some.injEq, Prod.mk.injEq] at performed
    obtain ⟨rfl, rfl⟩ := performed
    exact ⟨rfl, new, fun _ => ⟨some_ne_none _, rfl⟩, by rintro ⟨⟩⟩

/-- Where no record stands, the id is free unless it was claimed. -/
theorem idFree_iff (new : world.record = none) :
    IdFree deployment world ↔ (deployment.atomicStore = true → world.idClaim.1 = none) := by
  constructor
  · intro free bound
    by_contra claimed
    have refused : Solo (unrestricted (onboardingMachine deployment)) 0 (claimProviderIdForCreate deployment) world false world := by
      obtain ⟨value, taken⟩ := ne_none_iff_exists'.mp claimed
      unfold claimProviderIdForCreate
      rw [bound, if_pos rfl]
      have read : (onboardingMachine deployment).perform 0 .readIdClaim ({} : Choice) world = some (world.idClaim, world) := rfl
      refine Solo.act trivial read ?_
      change Solo (S := onboardingMachine deployment) _ 0 (if world.idClaim.1.isSome then pure false else _) world false world
      rw [taken, isSome_some, if_pos rfl]
      exact Solo.pure (S := onboardingMachine deployment) false world
    exact Bool.false_ne_true (free 0 false world refused)
  · intro free tid took after solo
    cases bound : deployment.atomicStore with
    | true => exact (claim_taken new (free bound) solo).1
    | false =>
      unfold claimProviderIdForCreate at solo
      rw [bound, if_neg Bool.false_ne_true] at solo
      obtain ⟨choice, found, middle, _, performed, ends⟩ := Solo.of_call solo
      obtain ⟨rfl, rfl⟩ := Solo.of_pure ends
      obtain ⟨rfl, -⟩ := getRecord_sameClaim performed new
      rfl

variable {request : RegisterRequest}

/-- Past the claim, a first registration is stored unless it asks to keep a credential. -/
theorem storeRegistration_alone {auth : OwnershipOutcome} {reply : Reply}
    (solo : Solo (unrestricted (onboardingMachine deployment)) tid (storeRegistration deployment request none auth) world reply
      after) :
    if ∃ hosting, request.hosting = some hosting ∧ hosting.keep = true then SameClaim world after else after.record ≠ none := by
  unfold storeRegistration at solo
  obtain ⟨choice, now, first, _, performed, later⟩ := Solo.of_call solo
  cases performed
  obtain ⟨choice, token, second, _, performed, later⟩ := Solo.of_call later
  cases performed
  obtain ⟨resolved, third, resolving, later⟩ := Solo.of_bind later
  split
  next keeps =>
    -- There is no hosting to keep the credential of.
    obtain ⟨hosting, asked, keep⟩ := keeps
    simp only [resolveHosting, asked, keep, if_true, bind_none] at resolving
    obtain ⟨rfl, rfl⟩ := Solo.of_pure resolving
    obtain ⟨-, rfl⟩ := Solo.of_pure later
    exact .refl _
  next fresh =>
    have sealed : ∃ hosting, resolved = .ok hosting := by
      unfold resolveHosting at resolving
      split at resolving
      next =>
        obtain ⟨rfl, -⟩ := Solo.of_pure resolving
        exact ⟨_, rfl⟩
      next hosting asked =>
        have plain : ¬ hosting.keep = true := fun keep => fresh ⟨hosting, asked, keep⟩
        rw [if_neg plain] at resolving
        obtain ⟨_, _, _, _, _, ends⟩ := Solo.of_call resolving
        obtain ⟨rfl, -⟩ := Solo.of_pure ends
        exact ⟨_, rfl⟩
    obtain ⟨hosting, rfl⟩ := sealed
    dsimp only at later
    split at later
    next =>
      obtain ⟨choice, _, fourth, _, performed, ends⟩ := Solo.of_call later
      cases performed
      obtain ⟨-, rfl⟩ := Solo.of_pure ends
      exact some_ne_none _
    next =>
      obtain ⟨choice, evidence, fourth, _, performed, later⟩ := Solo.of_call later
      cases performed
      obtain ⟨choice, _, fourth, _, performed, ends⟩ := Solo.of_call later
      cases performed
      obtain ⟨-, rfl⟩ := Solo.of_pure ends
      exact some_ne_none _

/-- What a request comes to for an id without a record: refused before the claim, or through it. -/
theorem register_alone {reply : Reply} (new : world.record = none) (free : world.idClaim.1 = none)
    (solo : Solo (unrestricted (onboardingMachine deployment)) tid (handleProviderRegister deployment request) world reply after) :
    (¬ KeepsNothing deployment request ∧ SameClaim world after) ∨
      ∃ auth middle, middle.record = none ∧ refusedRequest deployment request = none ∧ request.dryRun = false ∧
        (deployment.atomicStore = true → middle.idClaim.1 ≠ none) ∧
        (deployment.atomicStore = false → SameClaim world middle) ∧
        Solo (unrestricted (onboardingMachine deployment)) tid (storeRegistration deployment request none auth) middle reply
          after := by
  unfold handleProviderRegister at solo
  cases refuses : refusedRequest deployment request with
  | some refused =>
    rw [refuses] at solo
    obtain ⟨-, rfl⟩ := Solo.of_pure solo
    exact .inl ⟨fun keeps => (nomatch keeps.1.symm.trans refuses), .refl _⟩
  | none =>
    rw [refuses] at solo
    cases dry : request.dryRun with
    | true =>
      simp only [dry, if_true] at solo
      obtain ⟨-, rfl⟩ := Solo.of_pure solo
      exact .inl ⟨fun keeps => Bool.false_ne_true (keeps.2.1.symm.trans dry), .refl _⟩
    | false =>
      simp only [dry, Bool.false_eq_true, if_false] at solo
      obtain ⟨choice, existing, first, _, performed, later⟩ := Solo.of_call solo
      obtain ⟨rfl, read⟩ := getRecord_sameClaim performed new
      dsimp only [bind_none] at later
      obtain ⟨proof, second, proving, later⟩ := Solo.of_bind later
      have proved := aside_sameClaim (resolveProof_follows none request) proving
      cases proof with
      | error code =>
        obtain ⟨-, rfl⟩ := Solo.of_pure later
        refine .inl ⟨?_, read.trans proved⟩
        rintro ⟨-, -, hosting, asked, keep⟩
        -- A hosted registration has nothing to prove.
        unfold resolveProof resolveOwnership at proving
        rw [asked, isSome_some, if_pos rfl] at proving
        obtain ⟨_, _, owning, later⟩ := Solo.of_bind proving
        obtain ⟨_, _, _, _, performed, ends⟩ := Solo.of_call owning
        obtain ⟨rfl, -⟩ := Solo.of_pure ends
        obtain ⟨impossible, -⟩ := Solo.of_pure later
        cases impossible
      | ok auth =>
        simp only [authorizedUpdate, Bool.not_true, Bool.false_eq_true, if_false, isNone_none, if_true] at later
        obtain ⟨took, third, claiming, later⟩ := Solo.of_bind later
        have same := read.trans proved
        obtain ⟨rfl, empty, taken, unbound⟩ :=
          claim_taken (same.record.trans new) ((congrArg Prod.fst same.idClaim).trans free) claiming
        exact .inr ⟨auth, third, empty, rfl, rfl, fun bound => (taken bound).1,
          fun without => same.trans (unbound without), later⟩

/-! ## The law -/

/-- What a registration may perform. -/
def Registering : Action → Prop
  | .getRecord | .readIdClaim | .commitIdClaim .. | .putRegistration _ | .tick _ => True
  | action => Aside action

theorem handleProviderRegister_registering (request : RegisterRequest) :
    (handleProviderRegister deployment request).Performs Registering := by
  refine Typestate.Follows.performs (T := registerFlow deployment (.register request)) ?_ (handleProviderRegister_follows rfl)
  intro phase action allowed
  cases action with
  | commitIdClaim | putRegistration | clock | getRecord | readIdClaim | consumeNonce | consumeDomainProof
  | verifyX402PayToMatch | getDomainProofEvidence | issueDashboardToken | sealHosting | tick => trivial
  | _ => exact allowed.elim

/-- A call takes the claim on the id or leaves it, wherever it stops. -/
theorem claims_or_leaves
    (begun : Begun (unrestricted (onboardingMachine deployment)) tid (handleProviderRegister deployment request) world after) :
    (after.idClaim.1 ≠ none ∧ after.creator = some tid) ∨
      (after.idClaim.1 = world.idClaim.1 ∧ after.creator = world.creator) := by
  suffices moves : ∀ action, Registering action → ∀ choice (middle : World) answer later, True →
      (onboardingMachine deployment).perform tid action choice middle = some (answer, later) →
      ((middle.idClaim.1 ≠ none ∧ middle.creator = some tid) ∨
        (middle.idClaim.1 = world.idClaim.1 ∧ middle.creator = world.creator)) →
      (later.idClaim.1 ≠ none ∧ later.creator = some tid) ∨
        (later.idClaim.1 = world.idClaim.1 ∧ later.creator = world.creator) from
    Begun.kept moves (handleProviderRegister_registering request) begun (.inr ⟨rfl, rfl⟩)
  intro action kind choice middle answer later _ performed sofar
  cases action with
  | commitIdClaim version now =>
    simp only [perform] at performed
    split at performed
    next =>
      cases performed
      exact .inl ⟨some_ne_none _, rfl⟩
    next =>
      cases performed
      exact sofar
  | putRegistration | clock | getRecord | readIdClaim | consumeNonce | consumeDomainProof | verifyX402PayToMatch
  | getDomainProofEvidence | issueDashboardToken | sealHosting | tick =>
    cases performed
    exact sofar
  | _ => exact kind.elim

/-- Nothing gives the claim on the id back. -/
theorem claim_stays (taken : world.idClaim.1 ≠ none)
    (begun : Begun (unrestricted (onboardingMachine deployment)) tid (handleProviderRegister deployment request) world after) :
    after.idClaim.1 ≠ none :=
  (claims_or_leaves begun).elim And.left fun same => same.1 ▸ taken

/-- The claim on the id is taken exactly when this call has taken it, wherever it stops. -/
theorem creator_iff (begins : world.creator = some tid ↔ world.idClaim.1 ≠ none)
    (begun : Begun (unrestricted (onboardingMachine deployment)) tid (handleProviderRegister deployment request) world after) :
    after.creator = some tid ↔ after.idClaim.1 ≠ none := by
  rcases claims_or_leaves begun with ⟨taken, own⟩ | ⟨claim, creator⟩
  · exact ⟨fun _ => taken, fun _ => own⟩
  · rwa [claim, creator]

/-- An answered request for a free id that stores nothing leaves it free unless it asked to keep a credential. -/
theorem answered_free_iff {reply : Reply} (new : world.record = none) (free : world.idClaim.1 = none)
    (solo : Solo (unrestricted (onboardingMachine deployment)) tid (handleProviderRegister deployment request) world reply after)
    (unstored : after.record = none) :
    IdFree deployment after ↔ ¬ (deployment.atomicStore = true ∧ KeepsNothing deployment request) := by
  rw [idFree_iff unstored]
  rcases register_alone new free solo with ⟨keepsNot, same⟩ | ⟨auth, middle, _, unrefused, dry, claimed, _, stores⟩
  · have still : after.idClaim.1 = none := (congrArg Prod.fst same.idClaim).trans free
    exact ⟨fun _ keeps => keepsNot keeps.2, fun _ _ => still⟩
  · have stored := storeRegistration_alone stores
    split at stored
    next keeps =>
      have taken (bound : deployment.atomicStore = true) : after.idClaim.1 ≠ none := by
        rw [stored.idClaim]
        exact claimed bound
      constructor
      · rintro none ⟨bound, -⟩
        exact taken bound (none bound)
      · intro without bound
        exact absurd ⟨bound, unrefused, dry, keeps⟩ without
    next => exact absurd unstored stored

/-- A deployment that hosts paywalls. -/
def hostingDesk : Deployment := { oneDesk with hostingAvailable := true }

/-- A first registration that asks to keep the credential. -/
def keepsFirst : RegisterRequest where
  registration := acme
  hosting := some { keep := true, originUrl := none }

end MppRouter.Providers.Onboarding
