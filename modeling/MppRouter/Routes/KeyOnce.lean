import MppRouter.Routes.KeyMemory
import MppRouter.Routes.RouterSpec

/-! # One delta for an idempotency key

The commit of a mutation and the entry in the applied list are one update of the partner record, so the
delta of a listed key is not applied again. The list is bounded, and a durable claim that was not settled
goes stale: a key that has fallen off the list while its claim is stale, or while a request that took it is
still on its way, is applied a second time.
-/

namespace MppRouter.Routes

open Concurrent Machine Mpp Function List PartnerStore

/-- How often the delta of a key was applied to a partner's balance. -/
def PartnerStore.applications (store : PartnerStore) (partnerId : String) (key : LedgerKey) : ℕ :=
  store.commits.countP fun commit => commit.partnerId = partnerId ∧ commit.key = key

/-- A key that was applied keeps one of its memories in force. -/
def keepsMemory (partnerId : String) (key : LedgerKey) (action : Action) (store : PartnerStore) : Bool :=
  match action with
  | .partner action => store.applications partnerId key = 0 ∨ ¬ store.forgets partnerId key action
  | _ => true

abbrev KeepsMemory (partnerId : String) (key : LedgerKey) : routerMachine.Admits :=
  fun _ action _ world => keepsMemory partnerId key action world.partners = true

/-! ## The invariant -/

/-- The key was applied at most once, and an applied key is remembered. -/
structure AppliedOnce (partnerId : String) (key : LedgerKey) (store : PartnerStore) : Prop where
  once : store.applications partnerId key ≤ 1
  remembered : store.applications partnerId key ≠ 0 → Remembered partnerId key store

section Steps

variable {partnerId : String} {key : LedgerKey} {store after : PartnerStore}

theorem PartnerStore.applications_congr (commits : after.commits = store.commits) :
    after.applications partnerId key = store.applications partnerId key := by
  rw [applications, commits]
  rfl

theorem PartnerStore.applications_cons {commit : Commit} (commits : after.commits = commit :: store.commits) :
    after.applications partnerId key =
      store.applications partnerId key + if commit.partnerId = partnerId ∧ commit.key = key then 1 else 0 := by
  simp only [applications, commits, countP_cons, decide_eq_true_eq]

/-- A step that applies nothing under the key. -/
theorem AppliedOnce.keep (once : AppliedOnce partnerId key store)
    (counted : after.applications partnerId key = store.applications partnerId key)
    (kept : store.applications partnerId key ≠ 0 → Remembered partnerId key after) :
    AppliedOnce partnerId key after := by
  constructor
  · rw [counted]
    exact once.once
  · rw [counted]
    exact kept

/-- A commit of the key itself is turned away once it was applied. -/
theorem AppliedOnce.commit (once : AppliedOnce partnerId key store) (tid now : ℕ) (partner : String)
    (mutation : LedgerMutation) (mutate : Mutate)
    (claimed : (tid, partner, mutation.idempotencyKey) ∈ store.claimants)
    (kept : store.applications partnerId key ≠ 0 →
      Remembered partnerId key (PartnerAction.perform tid now (.commit partner mutation mutate) store).2) :
    AppliedOnce partnerId key (PartnerAction.perform tid now (.commit partner mutation mutate) store).2 := by
  obtain ⟨-, same⟩ | ⟨record, next, found, unlisted, -, applied, same⟩ :=
    commit_cases tid now partner mutation mutate store
  · exact once.keep (PartnerStore.applications_congr (by rw [same])) kept
  · have counted : (PartnerAction.perform tid now (.commit partner mutation mutate) store).2.applications
        partnerId key = store.applications partnerId key +
          if partner = partnerId ∧ mutation.idempotencyKey = key then 1 else 0 :=
      PartnerStore.applications_cons (congrArg (fun result => result.2.commits) same)
    by_cases own : partner = partnerId ∧ mutation.idempotencyKey = key
    · rw [if_pos own] at counted
      obtain ⟨rfl, rfl⟩ := own
      have unapplied : store.applications partner mutation.idempotencyKey = 0 := by
        by_contra before
        have lists := (once.remembered before).lists_of_claimant claimed
        simp only [PartnerStore.lists, found, Option.any_some, unlisted] at lists
        cases lists
      constructor
      · omega
      · intro _
        left
        have listed := PartnerRecord.remembers_booked applied mutation.idempotencyKey
        simp only [PartnerStore.lists, same, update_self, Option.any_some, listed, decide_true,
          Bool.true_or]
    · rw [if_neg own] at counted
      exact once.keep counted kept

theorem AppliedOnce.step (once : AppliedOnce partnerId key store) (tid now : ℕ) (action : PartnerAction)
    (claimed : ∀ partner mutation mutate, action = .commit partner mutation mutate →
      (tid, partner, mutation.idempotencyKey) ∈ store.claimants)
    (keeps : keepsMemory partnerId key (.partner action) store = true) :
    AppliedOnce partnerId key (action.perform tid now store).2 := by
  have kept : store.applications partnerId key ≠ 0 → Remembered partnerId key (action.perform tid now store).2 := by
    intro applied
    simp only [keepsMemory, decide_eq_true_eq] at keeps
    have remembers := keeps.resolve_left applied
    exact (once.remembered applied).step tid now action (by simpa using remembers)
  cases action with
  | commit partner mutation mutate => exact once.commit tid now partner mutation mutate (claimed _ _ _ rfl) kept
  | _ => exact once.keep (applications_congr (quiet_commits tid now (by rfl) store)) kept

end Steps

/-! ## Callers of the ledger -/

/-- A caller of `applyLedger` allocates the id of its entry first. -/
def bookLedger (partnerId : String) (input : LedgerInput) (mutate : Mutate) :
    Route (Except PartnerError ApplyResult) := do
  let entryId ← onEnv .randomUuid
  applyLedger partnerId { input with entryId } mutate

/-- The claim a request has taken and not ended by its commit yet. -/
abbrev Claim := Option (String × LedgerKey)

def Claim.allows (claim : Claim) : Action → Prop
  | .partner (.commit partnerId mutation _) => claim = some (partnerId, mutation.idempotencyKey)
  | _ => True

def Claim.next (claim : Claim) : (action : Action) → action.Answer → Claim
  | .partner (.claimIdem partnerId key), mine => if mine then some (partnerId, key) else none
  | .partner (.commit _ _ _), _ => none
  | _, _ => claim

/-- A request commits only under the key that it has claimed. -/
def claiming : Typestate routerMachine := ⟨Claim, Claim.allows, Claim.next⟩

/-- Any call of `applyLedger`, and the top-ups and accounts that lead to one. -/
inductive IsLedgerThread : Route Unit → Prop
  | idle : IsLedgerThread (pure ())
  | account (email : String) : IsLedgerThread (getOrCreatePartnerByEmail email).run
  | topup (input : TopupInput) : IsLedgerThread (topupPartner input).run
  | book (partnerId : String) (input : LedgerInput) (mutate : Mutate) :
      IsLedgerThread (bookLedger partnerId input mutate).run

section Walk

open Typestate

variable {claim : Claim}

theorem claiming_applyLedger (partnerId : String) (input : LedgerInput) (mutate : Mutate) :
    claiming.Follows (applyLedger partnerId input mutate) anyhow claim := by
  refine Follows.ask trivial fun mine => ?_
  split_ifs with won
  · refine Follows.ask trivial fun now => ?_
    refine Follows.ask trivial fun _ => ?_
    refine Follows.ask (if_pos won) fun answer => ?_
    cases answer with
    | error failure => exact trivial
    | ok booking =>
      obtain ⟨partner, entry⟩ := booking
      have filled : ∀ claim : Claim, claiming.Follows (backfillBody entry) anyhow claim := by
        intro claim
        cases entry with
        | none => exact trivial
        | some settled => exact Follows.call trivial fun _ => trivial
      refine Follows.bind ((filled _).mono fun _ claim _ => ?_)
      exact Follows.ask trivial fun _ => trivial
  · exact Follows.ask trivial fun partner => trivial

theorem claiming_getOrCreatePartnerByEmail (email : String) :
    claiming.Follows (getOrCreatePartnerByEmail email) anyhow claim := by
  refine Follows.ask trivial fun candidateId => ?_
  refine Follows.ask trivial fun ownerId => ?_
  exact Follows.call trivial fun partner => trivial

theorem IsLedgerThread.follows {thread : Route Unit} (member : IsLedgerThread thread) :
    claiming.Follows thread anyhow none := by
  cases member with
  | idle => exact trivial
  | account email =>
    exact Follows.bind (claiming_getOrCreatePartnerByEmail email).loose
  | book partnerId input mutate =>
    refine Follows.bind (Follows.ask trivial fun entryId => ?_)
    exact (claiming_applyLedger partnerId _ mutate).loose
  | topup input =>
    apply Follows.bind
    unfold topupPartner
    split_ifs
    · exact trivial
    · refine Follows.bind ((claiming_getOrCreatePartnerByEmail input.email).mono fun partner claim _ => ?_)
      refine Follows.ask trivial fun entryId => ?_
      exact (claiming_applyLedger partner.id _ .nothing).loose

end Walk

/-- The invariant of one key; nobody ends the claim of another request. -/
def keyOnce (partnerId : String) (key : LedgerKey) : Protocol routerMachine where
  Inv world := AppliedOnce partnerId key world.partners
  Guar tid before after := ∀ claim ∈ before.partners.claimants, claim.1 ≠ tid → claim ∈ after.partners.claimants

/-- A request that has claimed a key stands between its claim and its commit. -/
def ClaimKnows (tid : ℕ) (claim : Claim) (world : World) : Prop :=
  ∀ partnerId key, claim = some (partnerId, key) → (tid, partnerId, key) ∈ world.partners.claimants

/-- Its own step leaves a request the claim that its typestate says. -/
theorem claimKnows_step (tid now : ℕ) {claim : Claim} {action : PartnerAction} {store : PartnerStore}
    (knows : ∀ partnerId key, claim = some (partnerId, key) → (tid, partnerId, key) ∈ store.claimants)
    (partnerId : String) (key : LedgerKey)
    (claimed : claim.next (.partner action) (action.perform tid now store).1 = some (partnerId, key)) :
    (tid, partnerId, key) ∈ (action.perform tid now store).2.claimants := by
  cases action with
  | claimIdem partner other =>
    simp only [Claim.next] at claimed
    split_ifs at claimed with mine
    obtain ⟨rfl, rfl⟩ := Prod.mk.inj (Option.some.inj claimed)
    simp only [PartnerAction.perform] at mine ⊢
    rw [if_pos mine]
    exact mem_cons_self
  | commit partner mutation mutate => cases claimed
  | _ => exact quiet_claimants tid now (by rfl) store (knows partnerId key claimed)

theorem claiming_keeps (partnerId : String) (key : LedgerKey) (tid : ℕ) :
    claiming.Keeps (keyOnce partnerId key) (KeepsMemory partnerId key) tid (ClaimKnows tid) where
  stable claim other world after distinct _ _ guar knows := by
    intro partner own claimed
    exact guar _ (knows partner own claimed) fun same => distinct same.symm
  step claim action allowed world once knows choice answer after admitted performed := by
    obtain ⟨rfl, rfl⟩ := Prod.mk.inj (Option.some.inj performed)
    cases action with
    | partner action =>
      refine ⟨?_, ?_, ?_⟩
      · refine once.step tid choice.now action ?_ admitted
        rintro partner mutation mutate rfl
        exact knows _ _ allowed
      · exact fun claim member foreign => claimants_kept tid choice.now action world.partners member foreign
      · exact fun partner own claimed => claimKnows_step tid choice.now knows partner own claimed
    | coupon action => exact ⟨once, fun _ member _ => member, knows⟩
    | guard action => exact ⟨once, fun _ member _ => member, knows⟩
    | env action =>
      have same : (action.perform tid choice world).2.partners = world.partners := by cases action <;> rfl
      refine ⟨?_, ?_, ?_⟩
      · exact (congrArg (AppliedOnce partnerId key) same).mpr once
      · intro claim member _
        exact (congrArg (fun store => claim ∈ store.claimants) same).mpr member
      · intro partner own claimed
        have before := knows partner own (by cases action <;> exact claimed)
        exact (congrArg (fun store => (tid, partner, own) ∈ store.claimants) same).mpr before

/-! ## Every run -/

/-- Over any interleaving of ledger calls, crashing or stalling anywhere, in which no applied key loses its
place in the applied list while its durable claim is open, the delta of a key is applied at most once. -/
theorem key_applied_once (caps : DailySpendLedger → Option ℤ) (threads : ℕ → Route Unit)
    (members : ∀ tid, IsLedgerThread (threads tid)) (partnerId : String) (key : LedgerKey)
    {after : routerMachine.Config} (run : Run (KeepsMemory partnerId key) ⟨.initial caps, threads⟩ after) :
    after.world.partners.applications partnerId key ≤ 1 := by
  let start : routerMachine.Config := ⟨.initial caps, threads⟩
  have nothing : (keyOnce partnerId key).Inv start.world :=
    ⟨Nat.zero_le 1, fun applied => absurd rfl applied⟩
  have once : (keyOnce partnerId key).Inv after.world :=
    Typestate.sound (claiming_keeps partnerId key) none nothing (fun _ _ _ claimed => nomatch claimed)
      (fun tid => (members tid).follows) run
  exact once.once

section Forgotten

variable {world : World} {tid : ℕ} {partnerId : String} {input : LedgerInput} {record : PartnerRecord} {choice : Choice}

/-- What an undisturbed call under a new or stale key does up to its commit. -/
theorem alone_book (found : world.partners.partners partnerId = some record)
    (taken : claimIdem choice.now (world.partners.idem partnerId input.idempotencyKey) =
      .set ⟨.pending, choice.now, none, none⟩ true)
    (unlisted : record.remembers input.idempotencyKey = false)
    (funded : 0 ≤ record.balanceAtomic + input.deltaAtomic) :
    ∃ program after mutation, alone routerMachine tid (bookLedger partnerId input .nothing).run world
        (replicate 5 choice) = some (program, after) ∧
      mutation.idempotencyKey = input.idempotencyKey ∧ mutation.draft.deltaAtomic = input.deltaAtomic ∧
      after.partners.partners partnerId = some (record.booked mutation) ∧
      after.partners.commits =
        ⟨partnerId, input.idempotencyKey, mutation.settled record, .nothing⟩ :: world.partners.commits ∧
      ∀ key, after.partners.idem partnerId key =
        if key = input.idempotencyKey then some ⟨.pending, choice.now, none, none⟩
        else world.partners.idem partnerId key := by
  have enough : ¬ record.balanceAtomic + input.deltaAtomic < 0 := by omega
  simp only [alone, replicate, bookLedger, applyLedger, Route.run, onEnv, onPartner, Prog.call_bind,
    Prog.act_bind, perform, EnvAction.perform, PartnerAction.perform, updateIdem, taken,
    Decision.result, Decision.after_set, if_true, tryUpdate, writeBody_partners, found,
    commitLedger_some, unlisted, Bool.false_eq_true, if_false, LedgerInput.draft, if_neg enough, Mutate.apply]
  let draft := { input with entryId := ⟨tid, world.minted⟩ }.draft partnerId choice.now
  refine ⟨_, _, ⟨draft, input.idempotencyKey, input.couponCode⟩, rfl, rfl, rfl, ?_, ?_, fun key => ?_⟩
  · simp only [update_self]
    rfl
  · simp only [writeBody_commits]
    rfl
  · simp only [writeBody_idem, update_self, update_apply]

end Forgotten

/-! ## A key that is forgotten -/

private def wire : LedgerKey := .topup "wire"

private def wireTopup : LedgerInput :=
  { kind := .topup, deltaAtomic := 50, ref := some "wire", entryId := ⟨0, 0⟩, idempotencyKey := wire }

private def otherRefund (n : ℕ) : LedgerInput :=
  { kind := .voidRefund, deltaAtomic := 1, ref := none, entryId := ⟨0, 0⟩, idempotencyKey := .refund ⟨n, 0⟩ }

/-- A top-up, its retry, and any number of other mutations on the same partner. -/
private def floodThreads : ℕ → Route Unit
  | 0 => (getOrCreatePartnerByEmail "partner").run
  | 1 | 2 => (bookLedger "p" wireTopup .nothing).run
  | n + 3 => (bookLedger "p" (otherRefund n) .nothing).run

private theorem floodThreads_members : ∀ tid, IsLedgerThread (floodThreads tid)
  | 0 => .account _
  | 1 | 2 => .book _ _ _
  | _ + 3 => .book _ _ _

/-- A top-up and its retry, one after the other: the retry is answered from the settled claim. -/
private def wireRetried : List (ℕ × Choice) :=
  (0, { text := "p" }) :: replicate 2 (0, .plain) ++ replicate 7 (1, .plain) ++ replicate 3 (2, .plain)

theorem key_applied_once_retried : ∃ after,
    Run (KeepsMemory "p" (.topup "wire")) ⟨.initial fun _ => none, floodThreads⟩ after ∧
      after.world.partners.applications "p" (.topup "wire") = 1 := by
  obtain ⟨after, run, applied⟩ := Config.exec_reaches (KeepsMemory "p" (.topup "wire"))
    ⟨.initial fun _ => none, floodThreads⟩ wireRetried
    (fun world => world.partners.applications "p" (.topup "wire") ≠ 0) (by rfl)
  have once := key_applied_once (fun _ => none) floodThreads floodThreads_members "p" (.topup "wire") run
  have some := of_decide_eq_true applied
  exact ⟨after, run, by omega⟩

/-- The top-up was booked and its request died before it settled the key; so many mutations came after it. -/
private structure Flooded (n : ℕ) (config : routerMachine.Config) : Prop where
  record : ∃ record, config.world.partners.partners "p" = some record ∧ 0 ≤ record.balanceAtomic ∧
    record.applied.length ≤ maxIdemKeys ∧ (∀ applied ∈ record.applied.take n, applied.k ≠ wire) ∧
    ∀ m, n ≤ m → ∀ applied ∈ record.applied, applied.k ≠ .refund ⟨m, 0⟩
  stale : config.world.partners.idem "p" wire = some ⟨.pending, 0, none, none⟩
  unclaimed : ∀ m, n ≤ m → config.world.partners.idem "p" (.refund ⟨m, 0⟩) = none
  applied : config.world.partners.applications "p" wire = 1
  retry : config.threads 2 = floodThreads 2
  waiting : ∀ m, n ≤ m → config.threads (m + 3) = floodThreads (m + 3)

private theorem remembers_false {record : PartnerRecord} {key : LedgerKey}
    (absent : ∀ applied ∈ record.applied, applied.k ≠ key) : record.remembers key = false := by
  simp only [PartnerRecord.remembers, any_eq_false, decide_eq_true_eq]
  exact absent

/-- One more mutation of another caller. -/
private theorem Flooded.next {n : ℕ} {config : routerMachine.Config} (flooded : Flooded n config) :
    ∃ after, Run (unrestricted routerMachine) config after ∧ Flooded (n + 1) after := by
  obtain ⟨record, found, funded, bounded, early, later⟩ := flooded.record
  obtain ⟨program, world, mutation, moved, key, delta, booked, commits, idem⟩ :=
    @alone_book config.world (n + 3) "p" (otherRefund n) record .plain found
      (by rw [otherRefund, flooded.unclaimed n (Nat.le_refl n)]; rfl)
      (remembers_false (later n (Nat.le_refl n))) (by simp only [otherRefund]; omega)
  have run : Run (unrestricted routerMachine) config ⟨world, update config.threads (n + 3) program⟩ := by
    apply alone_run
    rw [flooded.waiting n (Nat.le_refl n)]
    exact moved
  have pushed : (record.booked mutation).applied =
      ⟨.refund ⟨n, 0⟩, mutation.draft.id, mutation.couponCode⟩ :: record.applied.take (maxIdemKeys - 1) := by
    rw [PartnerRecord.booked, key, otherRefund]
    rfl
  refine ⟨_, run, ?_⟩
  constructor
  case record =>
    refine ⟨_, booked, ?_, ?_, ?_, ?_⟩
    · simp only [PartnerRecord.booked, delta, otherRefund]
      omega
    · rw [pushed, length_cons, length_take]
      simp only [maxIdemKeys] at bounded ⊢
      omega
    · rw [pushed, take_succ_cons]
      intro applied member
      rcases mem_cons.mp member with rfl | old
      · simp [wire]
      · rw [take_take] at old
        exact early applied (take_subset_take_left _ (Nat.min_le_left _ _) old)
    · intro m above
      rw [pushed]
      intro applied member
      rcases mem_cons.mp member with rfl | old
      · intro same
        cases same
        omega
      · exact later m (by omega) applied (mem_of_mem_take old)
  case stale =>
    rw [idem, if_neg (by simp [wire, otherRefund])]
    exact flooded.stale
  case unclaimed =>
    intro m above
    rw [idem, if_neg (by simp only [otherRefund, LedgerKey.refund.injEq, Uuid.mk.injEq]; omega)]
    exact flooded.unclaimed m (by omega)
  case applied =>
    rw [applications_cons commits, flooded.applied, if_neg (by simp [wire, otherRefund])]
  case retry =>
    dsimp only
    rw [update_of_ne (by omega)]
    exact flooded.retry
  case waiting =>
    intro m above
    dsimp only
    rw [update_of_ne (by omega)]
    exact flooded.waiting m (by omega)

private theorem flooded_zero : ∃ config,
    Run (unrestricted routerMachine) ⟨.initial fun _ => none, floodThreads⟩ config ∧ Flooded 0 config := by
  let start : routerMachine.Config := ⟨.initial fun _ => none, floodThreads⟩
  obtain ⟨program, world, record, moved, found, balance, fresh, idem, commits⟩ : ∃ program world record,
      alone routerMachine 0 (start.threads 0) start.world [{ text := "p" }, .plain, .plain] = some (program, world) ∧
        world.partners.partners "p" = some record ∧ record.balanceAtomic = 0 ∧ record.applied = [] ∧
        (∀ key, world.partners.idem "p" key = none) ∧ world.partners.commits = [] :=
    ⟨_, _, _, rfl, rfl, rfl, rfl, fun _ => rfl, rfl⟩
  obtain ⟨later, after, mutation, booking, key, delta, booked, grown, claims⟩ :=
    @alone_book world 1 "p" wireTopup record .plain found (by rw [idem]; rfl)
      (remembers_false (by simp [fresh])) (by simp only [wireTopup]; omega)
  have created := alone_run moved
  have topped : Run (unrestricted routerMachine) ⟨world, update start.threads 0 program⟩
      ⟨after, update (update start.threads 0 program) 1 later⟩ := by
    apply alone_run
    exact booking
  refine ⟨_, created.trans topped, ?_⟩
  have pushed : (record.booked mutation).applied = [⟨wire, mutation.draft.id, mutation.couponCode⟩] := by
    rw [PartnerRecord.booked, key, fresh]
    rfl
  constructor
  case record =>
    refine ⟨_, booked, ?_, ?_, ?_, ?_⟩
    · simp only [PartnerRecord.booked, delta, wireTopup]
      omega
    · simp [pushed, maxIdemKeys]
    · simp
    · simp [pushed, wire]
  case stale =>
    rw [claims]
    rfl
  case unclaimed =>
    intro m _
    rw [claims, if_neg (by simp [wireTopup, wire]), idem]
  case applied =>
    rw [applications_cons grown, if_pos ⟨rfl, rfl⟩, applications, commits]
    rfl
  case retry => rfl
  case waiting => exact fun _ _ => rfl

private theorem flooded_run (n : ℕ) : ∃ config,
    Run (unrestricted routerMachine) ⟨.initial fun _ => none, floodThreads⟩ config ∧ Flooded n config := by
  induction n with
  | zero => exact flooded_zero
  | succ n ih =>
    obtain ⟨config, run, flooded⟩ := ih
    obtain ⟨after, later, flooded⟩ := flooded.next
    exact ⟨after, run.trans later, flooded⟩

/-- A top-up that died before it settled its key is credited again once enough mutations have pushed the key off
the applied list and its durable claim is stale. -/
theorem key_applied_twice : ¬ ∀ (caps : DailySpendLedger → Option ℤ) (threads : ℕ → Route Unit),
    (∀ tid, IsLedgerThread (threads tid)) → ∀ (partnerId : String) (key : LedgerKey) (after : routerMachine.Config),
      Run (unrestricted routerMachine) ⟨.initial caps, threads⟩ after →
        after.world.partners.applications partnerId key ≤ 1 := by
  intro always
  obtain ⟨config, run, flooded⟩ := flooded_run maxIdemKeys
  obtain ⟨record, found, funded, bounded, early, -⟩ := flooded.record
  rw [take_of_length_le bounded] at early
  obtain ⟨program, world, mutation, moved, -, -, -, grown, -⟩ :=
    @alone_book config.world 2 "p" wireTopup record { now := pendingStaleMs } found
      (by rw [wireTopup, flooded.stale]; rfl) (remembers_false early) (by simp only [wireTopup]; omega)
  have again : Run (unrestricted routerMachine) config ⟨world, update config.threads 2 program⟩ := by
    apply alone_run
    rw [flooded.retry]
    exact moved
  have twice : world.partners.applications "p" wire = 2 := by
    rw [applications_cons grown, if_pos ⟨rfl, rfl⟩, flooded.applied]
  have once : world.partners.applications "p" wire ≤ 1 :=
    always (fun _ => none) floodThreads floodThreads_members "p" wire _ (run.trans again)
  omega

end MppRouter.Routes
