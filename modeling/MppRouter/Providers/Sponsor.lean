import Mathlib.Data.List.Count
import MppRouter.Core.Typestate

/-! # Sponsoring an account on Stellar

An address is sponsored once and a day has a few sponsorships. Both limits are kept in a store of separate reads
and writes, around a submission whose answer can be lost. They hold where the calls for one address do not overlap,
where a count is written over what was read, on whose day the submission is made, and where no answer is lost.
-/

namespace MppRouter.Providers.Sponsor

open Concurrent Machine Typestate Function List

def FUNDING_XLM : String := "2.5"

def DAILY_SPONSOR_CAP : ℕ := 10

/-- The seconds of a UTC day. -/
def dayS : ℕ := 86_400

/-- What the Stellar SDK makes of keys and secrets. -/
structure Sdk where
  isValidEd25519PublicKey : String → Bool
  isSecret : String → Bool

structure Env where
  PROVIDER_SPONSOR_ENABLED : Option String
  STELLAR_GAS_SECRET : Option String
  deriving DecidableEq, Repr

inductive SponsorResult where
  | ok (txHash fundedXlm : String)
  | refused (status : ℕ) (code detail : String)
  deriving DecidableEq, Repr

/-- A transaction of the sponsor that creates one account. -/
structure Transaction where
  destination : String
  sequence : ℕ
  maxTime : ℕ
  deriving DecidableEq, Repr

/-! ## The call -/

/-- `counted` is auxiliary: the day whose count was raised for the submission. -/
inductive Action where
  | getMarker (address : String)
  | putMarker (address : String)
  | now
  | getCount (day : ℕ)
  | putCount (day count : ℕ)
  | loadAccount (address : String)
  | loadSponsor
  | submitTransaction (tx : Transaction) (counted : ℕ)
  | respond (result : SponsorResult)
  deriving DecidableEq

/-- A count is what `Number` makes of the stored text: absent, not finite, or a number. -/
@[reducible] def Action.Answer : Action → Type
  | .getMarker _ | .loadAccount _ => Bool
  | .now => ℕ
  | .getCount _ => Option (Option ℕ)
  | .loadSponsor => Except String ℕ
  | .submitTransaction _ _ => Except String String
  | _ => Unit

abbrev Call := Prog Action Action.Answer

def ask (action : Action) : Call action.Answer := Prog.call action

def refuse (status : ℕ) (code detail : String) : SponsorResult := .refused status code detail

/-- The budget is reserved before the submission. -/
def submitSponsorship (address : String) (day count sequence : ℕ) : Call SponsorResult := do
  let now ← ask .now
  ask (.putCount day (count + 1))
  let submitted ← ask (.submitTransaction ⟨address, sequence + 1, now + 60⟩ day)
  match submitted with
  | .ok hash =>
    ask (.putMarker address)
    pure (.ok hash FUNDING_XLM)
  | .error code => pure (refuse 502 "submission_failed" ("Stellar rejected the sponsorship (" ++ code ++ ")."))

def sponsorCounted (sdk : Sdk) (secret address : String) (day count : ℕ) : Call SponsorResult :=
  if sdk.isSecret secret = false then
    pure (refuse 503 "sponsor_unavailable" "Sponsor wallet secret is malformed.")
  else do
    if ← ask (.loadAccount address) then
      ask (.putMarker address)
      pure (refuse 409 "already_exists" "This account already exists on Stellar and needs no sponsorship.")
    else
      match ← ask .loadSponsor with
      | .error message =>
        pure (refuse 503 "sponsor_unavailable" ("Could not load the sponsor account: " ++ message ++ "."))
      | .ok sequence => submitSponsorship address day count sequence

def sponsorStellarAccount (sdk : Sdk) (env : Env) (address : String) : Call SponsorResult :=
  if env.PROVIDER_SPONSOR_ENABLED ≠ some "true" then
    pure (refuse 404 "not_found" "Account sponsorship is not enabled on this deployment.")
  else if sdk.isValidEd25519PublicKey address = false then
    pure (refuse 400 "bad_address" "Not a valid Stellar public key (G…).")
  else match env.STELLAR_GAS_SECRET.filter (· ≠ "") with
  | none => pure (refuse 503 "sponsor_unavailable" "No sponsor wallet configured.")
  | some secret => do
    if ← ask (.getMarker address) then
      pure (refuse 409 "already_sponsored" "This address has already been sponsored. One per address.")
    else
      let now ← ask .now
      let rawCount ← ask (.getCount (now / dayS))
      match (rawCount.getD (some 0)).filter (· < DAILY_SPONSOR_CAP) with
      | none => pure (refuse 429 "daily_cap" "The daily sponsorship budget is spent. Retry tomorrow.")
      | some count => sponsorCounted sdk secret address (now / dayS) count

def handleProviderSponsor (sdk : Sdk) (env : Env) (address : String) : Call Unit := do
  let result ← sponsorStellarAccount sdk env address
  ask (.respond result)

/-! ## The world -/

structure Submission where
  tx : Transaction
  /-- The UTC day of the submission. -/
  day : ℕ
  deriving DecidableEq, Repr

structure StoredCount where
  number : Option ℕ
  expiresAt : ℕ
  deriving DecidableEq, Repr

structure World where
  /-- In seconds. -/
  now : ℕ := 0
  markers : String → Bool := fun _ => false
  counts : ℕ → Option StoredCount := fun _ => none
  /-- The accounts that exist on Stellar, and the sequence number of the sponsor's. -/
  accounts : String → Bool := fun _ => false
  sequence : ℕ := 0
  /-- Submitted, with an unknown outcome. -/
  inFlight : List Submission := []
  landed : List Submission := []
  /-- Auxiliary: the counts raised by calls that have not submitted, and the calls under way. -/
  slots : List (ℕ × ℕ) := []
  calls : List (ℕ × String) := []

namespace World

def today (world : World) : ℕ := world.now / dayS

/-- What the store has under the count of a day. -/
def count (world : World) (day : ℕ) : Option (Option ℕ) :=
  ((world.counts day).filter fun stored => decide (world.now < stored.expiresAt)).map StoredCount.number

/-- The network takes a transaction with the next sequence number, in time, to an account that does not exist. -/
def accepts (world : World) (tx : Transaction) : Bool :=
  tx.sequence = world.sequence + 1 && !world.accounts tx.destination && decide (world.now ≤ tx.maxTime)

def land (world : World) (submission : Submission) : World :=
  { world with
    accounts := update world.accounts submission.tx.destination true
    sequence := submission.tx.sequence
    landed := submission :: world.landed }

end World

/-- What happens outside of the calls. -/
inductive Event where
  | wait (seconds : ℕ)
  /-- A transaction in flight lands, when the network takes it. -/
  | land (submission : Submission)
  | create (address : String)
  | merge (address : String)
  /-- The sponsor signs something else. -/
  | spend
  deriving DecidableEq, Repr

def World.happen (world : World) : Event → World
  | .wait seconds => { world with now := world.now + seconds }
  | .land submission =>
    if submission ∈ world.inFlight ∧ world.accepts submission.tx = true then
      { world.land submission with inFlight := world.inFlight.erase submission }
    else world
  | .create address => { world with accounts := update world.accounts address true }
  | .merge address => { world with accounts := update world.accounts address false }
  | .spend => { world with sequence := world.sequence + 1 }

def World.pass (world : World) (events : List Event) : World := events.foldl World.happen world

inductive Outcome where
  | lands (hash : String)
  | fails (code : String)
  /-- The answer is lost; the transaction may land later. -/
  | lost (code : String)
  deriving DecidableEq, Repr

structure Choice where
  /-- What happens before the action. -/
  events : List Event := []
  /-- Why Horizon does not answer, if it does not. -/
  failure : Option String := none
  outcome : Outcome := .lands "hash"
  deriving DecidableEq, Repr

def perform (tid : ℕ) : (action : Action) → Choice → World → Option (action.Answer × World)
  | .getMarker address, _, world =>
    some (world.markers address,
      if world.markers address then world else { world with calls := (tid, address) :: world.calls })
  | .putMarker address, _, world => some ((), { world with markers := update world.markers address true })
  | .now, _, world => some (world.now, world)
  | .getCount day, _, world => some (world.count day, world)
  | .putCount day count, _, world =>
    some ((), { world with
      counts := update world.counts day (some ⟨some count, world.now + 172_800⟩)
      slots := (tid, day) :: world.slots })
  | .loadAccount address, choice, world => some (world.accounts address && choice.failure.isNone, world)
  | .loadSponsor, choice, world =>
    some (match choice.failure with | none => .ok world.sequence | some message => .error message, world)
  | .submitTransaction tx counted, choice, world =>
    let spent := { world with slots := world.slots.erase (tid, counted) }
    match choice.outcome with
    | .lands hash => if world.accepts tx then some (.ok hash, spent.land ⟨tx, world.today⟩) else none
    | .fails code => some (.error code, spent)
    | .lost code => some (.error code, { spent with inFlight := ⟨tx, world.today⟩ :: spent.inFlight })
  | .respond _, _, world => some ((), { world with calls := world.calls.filter fun call => call.1 ≠ tid })

abbrev sponsorMachine : Machine where
  Action := Action
  Answer := Action.Answer
  Choice := Choice
  World := World
  perform tid action choice world := perform tid action choice (world.pass choice.events)

/-- One call for each address of a family, in any order. -/
def serving (sdk : Sdk) (env : Env) (world : World) (addresses : ℕ → String) : sponsorMachine.Config :=
  ⟨world, fun tid => handleProviderSponsor sdk env (addresses tid)⟩

/-- Few sponsorships of a day land, and one of an address. -/
def World.Within (world : World) : Prop :=
  (∀ day, world.landed.countP (fun submission => submission.day = day) ≤ DAILY_SPONSOR_CAP) ∧
    ∀ address, world.landed.countP (fun submission => submission.tx.destination = address) ≤ 1

/-- No call of the address is under way, the count is the one that was read, and it is still the day of the count;
and no answer is lost. -/
def separate (action : Action) (outcome : Outcome) (world : World) : Bool :=
  match action with
  | .getMarker address => world.calls.all fun call => call.2 ≠ address
  | .putCount day count => ((world.count day).getD (some 0)).map (· + 1) = some count
  | .submitTransaction _ counted => counted = world.today && match outcome with | .lost _ => false | _ => true
  | _ => true

abbrev Separately : sponsorMachine.Admits :=
  fun _ action choice world => separate action choice.outcome (world.pass choice.events) = true

/-! ## What a call knows -/

inductive Phase where
  | idle
  | checked (address : String)
  /-- It knows the day whose count it reads. -/
  | timed (address : String) (day : ℕ)
  | counted (address : String) (day : ℕ)
  | landed (address : String)
  | done

def Phase.allows (phase : Phase) : Action → Prop
  | .getMarker _ => phase = .idle
  | .putMarker address => ∀ other, phase = .landed other → other = address
  | .putCount day count => count ≤ DAILY_SPONSOR_CAP ∧ ∃ address, phase = .timed address day
  | .submitTransaction tx day => phase = .counted tx.destination day
  | .respond _ => ∀ address, phase ≠ .landed address
  | _ => True

def Phase.next : Phase → (action : Action) → action.Answer → Phase
  | _, .getMarker address, false => .checked address
  | .checked address, .now, now => .timed address (now / dayS)
  | .timed address day, .putCount _ _, _ => .counted address day
  | .counted address _, .submitTransaction _ _, answer => if answer.toBool then .landed address else .done
  | .landed _, .putMarker _, _ | _, .respond _, _ => .done
  | phase, _, _ => phase

/-- The address whose call is on its way to a submission. -/
def Phase.heading : Phase → Option String
  | .checked address | .timed address _ | .counted address _ => some address
  | _ => none

def flow : Typestate sponsorMachine := ⟨Phase, Phase.allows, Phase.next⟩

theorem handleProviderSponsor_follows (sdk : Sdk) (env : Env) (address : String) :
    flow.Follows (handleProviderSponsor sdk env address) anyhow .idle := by
  have refused {status : ℕ} {code detail : String} {phase : Phase} (unlanded : ∀ address, phase ≠ .landed address) :
      flow.Follows (pure (refuse status code detail) : Call SponsorResult)
        (fun _ after => ∀ address, after ≠ Phase.landed address) phase := unlanded
  refine Follows.bind (Follows.mono ?_ fun _ _ unlanded => ⟨unlanded, fun _ => trivial⟩)
  unfold sponsorStellarAccount
  split_ifs with disabled invalid
  · exact refused (by rintro _ ⟨⟩)
  · exact refused (by rintro _ ⟨⟩)
  split
  · exact refused (by rintro _ ⟨⟩)
  refine Follows.ask rfl fun sponsored => ?_
  cases sponsored with
  | true => exact refused (by rintro _ ⟨⟩)
  | false =>
    refine Follows.ask trivial fun now => Follows.ask trivial fun rawCount => ?_
    split
    · exact refused (by rintro _ ⟨⟩)
    next count within =>
    have below : count < DAILY_SPONSOR_CAP := by simpa using (Option.filter_eq_some_iff.mp within).2
    unfold sponsorCounted
    split_ifs
    · exact refused (by rintro _ ⟨⟩)
    refine Follows.ask trivial fun found => ?_
    cases found with
    | true => exact Follows.ask (by rintro _ ⟨⟩) fun _ => refused (by rintro _ ⟨⟩)
    | false =>
      refine Follows.ask trivial fun loaded => ?_
      cases loaded with
      | error message => exact refused (by rintro _ ⟨⟩)
      | ok sequence =>
        refine Follows.ask trivial fun clock => Follows.ask ⟨below, address, rfl⟩ fun _ => Follows.ask rfl fun submitted => ?_
        cases submitted with
        | error code => exact refused (by rintro _ ⟨⟩)
        | ok hash => exact Follows.ask (fun other same => by cases same; rfl) fun _ => by rintro _ ⟨⟩

/-! ## The protocol -/

namespace World

def Untouched (world : World) (address : String) : Prop :=
  ∀ submission ∈ world.landed, submission.tx.destination ≠ address

/-- The sponsorships of a day that landed, and those that a call has counted and not submitted. -/
def used (world : World) (day : ℕ) : ℕ :=
  world.landed.countP (fun submission => submission.day = day) + world.slots.countP fun slot => slot.2 = day

/-- The count of the day stands for all that was used of it, at least to the end of the day. -/
def Counted (world : World) (day : ℕ) : Prop :=
  ∃ stored number, world.counts day = some stored ∧ stored.number = some number ∧ world.used day ≤ number ∧
    number ≤ DAILY_SPONSOR_CAP ∧ (day + 1) * dayS ≤ stored.expiresAt

end World

structure Bounded (world : World) : Prop where
  answered : world.inFlight = []
  apart : ∀ tid other address, (tid, address) ∈ world.calls → (other, address) ∈ world.calls → tid = other
  marked : ∀ submission ∈ world.landed, world.markers submission.tx.destination = true ∨
    ∃ tid, (tid, submission.tx.destination) ∈ world.calls
  within : world.Within
  counted : ∀ day, world.today ≤ day → world.used day = 0 ∨ world.Counted day

/-- What a call leaves to the others. -/
structure Leaves (tid : ℕ) (before after : World) : Prop where
  time : before.now ≤ after.now
  calls : ∀ other address, other ≠ tid → ((other, address) ∈ before.calls ↔ (other, address) ∈ after.calls)
  slots : ∀ other day, other ≠ tid → (other, day) ∈ before.slots → (other, day) ∈ after.slots
  markers : ∀ address, before.markers address = true → after.markers address = true
  landed : ∀ submission ∈ after.landed, submission ∈ before.landed ∨ (tid, submission.tx.destination) ∈ before.calls

def bounding : Protocol sponsorMachine := ⟨Bounded, Leaves⟩

structure Knows (tid : ℕ) (phase : Phase) (world : World) : Prop where
  own : ∀ address, phase.heading = some address → (tid, address) ∈ world.calls
  fresh : ∀ address, phase.heading = some address → world.Untouched address
  /-- What landed for its call is marked, or this call is about to mark it. -/
  settled : ∀ address, (tid, address) ∈ world.calls →
    phase = .landed address ∨ world.markers address = true ∨ world.Untouched address
  early : ∀ address day, phase = .timed address day → day ≤ world.today
  slot : ∀ address day, phase = .counted address day → (tid, day) ∈ world.slots

section Steps

variable {tid : ℕ} {phase : Phase} {world after : World}

theorem knows_stable (tid : ℕ) (phase : Phase) : bounding.Stable tid (Knows tid phase) := by
  intro other world after distinct bounded _ leaves knows
  have mine := Ne.symm distinct
  have untouched {address : String} (own : (tid, address) ∈ world.calls) (fresh : world.Untouched address) :
      after.Untouched address := by
    intro submission member same
    rcases leaves.landed submission member with before | others
    · exact fresh submission before same
    · exact distinct (bounded.apart other tid address (same ▸ others) own)
  constructor
  · exact fun address heading => (leaves.calls tid address mine).mp (knows.own address heading)
  · exact fun address heading => untouched (knows.own address heading) (knows.fresh address heading)
  · intro address call
    have own := (leaves.calls tid address mine).mpr call
    rcases knows.settled address own with landed | marked | fresh
    · exact .inl landed
    · exact .inr (.inl (leaves.markers address marked))
    · exact .inr (.inr (untouched own fresh))
  · exact fun address day timed => Nat.le_trans (knows.early address day timed) (Nat.div_le_div_right leaves.time)
  · exact fun address day counted => leaves.slots tid day mine (knows.slot address day counted)

/-- What happens outside of the calls leaves their books, where nothing is in flight. -/
theorem pass_same (answered : world.inFlight = []) (events : List Event) : ∃ now accounts sequence, world.now ≤ now ∧
    world.pass events = { world with now, accounts, sequence } := by
  induction events generalizing world with
  | nil => exact ⟨world.now, world.accounts, world.sequence, Nat.le_refl _, rfl⟩
  | cons event events ih =>
    have step : ∃ now accounts sequence, world.now ≤ now ∧ world.happen event = { world with now, accounts, sequence } := by
      cases event with
      | wait seconds => exact ⟨_, world.accounts, world.sequence, Nat.le_add_right _ seconds, rfl⟩
      | land submission =>
        refine ⟨world.now, world.accounts, world.sequence, Nat.le_refl _, if_neg fun landing => ?_⟩
        rw [answered] at landing
        exact not_mem_nil landing.1
      | create address => exact ⟨world.now, _, world.sequence, Nat.le_refl _, rfl⟩
      | merge address => exact ⟨world.now, _, world.sequence, Nat.le_refl _, rfl⟩
      | spend => exact ⟨world.now, world.accounts, _, Nat.le_refl _, rfl⟩
    obtain ⟨now, accounts, sequence, later, same⟩ := step
    obtain ⟨now', accounts', sequence', later', same'⟩ := @ih { world with now, accounts, sequence } answered
    refine ⟨now', accounts', sequence', Nat.le_trans later later', ?_⟩
    rw [← same', ← same]
    rfl

/-- Later, the books that stand are still good. -/
theorem Bounded.later (bounded : Bounded world) {now sequence : ℕ} (accounts : String → Bool) (later : world.now ≤ now) :
    Bounded { world with now, accounts, sequence } where
  answered := bounded.answered
  apart := bounded.apart
  marked := bounded.marked
  within := bounded.within
  counted day today := bounded.counted day (Nat.le_trans (Nat.div_le_div_right later) today)

theorem Knows.later (knows : Knows tid phase world) {now sequence : ℕ} (accounts : String → Bool) (later : world.now ≤ now) :
    Knows tid phase { world with now, accounts, sequence } :=
  { knows with early := fun address day timed => Nat.le_trans (knows.early address day timed) (Nat.div_le_div_right later) }

theorem Leaves.refl (tid : ℕ) (world : World) : Leaves tid world world :=
  ⟨Nat.le_refl _, fun _ _ _ => .rfl, fun _ _ _ => id, fun _ => id, fun _ => .inl⟩

/-- A phase that knows no more is known as well. -/
theorem Knows.moved (knows : Knows tid phase world) {later : Phase} (heading : later.heading = phase.heading)
    (landed : ∀ address, phase = .landed address → later = .landed address)
    (early : ∀ address day, later = .timed address day → day ≤ world.today)
    (slot : ∀ address day, later = .counted address day → (tid, day) ∈ world.slots) : Knows tid later world where
  own address now := knows.own address (heading ▸ now)
  fresh address now := knows.fresh address (heading ▸ now)
  settled address call := (knows.settled address call).imp_left (landed address)
  early := early
  slot := slot

theorem getMarker_step (bounded : Bounded world) (knows : Knows tid .idle world) {address : String}
    (unmarked : world.markers address = false) (apart : ∀ call ∈ world.calls, call.2 ≠ address) :
    let after := { world with calls := (tid, address) :: world.calls }
    Bounded after ∧ Leaves tid world after ∧ Knows tid (.checked address) after := by
  have fresh : world.Untouched address := by
    rintro submission member rfl
    rcases bounded.marked submission member with marked | ⟨other, call⟩
    · exact Bool.false_ne_true (unmarked.symm.trans marked)
    · exact apart _ call rfl
  refine ⟨⟨bounded.answered, ?_, ?_, bounded.within, bounded.counted⟩, { Leaves.refl tid world with calls := ?_ }, ?_⟩
  · intro first second target one two
    simp only [mem_cons, Prod.mk.injEq] at one two
    rcases one with ⟨rfl, rfl⟩ | one <;> rcases two with ⟨rfl, here⟩ | two
    · rfl
    · exact absurd rfl (apart _ two)
    · exact absurd here (apart _ one)
    · exact bounded.apart first second target one two
  · exact fun submission member => (bounded.marked submission member).imp_right fun ⟨other, call⟩ => ⟨other, .tail _ call⟩
  · intro other target distinct
    simp [distinct]
  · constructor
    · rintro _ ⟨⟩
      exact mem_cons_self
    · rintro _ ⟨⟩
      exact fresh
    · intro target call
      simp only [mem_cons, Prod.mk.injEq] at call
      rcases call with ⟨-, rfl⟩ | call
      · exact .inr (.inr fresh)
      · exact .inr ((knows.settled target call).resolve_left nofun)
    · nofun
    · nofun

theorem putMarker_step (bounded : Bounded world) (knows : Knows tid phase world) {address : String}
    (own : ∀ other, phase = .landed other → other = address) :
    let after := { world with markers := update world.markers address true }
    Bounded after ∧ Leaves tid world after ∧ Knows tid (phase.next (.putMarker address) ()) after := by
  have kept : ∀ other, world.markers other = true → update world.markers address true other = true := by
    intro other marked
    by_cases same : other = address
    · rw [same, update_self]
    · rw [update_of_ne same, marked]
  have settled : ∀ target, (tid, target) ∈ world.calls → phase = .landed target ∧ target = address ∨
      update world.markers address true target = true ∨ world.Untouched target := by
    intro target call
    rcases knows.settled target call with landed | marked | fresh
    · exact .inl ⟨landed, own target landed⟩
    · exact .inr (.inl (kept target marked))
    · exact .inr (.inr fresh)
  refine ⟨⟨bounded.answered, bounded.apart, ?_, bounded.within, bounded.counted⟩,
    { Leaves.refl tid world with markers := kept }, ?_⟩
  · exact fun submission member => (bounded.marked submission member).imp_left (kept _)
  · cases phase with
    | landed other =>
      refine ⟨nofun, nofun, fun target call => .inr ?_, nofun, nofun⟩
      rcases settled target call with ⟨-, rfl⟩ | known
      · exact .inl (update_self ..)
      · exact known
    | _ => exact { knows with settled := fun target call => (settled target call).imp_left And.left }

theorem putCount_step (bounded : Bounded world) {address : String} {day count : ℕ}
    (knows : Knows tid (.timed address day) world) (within : count ≤ DAILY_SPONSOR_CAP)
    (read : ((world.count day).getD (some 0)).map (· + 1) = some count) :
    let after := { world with
      counts := update world.counts day (some ⟨some count, world.now + 172_800⟩), slots := (tid, day) :: world.slots }
    Bounded after ∧ Leaves tid world after ∧ Knows tid (.counted address day) after := by
  intro after
  have early := knows.early address day rfl
  have books : ∀ other, world.today ≤ other → after.used other = 0 ∨ after.Counted other := by
    intro other now
    by_cases same : other = day
    · subst same
      have used : after.used other = world.used other + 1 := by
        simp [after, World.used, Nat.add_assoc]
      refine .inr ⟨_, count, update_self .., rfl, ?_, within, ?_⟩
      · rw [used]
        rcases bounded.counted other now with none | ⟨stored, number, found, isNumber, covered, -, lasts⟩
        · obtain ⟨number, -, rfl⟩ := Option.map_eq_some_iff.mp read
          omega
        · have readable : world.now < stored.expiresAt := by
            unfold World.today dayS at *
            omega
          have same : world.count other = some (some number) := by simp [World.count, found, readable, isNumber]
          rw [same] at read
          obtain rfl : number + 1 = count := Option.some.inj read
          omega
      · show (other + 1) * dayS ≤ world.now + 172_800
        unfold World.today dayS at *
        omega
    · have used : after.used other = world.used other := by
        simp [after, World.used, Ne.symm same]
      unfold World.Counted
      rw [used, show after.counts other = world.counts other from update_of_ne same ..]
      exact bounded.counted other now
  refine ⟨⟨bounded.answered, bounded.apart, bounded.marked, bounded.within, books⟩,
    { Leaves.refl tid world with slots := fun _ _ _ => .tail _ }, ?_⟩
  exact { knows with
    settled := fun target call => .inr ((knows.settled target call).resolve_left nofun)
    early := nofun
    slot := by rintro _ _ ⟨⟩; exact mem_cons_self }

/-- A submission uses the slot that its call counted. -/
theorem slot_used {slots : List (ℕ × ℕ)} {counted : ℕ} (slot : (tid, counted) ∈ slots) (day : ℕ) :
    slots.countP (fun slot => slot.2 = day) =
      (slots.erase (tid, counted)).countP (fun slot => slot.2 = day) + if counted = day then 1 else 0 := by
  rw [(perm_cons_erase slot).countP_eq, countP_cons]
  simp

theorem fails_step (bounded : Bounded world) {address : String} {counted : ℕ}
    (knows : Knows tid (.counted address counted) world) :
    let spent := { world with slots := world.slots.erase (tid, counted) }
    Bounded spent ∧ Leaves tid world spent ∧ Knows tid .done spent := by
  intro spent
  have fewer : ∀ day, spent.used day ≤ world.used day := by
    intro day
    have slot := slot_used (knows.slot address counted rfl) day
    simp only [spent, World.used]
    omega
  refine ⟨⟨bounded.answered, bounded.apart, bounded.marked, bounded.within, fun day now => ?_⟩,
    { Leaves.refl tid world with slots := fun other day distinct listed => ?_ }, ?_⟩
  · rcases bounded.counted day now with none | ⟨stored, number, found, isNumber, covered, rest⟩
    · exact .inl (Nat.le_zero.mp (none ▸ fewer day))
    · exact .inr ⟨stored, number, found, isNumber, Nat.le_trans (fewer day) covered, rest⟩
  · exact (mem_erase_of_ne (by simp [distinct])).mpr listed
  · exact ⟨nofun, nofun, fun target call => .inr ((knows.settled target call).resolve_left nofun), nofun, nofun⟩

theorem lands_step (bounded : Bounded world) {tx : Transaction}
    (knows : Knows tid (.counted tx.destination world.today) world) :
    let spent := { world with slots := world.slots.erase (tid, world.today) }
    let after := spent.land ⟨tx, world.today⟩
    Bounded after ∧ Leaves tid world after ∧ Knows tid (.landed tx.destination) after := by
  intro spent after
  have own := knows.own tx.destination rfl
  have fresh := knows.fresh tx.destination rfl
  have slot := slot_used (knows.slot tx.destination world.today rfl)
  have landed : ∀ day, after.landed.countP (fun submission => submission.day = day) =
      world.landed.countP (fun submission => submission.day = day) + if world.today = day then 1 else 0 := by
    intro day
    simp [after, spent, World.land, countP_cons]
  have used : ∀ day, after.used day = world.used day := by
    intro day
    unfold World.used
    rw [landed, slot day]
    simp only [after, spent, World.land]
    omega
  have member : ∀ submission ∈ after.landed, submission = ⟨tx, world.today⟩ ∨ submission ∈ world.landed :=
    fun _ => mem_cons.mp
  refine ⟨⟨bounded.answered, bounded.apart, ?_, ⟨?_, ?_⟩, ?_⟩, { Leaves.refl tid world with
    slots := fun other day distinct listed => ?_, landed := ?_ }, ⟨nofun, nofun, ?_, nofun, nofun⟩⟩
  · intro submission landed
    rcases member submission landed with rfl | before
    · exact .inr ⟨tid, own⟩
    · exact bounded.marked submission before
  · intro day
    rw [landed]
    split_ifs with now
    · subst now
      have one := slot world.today
      rw [if_pos rfl] at one
      rcases bounded.counted world.today (Nat.le_refl _) with none | ⟨stored, number, -, -, covered, capped, -⟩
      · unfold World.used at none
        omega
      · unfold World.used at covered
        omega
    · exact bounded.within.1 day
  · intro address
    show ((⟨tx, world.today⟩ : Submission) :: world.landed).countP _ ≤ 1
    rw [countP_cons]
    split_ifs with same
    · obtain rfl : tx.destination = address := by simpa using same
      have none : world.landed.countP (fun submission => submission.tx.destination = tx.destination) = 0 :=
        countP_eq_zero.mpr fun submission before => by simpa using fresh submission before
      omega
    · exact bounded.within.2 address
  · intro day now
    unfold World.Counted
    rw [used]
    exact bounded.counted day now
  · exact (mem_erase_of_ne (by simp [distinct])).mpr listed
  · intro submission landed
    rcases member submission landed with rfl | before
    · exact .inr own
    · exact .inl before
  · intro target call
    by_cases same : target = tx.destination
    · exact .inl (by rw [same])
    · refine .inr (((knows.settled target call).resolve_left nofun).imp_right fun untouched submission landed => ?_)
      rcases member submission landed with rfl | before
      · exact Ne.symm same
      · exact untouched submission before

theorem respond_step (bounded : Bounded world) (knows : Knows tid phase world)
    (unlanded : ∀ address, phase ≠ .landed address) :
    let after := { world with calls := world.calls.filter fun call => call.1 ≠ tid }
    Bounded after ∧ Leaves tid world after ∧ Knows tid .done after := by
  intro after
  have member : ∀ call ∈ after.calls, call ∈ world.calls ∧ call.1 ≠ tid := by
    intro call listed
    simpa [after] using listed
  refine ⟨⟨bounded.answered, fun first second address one two => ?_, ?_, bounded.within, bounded.counted⟩,
    { Leaves.refl tid world with calls := fun other address distinct => by simp [after, distinct] },
    ⟨nofun, nofun, fun address call => absurd rfl (member _ call).2, nofun, nofun⟩⟩
  · exact bounded.apart first second address (member _ one).1 (member _ two).1
  · intro submission landed
    rcases bounded.marked submission landed with marked | ⟨other, call⟩
    · exact .inl marked
    · by_cases mine : other = tid
      · subst mine
        rcases knows.settled _ call with unmarked | marked | untouched
        · exact absurd unmarked (unlanded _)
        · exact .inl marked
        · exact absurd rfl (untouched submission landed)
      · exact .inr ⟨other, mem_filter.mpr ⟨call, by simpa using mine⟩⟩

theorem perform_step {action : Action} {choice : Choice} {answer : action.Answer} (bounded : Bounded world)
    (knows : Knows tid phase world) (allowed : phase.allows action) (apart : separate action choice.outcome world = true)
    (performed : perform tid action choice world = some (answer, after)) :
    Bounded after ∧ Leaves tid world after ∧ Knows tid (phase.next action answer) after := by
  cases action with
  | getMarker address =>
    cases performed
    cases allowed
    cases marker : world.markers address with
    | true => exact ⟨bounded, .refl tid world, knows⟩
    | false => exact getMarker_step bounded knows marker (by simpa [separate] using apart)
  | putMarker address =>
    cases performed
    exact putMarker_step bounded knows allowed
  | now =>
    cases performed
    refine ⟨bounded, .refl tid world, ?_⟩
    cases phase with
    | checked address => exact knows.moved rfl nofun (by rintro _ _ ⟨⟩; exact Nat.le_refl _) nofun
    | _ => exact knows
  | getCount | loadAccount | loadSponsor =>
    cases performed
    exact ⟨bounded, .refl tid world, knows⟩
  | putCount day count =>
    cases performed
    obtain ⟨within, address, rfl⟩ := allowed
    exact putCount_step bounded knows within (by simpa [separate] using apart)
  | submitTransaction tx counted =>
    obtain rfl : phase = .counted tx.destination counted := allowed
    cases outcome : choice.outcome with
    | lands hash =>
      have today : counted = world.today := by simpa [separate, outcome] using apart
      subst today
      simp only [perform, outcome] at performed
      split at performed
      · cases performed
        exact lands_step bounded knows
      · cases performed
    | fails code =>
      simp only [perform, outcome] at performed
      cases performed
      exact fails_step bounded knows
    | lost code => simp [separate, outcome] at apart
  | respond result =>
    cases performed
    have done : phase.next (.respond result) () = .done := by cases phase <;> rfl
    rw [done]
    exact respond_step bounded knows allowed

end Steps

theorem keeps (tid : ℕ) : flow.Keeps bounding Separately tid (Knows tid) where
  stable := knows_stable tid
  step phase action allowed world bounded knows choice answer after apart performed := by
    obtain ⟨now, accounts, sequence, later, same⟩ := pass_same bounded.answered choice.events
    simp only [Separately, same] at apart
    simp only [same] at performed
    obtain ⟨kept, leaves, known⟩ :=
      perform_step (bounded.later accounts later) (knows.later accounts later) allowed apart performed
    exact ⟨kept, { leaves with time := Nat.le_trans later leaves.time }, known⟩

/-! ## Runs -/

/-- Nothing was sponsored, and no call is under way. -/
structure Fresh (world : World) : Prop where
  answered : world.inFlight = []
  landed : world.landed = []
  slots : world.slots = []
  calls : world.calls = []

theorem Fresh.bounded {world : World} (fresh : Fresh world) : Bounded world where
  answered := fresh.answered
  apart := by simp [fresh.calls]
  marked := by simp [fresh.landed]
  within := by simp [World.Within, fresh.landed]
  counted day _ := .inl (by simp [World.used, fresh.landed, fresh.slots])

/-- Where the calls keep apart, few sponsorships of a day land and one of an address, whatever happens next. -/
theorem sponsorship_bounded {sdk : Sdk} {env : Env} {world : World} {addresses : ℕ → String}
    {after : sponsorMachine.Config} (fresh : Fresh world) (run : Run Separately (serving sdk env world addresses) after)
    (events : List Event) : (after.world.pass events).Within := by
  have knows : ∀ tid, Knows tid .idle world :=
    fun tid => ⟨nofun, nofun, by simp [fresh.calls], nofun, nofun⟩
  have follows (tid : ℕ) : flow.Follows ((serving sdk env world addresses).threads tid) anyhow .idle :=
    handleProviderSponsor_follows sdk env (addresses tid)
  have inv : bounding.Inv (serving sdk env world addresses).world := fresh.bounded
  have bounded : Bounded after.world := sound keeps Phase.idle inv knows follows run
  obtain ⟨now, accounts, sequence, later, same⟩ := pass_same bounded.answered events
  rw [same]
  exact bounded.within

def allValid : Sdk := ⟨fun _ => true, fun _ => true⟩

def enabled : Env := ⟨some "true", some "S"⟩

/-- "H" asks beside "G", which is merged away afterwards and asks again. -/
def twoAddresses (tid : ℕ) : String := if tid = 1 then "H" else "G"

def beside : List (ℕ × Choice) :=
  let plain : Choice := {}
  [(0, plain), (1, plain)] ++ replicate 9 (0, plain) ++ replicate 9 (1, plain) ++
    [(2, { events := [.merge "G"] }), (2, plain)]

theorem sponsorship_bounded_once : ∃ after, Run Separately (serving allValid enabled {} twoAddresses) after ∧
    after.world.Within ∧ after.world.landed.length = 2 ∧ after.world.accounts "G" = false ∧ after.world.calls = [] := by
  obtain ⟨after, run, landed⟩ := Config.exec_reaches Separately (serving allValid enabled {} twoAddresses) beside
    (fun world => world.landed.length = 2 && !world.accounts "G" && world.calls = []) (by decide +kernel)
  have within := sponsorship_bounded ⟨rfl, rfl, rfl, rfl⟩ run []
  simp only [Bool.and_eq_true, Bool.not_eq_true', decide_eq_true_eq, and_assoc] at landed
  exact ⟨after, run, within, landed⟩

/-- An answer that is lost leaves no marker: the account is merged away and sponsored again. -/
theorem sponsored_twice : ∃ after, Run (unrestricted sponsorMachine) (serving allValid enabled {} fun _ => "G") after ∧
    ¬ after.world.Within := by
  let lost : Choice := { outcome := .lost "timeout" }
  let merged : Choice := { events := [.land ⟨⟨"G", 1, 60⟩, 0⟩, .merge "G"] }
  obtain ⟨after, run, landed⟩ := Config.exec_reaches (unrestricted sponsorMachine) (serving allValid enabled {} fun _ => "G")
    (replicate 9 (0, lost) ++ (1, merged) :: replicate 7 (1, {}))
    (fun world => world.landed.countP (fun submission => submission.tx.destination = "G") = 2) (by decide +kernel)
  refine ⟨after, run, fun within => ?_⟩
  have once := within.2 "G"
  rw [of_decide_eq_true landed] at once
  omega

end MppRouter.Providers.Sponsor
