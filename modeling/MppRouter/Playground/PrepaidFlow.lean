import MppRouter.Core.Typestate
import MppRouter.Playground.LedgerConservation
import MppRouter.Playground.PrepaidCall

/-! # The flow of a prepaid call

A request takes at most one hold, dispatches what it has marked, sends one billable leg for it and settles it once: by a
commit of its own price when the leg was paid, and otherwise by a release.
-/

namespace MppRouter.Playground.Prepaid

open Concurrent Machine Typestate List

/-! ## What a request to the ledger does to a call -/

/-- A fresh hold, not the recorded outcome of an earlier one. -/
def Fresh (outcome : ReserveOutcome) : Prop := outcome.ok = true ∧ outcome.duplicate = false

instance (outcome : ReserveOutcome) : Decidable (Fresh outcome) := inferInstanceAs (Decidable (_ ∧ _))

section Ledger

variable {storage after : Storage}

/-- An amount is read back from its text. -/
theorem parseAtomic_toString (amount : ℤ) : parseAtomic (some (toString amount)) = .ok amount := by
  have filled : toString amount ≠ "" := by
    intro empty
    have read := Decimal.parseInt_toString amount
    rw [empty] at read
    cases read
  rw [parseAtomic, if_neg filled, Decimal.parseInt_toString]

/-- The record of a fresh hold. -/
def heldCall (body : ReserveBody) (maxPrice : ℤ) : StoredCall :=
  { callId := body.callId, account := body.account, chip := body.chip, model := body.model
    status := .reserved, maxPrice, charged := 0, at_ := body.now }

/-- What is stored by a fresh hold. -/
def held (storage : Storage) (body : ReserveBody) (maxPrice : ℤ) : Storage :=
  { storage with
    balances := storage.balances.insert body.account (storage.balance body.account - maxPrice)
    calls := storage.calls.insert body.callId (heldCall body maxPrice)
    history := storage.history.insert body.account
      ((body.callId :: (storage.history.lookup body.account).getD []).take body.historyLimit)
    alarmAt := some (storage.alarmAt.getD (body.now + reaperIntervalMs)) }

/-- A hold is taken for an unknown call id; otherwise nothing changes, and the answer is no fresh hold. -/
theorem reserve_spec {body : ReserveBody} {price : ℤ} {result : Result ReserveOutcome}
    (priced : body.maxPrice = toString price) (reserved : reserve storage body = .ok (result, after)) :
    (after = storage ∧ ∀ outcome, result = .ok outcome → ¬Fresh outcome) ∨
      (storage.calls.lookup body.callId = none ∧ 0 ≤ price ∧ after = held storage body price ∧
        result = .ok ⟨true, none, some (heldCall body price), storage.balance body.account - price, false⟩) := by
  obtain ⟨maxPrice, parsed, reserved⟩ := bind_ok reserved
  rw [priced, parseAtomic_toString] at parsed
  cases parsed
  split at reserved
  · cases reserved
    exact .inl ⟨rfl, fun _ same => nomatch same⟩
  · next nonneg =>
    cases found : storage.calls.lookup body.callId with
    | some existing =>
      rw [found] at reserved
      cases reserved
      exact .inl ⟨rfl, fun _ same fresh => by cases same; cases fresh.2⟩
    | none =>
      rw [found] at reserved
      dsimp only at reserved
      split at reserved
      · cases reserved
        exact .inl ⟨rfl, fun _ same fresh => by cases same; cases fresh.1⟩
      · cases reserved
        exact .inr ⟨rfl, not_lt.mp nonneg, rfl, rfl⟩

/-- A call that is still reserved bears the mark once it was asked for. -/
theorem markDispatched_spec {callId : String} {result : Result Bool}
    (marked : markDispatched storage callId = .ok (result, after)) :
    (storage.calls.lookup callId = none ∧ after = storage ∧ ∃ e, result = .error e) ∨
      ∃ call, storage.calls.lookup callId = some call ∧
        (after = storage ∧ (call.status = .reserved → call.dispatched = true) ∨
          after = { storage with calls := storage.calls.insert callId { call with dispatched := true } }) := by
  unfold markDispatched at marked
  cases found : storage.calls.lookup callId with
  | none =>
    rw [found] at marked
    cases marked
    exact .inl ⟨rfl, rfl, _, rfl⟩
  | some call =>
    rw [found] at marked
    dsimp only at marked
    split at marked
    · next settled =>
      cases marked
      exact .inr ⟨call, rfl, .inl ⟨rfl, fun reserved => settled.resolve_left fun other => other reserved⟩⟩
    · cases marked
      exact .inr ⟨call, rfl, .inr rfl⟩

/-- The record that a settlement leaves of a reserved call. -/
def settledCall (call : StoredCall) (body : SettleBody) (charged : ℤ) : StoredCall :=
  match body.action with
  | .release => { call with status := .released, charged := 0, releaseReason := body.reason }
  | .commit => { call with status := .committed, charged := min (max charged 0) call.maxPrice }

/-- A settlement finishes a reserved call, and gives back what it does not charge. -/
theorem settle_spec {body : SettleBody} {charged : ℤ} {result : Result Settled}
    (priced : body.action = .commit → body.charged = some (toString charged))
    (settled : settle storage body = .ok (result, after)) :
    (after = storage ∧ ∀ call, storage.calls.lookup body.callId = some call → call.status ≠ .reserved) ∨
      ∃ call, storage.calls.lookup body.callId = some call ∧ call.status = .reserved ∧
        after.calls = storage.calls.insert body.callId (settledCall call body charged) ∧
        after.balances = storage.balances.insert call.account
          (storage.balance call.account + (call.maxPrice - (settledCall call body charged).charged)) ∧
        after.history = storage.history := by
  unfold settle at settled
  cases found : storage.calls.lookup body.callId with
  | none =>
    rw [found] at settled
    cases settled
    exact .inl ⟨rfl, fun _ same => nomatch same⟩
  | some call =>
    rw [found] at settled
    dsimp only at settled
    split at settled
    · next ended =>
      cases settled
      exact .inl ⟨rfl, fun _ same => by cases same; exact ended⟩
    · next reserved =>
      right
      refine ⟨call, rfl, not_not.mp reserved, ?_⟩
      cases action : body.action with
      | release =>
        rw [action] at settled
        cases settled
        simp [settledCall, action]
      | commit =>
        rw [action] at settled
        obtain ⟨requested, parsed, settled⟩ := bind_ok settled
        rw [priced action, Option.getD_some, parseAtomic_toString] at parsed
        cases parsed
        cases settled
        simp [settledCall, action]

/-- What the reaper leaves of a call. -/
def agedCall (now : ℤ) (call : StoredCall) : StoredCall :=
  if call.status ≠ .reserved then call else if call.leased now then call else call.reap

theorem reapCall_lookup {now : ℤ} {row : Sigma fun _ : String => StoredCall}
    (current : storage.calls.lookup row.1 = some row.2) (callId : String) :
    (reapCall now storage row).calls.lookup callId =
      if callId = row.1 then some (agedCall now row.2) else storage.calls.lookup callId := by
  have kept (same : callId = row.1) : storage.calls.lookup callId = some row.2 := same ▸ current
  by_cases settled : row.2.status ≠ .reserved
  · simp only [reapCall, agedCall, if_pos settled]
    split
    · exact kept ‹_›
    · rfl
  · simp only [reapCall, agedCall, if_neg settled]
    by_cases leased : row.2.leased now = true
    · simp only [if_pos leased]
      split
      · exact kept ‹_›
      · rfl
    · simp only [if_neg leased]
      split
      · next same => rw [same, AList.lookup_insert]
      · next other => exact AList.lookup_insert_ne other

theorem reap_lookup (now : ℤ) (rows : List (Sigma fun _ : String => StoredCall)) (nodup : rows.NodupKeys)
    (current : ∀ row ∈ rows, storage.calls.lookup row.1 = some row.2) (callId : String) :
    (rows.foldl (reapCall now) storage).calls.lookup callId =
      if callId ∈ rows.keys then (storage.calls.lookup callId).map (agedCall now)
      else storage.calls.lookup callId := by
  induction rows generalizing storage with
  | nil => rfl
  | cons row rest ih =>
    obtain ⟨fresh, nodup⟩ := nodupKeys_cons.mp nodup
    have found := current row mem_cons_self
    rw [foldl_cons, ih nodup]
    · rw [reapCall_lookup found, keys_cons]
      by_cases same : callId = row.1
      · subst same
        rw [if_neg fresh, if_pos rfl, if_pos mem_cons_self, found]
        rfl
      · simp [same]
    · intro entry member
      have other : entry.1 ≠ row.1 := fun same => fresh (same ▸ mem_keys_of_mem member)
      rw [reapCall_lookup found, if_neg other]
      exact current entry (mem_cons_of_mem _ member)

theorem alarm_lookup (storage : Storage) (now : ℤ) (callId : String) :
    (alarm storage now).calls.lookup callId = (storage.calls.lookup callId).map (agedCall now) := by
  let started : Storage := { storage with alarmAt := none }
  have current : ∀ row ∈ storage.calls.entries, started.calls.lookup row.1 = some row.2 :=
    fun row member => AList.mem_lookup_iff.mpr member
  have aged := reap_lookup now storage.calls.entries storage.calls.nodupKeys current callId
  have cleared : (alarm storage now).calls = (storage.calls.entries.foldl (reapCall now)
      { storage with alarmAt := none }).calls := by
    unfold alarm
    dsimp only
    split <;> rfl
  rw [cleared, aged]
  split
  · rfl
  · next missing =>
    rw [AList.lookup_eq_none.mpr missing]
    rfl

end Ledger

/-- A request to the ledger is refused, or it takes effect, whatever becomes of its answer. -/
theorem request_cases {α : Type} {world after : World} {fault : Fault}
    {operation : Storage → Except RangeError (Playground.Answer α)}
    {note : Result α → World → World} {answer : Option (Result α)}
    (performed : request fault operation note world = (answer, after)) :
    (answer = none ∧ after = world) ∨ ∃ result ledger, operation world.ledger = .ok (result, ledger) ∧
      after = note result { world with ledger } ∧ ∀ value, answer = some value → result = value := by
  unfold request at performed
  cases outcome : operation world.ledger with
  | error e =>
    rw [outcome] at performed
    cases performed
    exact .inl ⟨rfl, rfl⟩
  | ok done =>
    obtain ⟨result, ledger⟩ := done
    rw [outcome] at performed
    rcases Fault.apply_cases performed with failed | ⟨effect, told⟩
    · exact .inl failed
    · exact .inr ⟨result, ledger, rfl, effect, told⟩

/-! ## The flow -/

/-- Where a request stands with its call. -/
inductive Stage where
  | idle
  | reserved (callId : String) (price : ℤ)
  | dispatched (callId : String) (price : ℤ)
  | billed (callId : String) (price : ℤ) (paid : Bool)
  | settled
  deriving DecidableEq, Repr

/-- The account that a request was authenticated for, and where it stands. -/
structure Phase where
  account : String
  stage : Stage

namespace Stage

def allows (stage : Stage) (account : String) : CallAction → Prop
  | .reserve owner _ => stage = .idle ∧ owner = account
  | .markDispatched callId => ∃ price, stage = .reserved callId price
  | .callUpstream _ (some args) => stage = .dispatched args.callId args.priceAtomic
  | .callUpstream _ none => True
  | .settle body => match body.action with
    | .release => ∃ price, stage = .reserved body.callId price ∨ stage = .billed body.callId price false
    | .commit => ∃ price, stage = .billed body.callId price true ∧ body.charged = some (toString price)
  | .readAccount owner | .answer owner _ => owner = account
  | .reap => stage = .idle

def next (stage : Stage) : (action : CallAction) → action.Answer → Stage
  | .reserve _ args, some (.ok outcome) => if Fresh outcome then .reserved args.callId args.priceAtomic else stage
  | .markDispatched _, some (.ok _) =>
    match stage with
    | .reserved callId price => .dispatched callId price
    | _ => stage
  | .callUpstream route (some _), wire =>
    match stage with
    | .dispatched callId price => .billed callId price (wire.paid route)
    | _ => stage
  | .settle _, _ => .settled
  | _, _ => stage

end Stage

def flow : Typestate machine where
  Phase := Phase
  allowed phase := phase.stage.allows phase.account
  next phase action answer := { phase with stage := phase.stage.next action answer }

section Walk

variable {account callId : String} {price : ℤ} {paid : Bool} {stage : Stage} {α : Type}

/-- Whatever a program ends with, the request is still the account's. -/
def OfAccount (account : String) (_ : α) (after : Phase) : Prop := after.account = account

theorem follows_settle {body : SettleBody} (allowed : stage.allows account (.settle body)) :
    flow.Follows (askSettle body).run (OfAccount account) ⟨account, stage⟩ :=
  Follows.call allowed fun _ => rfl

theorem follows_commit : flow.Follows (commit callId price).run (OfAccount account) ⟨account, .billed callId price true⟩ :=
  follows_settle ⟨price, rfl, rfl⟩

theorem follows_release {reason : String} (unpaid : ∃ price, stage = .reserved callId price ∨
    stage = .billed callId price false) :
    flow.Follows (release callId reason).run (OfAccount account) ⟨account, stage⟩ :=
  follows_settle unpaid

theorem follows_failCall {e : UpstreamError} (evidence : e.paymentEvidence = evidenceOf paid) :
    flow.Follows (failCall callId e price).run (OfAccount account) ⟨account, .billed callId price paid⟩ := by
  apply Follows.seq
  apply Follows.attempt
  rw [evidence]
  cases paid with
  | true => exact Follows.mono follows_commit fun _ _ same => same
  | false => exact Follows.mono (follows_release ⟨price, .inr rfl⟩) fun _ _ same => same

theorem follows_releaseUnpaid :
    flow.Follows (releaseUnpaid callId).run (OfAccount account) ⟨account, .billed callId price false⟩ := by
  apply Follows.seq
  apply Follows.attempt
  exact Follows.mono (follows_release ⟨price, .inr rfl⟩) fun _ _ same => same

theorem follows_deliver {reply : String → String → Reply} :
    flow.Follows (deliver callId price reply).run (OfAccount account) ⟨account, .billed callId price true⟩ := by
  apply Follows.seq
  apply Follows.mono follows_commit
  intro settled after same
  cases settled with
  | none => exact same
  | some settled => cases settled <;> exact same

/-- A request goes on only with a hold of its own that it has marked. -/
def Begun (account : String) (args : CallArgs) (started : Option (Except Reply CallArgs)) (after : Phase) : Prop :=
  after.account = account ∧
    ∀ going, started = some (.ok going) → going = args ∧ after.stage = .dispatched args.callId args.priceAtomic

variable {args : CallArgs}

theorem begun_refused {reply : Reply} :
    Begun account args (some (.error reply)) ⟨account, stage⟩ := ⟨rfl, fun _ same => nomatch same⟩

theorem follows_beginCall (args : CallArgs) :
    flow.Follows (beginCall account args).run (Begun account args) ⟨account, .idle⟩ := by
  apply Follows.seq
  have allowed : flow.allowed ⟨account, .idle⟩ (.reserve account args) := ⟨rfl, rfl⟩
  apply Follows.call allowed
  intro held
  rcases held with _ | e | held
  · exact ⟨rfl, fun _ same => nomatch same⟩
  · exact begun_refused
  dsimp only
  split
  · cases held.call with
    | none => exact ⟨rfl, fun _ same => nomatch same⟩
    | some call => exact begun_refused
  · next first =>
    split
    · exact begun_refused
    · next granted =>
      have fresh : Fresh held := ⟨not_not.mp granted, Bool.eq_false_iff.mpr first⟩
      have reserved : Stage.next .idle (.reserve account args) (some (.ok held)) =
          .reserved args.callId args.priceAtomic := if_pos fresh
      apply Follows.seq
      apply Follows.attempt
      have allowed : flow.allowed ⟨account, .reserved args.callId args.priceAtomic⟩ (.markDispatched args.callId) :=
        ⟨_, rfl⟩
      change flow.Follows _ _ ⟨account, Stage.next .idle (.reserve account args) (some (.ok held))⟩
      rw [reserved]
      apply Follows.call allowed
      intro marked
      rcases marked with _ | e | marked
      · apply Follows.seq
        apply Follows.attempt
        apply Follows.mono (follows_release ⟨_, .inl rfl⟩)
        intro _ after same
        exact ⟨same, fun _ different => nomatch different⟩
      · apply Follows.seq
        apply Follows.attempt
        apply Follows.mono (follows_release ⟨_, .inl rfl⟩)
        intro _ after same
        exact ⟨same, fun _ different => nomatch different⟩
      · refine ⟨rfl, fun going same => ?_⟩
        cases same
        exact ⟨rfl, rfl⟩

/-- The billable leg ends with an error that is stamped with whether it was paid, or with a value and just that. -/
def Stamped (args : CallArgs) (account : String) (result : Option (Except UpstreamError (Json × Bool))) (after : Phase) :
    Prop :=
  ∃ paid, after = ⟨account, .billed args.callId args.priceAtomic paid⟩ ∧ match result with
    | none => False
    | some (.error e) => e.paymentEvidence = evidenceOf paid
    | some (.ok (_, said)) => said = paid

variable {route : Route}

theorem follows_billable : flow.Follows (askUpstreamJson route (some args)).run (Stamped args account)
      ⟨account, .dispatched args.callId args.priceAtomic⟩ := by
  have allowed : flow.allowed ⟨account, .dispatched args.callId args.priceAtomic⟩ (.callUpstream route (some args)) := rfl
  apply Follows.seq
  apply Follows.bind
  apply Follows.call allowed
  intro wire
  refine ⟨wire.paid route, rfl, ?_⟩
  cases result : callUpstreamJson route wire with
  | error e => exact callUpstreamJson_error result
  | ok returned => exact callUpstreamJson_ok result

/-- A call that has begun is settled by whether its billable leg was paid, whatever is made of its value. -/
theorem follows_call {body : Json → CallProg Reply}
    (usable : ∀ value, flow.Follows (body value).run (OfAccount account)
      ⟨account, .billed args.callId args.priceAtomic true⟩) :
    flow.Follows (do
      match ← beginCall account args with
      | .error response => return response
      | .ok started =>
        match ← askUpstreamJson route (some started) with
        | .error e => failCall args.callId e args.priceAtomic
        | .ok (value, paid) => if ¬paid then releaseUnpaid args.callId else body value : CallProg Reply).run
      (OfAccount account) ⟨account, .idle⟩ := by
  apply Follows.seq
  apply Follows.mono (follows_beginCall args)
  intro started phase begun
  rcases started with _ | reply | started
  · exact begun.1
  · exact begun.1
  · obtain ⟨rfl, dispatched⟩ := begun.2 started rfl
    obtain ⟨owner, stage⟩ := phase
    obtain rfl : owner = account := begun.1
    obtain rfl : stage = _ := dispatched
    apply Follows.seq
    apply Follows.mono follows_billable
    rintro result _ ⟨paid, rfl, stamped⟩
    rcases result with _ | e | ⟨value, said⟩
    · cases stamped
    · exact follows_failCall stamped
    · obtain rfl : said = paid := stamped
      cases said with
      | false => exact follows_releaseUnpaid
      | true => exact usable value

theorem follows_narration : flow.Follows (askUpstreamJson route none).run
    (fun _ after => after = ⟨account, stage⟩) ⟨account, stage⟩ := by
  have allowed : flow.allowed ⟨account, stage⟩ (.callUpstream route none) := trivial
  apply Follows.seq
  apply Follows.bind
  apply Follows.call allowed
  intro wire
  rfl

theorem follows_narrate {raw : Json} {summary : Option Route} :
    flow.Follows (narrate raw summary).run (fun _ after => after = ⟨account, stage⟩) ⟨account, stage⟩ := by
  unfold narrate
  cases summary with
  | none => rfl
  | some route =>
    dsimp only
    split
    · rfl
    · apply Follows.seq
      apply Follows.mono follows_narration
      rintro result _ rfl
      rcases result with _ | _ | _ <;> rfl

theorem follows_chat {model : String} :
    flow.Follows (handlePlaygroundChat account args model route).run (OfAccount account) ⟨account, .idle⟩ := by
  apply follows_call
  intro completion
  split
  · exact follows_failCall rfl
  · exact follows_deliver

theorem follows_blendActivity {summary : Option Route} :
    flow.Follows (handlePlaygroundBlendActivity account args route summary).run (OfAccount account) ⟨account, .idle⟩ := by
  apply follows_call
  intro raw
  apply Follows.seq
  apply Follows.mono follows_narrate
  rintro sentence _ rfl
  cases sentence with
  | none => rfl
  | some sentence => exact follows_deliver

theorem follows_txDecode {txHash : String} :
    flow.Follows (handlePlaygroundTxDecode account args txHash route).run (OfAccount account) ⟨account, .idle⟩ := by
  apply follows_call
  intro result
  exact follows_deliver

theorem follows_session : flow.Follows (handlePlaygroundSession account).run (OfAccount account) ⟨account, .idle⟩ := by
  have allowed : flow.allowed ⟨account, .idle⟩ (.readAccount account) := rfl
  apply Follows.seq
  apply Follows.call allowed
  intro read
  cases read <;> rfl

theorem follows_respond {handler : CallProg Reply} (follows : flow.Follows handler.run (OfAccount account)
    ⟨account, stage⟩) : flow.Follows (respond account handler) (OfAccount account) ⟨account, stage⟩ := by
  apply Follows.bind
  apply Follows.mono follows
  rintro reply ⟨owner, after⟩ rfl
  exact Follows.call rfl fun _ => rfl

theorem follows_program (party : Party) :
    flow.Follows party.program (OfAccount party.account) ⟨party.account, .idle⟩ := by
  cases party with
  | chat account args model route => exact follows_respond follows_chat
  | blendActivity account args route summary => exact follows_respond follows_blendActivity
  | txDecode account args txHash route => exact follows_respond follows_txDecode
  | session account => exact follows_respond follows_session
  | refused account reply => exact follows_respond (Follows.pure rfl)
  | reaper => exact Follows.call rfl fun _ => rfl
  | idle => rfl

end Walk

end MppRouter.Playground.Prepaid
