import MppRouter.Core.Typestate
import MppRouter.Routes.UpiFulfillment

/-! # The flow of a UPI request

A request claims the invoice, takes the right to execute the order, sends one call and reads its answer;
the claim goes back only once the order can never execute, or has not. The walks below check this once
for all requests.
-/

namespace MppRouter.Routes.Upi

open Concurrent Mpp Typestate Option

/-- Where a request stands with the execution of an order. -/
inductive Execution where
  | idle
  /-- It has the right to send the call and has not used it. -/
  | right (orderId : String)
  | calling (orderId : String)
  /-- `refused` when the answer rules a payment out. -/
  | answered (orderId : String) (refused : Bool)
  deriving DecidableEq, Repr

/-- A first-generation order whose execution has begun and is not over. -/
def PaidByCall.underWay (record : UpiFulfillmentRecord) : Bool :=
  record.schemaVersion ≠ some 2 ∧ record.state ≠ .queued ∧ !record.state.terminal

def PaidByCall.succeeded : LiveReply → Bool
  | .live live => live.terminal = some .success
  | .failed _ => false

/-- The order that a notification runs. -/
def ClaimReleased.order : Request → Option String
  | .verifiedFunding body _ _ => some body.orderId
  | .verifiedPayIn body _ _ => some body.orderId
  | .status _ => none
  | .otherChannel _ => none

/-- What a request knows of its work so far. -/
structure UpiPhase where
  /-- The order that the request runs. -/
  own : Option String := none
  minted : Option Uuid := none
  /-- The invoice it claimed, and for which order. -/
  claimed : Option (String × String) := none
  execution : Execution := .idle
  /-- The order that it may execute, or created in the first generation. -/
  entered : Option String := none
  /-- It refused the order that it claimed for, and has to give the claim back. -/
  owes : Bool := false
  /-- The order that it barred from execution or found definitely not paid. -/
  dead : Option String := none
  /-- The record that it loaded last. -/
  loaded : Option UpiFulfillmentRecord := none
  /-- The first-generation order that it saw paid while under way. -/
  seen : Option String := none
  deriving DecidableEq, Repr

namespace UpiPhase

def allows (phase : UpiPhase) : Action → Prop
  | .record orderId (.create fresh) =>
    fresh.orderId = orderId ∧ fresh.attemptId = none ∧ fresh.phase = .notStarted ∧ fresh.failureClass = none ∧
      fresh.state = .queued
  | .record orderId (.transition state _) => state ≠ .queued ∧ (state = .paid → phase.seen = some orderId)
  | .record orderId (.casV2 (.acquire attemptId _)) =>
    phase.minted = some attemptId ∧ ∃ invoiceKey, phase.claimed = some (invoiceKey, orderId)
  | .record orderId (.casV2 (.mark _ .mismatch)) => phase.execution = .answered orderId true
  | .guard (.claimInvoice _ channel ref) => channel = .upi ∧ ∃ orderId, ref = .upiOrder orderId ∧
      phase.own = some orderId ∧ phase.owes = false
  | .guard (.releaseInvoice _ channel ref) => channel = .upi ∧ ∃ orderId, ref = .upiOrder orderId ∧ phase.dead = some orderId
  | .guard (.acquireGate _ _ _) | .guard (.releaseGate _ _) => False
  | .send orderId invoiceKey _ => phase.execution = .right orderId ∧ phase.claimed = some (invoiceKey, orderId)
  | .receiveAgent orderId | .receiveStripe orderId => phase.execution = .calling orderId
  | _ => True

def next (phase : UpiPhase) : (action : Action) → action.Answer → UpiPhase
  | .randomUuid, id => { phase with minted := some id }
  | .record _ .load, found => { phase with loaded := found, seen := none }
  | .fetchLiveInvoice _ _ _, reply =>
    { phase with seen :=
        if PaidByCall.succeeded reply then (phase.loaded.filter PaidByCall.underWay).map UpiFulfillmentRecord.orderId
        else none }
  | .record orderId (.create fresh), created =>
    match created with
    | .created _ =>
      -- a first-generation order is executed by the request that created it
      { phase with
        execution := if fresh.schemaVersion = some 2 then phase.execution else .right orderId
        entered := if fresh.schemaVersion = some 2 then phase.entered else some orderId }
    | _ => phase
  | .record orderId (.casV2 (.acquire _ _)), (applied, _) =>
    { phase with
      execution := if applied then .right orderId else phase.execution
      entered := if applied then some orderId else phase.entered }
  | .record orderId (.casV2 (.refuse _ _)), (applied, record) =>
    { phase with
      dead := if applied then some orderId else phase.dead
      owes := phase.owes || (applied && record.isSome && phase.claimed.any (·.2 = orderId) && phase.entered ≠ some orderId) }
  | .record orderId (.casV2 (.mark _ .mismatch)), (applied, _) =>
    { phase with dead := if applied then some orderId else phase.dead }
  | .guard (.claimInvoice invoiceKey _ (.upiOrder orderId)), claim =>
    { phase with claimed := if claim.isOk then some (invoiceKey, orderId) else none }
  | .guard (.releaseInvoice invoiceKey .upi (.upiOrder orderId)), _ =>
    { phase with owes := if phase.claimed = some (invoiceKey, orderId) then false else phase.owes }
  | .send orderId _ _, _ => { phase with execution := .calling orderId }
  | .receiveAgent orderId, reply => { phase with execution := .answered orderId (isPreSignBindingMismatch reply) }
  | .receiveStripe orderId, _ => { phase with execution := .answered orderId false }
  | _, _ => phase

end UpiPhase

/-- The phases of a request, as a typestate. -/
def upiFlow : Typestate upiMachine := ⟨UpiPhase, UpiPhase.allows, UpiPhase.next⟩

/-- The post of a program: what holds of its result and of the phase it ends in. -/
abbrev Post (α : Type) := Option α → UpiPhase → Prop

section Walk

variable {α β : Type} {phase : UpiPhase} {orderId invoiceKey : String}

theorem ask_follows {action : Action} {post : Post action.Answer} (allowed : phase.allows action)
    (later : ∀ answer, post (some answer) (phase.next action answer)) :
    upiFlow.Follows (ask action).run post phase := ⟨allowed, later⟩

variable {post : Post β}

theorem ask_bind {action : Action} {rest : action.Answer → Handler β} (allowed : phase.allows action)
    (later : ∀ answer, upiFlow.Follows (rest answer).run post (phase.next action answer)) :
    upiFlow.Follows (ask action >>= rest).run post phase := Follows.seq (ask_follows allowed later)

theorem onRecord_bind {op : RecordOp} {rest : op.Answer → Handler β} (allowed : phase.allows (.record orderId op))
    (later : ∀ answer, upiFlow.Follows (rest answer).run post (phase.next (.record orderId op) answer)) :
    upiFlow.Follows (onRecord orderId op >>= rest).run post phase := ask_bind allowed later

theorem onGuard_bind {action : GuardAction} {rest : action.Answer → Handler β}
    (allowed : phase.allows (.guard action))
    (later : ∀ answer, upiFlow.Follows (rest answer).run post (phase.next (.guard action) answer)) :
    upiFlow.Follows (onGuard action >>= rest).run post phase := ask_bind allowed later

variable {program : Handler α}

/-- The request owes nothing, and claimed only for an order that it entered. -/
def Quiet (phase : UpiPhase) : Prop :=
  phase.owes = false ∧ ∀ invoiceKey orderId, phase.claimed = some (invoiceKey, orderId) → phase.entered = some orderId

/-- An action that neither claims nor enters an order. -/
def Action.calm : Action → Bool
  | .record _ (.create _) | .record _ (.casV2 (.acquire _ _)) | .guard (.claimInvoice _ _ _) => false
  | _ => true

theorem Quiet.next (quiet : Quiet phase) {action : Action} (calm : action.calm = true) (answer : action.Answer) :
    Quiet (phase.next action answer) := by
  cases action with
  | record orderId op =>
    cases op with
    | create fresh => cases calm
    | casV2 change =>
      cases change with
      | acquire attemptId binding => cases calm
      | refuse code state =>
        refine ⟨?_, quiet.2⟩
        change (phase.owes || (_ && phase.claimed.any (·.2 = orderId) && phase.entered ≠ some orderId)) = false
        rw [quiet.1, Bool.false_or]
        cases claimed : phase.claimed with
        | none => simp
        | some claim =>
          have entered := quiet.2 claim.1 claim.2 claimed
          by_cases same : claim.2 = orderId
          · simp [entered, same]
          · simp [same]
      | mark attemptId outcome => cases outcome <;> exact quiet
      | _ => exact quiet
    | _ => exact quiet
  | guard action =>
    cases action with
    | claimInvoice invoiceKey channel ref => cases calm
    | releaseInvoice invoiceKey channel ref =>
      cases channel with
      | crypto => cases ref <;> exact quiet
      | upi =>
        cases ref with
        | upiOrder orderId =>
          refine ⟨?_, quiet.2⟩
          change (if phase.claimed = some (invoiceKey, orderId) then false else phase.owes) = false
          split_ifs
          · rfl
          · exact quiet.1
        | _ => exact quiet
    | _ => exact quiet
  | _ => exact quiet

variable {program : Handler α}

/-- A program that keeps a phase quiet. -/
def Runs (program : Handler α) (phase : UpiPhase) : Prop :=
  Quiet phase → upiFlow.Follows program.run (fun _ after => Quiet after) phase

/-- A program that ends with nothing owed. -/
def Ends (program : Handler α) (phase : UpiPhase) : Prop :=
  upiFlow.Follows program.run (fun _ after => UpiPhase.owes after = false) phase

theorem Runs.ends (runs : Runs program phase) (quiet : Quiet phase) : Ends program phase :=
  (runs quiet).mono fun _ _ quiet => quiet.1

theorem Runs.pure {value : α} : Runs (Pure.pure value : Handler α) phase := id

theorem Runs.failure : Runs (failure : Handler α) phase := id

theorem Runs.bind {rest : α → Handler β} (first : Runs program phase)
    (later : ∀ value phase, Runs (rest value) phase) : Runs (program >>= rest) phase := by
  refine fun quiet => Follows.seq ((first quiet).mono fun result after quiet => ?_)
  cases result with
  | none => exact quiet
  | some value => exact later value after quiet

/-- Run a program under a catch, then the rest. -/
theorem Runs.attempt {rest : Option α → Handler β} (first : Runs program phase)
    (later : ∀ value phase, Runs (rest value) phase) : Runs (Throwing.attempt program >>= rest) phase :=
  Runs.bind (fun quiet => Follows.attempt ((first quiet).mono fun _ _ quiet => quiet)) later

theorem Runs.ask {action : Action} {rest : action.Answer → Handler β} (calm : action.calm = true)
    (allowed : phase.allows action) (later : ∀ answer, Runs (rest answer) (phase.next action answer)) :
    Runs (ask action >>= rest) phase :=
  fun quiet => ask_bind allowed fun answer => later answer (quiet.next calm answer)

theorem Runs.onRecord {op : RecordOp} {rest : op.Answer → Handler β} (calm : (Action.record orderId op).calm = true)
    (allowed : phase.allows (.record orderId op))
    (later : ∀ answer, Runs (rest answer) (phase.next (.record orderId op) answer)) :
    Runs (onRecord orderId op >>= rest) phase := Runs.ask calm allowed later

theorem Runs.onGuard {action : GuardAction} {rest : action.Answer → Handler β}
    (calm : (Action.guard action).calm = true) (allowed : phase.allows (.guard action))
    (later : ∀ answer, Runs (rest answer) (phase.next (.guard action) answer)) :
    Runs (onGuard action >>= rest) phase := Runs.ask calm allowed later

variable {change : V2Change}

theorem changeV2_follows {post : Post (Bool × UpiFulfillmentRecord)}
    (allowed : phase.allows (.record orderId (.casV2 change)))
    (thrown : ∀ applied, post none (phase.next (.record orderId (.casV2 change)) (applied, none)))
    (later : ∀ applied record,
      post (some (applied, record)) (phase.next (.record orderId (.casV2 change)) (applied, some record))) :
    upiFlow.Follows (changeV2 orderId change).run post phase := by
  refine onRecord_bind allowed fun answer => ?_
  obtain ⟨applied, record⟩ := answer
  cases record with
  | none => exact thrown applied
  | some record => exact later applied record

/-- A change that needs no permission. -/
def V2Change.free : V2Change → Bool
  | .acquire _ _ | .mark _ .mismatch => false
  | _ => true

variable {rest : Bool × UpiFulfillmentRecord → Handler β}

theorem changeV2_bind (calm : (Action.record orderId (.casV2 change)).calm = true)
    (allowed : phase.allows (.record orderId (.casV2 change)))
    (later : ∀ applied record, Runs (rest (applied, record))
      (phase.next (.record orderId (.casV2 change)) (applied, some record))) :
    Runs (changeV2 orderId change >>= rest) phase :=
  fun quiet => Follows.seq (changeV2_follows allowed (fun _ => quiet.next calm _)
    fun applied record => later applied record (quiet.next calm _))

theorem V2Change.free_allowed (free : change.free = true) : phase.allows (.record orderId (.casV2 change)) := by
  cases change with
  | mark attemptId outcome =>
    cases outcome with
    | mismatch => cases free
    | _ => trivial
  | acquire => cases free
  | _ => trivial

/-- A free change whose result only goes into an answer. -/
theorem freeChange (free : change.free = true)
    (later : ∀ value phase, Runs (rest value) phase) : Runs (changeV2 orderId change >>= rest) phase := by
  refine changeV2_bind ?_ (V2Change.free_allowed free) fun _ _ => later _ _
  cases change with
  | acquire => cases free
  | _ => rfl

theorem transition_bind {state : FulfillmentState} {detail : TransitionDetail}
    {rest : Option UpiFulfillmentRecord → Handler β} (moved : state ≠ .queued ∧ state ≠ .paid)
    (later : ∀ value, Runs (rest value) phase) : Runs (transition orderId state detail >>= rest) phase :=
  Runs.onRecord rfl ⟨moved.1, fun paid => absurd paid moved.2⟩ later

/-! ## Confirming -/

/-- A look at the provider leads to free changes only. -/
theorem confirmedV2_free {record : UpiFulfillmentRecord} {live : Option LiveInvoice} {now : ℕ}
    (confirmed : confirmedV2 record live now = some change) : change.free = true := by
  unfold confirmedV2 at confirmed
  dsimp only at confirmed
  split_ifs at confirmed with unsent queued failed
  · obtain ⟨invoice, -, rfl⟩ := map_eq_some_iff.mp confirmed
    rfl
  all_goals
    split at confirmed
    · cases confirmed
      rfl
    · first
        | cases confirmed
          rfl
        | obtain ⟨invoice, -, rfl⟩ := map_eq_some_iff.mp confirmed
          rfl

theorem confirmV2WithProvider_runs (record : UpiFulfillmentRecord) (now : ℕ) :
    Runs (confirmV2WithProvider record now) phase := by
  refine Runs.ask rfl trivial fun reply => ?_
  dsimp only
  split
  · exact Runs.pure
  next change confirmed => exact freeChange (confirmedV2_free confirmed) fun _ _ => Runs.pure

/-- Looking for the pay URL leaves the phase. -/
theorem observedPayUrl_follows (record : UpiFulfillmentRecord) :
    upiFlow.Follows (observedPayUrl record).run (fun _ after => after = phase) phase := by
  unfold observedPayUrl
  split
  · refine ask_bind trivial fun sealed => ?_
    cases sealed with
    | none => rfl
    | some sealed => exact ask_bind trivial fun _ => rfl
  · rfl

/-- Success is written only of an order that was under way when it was looked at. -/
theorem confirmedV1_paid {record : UpiFulfillmentRecord} {live : LiveInvoice} {now : ℕ} {detail : TransitionDetail}
    (confirmed : confirmedV1 record live now = some (.paid, detail)) : live.terminal = some .success ∧ record.state ≠ .queued := by
  unfold confirmedV1 at confirmed
  split_ifs at confirmed with queued settled stale_ success
  · cases confirmed
  · cases confirmed
  · exact ⟨success, queued⟩
  all_goals cases confirmed

theorem confirmedV1_started {record : UpiFulfillmentRecord} {live : LiveInvoice} {now : ℕ} {state : FulfillmentState}
    {detail : TransitionDetail} (confirmed : confirmedV1 record live now = some (state, detail)) : state ≠ .queued := by
  unfold confirmedV1 at confirmed
  dsimp only at confirmed
  split_ifs at confirmed <;> cases confirmed <;> decide

theorem confirmV1WithProvider_runs {record : UpiFulfillmentRecord} (now : ℕ) (first : record.schemaVersion ≠ some 2)
    (unfinished : record.state.terminal = false) (loaded : phase.loaded = some record) :
    Runs (confirmV1WithProvider record now) phase := by
  refine fun quiet => Follows.seq ((observedPayUrl_follows record).mono ?_)
  rintro payUrl after rfl
  rcases payUrl with _ | _ | payUrl
  · exact quiet
  · exact quiet
  suffices runs : Runs _ _ from runs quiet
  refine Runs.ask rfl trivial fun reply => ?_
  cases reply with
  | failed error => exact Runs.pure
  | live live =>
    dsimp only
    split
    next state detail confirmed =>
      refine Runs.onRecord rfl ⟨confirmedV1_started confirmed, ?_⟩ fun _ => Runs.pure
      rintro rfl
      obtain ⟨success, started⟩ := confirmedV1_paid confirmed
      have running : PaidByCall.underWay record = true := by simp [PaidByCall.underWay, first, started, unfinished]
      have paid : PaidByCall.succeeded (.live live) = true := by simp [PaidByCall.succeeded, success]
      simp only [UpiPhase.next, if_pos paid, loaded, filter_some, if_pos running, map_some]
    next =>
      split_ifs
      · exact Runs.pure
      · exact Runs.onRecord rfl trivial fun _ => Runs.pure

theorem confirmWithProvider_runs (orderId : String) : Runs (confirmWithProvider orderId) phase := by
  refine Runs.ask rfl trivial fun now => Runs.onRecord rfl trivial fun record => ?_
  cases record with
  | none => exact Runs.pure
  | some record =>
    dsimp only
    split_ifs with finished second
    · exact Runs.pure
    · exact Runs.bind (confirmV2WithProvider_runs record now) fun _ _ => Runs.pure
    · exact Runs.bind (confirmV1WithProvider_runs now second (Bool.not_eq_true _ ▸ finished) rfl) fun _ _ => Runs.pure

theorem handleUpiFulfillmentStatus_runs (orderId : String) : Runs (handleUpiFulfillmentStatus orderId) phase := by
  refine Runs.onRecord rfl trivial fun record => ?_
  cases record with
  | none => exact Runs.pure
  | some record => exact Runs.bind (confirmWithProvider_runs orderId) fun _ _ => Runs.pure

/-! ## Executing -/

/-- A request that may send: it has the right to and holds the claim. -/
def Ready (orderId invoiceKey : String) (phase : UpiPhase) : Prop :=
  phase.execution = .right orderId ∧ phase.claimed = some (invoiceKey, orderId)

theorem callAgentApiPayInvoice_follows {expected : Option PayInvoiceExpectedBinding}
    (ready : Ready orderId invoiceKey phase) {post : Post AgentReply}
    (unsent : post (some .threw) phase)
    (sent : ∀ reply, post (some reply)
      { phase with execution := .answered orderId (isPreSignBindingMismatch reply) }) :
    upiFlow.Follows (callAgentApiPayInvoice orderId invoiceKey expected).run post phase := by
  unfold callAgentApiPayInvoice
  split_ifs with test
  · exact unsent
  · exact ask_bind ready fun _ => ask_follows rfl sent

theorem callAgentApiPayInvoice_runs {expected : Option PayInvoiceExpectedBinding} {rest : AgentReply → Handler β}
    (ready : Ready orderId invoiceKey phase) (unsent : Runs (rest .threw) phase)
    (sent : ∀ reply, Runs (rest reply) { phase with execution := .answered orderId (isPreSignBindingMismatch reply) }) :
    Runs (callAgentApiPayInvoice orderId invoiceKey expected >>= rest) phase :=
  fun quiet => Follows.seq (callAgentApiPayInvoice_follows ready (unsent quiet) fun reply => sent reply quiet)

theorem executeCoinbaseV2_runs {attemptId : Uuid} {expected : PayInvoiceExpectedBinding}
    (ready : Ready orderId invoiceKey phase) : Runs (executeCoinbaseV2 orderId attemptId invoiceKey expected) phase := by
  have ambiguous : ∀ reason phase, Runs (do
      let _ ← changeV2 orderId (.mark attemptId (.ambiguous reason))
      pure () : Handler Unit) phase := fun reason phase => freeChange rfl fun _ _ => Runs.pure
  refine callAgentApiPayInvoice_runs ready (ambiguous _ phase) fun reply => ?_
  cases reply with
  | threw => exact ambiguous _ _
  | answered status answer =>
    dsimp only
    split_ifs with accepted mismatch
    · exact freeChange rfl fun _ _ => Runs.bind (confirmWithProvider_runs orderId) fun _ _ => Runs.pure
    · refine changeV2_bind rfl (by rw [mismatch]; exact rfl) fun applied record => ?_
      cases applied with
      | false => exact Runs.pure
      | true => exact Runs.onGuard rfl ⟨rfl, orderId, rfl, rfl⟩ fun _ => Runs.pure
    · exact ambiguous _ _

/-- A refusal by a request that claimed nothing. -/
theorem refuse_runs (body : VerifiedFundingBody) (code : String) (providerFinalState : Option String) :
    Runs (refuse body false code providerFinalState) phase := by
  refine changeV2_bind rfl trivial fun applied record => ?_
  have unclaimed : ¬ (applied = true ∧ false = true) := fun both => Bool.false_ne_true both.2
  simp only [if_neg unclaimed]
  exact Runs.pure

/-- A refusal by the request that claimed for the order gives the claim back. -/
theorem refuse_ends {body : VerifiedFundingBody} {code : String} {providerFinalState : Option String}
    (claimed : phase.claimed = some (body.invoiceKey, body.orderId)) (clear : phase.owes = false) :
    Ends (refuse body true code providerFinalState) phase := by
  refine Follows.seq (changeV2_follows trivial (fun applied => ?_) fun applied record => ?_)
  · change (phase.owes || (applied && false && _ && _)) = false
    simp [clear]
  · cases applied with
    | false =>
      change (phase.owes || (false && _ && _ && _)) = false
      simp [clear]
    | true =>
      refine onGuard_bind ⟨rfl, body.orderId, rfl, rfl⟩ fun _ => ?_
      change (if phase.claimed = some (body.invoiceKey, body.orderId) then false else _) = false
      rw [if_pos claimed]

/-! ## Second generation -/

/-- The gate only asks: of the phase, only what was seen of the invoice changes. -/
theorem v2Approve_follows (body : VerifiedFundingBody) (live : LiveInvoice) (fingerprint usdcAtomic usdCents : String) :
    upiFlow.Follows (v2Approve body live fingerprint usdcAtomic usdCents).run (fun _ after => after = phase) phase := by
  unfold v2Approve
  dsimp only
  split_ifs
  · refine ask_bind trivial fun result => ?_
    cases result <;> rfl
  · rfl

theorem v2Gate_follows (body : VerifiedFundingBody) (frozen : Option V2FrozenBinding) :
    upiFlow.Follows (v2Gate body frozen).run (fun _ after => ∃ seen, after = { phase with seen }) phase := by
  refine ask_bind trivial fun reply => ?_
  cases reply with
  | failed error => cases error <;> exact ⟨_, rfl⟩
  | live live =>
    dsimp only
    split_ifs
    · exact ⟨_, rfl⟩
    · refine ask_bind trivial fun quoteId => ask_bind trivial fun config => ?_
      cases checkLive body frozen live quoteId config with
      | refuse code => exact ⟨_, rfl⟩
      | threw => exact ⟨_, rfl⟩
      | bound fingerprint usdcAtomic usdCents =>
        exact (v2Approve_follows body live fingerprint usdcAtomic usdCents).mono fun _ _ same => ⟨_, same⟩

variable {body : VerifiedFundingBody}

theorem v2Gate_bind {frozen : Option V2FrozenBinding} {rest : V2Gate → Handler β} (clear : phase.owes = false)
    (later : ∀ gate seen, Ends (rest gate) { phase with seen }) : Ends (v2Gate body frozen >>= rest) phase := by
  refine Follows.seq ((v2Gate_follows body frozen).mono ?_)
  rintro gate _ ⟨seen, rfl⟩
  cases gate with
  | none => exact clear
  | some gate => exact later gate seen

variable {background : Bool}

theorem acquireAndExecute_ends {binding : V2FrozenBinding}
    (claimed : phase.claimed = some (body.invoiceKey, body.orderId)) (clear : phase.owes = false) :
    Ends (acquireAndExecute body background binding) phase := by
  refine ask_bind trivial fun attemptId => Follows.seq
    (changeV2_follows ⟨rfl, body.invoiceKey, claimed⟩ (fun _ => clear) fun applied record => ?_)
  cases applied with
  | false => exact clear
  | true =>
    let next := { phase with minted := some attemptId, execution := .right body.orderId, entered := some body.orderId }
    have ready : Ready body.orderId body.invoiceKey next := ⟨rfl, claimed⟩
    have quiet : Quiet next := by
      refine ⟨clear, fun invoiceKey orderId other => ?_⟩
      cases claimed.symm.trans other
      rfl
    cases background with
    | true => exact Runs.ends (Runs.attempt (executeCoinbaseV2_runs ready) fun _ _ => Runs.pure) quiet
    | false =>
      exact Runs.ends
        (Runs.bind (executeCoinbaseV2_runs ready) fun _ _ => Runs.onRecord rfl trivial fun _ => Runs.pure) quiet

theorem v2Queue_ends (body : VerifiedFundingBody) (reason : String) (clear : phase.owes = false) :
    Ends (v2Queue body reason) phase :=
  Follows.seq (changeV2_follows trivial (fun _ => clear) fun _ _ => clear)

theorem recheckV2_ends {frozen : Option V2FrozenBinding}
    (claimed : phase.claimed = some (body.invoiceKey, body.orderId)) (clear : phase.owes = false) :
    Ends (recheckV2 body background frozen) phase := by
  refine v2Gate_bind clear fun gate _ => ?_
  cases gate with
  | refuse code providerFinalState => exact refuse_ends claimed clear
  | unavailable reason => exact v2Queue_ends body reason clear
  | ok invoice binding =>
    dsimp only
    cases invoice.stablecoinAmountAtomic.value with
    | none => exact clear
    | some invoiceAtomic =>
      refine ask_bind trivial fun balance => ?_
      split_ifs
      · exact refuse_ends claimed clear
      · refine ask_bind trivial fun paused => ?_
        cases paused with
        | true => exact refuse_ends claimed clear
        | false => exact acquireAndExecute_ends claimed clear

theorem freezeAndClaim_ends (background : Bool) (record : UpiFulfillmentRecord) (own : phase.own = some body.orderId)
    (quiet : Quiet phase) : Ends (freezeAndClaim body background record) phase := by
  refine v2Gate_bind quiet.1 fun gate _ => ?_
  cases gate with
  | refuse code providerFinalState => exact (refuse_runs body code providerFinalState).ends quiet
  | unavailable reason => exact v2Queue_ends body reason quiet.1
  | ok invoice binding =>
    refine Follows.seq (changeV2_follows trivial (fun _ => quiet.1) fun applied frozen => ?_)
    cases applied with
    | true =>
      refine onGuard_bind ⟨rfl, body.orderId, rfl, own, quiet.1⟩ fun claim => ?_
      cases claim with
      | refused holder => exact (refuse_runs body _ none).ends ⟨quiet.1, nofun⟩
      | ok claim created => exact recheckV2_ends rfl quiet.1
    | false =>
      have closing : ∀ phase, Runs (if frozen.isV2Open then refuse body false "binding_changed" none
          else pure (v2Response frozen)) phase := by
        intro phase
        split_ifs
        · exact refuse_runs body _ none
        · exact Runs.pure
      exact (closing _).ends quiet

theorem runV2_ends (background : Bool) (record : UpiFulfillmentRecord) (own : phase.own = some body.orderId)
    (quiet : Quiet phase) : Ends (runV2 body background record) phase := by
  refine ask_bind trivial fun paused => ?_
  cases paused with
  | true => exact (refuse_runs body _ none).ends quiet
  | false =>
    refine ask_bind trivial fun config => ?_
    cases switchRefusal body config with
    | some code => exact (refuse_runs body code none).ends quiet
    | none => exact freezeAndClaim_ends background record own quiet

theorem handleUpiVerifiedFunding_ends (bodyHash : String) (background : Bool) (own : phase.own = some body.orderId)
    (quiet : Quiet phase) : Ends (handleUpiVerifiedFunding body bodyHash background) phase := by
  refine ask_bind trivial fun now => onRecord_bind ⟨rfl, rfl, rfl, rfl, rfl⟩ fun created => ?_
  have resume : ∀ record after, UpiPhase.own after = some body.orderId → Quiet after →
      Ends (if record.isV2Open then runV2 body background record else pure (v2Response record)) after := by
    intro record after own quiet
    split_ifs
    · exact runV2_ends background record own quiet
    · exact quiet.1
  cases created with
  | mismatch => exact quiet.1
  | created record | replay record => exact resume record _ own quiet

/-! ## First generation -/

theorem executeCoinbase_runs (ready : Ready orderId invoiceKey phase) : Runs (executeCoinbase orderId invoiceKey) phase := by
  refine callAgentApiPayInvoice_runs ready (transition_bind (by decide) fun _ => Runs.pure) fun reply => ?_
  cases reply with
  | threw => exact transition_bind (by decide) fun _ => Runs.pure
  | answered status answer =>
    by_cases accepted : (AgentReply.answered status answer).ok = true
    · simp only [accepted, if_true]
      exact transition_bind (by decide) fun _ => Runs.bind (confirmWithProvider_runs orderId) fun _ _ => Runs.pure
    · simp only [accepted, Bool.false_eq_true, if_false]
      exact transition_bind (by split_ifs <;> decide) fun _ => Runs.pure

theorem recordStripeOutcome_runs (orderId : String) (inv : LiveInvoice) (invoiceAtomic : ℤ) (day : ℕ)
    (result : Stripe.StripePayInvoiceResult) (executionRef : Option String) :
    Runs (recordStripeOutcome orderId inv invoiceAtomic day result executionRef) phase := by
  unfold recordStripeOutcome
  split_ifs
  · exact transition_bind (by decide) fun _ => Runs.pure
  · exact Runs.onGuard rfl trivial fun _ => transition_bind (by decide) fun _ => Runs.pure
  · exact transition_bind (by decide) fun _ => Runs.pure
  · exact Runs.onGuard rfl trivial fun _ => transition_bind (by decide) fun _ => Runs.pure

variable {inv : LiveInvoice} {payUrl : Option String}

theorem executeStripe_runs {invoiceAtomic : ℤ} {now : ℕ}
    (ready : Ready orderId inv.invoiceKey phase) : Runs (executeStripe orderId inv payUrl invoiceAtomic now) phase := by
  unfold executeStripe
  dsimp only
  split_ifs
  · exact transition_bind (by decide) fun _ => Runs.pure
  · refine Runs.onGuard rfl trivial fun spentBefore => ?_
    cases spentBefore with
    | none => exact transition_bind (by decide) fun _ => Runs.pure
    | some spentBefore =>
      refine fun quiet => Follows.seq (ask_bind ready fun _ => ask_bind rfl fun answer => ?_)
      exact recordStripeOutcome_runs _ _ _ _ _ _ quiet

theorem executeFulfillment_runs {body : VerifiedPayInBody}
    (same : inv.invoiceKey = body.invoiceKey) (ready : Ready body.orderId body.invoiceKey phase) :
    Runs (executeFulfillment body inv payUrl) phase := by
  unfold executeFulfillment
  cases inv.stablecoinAmountAtomic.value with
  | none => exact Runs.failure
  | some invoiceAtomic =>
    refine Runs.ask rfl trivial fun now => Runs.ask rfl trivial fun paused => ?_
    cases paused with
    | true => exact transition_bind (by decide) fun _ => Runs.pure
    | false =>
      refine Runs.ask rfl trivial fun balance => ?_
      split_ifs
      · exact transition_bind (by decide) fun _ => Runs.pure
      · split
        · exact executeStripe_runs (same ▸ ready)
        · exact executeCoinbase_runs ready

/-- The request that created the order may claim for it. -/
theorem claimAndExecute_ends {body : VerifiedPayInBody} (same : inv.invoiceKey = body.invoiceKey)
    (right : phase.execution = .right body.orderId) (own : phase.own = some body.orderId)
    (entered : phase.entered = some body.orderId) (clear : phase.owes = false) :
    Ends (claimAndExecute body inv payUrl background) phase := by
  refine onGuard_bind ⟨rfl, body.orderId, rfl, own, clear⟩ fun claim => ?_
  cases claim with
  | refused holder =>
    exact Runs.ends (transition_bind (by decide) fun _ => Runs.pure) ⟨clear, nofun⟩
  | ok claim created =>
    let next := { phase with claimed := some (body.invoiceKey, body.orderId) }
    have ready : Ready body.orderId body.invoiceKey next := ⟨right, rfl⟩
    have quiet : Quiet next := by
      refine ⟨clear, fun invoiceKey orderId other => ?_⟩
      cases other
      exact entered
    refine onRecord_bind ⟨by decide, nofun⟩ fun _ => ?_
    cases background with
    | true => exact Runs.ends (Runs.attempt (executeFulfillment_runs same ready) fun _ _ => Runs.pure) quiet
    | false =>
      exact Runs.ends
        (Runs.bind (executeFulfillment_runs same ready) fun _ _ => Runs.onRecord rfl trivial fun _ => Runs.pure) quiet

theorem createAndRun_ends {body : VerifiedPayInBody} (bodyHash : String) (payUrl : Option String) (now : ℕ)
    (background : Bool) (own : phase.own = some body.orderId) (quiet : Quiet phase) :
    Ends (createAndRun body bodyHash payUrl now background) phase := by
  refine ask_bind trivial fun reply => ?_
  cases reply with
  | failed error => cases error <;> exact quiet.1
  | live inv =>
    by_cases same : inv.invoiceKey = body.invoiceKey
    · simp only [same, ne_eq, not_true_eq_false, if_false]
      refine ask_bind trivial fun quoteId => ?_
      split_ifs with quoted
      · refine ask_bind trivial fun config => onRecord_bind ⟨rfl, rfl, rfl, rfl, rfl⟩ fun created => ?_
        cases created with
        | mismatch | replay => exact quiet.1
        | created record =>
          cases preFail body inv config with
          | some reason => exact onRecord_bind ⟨by decide, nofun⟩ fun _ => quiet.1
          | none => exact claimAndExecute_ends same rfl own rfl quiet.1
      · exact quiet.1
    · simp only [same, ne_eq, not_false_eq_true, if_true]
      exact quiet.1

theorem handleUpiVerifiedPayIn_ends {body : VerifiedPayInBody} (bodyHash : String) (background : Bool)
    (own : phase.own = some body.orderId) (quiet : Quiet phase) :
    Ends (handleUpiVerifiedPayIn body bodyHash background) phase := by
  refine onRecord_bind trivial fun existing => ?_
  cases existing with
  | some existing =>
    dsimp only
    split_ifs <;> exact quiet.1
  | none =>
    refine ask_bind trivial fun paused => ?_
    cases paused with
    | true => exact quiet.1
    | false =>
      refine ask_bind trivial fun now => ask_bind trivial fun sealed_ => ?_
      split
      · exact quiet.1
      · refine ask_bind trivial fun payUrl => ?_
        cases payUrl with
        | none => exact quiet.1
        | some payUrl => exact createAndRun_ends bodyHash (some payUrl) now background own quiet
      · exact createAndRun_ends bodyHash none now background own quiet

/-! ## Requests -/

/-- Where a request starts. -/
def UpiPhase.start (request : Request) : UpiPhase := { own := ClaimReleased.order request }

/-- Every request about an order follows the flow, and ends owing nothing. -/
theorem Request.serve_ends (request : Request) (own : ∀ actions, request ≠ .otherChannel actions) :
    upiFlow.Follows request.serve (fun _ after => UpiPhase.owes after = false) (.start request) := by
  have quiet : Quiet (.start request) := ⟨rfl, nofun⟩
  refine Follows.bind ((?_ : Ends request.handler _).mono fun _ _ clear => clear)
  cases request with
  | verifiedFunding body bodyHash background =>
    exact Follows.seq ((handleUpiVerifiedFunding_ends bodyHash background rfl quiet).mono fun result _ clear => by
      cases result <;> exact clear)
  | verifiedPayIn body bodyHash background =>
    exact Follows.seq ((handleUpiVerifiedPayIn_ends bodyHash background rfl quiet).mono fun result _ clear => by
      cases result <;> exact clear)
  | status orderId => exact Runs.ends (Runs.bind (handleUpiFulfillmentStatus_runs orderId) fun _ _ => Runs.pure) quiet
  | otherChannel actions => exact absurd rfl (own actions)

theorem Request.serve_follows (request : Request) (own : ∀ actions, request ≠ .otherChannel actions) :
    upiFlow.Follows request.serve anyhow (.start request) :=
  (request.serve_ends own).loose

/-- Other channels may use the guards as they like. -/
def anyGuards (phase : UpiPhase) (action : Action) : Prop := phase.allows action ∨ ∃ guard, action = .guard guard

theorem useGuards_follows (actions : List GuardAction) {phase : UpiPhase} :
    (upiFlow.relax anyGuards).Follows (useGuards actions).run anyhow phase := by
  induction actions generalizing phase with
  | nil => trivial
  | cons action rest ih =>
    exact Follows.seq ⟨.inr ⟨action, rfl⟩, fun _ => ih⟩

theorem Request.serve_relaxed (request : Request) :
    (upiFlow.relax anyGuards).Follows request.serve anyhow (.start request) := by
  by_cases other : ∃ actions, request = .otherChannel actions
  · obtain ⟨actions, rfl⟩ := other
    exact Follows.bind (useGuards_follows actions).loose
  · have own : ∀ actions, request ≠ .otherChannel actions := fun actions same => other ⟨actions, same⟩
    exact (request.serve_follows own).relax fun _ _ allowed => .inl allowed

end Walk

/-- What watches the machine of the orders sees its programs keep to their phases. -/
theorem follows_watched {C W : Type} {step : ℕ → (action : Action) → C → W → Option (action.Answer × W)}
    {allows : UpiPhase → Action → Prop} {α : Type} {program : Prog Action Action.Answer α} {post : α → UpiPhase → Prop}
    {phase : UpiPhase} (follows : (upiFlow.relax allows).Follows program post phase) :
    Typestate.Follows (S := ⟨Action, Action.Answer, C, W, step⟩) ⟨UpiPhase, allows, UpiPhase.next⟩ program post phase := by
  induction program generalizing phase with
  | pure value => exact follows
  | act action rest ih => exact ⟨follows.1, fun answer => ih answer (follows.2 answer)⟩

/-! ## A payable order -/

def noGuards : Guards :=
  { claims := fun _ => none, gates := fun _ => none, spent := fun _ _ => 0, caps := fun _ => none, funds := [] }

/-- The invoice of one dollar. -/
def payableInvoice : LiveInvoice :=
  { invoiceKey := "pl_a", fiatAmountMinor := "100", stablecoinAmountAtomic := ⟨"1000000", some 1000000⟩
    state := "open", payable := true, rewardBinding := .binding .coinbaseV1 "pl_a" "100" "1000000" "print" }

def payable : Choice :=
  { live := .live payableInvoice, quoteId := "quote", config := { providersEnabled := [.coinbaseV1] }
    agent := .answered 200 none }

end MppRouter.Routes.Upi
