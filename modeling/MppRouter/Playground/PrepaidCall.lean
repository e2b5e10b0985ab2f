import MppRouter.Core.Throwing
import MppRouter.Playground.Ledger
import MppRouter.Playground.MoneyCodec

/-! # Prepaid calls

A call of the playground holds its flat price on the ledger, marks that it is about to dispatch, calls the upstream
and settles the hold. Each of these is a request of its own to the ledger, whose answer may be lost; the reaper may run
between any two of them.
-/

namespace MppRouter.Playground.Prepaid

open Concurrent

/-! ## Answers -/

/-- A row of the history that a session reads. -/
structure CallRow where
  callId : String
  chip : String
  model : Option String
  status : CallStatus
  chargedUsd : String
  at_ : ℤ
  deriving DecidableEq, Repr

inductive Reply where
  | fail (status : ℕ) (error message : String) (extra : List (String × Detail) := [])
  | replayed (callId : String) (status : CallStatus) (chip : String) (model : Option String)
      (chargedUsd balanceUsd : String)
  | chat (callId message model chargedUsd balanceUsd : String)
  | blendActivity (callId summary events chargedUsd balanceUsd : String)
  | txDecode (callId txHash transaction chargedUsd balanceUsd : String)
  | session (accountMasked balanceUsd : String) (calls : List CallRow)
  deriving DecidableEq, Repr

/-- Mask an account: its first six and its last four characters. -/
def maskAccount (account : String) : String :=
  let text := account.toList
  if text.length ≤ 10 then account
  else String.ofList (text.take 6 ++ ['.', '.', '.'] ++ text.drop (text.length - 4))

def ledgerErrorResponse (e : Err) : Reply :=
  if e.code = "rate_limited" ∨ e.code = "too_many_open_intents" then .fail 429 e.code e.message e.detail
  else if e.code = "deposit_cap_exceeded" ∨ e.code = "global_cap_exceeded" then .fail 403 e.code e.message
  else if e.code = "intent_not_found" then .fail 404 e.code e.message
  else if e.code ∈ ["intent_expired", "intent_already_used", "payment_already_claimed"] then .fail 409 e.code e.message
  else if e.code = "deposit_exceeds_cap" then
    .fail 409 e.code e.message (e.detail ++ [("support_note", .text
      "Your deposit was received on-chain but exceeds the playground credit cap, so it was not credited. Contact support for a refund.")])
  else .fail 400 e.code e.message

/-! ## The upstream -/

/-- Who pays a route: a credential that the router holds, or the router's pool over Tempo. -/
inductive RoutePayment where
  | upstreamAuth
  | tempoSession
  | tempoCharge
  deriving DecidableEq, Repr

structure Route where
  id : String
  service : String
  payment : RoutePayment
  deriving DecidableEq, Repr

/-- Only `yes` commits a call; `maybe` is never made. -/
inductive PaymentEvidence where
  | no
  | maybe
  | yes
  deriving DecidableEq, Repr

structure UpstreamError where
  code : String
  status : ℕ
  message : String
  paymentEvidence : PaymentEvidence := .no
  deriving DecidableEq, Repr

/-- What the handlers read of a JSON body, out of its envelope. -/
structure Json where
  /-- `choices[0].message.content` -/
  content : Option String := none
  text : String := ""
  /-- `events_examined`, and what `describeAggregate` says of the events. -/
  events : ℕ := 0
  described : String := ""
  deriving DecidableEq, Repr

/-- What a payment seam or a fetch throws. -/
inductive Thrown where
  | channelNotInstalled (message : String)
  | budgetExceeded (message : String)
  | other (message : String)
  deriving DecidableEq, Repr

def Thrown.message : Thrown → String
  | .channelNotInstalled message | .budgetExceeded message | .other message => message

/-- What happens on the wire; `signed` when a credential was signed for this very call. -/
inductive Wire where
  /-- The path has a placeholder without a value, or the credential is not configured. -/
  | unsent (message : String)
  | rateLimited (used limit : ℕ)
  | threw (signed : Bool) (thrown : Thrown)
  | answered (signed : Bool) (status : ℕ) (body : Option Json)
  deriving DecidableEq, Repr

/-- `response.ok` -/
def okStatus (status : ℕ) : Bool := 200 ≤ status && status < 300

/-- The router has paid: a credential was signed, or the call with its own credential was answered by a success. -/
def Wire.paid (route : Route) : Wire → Bool
  | .unsent _ | .rateLimited _ _ => false
  | .threw signed _ => route.payment ≠ .upstreamAuth && signed
  | .answered signed status _ => if route.payment = .upstreamAuth then okStatus status else signed

def evidenceOf (paid : Bool) : PaymentEvidence := if paid then .yes else .no

structure UpstreamCall where
  status : ℕ
  body : Option Json
  paid : Bool

/-- Call an upstream route; an exception is an `UpstreamError` or carries just its message. -/
def callUpstream (route : Route) : Wire → Except (UpstreamError ⊕ String) UpstreamCall
  | .unsent message => .error (.inr message)
  | .rateLimited used limit => .error (.inl {
      code := "upstream_rate_limited", status := 429
      message := "daily cap reached for " ++ route.service ++ " (" ++ toString used ++ "/" ++ toString limit ++ ")" })
  | .threw signed thrown =>
    let paid := signed
    match route.payment, thrown with
    | .upstreamAuth, thrown => .error (.inr thrown.message)
    | .tempoSession, .channelNotInstalled message =>
      .error (.inl ⟨"session_channel_not_installed", 503, message, evidenceOf paid⟩)
    | _, .budgetExceeded message => .error (.inl ⟨"upstream_over_budget", 502, message, evidenceOf paid⟩)
    | _, thrown => .error (.inl ⟨"upstream_unreachable", 502, thrown.message, evidenceOf paid⟩)
  | .answered signed status body =>
    .ok ⟨status, body, if route.payment = .upstreamAuth then okStatus status else signed⟩

/-- Call an upstream route and parse a JSON body, every failure as an `UpstreamError`. -/
def callUpstreamJson (route : Route) (wire : Wire) : Except UpstreamError (Json × Bool) :=
  match callUpstream route wire with
  | .error (.inl e) => .error e
  | .error (.inr message) => .error ⟨"upstream_unreachable", 502, message, .no⟩
  | .ok call =>
    let evidence := evidenceOf call.paid
    if ¬okStatus call.status then
      .error ⟨"upstream_error", 502, "upstream " ++ route.id ++ " returned " ++ toString call.status, evidence⟩
    else
      match call.body with
      | none => .error ⟨"upstream_bad_body", 502, "upstream " ++ route.id ++ " returned non-JSON", evidence⟩
      | some value => .ok (value, call.paid)

variable {route : Route} {wire : Wire}

/-- A response comes with whether the router has paid. -/
theorem callUpstream_ok {upstream : UpstreamCall}
    (returned : callUpstream route wire = .ok upstream) : upstream.paid = wire.paid route := by
  cases wire with
  | unsent message => cases returned
  | rateLimited used limit => cases returned
  | threw signed thrown => rcases route with ⟨id, service, _ | _ | _⟩ <;> cases thrown <;> cases returned
  | answered signed status body =>
    cases returned
    rfl

/-- What is thrown as an `UpstreamError` is stamped with whether the router has paid; another exception came before. -/
theorem callUpstream_error {failure : UpstreamError ⊕ String} (thrown : callUpstream route wire = .error failure) :
    (∃ e, failure = .inl e ∧ e.paymentEvidence = evidenceOf (wire.paid route)) ∨
      (∃ message, failure = .inr message ∧ wire.paid route = false) := by
  cases wire with
  | unsent message =>
    cases thrown
    exact .inr ⟨message, rfl, rfl⟩
  | rateLimited used limit =>
    cases thrown
    exact .inl ⟨_, rfl, rfl⟩
  | threw signed what =>
    rcases route with ⟨id, service, _ | _ | _⟩ <;> cases what <;> cases thrown <;> simp [Wire.paid]
  | answered signed status body => cases thrown

theorem callUpstreamJson_error {e : UpstreamError}
    (failed : callUpstreamJson route wire = .error e) : e.paymentEvidence = evidenceOf (wire.paid route) := by
  unfold callUpstreamJson at failed
  cases upstream : callUpstream route wire with
  | error failure =>
    rw [upstream] at failed
    rcases callUpstream_error upstream with ⟨stamped, rfl, evidence⟩ | ⟨message, rfl, unpaid⟩
    · cases failed
      exact evidence
    · cases failed
      rw [unpaid]
      rfl
  | ok response =>
    rw [upstream] at failed
    rw [← callUpstream_ok upstream]
    dsimp only at failed
    split at failed
    · cases failed
      rfl
    · cases body : response.body <;> rw [body] at failed <;> cases failed
      rfl

/-- What a delivered call is settled by is whether the router has paid. -/
theorem callUpstreamJson_ok {value : Json} {paid : Bool}
    (returned : callUpstreamJson route wire = .ok (value, paid)) : paid = wire.paid route := by
  unfold callUpstreamJson at returned
  cases upstream : callUpstream route wire with
  | error failure =>
    rw [upstream] at returned
    cases failure <;> cases returned
  | ok response =>
    rw [upstream] at returned
    rw [← callUpstream_ok upstream]
    dsimp only at returned
    split at returned
    · cases returned
    · cases body : response.body <;> rw [body] at returned <;> cases returned
      rfl

/-! ## The machine -/

/-- A request that has reached its billable upstream leg. -/
structure Leg where
  callId : String
  tid : ℕ
  price : ℤ
  paid : Bool
  deriving DecidableEq, Repr

/-- The ledger; and besides, which request took each call id, the billable legs and the answers, newest first. -/
structure World where
  ledger : Storage
  holders : String → Option ℕ
  legs : List Leg
  replies : List (String × Option Reply)

/-- The ledger when the playground opens: deposits may have come in, but no call has. -/
def World.opened (ledger : Storage) : World := ⟨ledger, fun _ => none, [], []⟩

/-- The call that a hold is for. -/
structure CallArgs where
  callId : String
  chip : String
  model : Option String := none
  priceAtomic : ℤ
  deriving DecidableEq, Repr

inductive CallAction where
  | reserve (account : String) (args : CallArgs)
  | markDispatched (callId : String)
  /-- With the call that it is the billable leg of. -/
  | callUpstream (route : Route) (billable : Option CallArgs)
  | settle (body : SettleBody)
  | readAccount (account : String)
  | reap
  | answer (account : String) (reply : Option Reply)

@[reducible] def CallAction.Answer : CallAction → Type
  | .reserve _ _ => Option (Result ReserveOutcome)
  | .markDispatched _ => Option (Result Bool)
  | .callUpstream _ _ => Wire
  | .settle _ => Option (Result Settled)
  | .readAccount _ => Option (ℤ × List StoredCall)
  | .reap | .answer _ _ => Unit

/-- How a request to the ledger goes wrong, what the clock says, and what happens on the wire. -/
structure Choice where
  fault : Fault := .none
  now : ℤ := 0
  wire : Wire := .unsent ""
  deriving DecidableEq, Repr

def CALL_HISTORY_LIMIT : ℕ := 20

def CallArgs.body (args : CallArgs) (account : String) (now : ℤ) : ReserveBody :=
  { callId := args.callId, account, chip := args.chip, model := args.model, maxPrice := toString args.priceAtomic, now
    historyLimit := CALL_HISTORY_LIMIT }

/-- Send a request to the ledger; an operation that throws is rolled back and answered by an exception. -/
def request {α : Type} (fault : Fault) (operation : Storage → Except RangeError (Playground.Answer α))
    (note : Result α → World → World) (world : World) : Option (Result α) × World :=
  match operation world.ledger with
  | .error _ => (none, world)
  | .ok (result, after) => fault.apply (fun world => (result, note result { world with ledger := after })) world

/-- Remember who took a call id. -/
def World.take (tid : ℕ) (callId : String) (result : Result ReserveOutcome) (world : World) : World :=
  match result with
  | .ok outcome =>
    if outcome.ok ∧ ¬outcome.duplicate then { world with holders := Function.update world.holders callId (some tid) }
    else world
  | .error _ => world

/-- The newest calls of an account, with its balance. -/
def accountOf (storage : Storage) (account : String) (limit : ℕ) : ℤ × List StoredCall :=
  (storage.balance account, (((storage.history.lookup account).getD []).take limit).filterMap storage.calls.lookup)

def perform (tid : ℕ) : (action : CallAction) → Choice → World → action.Answer × World
  | .reserve account args, choice, world =>
    request choice.fault (reserve · (args.body account choice.now)) (World.take tid args.callId) world
  | .markDispatched callId, choice, world => request choice.fault (markDispatched · callId) (fun _ after => after) world
  | .callUpstream route billable, choice, world =>
    (choice.wire, match billable with
      | none => world
      | some args =>
        { world with legs := ⟨args.callId, tid, args.priceAtomic, choice.wire.paid route⟩ :: world.legs })
  | .settle body, choice, world => request choice.fault (settle · body) (fun _ after => after) world
  | .readAccount account, choice, world =>
    choice.fault.apply (fun world => (accountOf world.ledger account CALL_HISTORY_LIMIT, world)) world
  | .reap, choice, world => ((), { world with ledger := alarm world.ledger choice.now })
  | .answer account reply, _, world => ((), { world with replies := (account, reply) :: world.replies })

abbrev machine : Machine where
  Action := CallAction
  Answer := CallAction.Answer
  Choice := Choice
  World := World
  perform tid action choice world := some (perform tid action choice world)

/-! ## The handlers -/

abbrev CallProg (α : Type) := Throwing CallAction CallAction.Answer α

/-- An action that does not throw. -/
def call (action : CallAction) : CallProg action.Answer := OptionT.lift (Prog.call action)

def askReserve (account : String) (args : CallArgs) : CallProg (Result ReserveOutcome) :=
  OptionT.mk (Prog.call (CallAction.reserve account args))

def askMarkDispatched (callId : String) : CallProg (Result Bool) := OptionT.mk (Prog.call (CallAction.markDispatched callId))

def askSettle (body : SettleBody) : CallProg (Result Settled) := OptionT.mk (Prog.call (CallAction.settle body))

def askUpstreamJson (route : Route) (billable : Option CallArgs) : CallProg (Except UpstreamError (Json × Bool)) := do
  return callUpstreamJson route (← call (.callUpstream route billable))

def commit (callId : String) (chargedAtomic : ℤ) : CallProg (Result Settled) :=
  askSettle ⟨callId, .commit, some (toString chargedAtomic), none⟩

def release (callId reason : String) : CallProg (Result Settled) := askSettle ⟨callId, .release, none, some reason⟩

/-- Take the hold for a call, or end with the answer why not. -/
def beginCall (account : String) (args : CallArgs) : CallProg (Except Reply CallArgs) := do
  match ← askReserve account args with
  | .error e => return .error (ledgerErrorResponse e)
  | .ok held =>
    if held.duplicate then
      match held.call with
      | none => failure
      | some call =>
        return .error (.replayed call.callId call.status call.chip call.model (formatUsd call.charged)
          (formatUsd held.balance))
    else if ¬held.ok then
      return .error (.fail 402 "insufficient_balance" "playground session balance is too low"
        [("balance_remaining", .text (formatUsd held.balance)), ("price_usd", .text (formatUsd args.priceAtomic))])
    else
      -- only `ok` is looked at, not whether the call was still reserved
      match ← Throwing.attempt (askMarkDispatched args.callId) with
      | some (.ok _) => return .ok args
      | _ =>
        let _ ← Throwing.attempt (release args.callId "dispatch_mark_failed")
        return .error (.fail 503 "dispatch_failed" "could not start the call; no charge was made"
          [("call_id", .text args.callId)])

/-- Settle a failed call: commit on proof of payment, and release otherwise. -/
def failCall (callId : String) (e : UpstreamError) (priceAtomic : ℤ) : CallProg Reply := do
  let shouldCommit := e.paymentEvidence = .yes
  let settled ← Throwing.attempt (if shouldCommit then commit callId priceAtomic else release callId e.code)
  let (charged, balance) : ℤ × Option ℤ := match settled with
    | some (.ok settled) => (settled.call.charged, some settled.balance)
    | _ => (0, none)
  return .fail e.status e.code e.message
    ([("call_id", .text callId), ("charged_usd", .text (formatUsd charged))] ++
      (match balance with
        | some balance => [("balance_usd", .text (formatUsd balance))]
        | none => []) ++
      (if shouldCommit then
        [("support_note", .text
          "The upstream provider was paid but did not return a usable result, so this call was charged. Contact support if you would like it reviewed.")]
      else []))

/-- Release a call whose upstream served it without being paid. -/
def releaseUnpaid (callId : String) : CallProg Reply := do
  let settled ← Throwing.attempt (release callId "no_credential_signed")
  return .fail 502 "upstream_unpaid" "the call did not complete a payment; you were not charged"
    ([("call_id", .text callId), ("charged_usd", .text "0.00")] ++
      (match settled with
        | some (.ok settled) => [("balance_usd", .text (formatUsd settled.balance))]
        | _ => []))

/-- Commit a delivered call and answer with what was charged and what is left. -/
def deliver (callId : String) (priceAtomic : ℤ) (reply : String → String → Reply) : CallProg Reply := do
  match ← commit callId priceAtomic with
  | .error e => return ledgerErrorResponse e
  | .ok settled => return reply (formatUsd settled.call.charged) (formatUsd settled.balance)

def handlePlaygroundChat (account : String) (args : CallArgs) (model : String) (route : Route) : CallProg Reply := do
  match ← beginCall account { args with chip := "chat", model := some model } with
  | .error response => return response
  | .ok started =>
    match ← askUpstreamJson route (some started) with
    | .error e => failCall args.callId e args.priceAtomic
    | .ok (completion, paid) =>
      if ¬paid then releaseUnpaid args.callId
      else
        match completion.content.filter (· ≠ "") with
        | none =>
          failCall args.callId ⟨"upstream_empty", 502, "upstream returned no completion", .yes⟩ args.priceAtomic
        | some text => deliver args.callId args.priceAtomic (.chat args.callId text model)

/-- The sentence about the events: from the summary model when it is callable and answers, else the deterministic one. -/
def narrate (raw : Json) (summary : Option Route) : CallProg String := do
  match summary with
  | none => return raw.described
  | some route =>
    if raw.events = 0 then return raw.described
    else
      match ← askUpstreamJson route none with
      | .error _ => return raw.described
      | .ok (completion, _) =>
        let text := trim (completion.content.getD "")
        return if text = [] then raw.described else String.ofList text

def handlePlaygroundBlendActivity (account : String) (args : CallArgs) (route : Route) (summary : Option Route) :
    CallProg Reply := do
  match ← beginCall account { args with chip := "blend-activity", model := none } with
  | .error response => return response
  | .ok started =>
    match ← askUpstreamJson route (some started) with
    | .error e => failCall args.callId e args.priceAtomic
    | .ok (raw, paid) =>
      if ¬paid then releaseUnpaid args.callId
      else
        let summary ← narrate raw summary
        deliver args.callId args.priceAtomic (.blendActivity args.callId summary raw.text)

def handlePlaygroundTxDecode (account : String) (args : CallArgs) (txHash : String) (route : Route) :
    CallProg Reply := do
  match ← beginCall account { args with chip := "tx-decode", model := none } with
  | .error response => return response
  | .ok started =>
    match ← askUpstreamJson route (some started) with
    | .error e => failCall args.callId e args.priceAtomic
    | .ok (result, paid) =>
      if ¬paid then releaseUnpaid args.callId
      else deliver args.callId args.priceAtomic (.txDecode args.callId txHash result.text)

def handlePlaygroundSession (account : String) : CallProg Reply := do
  let (balance, calls) ← OptionT.mk (Prog.call (CallAction.readAccount account))
  return .session (maskAccount account) (formatUsd balance) ((calls.take CALL_HISTORY_LIMIT).map fun c =>
    ⟨c.callId, c.chip, c.model, c.status, formatUsd c.charged, c.at_⟩)

/-! ## The parties -/

/-- A request of an account whose body has passed its checks, or a run of the reaper. -/
inductive Party where
  | chat (account : String) (args : CallArgs) (model : String) (route : Route)
  | blendActivity (account : String) (args : CallArgs) (route : Route) (summary : Option Route)
  | txDecode (account : String) (args : CallArgs) (txHash : String) (route : Route)
  | session (account : String)
  /-- A request that is refused before its hold. -/
  | refused (account : String) (reply : Reply)
  | reaper
  | idle

/-- The account that a request was authenticated for. -/
def Party.account : Party → String
  | .chat account _ _ _ | .blendActivity account _ _ _ | .txDecode account _ _ _ | .session account
  | .refused account _ => account
  | .reaper | .idle => ""

/-- Answer with what a handler ends with, an exception included. -/
def respond (account : String) (handler : CallProg Reply) : Prog CallAction CallAction.Answer Unit := do
  let reply ← handler.run
  Prog.call (CallAction.answer account reply)

def Party.program : Party → Prog CallAction CallAction.Answer Unit
  | .chat account args model route => respond account (handlePlaygroundChat account args model route)
  | .blendActivity account args route summary =>
    respond account (handlePlaygroundBlendActivity account args route summary)
  | .txDecode account args txHash route => respond account (handlePlaygroundTxDecode account args txHash route)
  | .session account => respond account (handlePlaygroundSession account)
  | .refused account reply => respond account (pure reply)
  | .reaper => Prog.call CallAction.reap
  | .idle => pure ()

/-- Any number of requests and reaper runs, beside one ledger. -/
def serving (ledger : Storage) (parties : ℕ → Party) : machine.Config :=
  ⟨World.opened ledger, fun tid => (parties tid).program⟩

end MppRouter.Playground.Prepaid
