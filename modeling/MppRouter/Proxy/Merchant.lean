import MppRouter.Proxy.TempoLeg
import MppRouter.Refund.Record
import MppRouter.Routes.Coupon

/-! # Merchant answers, credentials and job records

What a proxied call reads of a merchant's answer, of the caller's credential, and what it keeps of an
asynchronous job so that the payer can poll it.
-/

namespace MppRouter.Proxy

open Refund Routes

/-! ## Merchant answers -/

/-- A job id of a JSON body; zero and the empty text are there and count as none. -/
structure JobId where
  text : String
  truthy : Bool
  deriving DecidableEq, Repr

/-- The fields of a JSON body that are read; null counts as absent. -/
structure BodyFields where
  jobId : Option JobId := none
  job_id : Option JobId := none
  id : Option JobId := none
  /-- When it is a text. -/
  status : Option String := none
  /-- What it reads as, converted to a text; an absent or false one reads as nothing. -/
  statusText : String := status.getD ""
  deriving DecidableEq, Repr

/-- The members of `{ success: true, data }` with those of `data` at the top level. -/
structure LiftedData where
  members : String
  fields : BodyFields
  deriving DecidableEq, Repr

structure MerchantBody where
  text : String
  /-- Absent when the text is not a JSON object. -/
  fields : Option BodyFields := none
  /-- When the text is exactly the envelope `{ success: true, data }`, sent as JSON. -/
  envelope : Option LiftedData := none
  deriving DecidableEq, Repr

def MerchantBody.blank (body : MerchantBody) : Bool := body.text.toList.all Decimal.isSpace

def presentMerchantEnvelope (body : MerchantBody) : MerchantBody :=
  match body.envelope with
  | none => body
  | some lifted => { text := "\x7b" ++ lifted.members ++ "\x7d", fields := some lifted.fields }

def isEnvelopeLiftedRoute (routeId : String) : Bool := routeId ∈ ["groq_chat", "deepseek_chat"]

structure MerchantResponse where
  status : ℕ
  /-- Absent when reading the body throws. -/
  body : Option MerchantBody
  deriving DecidableEq, Repr

def MerchantResponse.ok (response : MerchantResponse) : Bool := 200 ≤ response.status ∧ response.status < 300

def pendingJobStatuses : List String :=
  ["queued", "pending", "running", "processing", "in_progress", "in-progress"]

/-- The text agrees with one of the list, up to case. -/
def oneOf (text : String) (texts : List String) : Bool := texts.any fun known => lower text = known.toList

/-- The merchant's work is still in flight, and its job id: a 202 always is, a 200 only when it says so. -/
def isAsyncJobResponse (merchantStatus : ℕ) (body : MerchantBody) : Bool × Option String :=
  let fields := body.fields.getD {}
  let jobId := ((fields.jobId <|> fields.job_id <|> fields.id).filter JobId.truthy).map JobId.text
  if merchantStatus = 202 then (true, jobId)
  else (decide (merchantStatus = 200) && jobId.isSome && fields.status.any (oneOf · pendingJobStatuses), jobId)

/-! ## Router answers -/

inductive RefundStatus where
  | pending | manualReview | voucherNotConsumed | directSettlement
  deriving DecidableEq, Repr

inductive ResponseBody where
  | merchant (text : String)
  | error (error : String)
  deriving DecidableEq, Repr

structure Response where
  status : ℕ
  body : ResponseBody
  /-- The `Refund-Status` header. -/
  refundStatus : Option RefundStatus := none
  /-- The `X-Job-Id` header. -/
  jobId : Option String := none
  deriving DecidableEq, Repr

def Response.error (status : ℕ) (error : String) : Response := ⟨status, .error error, none, none⟩

def Response.marked (response : Response) (refundStatus : RefundStatus) : Response :=
  { response with refundStatus := some refundStatus }

/-- What paying a merchant comes to; an error is answered with a status and a text of the router. -/
inductive MerchantPayResult where
  | error (refundReason : RefundReason) (status : ℕ) (error : String)
  | ok (body : MerchantBody) (merchantStatus : ℕ)
  deriving DecidableEq, Repr

/-! ## Credentials -/

/-- The payment library's credential, as far as it is read. -/
structure Credential where
  method : Option String
  intent : Option String
  source : Option String
  deriving DecidableEq, Repr

/-- A `G` address. -/
def isStellarG (address : String) : Bool :=
  match address.toList with
  | 'G' :: rest => rest.length = 55 ∧ rest.all fun c => ('A' ≤ c ∧ c ≤ 'Z') ∨ ('2' ≤ c ∧ c ≤ '7')
  | _ => false

/-- The segments between colons. -/
def segments (source : String) : List String := (source.toList.splitOn ':').map String.ofList

/-- An authorization header with the `Payment` scheme. -/
structure AuthHeader where
  /-- What the payment library deserializes it to; absent when that throws. -/
  credential : Option Credential
  /-- It is an x402 payload that pays this router's address. -/
  x402ForThisRouter : Bool
  deriving DecidableEq, Repr

namespace AuthHeader

variable (auth : AuthHeader)

/-- The credential names the Stellar method. -/
def stellar : Bool := auth.credential.any fun credential => credential.method.any fun method => lower method = lower "stellar"

inductive Kind where
  | charge | channel | x402 | passthrough
  deriving DecidableEq, Repr

def classifyAuth : Kind :=
  if auth.stellar then
    if auth.credential.any fun credential => credential.intent.any fun intent => lower intent = lower "channel" then
      .channel
    else .charge
  else if auth.x402ForThisRouter then .x402
  else .passthrough

/-- The account of a `did:pkh:stellar` source. -/
def extractStellarAddress : Option String :=
  if auth.stellar then
    (auth.credential.bind Credential.source).bind fun source =>
      match segments source with
      | ["did", "pkh", "stellar", network, account] =>
        if network ≠ "" ∧ isStellarG account then some account else none
      | _ => none
  else none

theorem extract_of_x402 (kind : auth.classifyAuth = .x402) : auth.extractStellarAddress = none := by
  unfold classifyAuth at kind
  unfold extractStellarAddress
  cases stellar : auth.stellar with
  | false => simp
  | true =>
    simp only [stellar, if_true] at kind
    split_ifs at kind

end AuthHeader

/-! ## Asynchronous jobs -/

inductive ChannelAction where
  | voucher | close
  deriving DecidableEq, Repr

structure ChannelDelivery where
  channelContract : String
  lockId : Uuid
  challengeId : String
  acceptedAmount : ℕ
  previousAmount : ℕ
  action : ChannelAction
  deriving DecidableEq, Repr

structure JobAuthRecord where
  stellarAddress : String
  serviceId : String
  upstreamHost : String
  upstreamJobPath : String
  paidAt : ℕ
  paymentProof : Option PaymentProof
  channelDelivery : Option ChannelDelivery
  deriving DecidableEq, Repr

inductive Outcome where
  | delivered | failed
  deriving DecidableEq, Repr

inductive TerminalState where
  | processing | done
  deriving DecidableEq, Repr

structure AsyncTerminal where
  outcome : Outcome
  state : TerminalState
  deriving DecidableEq, Repr

inductive TerminalClaim where
  | conflict | done | retry | claimed
  deriving DecidableEq, Repr

/-- Decide the outcome of an asynchronous job once. -/
def claimTerminal (outcome : Outcome) (current : Option AsyncTerminal) : Mpp.Decision AsyncTerminal TerminalClaim :=
  match current with
  | none => .set ⟨outcome, .processing⟩ .claimed
  | some value =>
    if value.outcome ≠ outcome then .noop .conflict
    else if value.state = .done then .noop .done
    else .noop .retry

/-- What a poll of the merchant says about a failed job. -/
def classifyAsyncFailure (statusCode : ℕ) (body : MerchantBody) : Option RefundReason :=
  if 400 ≤ statusCode ∧ statusCode < 500 then some .nonFulfillment
  else if 500 ≤ statusCode then some .upstream5xx
  else if 200 ≤ statusCode ∧ statusCode < 300 then
    if body.blank then some .emptyResponse
    else if body.fields.any fun fields => oneOf fields.statusText ["failed", "error", "refused", "rejected"] then
      some .nonFulfillment
    else none
  else none

def deliveredStatuses : List String := ["completed", "complete", "succeeded", "success", "done"]

/-- A poll that says that the job was delivered. -/
def saysDelivered (response : MerchantResponse) (body : MerchantBody) : Bool :=
  response.ok && body.fields.any fun fields => oneOf fields.statusText deliveredStatuses

end MppRouter.Proxy
