import MppRouter.Proxy.NonceReservation

/-! # When an x402 payload is settled

The payload is submitted on chain after the merchant's reply was accepted, whatever answer the call then
gets. An x402 credential names no account that a job could be bound to, so a reply that is a job to poll is
refused to the caller and settled all the same.
-/

namespace MppRouter.Proxy

open Concurrent Machine Throwing Routes List

/-! ## What is owed for a settlement -/

/-- A job record that the payer can poll is stored. -/
def World.Pollable (world : World) (payer : Option String) (jobId : String) : Prop :=
  ∃ record, (jobId, record) ∈ world.acceptedJobs ∧ payer = some record.stellarAddress

/-- A non-blank answer, or a job that the payer can poll. -/
def Response.Delivers (response : Response) (world : World) (payer : Option String) : Prop :=
  (response.status = 200 ∧ ∃ body : MerchantBody, response.body = .merchant body.text ∧ body.blank = false) ∨
    (response.status = 202 ∧ (∃ text, response.body = .merchant text) ∧
      ∀ jobId, response.jobId = some jobId → world.Pollable payer jobId)

/-- A reply that is no job to poll, and not blank unless it is the merchant's own 202. -/
def PlainReply (body : MerchantBody) (merchantStatus : ℕ) : Prop :=
  match isAsyncJobResponse merchantStatus body with
  | (true, some _) => False
  | (true, none) => True
  | (false, _) => body.blank = false

theorem content_delivers (body : MerchantBody) {world : World} {payer : Option String} :
    Response.Delivers { status := 200, body := .merchant body.text } world payer ↔ body.blank = false := by
  constructor
  · rintro (⟨-, other, same, written⟩ | ⟨status, -⟩)
    · have text : body.text = other.text := by simpa using same
      unfold MerchantBody.blank at written ⊢
      rwa [text]
    · cases status
  · intro written
    exact .inl ⟨rfl, body, rfl, written⟩

namespace X402Request

variable (request : X402Request) {weather : Weather proxyMachine} {tid : ℕ} {pick : Pick} {world after : World}

def payer : Option String :=
  match request.decoded with
  | .ok payload => payload.payer
  | .error _ => none

/-- A call that settles answers with what the settlement pays for. -/
def SettlesForDelivery (before : World) (result : Option Response) (after : World) : Prop :=
  after.settled ≠ before.settled → ∃ response, result = some response ∧ response.Delivers after request.payer

/-- The reply that the merchant leg accepts, in a call that gets so far. -/
def Accepts (weather : Weather proxyMachine) (tid : ℕ) (pick : Pick) (world : World) (body : MerchantBody)
    (merchantStatus : ℕ) : Prop :=
  ∃ payloadHash admitted paid, Ends weather tid request.letIn world (some (.ok payloadHash)) admitted ∧
    Ends weather tid (payMerchantAndGetBody pick (some payloadHash) request.route request.quote) admitted
      (some (.ok body merchantStatus)) paid

/-! ## Before and after the settlement -/

def unsettling (action : Action) : Prop := ∀ payloadHash, action ≠ .settleAndRecord payloadHash

theorem unsettling_keeps (action : Action) (choice : Choice) (world : World) (answer : action.Answer) (after : World)
    (kind : unsettling action) (performed : perform tid action choice world = some (answer, after)) :
    world.settled = after.settled := by
  cases action with
  | settleAndRecord payloadHash => exact absurd rfl (kind payloadHash)
  | getNonce | putNonce | deleteNonce | signCredential =>
    cases fault : choice.fault <;> simp only [perform, fault, Fault.apply] at performed <;> cases performed <;>
      first | rfl | (split <;> rfl)
  | _ => exact (apart_keeps performed trivial).2.2.symm

theorem letIn_unsettled {result : Option (Except Response String)}
    (ended : Ends weather tid request.letIn world result after) : world.settled = after.settled :=
  under_keeps (fun world after : World => world.settled = after.settled) (fun _ => rfl) (fun _ _ _ => Eq.trans)
    (fun action choice world answer after => unsettling_keeps action choice world answer after)
    ended (request.letIn_nonce.performs fun _ action allowed => by rintro payloadHash rfl; exact allowed.2.elim)

variable {result : Option Response} {payloadHash : String}

/-- What a call does once the merchant's reply was accepted. -/
theorem deliver_accepted {body : MerchantBody} {merchantStatus : ℕ} {paid : World}
    (accepted : Ends weather tid (payMerchantAndGetBody pick (some payloadHash) request.route request.quote) world
      (some (.ok body merchantStatus)) paid)
    (ended : Ends weather tid (request.deliver pick payloadHash) world result after) :
    after.settled = payloadHash :: world.settled ∧
      ∃ response, result = some response ∧ (response.Delivers after request.payer ↔ PlainReply body merchantStatus) := by
  unfold deliver at ended
  rcases ended.bind with ⟨value, middle, ran, rest⟩ | ⟨threw, -⟩
  · obtain ⟨same, rfl⟩ := Ends.unique ran accepted
    cases same
    obtain ⟨credentials, rfl⟩ := payMerchantAndGetBody_sameBooks ran
    rcases Ends.bind rest with ⟨job, handled, async, tail⟩ | ⟨threw, -⟩
    · rw [handleAsyncJob_eq] at async
      obtain ⟨shape, rfl⟩ := Ends.pure async
      unfold asyncAnswer at shape
      unfold PlainReply
      generalize isAsyncJobResponse merchantStatus body = reply at shape ⊢
      rcases reply with ⟨_ | _, _ | jobId⟩ <;> cases shape
      · cases tail
        exact ⟨rfl, _, rfl, content_delivers body⟩
      · cases tail
        exact ⟨rfl, _, rfl, content_delivers body⟩
      · cases tail
        refine ⟨rfl, _, rfl, iff_of_true (.inr ⟨rfl, ⟨_, rfl⟩, nofun⟩) trivial⟩
      · cases tail
        refine ⟨rfl, _, rfl, iff_of_false ?_ id⟩
        rintro (⟨status, -⟩ | ⟨status, -⟩) <;> cases status
    · rw [handleAsyncJob_eq] at threw
      cases (Ends.pure threw).1
  · cases (Ends.unique threw accepted).1

/-- The merchant leg ends, whatever becomes of the call. -/
theorem deliver_replies (ended : Ends weather tid (request.deliver pick payloadHash) world result after) :
    ∃ reply paid, Ends weather tid (payMerchantAndGetBody pick (some payloadHash) request.route request.quote) world
      reply paid := by
  unfold deliver at ended
  rcases ended.bind with ⟨value, middle, ran, -⟩ | ⟨threw, -⟩
  · exact ⟨some value, middle, ran⟩
  · exact ⟨none, after, threw⟩

theorem deliver_refused {paid : World}
    {reply : Option MerchantPayResult} (refused : ∀ body merchantStatus, reply ≠ some (.ok body merchantStatus))
    (replied : Ends weather tid (payMerchantAndGetBody pick (some payloadHash) request.route request.quote) world
      reply paid) (ended : Ends weather tid (request.deliver pick payloadHash) world result after) :
    after.settled = world.settled := by
  obtain ⟨credentials, rfl⟩ := payMerchantAndGetBody_sameBooks replied
  unfold deliver at ended
  rcases ended.bind with ⟨value, middle, ran, rest⟩ | ⟨threw, -⟩
  · obtain ⟨rfl, rfl⟩ := Ends.unique ran replied
    cases value with
    | ok body merchantStatus => exact absurd rfl (refused body merchantStatus)
    | error refundReason status error =>
      cases rest
      split <;> rfl
  · obtain ⟨-, rfl⟩ := Ends.unique threw replied
    rfl

/-- A settlement is answered by what it pays for exactly when the reply that the merchant leg accepts is no job
to poll, and not blank unless it is the merchant's own 202. -/
theorem settles_for_delivery_iff {result : Option Response}
    (ended : Ends weather tid (request.handle pick) world result after) :
    request.SettlesForDelivery world result after ↔
      ∀ body merchantStatus, request.Accepts weather tid pick world body merchantStatus →
        PlainReply body merchantStatus := by
  unfold handle at ended
  rcases ended.bind with ⟨admission, admitted, admits, rest⟩ | ⟨threw, rfl⟩
  · cases admission with
    | error response =>
      obtain ⟨-, rfl⟩ := Ends.pure rest
      refine iff_of_true (fun settles => absurd (request.letIn_unsettled admits).symm settles) ?_
      rintro body merchantStatus ⟨payloadHash, _, _, passes, -⟩
      cases (Ends.unique passes admits).1
    | ok payloadHash =>
      have before := request.letIn_unsettled admits
      obtain ⟨reply, paid, replied⟩ := request.deliver_replies rest
      by_cases accepted : ∃ body merchantStatus, reply = some (.ok body merchantStatus)
      · obtain ⟨body, merchantStatus, rfl⟩ := accepted
        obtain ⟨settled, response, rfl, delivers⟩ := request.deliver_accepted replied rest
        constructor
        · rintro settles body' merchantStatus' ⟨_, _, _, passes, accepts⟩
          obtain ⟨same, rfl⟩ := Ends.unique passes admits
          cases same
          cases (Ends.unique accepts replied).1
          have moved : after.settled ≠ world.settled := by
            rw [settled, before]
            exact cons_ne_self _ _
          obtain ⟨_, same, delivered⟩ := settles moved
          cases same
          exact delivers.mp delivered
        · intro plain _
          exact ⟨response, rfl, delivers.mpr (plain body merchantStatus ⟨_, _, _, admits, replied⟩)⟩
      · have refused : ∀ body merchantStatus, reply ≠ some (.ok body merchantStatus) :=
          fun body merchantStatus same => accepted ⟨body, merchantStatus, same⟩
        have unsettled := request.deliver_refused refused replied rest
        refine iff_of_true (fun settles => absurd (unsettled.trans before.symm) settles) ?_
        rintro body merchantStatus ⟨_, _, _, passes, accepts⟩
        obtain ⟨same, rfl⟩ := Ends.unique passes admits
        cases same
        exact absurd (Ends.unique replied accepts).1 (refused body merchantStatus)
  · refine iff_of_true (fun settles => absurd (request.letIn_unsettled threw).symm settles) ?_
    rintro body merchantStatus ⟨payloadHash, _, _, passes, -⟩
    cases (Ends.unique passes threw).1

end X402Request

/-! ## A job that nobody can poll -/

theorem payload_classified : AuthHeader.classifyAuth ⟨none, true⟩ = .x402 := by decide

/-- A call of a route whose credential the router holds, with a payload that pays for the quote. -/
def jobRequest : X402Request where
  route := { id := "video_render", upstreamHost := "render.example", upstreamAuth := true }
  auth := ⟨none, true⟩
  classified := payload_classified
  quote := priced "10000"
  decoded := .ok { payloadHash := "payload", signed := 100000, payer := none }

/-- The merchant queues the work under a job id. -/
def queuedWeather : Weather proxyMachine
  | .fetchMerchant =>
    { merchant := some ⟨200, some ⟨"queued", some { jobId := some ⟨"job", true⟩, status := some "queued" }, none⟩⟩ }
  | _ => {}

/-- The merchant renders at once. -/
def renderedWeather : Weather proxyMachine
  | .fetchMerchant => { merchant := some ⟨200, some { text := "rendered" }⟩ }
  | _ => {}

theorem rendered_settles_for_delivery : ∃ after, Ends renderedWeather 0 (jobRequest.handle head?) World.start
      (some { status := 200, body := .merchant "rendered" }) after ∧
    (jobRequest.SettlesForDelivery World.start (some { status := 200, body := .merchant "rendered" }) after ↔
      ∀ body merchantStatus, jobRequest.Accepts renderedWeather 0 head? World.start body merchantStatus →
        PlainReply body merchantStatus) :=
  ⟨_, rfl, jobRequest.settles_for_delivery_iff
    (show Ends renderedWeather 0 (jobRequest.handle head?) World.start _ _ from rfl)⟩

theorem refused_job_is_settled : ∃ after, Ends queuedWeather 0 (jobRequest.handle head?) World.start
      (some (Response.error 401 "Async jobs require a Stellar payment credential to bind ownership")) after ∧
    ¬ jobRequest.SettlesForDelivery World.start
      (some (Response.error 401 "Async jobs require a Stellar payment credential to bind ownership")) after := by
  refine ⟨_, rfl, ?_⟩
  intro settles
  obtain ⟨_, same, delivered⟩ := settles (by decide)
  cases same
  rcases delivered with ⟨status, -⟩ | ⟨status, -⟩ <;> cases status

end MppRouter.Proxy
