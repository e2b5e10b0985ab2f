import MppRouter.Proxy.MerchantLeg
import MppRouter.Proxy.JobStatus

/-! # One credential for each x402 payload

A payload is reserved by a read and a write of an eventually consistent store, and given free again when the
merchant leg fails. So a request may find free what another has reserved or is about to reserve, and a payload
may be given free after a credential was signed for it. Where neither happens a payload buys one credential.
-/

namespace MppRouter.Proxy

open Concurrent Machine Throwing Typestate List Function

/-- The merchant holds at most one credential for each payload. -/
def World.OneCredential (world : World) (payloadHash : String) : Prop :=
  (world.credentials.filter fun credential => credential.payload = some payloadHash).length ≤ 1

/-- No credential was signed for the payload. -/
def World.Unspent (world : World) (payloadHash : String) : Prop :=
  ∀ credential ∈ world.credentials, credential.payload ≠ some payloadHash

instance (world : World) (payloadHash : String) : Decidable (world.Unspent payloadHash) :=
  inferInstanceAs (Decidable (∀ credential ∈ world.credentials, credential.payload ≠ some payloadHash))

/-! ## The phases of a request -/

inductive NoncePhase where
  | idle
  | looked (payloadHash : String)
  | holding (payloadHash : String)
  | signed (payloadHash : String)
  deriving DecidableEq, Repr

namespace NoncePhase

def allowed : NoncePhase → Action → Prop
  | phase, .getNonce _ => phase = .idle
  | phase, .putNonce payloadHash => phase = .looked payloadHash
  | phase, .deleteNonce payloadHash => phase = .holding payloadHash ∨ phase = .signed payloadHash
  | phase, .signCredential payload _ => ∃ payloadHash, payload = some payloadHash ∧ phase = .holding payloadHash
  | _, _ => True

def next : NoncePhase → (action : Action) → action.Answer → NoncePhase
  | _, .getNonce payloadHash, some false => .looked payloadHash
  | _, .putNonce payloadHash, some () => .holding payloadHash
  | _, .putNonce _, none => .idle
  | _, .deleteNonce _, _ => .idle
  | .holding payloadHash, .signCredential _ _, true => .signed payloadHash
  | phase, _, _ => phase

end NoncePhase

def nonceFlow : Typestate proxyMachine where
  Phase := NoncePhase
  allowed := NoncePhase.allowed
  next := NoncePhase.next

/-- An action that has to do with no payload. -/
def Action.plain : Action → Prop
  | .getNonce _ | .putNonce _ | .deleteNonce _ | .signCredential _ _ => False
  | _ => True

theorem plain_stays {phase : NoncePhase} (action : Action) (plain : action.plain) :
    nonceFlow.allowed phase action ∧ ∀ answer, nonceFlow.next phase action answer = phase := by
  cases action with
  | getNonce | putNonce | deleteNonce | signCredential => cases plain
  | _ => exact ⟨trivial, fun _ => rfl⟩

def Action.apart : Action → Prop
  | .settleAndRecord _ => False
  | action => action.plain

/-- What lets a payload in. -/
def Action.letsIn : Action → Prop
  | .getNonce _ | .putNonce _ | .deleteNonce _ | .getReplay _ | .verifyWithFacilitator _ | .bumpDailyLimit => True
  | _ => False

/-- What a request with a payload performs. -/
def Action.ofX402 : Action → Prop
  | .signCredential .. | .settleAndRecord _ | .putReplay .. => True
  | action => action.letsIn ∨ action.callsMerchant

def x402Flow (kind : Action → Prop) : Typestate proxyMachine :=
  nonceFlow.relax fun phase action => nonceFlow.allowed phase action ∧ kind action

/-! ## The walk of a request -/

theorem payMerchant_nonce {payloadHash : String} {pick : Pick} (route : Route) (quote : Challenge) :
    (x402Flow Action.ofX402).Follows (payMerchantAndGetBody pick (some payloadHash) route quote).run
      (fun _ after => after = .holding payloadHash ∨ after = .signed payloadHash) (.holding payloadHash) := by
  refine ((payMerchantAndGetBody_follows route quote).simulate
    (fun (signed : Bool) phase => phase = if signed then NoncePhase.signed payloadHash else .holding payloadHash) ?_ rfl).mono ?_
  · rintro signed _ action rfl (calls | ⟨rfl, amount, rfl⟩)
    · cases action <;> first | exact ⟨⟨trivial, .inr calls⟩, fun _ => rfl⟩ | exact calls.elim
    · refine ⟨⟨⟨payloadHash, rfl, rfl⟩, trivial⟩, fun done => ?_⟩
      cases done <;> rfl
  · rintro _ after ⟨signed, -, rfl⟩
    cases signed
    · exact .inl rfl
    · exact .inr rfl

namespace X402Request

variable (request : X402Request) {pick : Pick} {payloadHash : String}

/-- What an x402 caller is told of an asynchronous reply; nothing of one that delivers. -/
def asyncAnswer (body : MerchantBody) (merchantStatus : ℕ) : Option Response :=
  match isAsyncJobResponse merchantStatus body with
  | (false, _) => none
  | (true, none) => some { status := 202, body := .merchant body.text }
  | (true, some _) =>
    some (Response.error 401 "Async jobs require a Stellar payment credential to bind ownership")

/-- A job to poll is refused for want of an account, and every other reply is taken as it is. -/
theorem handleAsyncJob_eq (body : MerchantBody) (merchantStatus : ℕ) :
    request.asyncCall.handleAsyncJob body merchantStatus = pure (asyncAnswer body merchantStatus) := by
  unfold AsyncCall.handleAsyncJob asyncAnswer
  have unnamed : request.asyncCall.auth.extractStellarAddress = none :=
    AuthHeader.extract_of_x402 request.auth request.classified
  generalize isAsyncJobResponse merchantStatus body = async
  rcases async with ⟨_ | _, _ | jobId⟩
  · rfl
  · rfl
  · rfl
  · simp only [unnamed]

theorem deliver_nonce :
    (x402Flow Action.ofX402).Follows (request.deliver pick payloadHash).run anyhow (.holding payloadHash) := by
  unfold deliver
  apply Follows.seq
  refine (payMerchant_nonce request.route request.quote).mono fun result phase reached => ?_
  rcases result with _ | ⟨reason, status, error⟩ | ⟨body, merchantStatus⟩
  · trivial
  · exact follows_ask ⟨reached, .inl trivial⟩ fun _ => trivial
  · dsimp only
    rw [X402Request.handleAsyncJob_eq]
    apply Follows.seq
    generalize asyncAnswer body merchantStatus = answer
    cases answer with
    | none =>
      exact follows_ask ⟨trivial, trivial⟩ fun _ => follows_ask ⟨trivial, trivial⟩ fun _ => trivial
    | some response =>
      exact follows_ask ⟨trivial, trivial⟩ fun _ => trivial

/-- A payload is checked in the phase of its reservation. -/
theorem verified_nonce {phase : NoncePhase} :
    (x402Flow Action.letsIn).Follows (request.verified payloadHash).run (fun _ after => after = phase) phase := by
  unfold verified
  refine follows_ask ⟨trivial, trivial⟩ fun refused => ?_
  cases refused with
  | some status => rfl
  | none =>
    show (x402Flow _).Follows (consumeRateLimitSlotOrReject request.route).run _ _
    unfold consumeRateLimitSlotOrReject
    split
    · apply Follows.seq
      refine ⟨⟨trivial, trivial⟩, fun used => ?_⟩
      cases used <;> rfl
    · rfl

theorem letIn_nonce : (x402Flow Action.letsIn).Follows request.letIn.run (fun result after =>
    ∀ payloadHash, result = some (.ok payloadHash) → after = .holding payloadHash) .idle := by
  unfold letIn
  split
  · nofun
  · rename_i payloadHash _
    apply Follows.seq
    refine ⟨⟨rfl, trivial⟩, fun existing => ?_⟩
    rcases existing with _ | _ | _
    · nofun
    · apply Follows.seq
      refine ⟨⟨rfl, trivial⟩, fun reserved => ?_⟩
      cases reserved with
      | none => nofun
      | some _ =>
        apply Follows.seq
        refine request.verified_nonce.mono fun refused phase same => ?_
        subst same
        rcases refused with _ | _ | rejected
        · nofun
        · rintro other ⟨⟩
          rfl
        · apply follows_ask
          · exact ⟨.inl rfl, trivial⟩
          · nofun
    · apply Follows.seq
      refine ⟨⟨trivial, trivial⟩, fun stored => ?_⟩
      rcases stored with _ | _ | response <;> nofun

theorem handle_nonce : (x402Flow Action.ofX402).Follows (request.handle pick).run anyhow .idle := by
  have letsIn : ∀ (action : Action), action.letsIn → action.ofX402 := by
    intro action lets
    cases action <;> first | exact .inl lets | trivial
  have admits : (x402Flow Action.ofX402).Follows request.letIn.run (fun result after =>
      ∀ payloadHash, result = some (.ok payloadHash) → after = .holding payloadHash) .idle :=
    @Follows.relax _ (x402Flow Action.letsIn) _ _ _ _ (x402Flow Action.ofX402).allowed
      (fun phase action => And.imp_right (letsIn action)) request.letIn_nonce
  unfold handle
  apply Follows.seq
  refine admits.mono fun result phase reached => ?_
  rcases result with _ | response | payloadHash
  · trivial
  · trivial
  · rw [reached payloadHash rfl]
    exact request.deliver_nonce

end X402Request

/-! ## The protocol -/

/-- A payload that a credential was signed for stays admitted for one request. -/
structure SpentOnce (world : World) : Prop where
  once : ∀ payloadHash, world.OneCredential payloadHash
  held : ∀ payloadHash, world.admitted payloadHash = none → world.Unspent payloadHash

/-- A request leaves alone what another was admitted for. -/
structure Reserves (tid : ℕ) (before after : World) : Prop where
  admitted : ∀ payloadHash owner, before.admitted payloadHash = some owner → owner ≠ tid →
    after.admitted payloadHash = some owner
  unspent : ∀ payloadHash, before.Unspent payloadHash → before.admitted payloadHash ≠ some tid →
    after.Unspent payloadHash

def oneCredential : Protocol proxyMachine := ⟨SpentOnce, Reserves⟩

/-- A reservation is found free only when no request holds it or is about to, and is given free only when no
credential was signed for the payload. -/
def reservedTruly : proxyMachine.Admits := fun _ action choice world =>
  match action with
  | .getNonce payloadHash => choice.fault = .none → ((world.nonces payloadHash)[choice.stale]?).getD false = false →
      world.admitted payloadHash = none
  | .deleteNonce payloadHash => choice.fault ≠ .failed → world.Unspent payloadHash
  | _ => True

def NonceKnows (tid : ℕ) (phase : NoncePhase) (world : World) : Prop :=
  match phase with
  | .idle => True
  | .looked payloadHash | .holding payloadHash =>
    world.admitted payloadHash = some tid ∧ world.Unspent payloadHash
  | .signed payloadHash => world.admitted payloadHash = some tid

theorem NonceKnows.stable {tid : ℕ} (phase : NoncePhase) : oneCredential.Stable tid (NonceKnows tid phase) := by
  rintro other before after distinct - - reserves knows
  have kept : ∀ payloadHash, before.admitted payloadHash = some tid → after.admitted payloadHash = some tid :=
    fun payloadHash mine => reserves.admitted payloadHash tid mine (Ne.symm distinct)
  have clean : ∀ payloadHash, before.admitted payloadHash = some tid → before.Unspent payloadHash →
      after.Unspent payloadHash := by
    intro payloadHash mine unspent
    apply reserves.unspent payloadHash unspent
    rw [mine]
    simpa using Ne.symm distinct
  cases phase with
  | idle => trivial
  | looked payloadHash => exact ⟨kept _ knows.1, clean _ knows.1 knows.2⟩
  | holding payloadHash => exact ⟨kept _ knows.1, clean _ knows.1 knows.2⟩
  | signed payloadHash => exact kept _ knows

section Steps

variable {tid : ℕ} {phase : NoncePhase} {world after : World} {choice : Choice}

/-- What neither concerns a payload nor settles one. -/
theorem apart_keeps {action : Action} {answer : action.Answer}
    (performed : perform tid action choice world = some (answer, after)) (apart : action.apart) :
    after.admitted = world.admitted ∧ after.credentials = world.credentials ∧ after.settled = world.settled := by
  cases action with
  | getNonce | putNonce | deleteNonce | signCredential | settleAndRecord => cases apart
  | verifyVoucher =>
    simp only [perform] at performed
    split at performed
    · cases performed
      exact ⟨rfl, rfl, rfl⟩
    · split at performed
      · cases fault : choice.fault <;> simp only [fault, Fault.apply] at performed <;> cases performed <;>
          exact ⟨rfl, rfl, rfl⟩
      · cases performed
  | createRefund =>
    simp only [perform] at performed
    split at performed
    · cases performed
      exact ⟨rfl, rfl, rfl⟩
    · cases fault : choice.fault <;> simp only [fault, Fault.apply] at performed <;> cases performed <;>
        exact ⟨rfl, rfl, rfl⟩
  | rollbackCumulative =>
    cases fault : choice.fault <;> simp only [perform, fault, Fault.apply, World.rollback] at performed <;>
      cases performed <;> first | exact ⟨rfl, rfl, rfl⟩ | (split <;> exact ⟨rfl, rfl, rfl⟩)
  | releaseLock =>
    cases fault : choice.fault <;> simp only [perform, fault, Fault.apply, World.releaseLock] at performed <;>
      cases performed <;> first | exact ⟨rfl, rfl, rfl⟩ | (split <;> exact ⟨rfl, rfl, rfl⟩)
  | _ =>
    cases fault : choice.fault <;> simp only [perform, fault, Fault.apply] at performed <;> cases performed <;>
      first | exact ⟨rfl, rfl, rfl⟩ | (split <;> exact ⟨rfl, rfl, rfl⟩)

theorem plain_keeps {action : Action} {answer : action.Answer}
    (performed : perform tid action choice world = some (answer, after)) (plain : action.plain) :
    after.admitted = world.admitted ∧ after.credentials = world.credentials := by
  cases action with
  | getNonce | putNonce | deleteNonce | signCredential => cases plain
  | settleAndRecord =>
    cases performed
    exact ⟨rfl, rfl⟩
  | _ => exact (apart_keeps performed trivial).imp_right And.left

/-- A step that signs nothing and admits nobody keeps the protocol, and what the thread knows. -/
theorem still_step (spent : SpentOnce world) (knows : NonceKnows tid phase world)
    (admitted : after.admitted = world.admitted) (credentials : after.credentials = world.credentials) :
    SpentOnce after ∧ Reserves tid world after ∧ NonceKnows tid phase after := by
  have unspent : ∀ payloadHash, after.Unspent payloadHash ↔ world.Unspent payloadHash := by
    intro payloadHash
    simp only [World.Unspent, credentials]
  refine ⟨⟨?_, ?_⟩, ⟨?_, ?_⟩, ?_⟩
  · intro payloadHash
    simp only [World.OneCredential, credentials]
    exact spent.once payloadHash
  · intro payloadHash free
    rw [admitted] at free
    exact (unspent payloadHash).mpr (spent.held payloadHash free)
  · intro payloadHash owner owned _
    rwa [admitted]
  · intro payloadHash clean _
    exact (unspent payloadHash).mpr clean
  · cases phase <;> simp only [NonceKnows, admitted, unspent] at knows ⊢ <;> exact knows

variable {payloadHash : String}

/-- The thread that owns a payload with no credential, or finds it free, says anew who is admitted for it. -/
theorem admit_step {owner : Option ℕ} (spent : SpentOnce world)
    (free : ∀ other, world.admitted payloadHash = some other → other = tid)
    (clean : world.Unspent payloadHash)
    (admitted : after.admitted = update world.admitted payloadHash owner)
    (credentials : after.credentials = world.credentials) : SpentOnce after ∧ Reserves tid world after := by
  have unspent : ∀ payloadHash, after.Unspent payloadHash ↔ world.Unspent payloadHash := by
    intro payloadHash
    simp only [World.Unspent, credentials]
  refine ⟨⟨?_, ?_⟩, ⟨?_, ?_⟩⟩
  · intro other
    simp only [World.OneCredential, credentials]
    exact spent.once other
  · intro other none_
    rw [unspent]
    by_cases same : other = payloadHash
    · rw [same]
      exact clean
    · rw [admitted, update_of_ne same] at none_
      exact spent.held other none_
  · intro other holder owned distinct
    have apart : other ≠ payloadHash := by
      rintro rfl
      exact distinct (free holder owned)
    rw [admitted, update_of_ne apart]
    exact owned
  · intro other clean _
    exact (unspent other).mpr clean

theorem only_owner (mine : world.admitted payloadHash = some tid) (other : ℕ)
    (owned : world.admitted payloadHash = some other) : other = tid :=
  Option.some.inj (owned.symm.trans mine)

theorem sign_step {amount : ℤ} (spent : SpentOnce world) (knows : NonceKnows tid (.holding payloadHash) world)
    (admitted : after.admitted = world.admitted)
    (credentials : after.credentials = ⟨some payloadHash, amount⟩ :: world.credentials) :
    SpentOnce after ∧ Reserves tid world after ∧ NonceKnows tid (.signed payloadHash) after := by
  obtain ⟨mine, clean⟩ := knows
  have others : ∀ other, other ≠ payloadHash → (after.Unspent other ↔ world.Unspent other) := by
    intro other distinct
    simp [World.Unspent, credentials, Ne.symm distinct]
  refine ⟨⟨?_, ?_⟩, ⟨?_, ?_⟩, ?_⟩
  · intro other
    by_cases same : other = payloadHash
    · subst same
      have none_ : world.credentials.filter (fun credential => credential.payload = some other) = [] := by
        rw [filter_eq_nil_iff]
        intro credential member
        simpa using clean credential member
      simp [World.OneCredential, credentials, none_]
    · have kept := spent.once other
      simpa [World.OneCredential, credentials, Ne.symm same] using kept
  · intro other free
    rw [admitted] at free
    have distinct : other ≠ payloadHash := by
      rintro rfl
      rw [mine] at free
      cases free
    exact (others other distinct).mpr (spent.held other free)
  · intro other owner owned _
    rwa [admitted]
  · intro other clean apart
    have distinct : other ≠ payloadHash := by
      rintro rfl
      exact apart mine
    exact (others other distinct).mpr clean
  · show after.admitted payloadHash = some tid
    rwa [admitted]

theorem nonce_keeps (tid : ℕ) : nonceFlow.Keeps oneCredential reservedTruly tid (NonceKnows tid) where
  stable := NonceKnows.stable
  step := by
    intro phase action allowed world spent knows choice answer after admits performed
    by_cases plain : action.plain
    · obtain ⟨admitted, credentials⟩ := plain_keeps performed plain
      obtain ⟨spent, reserves, knows⟩ := still_step spent knows admitted credentials
      have stays : NoncePhase.next phase action answer = phase := (plain_stays action plain).2 answer
      refine ⟨spent, reserves, ?_⟩
      show NonceKnows tid (NoncePhase.next phase action answer) after
      rw [stays]
      exact knows
    cases action with
    | getNonce payloadHash =>
      cases (show phase = .idle from allowed)
      simp only [perform, Fault.answered] at performed
      by_cases works : choice.fault = .none
      · cases found : ((world.nonces payloadHash)[choice.stale]?).getD false with
        | true =>
          simp only [works, found, if_true, Bool.true_eq_false, and_false, if_false] at performed
          cases performed
          exact still_step spent knows rfl rfl
        | false =>
          simp only [works, found, if_true, and_self] at performed
          cases performed
          have free : world.admitted payloadHash = none := admits works found
          have clean := spent.held payloadHash free
          have nobody : ∀ other, world.admitted payloadHash = some other → other = tid := by
            intro other owned
            rw [free] at owned
            cases owned
          exact and_assoc.mp ⟨admit_step spent nobody clean rfl rfl, update_self .., clean⟩
      · simp only [works, false_and, if_false] at performed
        cases performed
        exact still_step spent knows rfl rfl
    | putNonce payloadHash =>
      cases (show phase = .looked payloadHash from allowed)
      obtain ⟨mine, clean⟩ := knows
      cases fault : choice.fault with
      | none =>
        simp only [perform, fault, Fault.apply] at performed
        cases performed
        exact @still_step tid (.holding payloadHash) _ _ spent ⟨mine, clean⟩ rfl rfl
      | lost =>
        simp only [perform, fault, Fault.apply] at performed
        cases performed
        exact @still_step tid .idle _ _ spent trivial rfl rfl
      | failed =>
        simp only [perform, fault] at performed
        cases performed
        exact and_assoc.mp ⟨admit_step spent (only_owner mine) clean rfl rfl, trivial⟩
    | deleteNonce payloadHash =>
      have mine : world.admitted payloadHash = some tid := by
        rcases (show phase = .holding payloadHash ∨ phase = .signed payloadHash from allowed) with rfl | rfl
        · exact knows.1
        · exact knows
      simp only [perform] at performed
      by_cases works : choice.fault = .failed
      · simp only [works, if_true] at performed
        cases performed
        exact @still_step tid .idle _ _ spent trivial rfl rfl
      · simp only [works, if_false] at performed
        cases performed
        exact and_assoc.mp ⟨admit_step spent (only_owner mine) (admits works) rfl rfl, trivial⟩
    | signCredential payload amount =>
      obtain ⟨payloadHash, rfl, rfl⟩ := allowed
      simp only [perform] at performed
      cases signed : choice.flag with
      | false =>
        simp only [signed, Bool.false_eq_true, if_false] at performed
        cases performed
        exact still_step spent knows rfl rfl
      | true =>
        simp only [signed, if_true] at performed
        cases performed
        exact sign_step spent knows rfl rfl
    | _ => exact absurd trivial plain

end Steps

/-! ## Runs -/

/-- These requests arrive, in a world in which nothing has happened. -/
def x402Requests (pick : Pick) (requests : ℕ → Option X402Request) : proxyMachine.Config :=
  ⟨World.start, fun tid => ((requests tid).elim Party.idle Party.x402).program pick⟩

theorem one_credential_truly {pick : Pick} {requests : ℕ → Option X402Request} {after : proxyMachine.Config}
    (run : Run reservedTruly (x402Requests pick requests) after) (payloadHash : String) :
    after.world.OneCredential payloadHash := by
  have spent : SpentOnce World.start := ⟨fun _ => Nat.zero_le _, fun _ _ _ member => nomatch member⟩
  have follows (tid : ℕ) : nonceFlow.Follows (((requests tid).elim Party.idle Party.x402).program pick) anyhow
      .idle := by
    cases requests tid with
    | none => trivial
    | some request =>
      have follows : nonceFlow.Follows (request.handle pick).run anyhow .idle :=
        request.handle_nonce.relax fun _ _ => And.left
      exact Follows.bind follows.loose
  have kept : SpentOnce after.world :=
    @Typestate.sound proxyMachine nonceFlow reservedTruly NonceKnows oneCredential nonce_keeps
      (x402Requests pick requests) after anyhow .idle spent (fun _ => trivial) follows run
  exact kept.once payloadHash

/-! ## Two requests with one payload -/

instance (tid : ℕ) (action : Action) (choice : Choice) (world : World) :
    Decidable (reservedTruly tid action choice world) := by
  unfold reservedTruly
  cases action <;> infer_instance

/-- The same payload, twice. -/
def racing : ℕ → Option X402Request
  | 0 | 1 => some
    { route := { id := "chat", upstreamHost := "chat.example" }, auth := ⟨none, true⟩, classified := by decide
      quote := priced "10000", decoded := .ok { payloadHash := "payload", signed := 100000, payer := none } }
  | _ => none

/-- The merchant asks for the quoted amount. -/
def asking : Choice := { unpaid := .challenged [priced "10000"], flag := true }

/-- Both requests look before either reserves, and both pay. -/
def raced : List (ℕ × Choice) := [(0, asking), (1, asking)] ++ replicate 4 (0, asking) ++ replicate 4 (1, asking)

theorem racing_payload_pays_twice : ∃ after,
    Run (unrestricted proxyMachine) (x402Requests head? racing) after ∧
      ¬ after.world.OneCredential "payload" := by
  obtain ⟨after, run, passed⟩ := Config.exec_reaches (unrestricted proxyMachine)
    (x402Requests head? racing) raced
    (fun world => 1 < (world.credentials.filter fun credential => credential.payload = some "payload").length) rfl
  refine ⟨after, run, ?_⟩
  have twice := of_decide_eq_true passed
  unfold World.OneCredential
  omega

/-- The second request finds the reservation of the first. -/
def turnedAway : List (ℕ × Choice) := replicate 5 (0, asking) ++ replicate 2 (1, asking)

theorem one_credential_turned_away : ∃ after, Run reservedTruly (x402Requests head? racing) after ∧
      after.world.credentials = [⟨some "payload", 10000⟩] ∧ after.world.OneCredential "payload" := by
  obtain ⟨after, run, passed⟩ := Config.exec_reaches reservedTruly (x402Requests head? racing) turnedAway
    (fun world => world.credentials = [⟨some "payload", 10000⟩]) rfl
  exact ⟨after, run, of_decide_eq_true passed, one_credential_truly run "payload"⟩

end MppRouter.Proxy
