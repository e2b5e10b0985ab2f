import MppRouter.X402Payer.Requirements

/-! # Reports on expired authorizations

An authorization of a transfer on Base can be executed before its expiry only. A cron job asks the chain what became of the
expired ones, and an unused one is refunded on its word. It reads the state at a finalized block that is later than the
expiry, from endpoints that may fail or lag behind. The token marks an authorization in the same way when it is executed and
when its authorizer cancels it.
-/

namespace MppRouter.X402Payer

open List

/-! ## The reads -/

/-- An authorization, by its authorizer and its nonce. -/
structure Authorization where
  authorizer : String
  nonce : String
  deriving DecidableEq, Repr

structure BlockHeader where
  number : ℕ
  timestamp : ℕ
  deriving DecidableEq, Repr

/-- What an endpoint answers to the two calls; nothing, where it fails or its answer cannot be read. -/
structure Endpoint where
  /-- `eth_getBlockByNumber` of the finalized block. -/
  finalized : Option BlockHeader
  /-- `eth_call` of `authorizationState` at a block. -/
  authorizationState : ℕ → Option Bool

structure AuthorizationObservation where
  used : Bool
  blockNumber : ℕ
  blockTimestamp : ℕ
  deriving DecidableEq, Repr

def isNonceHex (text : String) : Bool :=
  match text.toList with
  | '0' :: 'x' :: digits => digits.length == 64 && digits.all isHexDigit
  | _ => false

/-- One endpoint after the other; a finalized block that is not past the expiry ends the search. -/
def askEndpoints (validBeforeUnix : ℤ) : List Endpoint → Option AuthorizationObservation
  | [] => none
  | endpoint :: candidates =>
    match endpoint.finalized with
    | none => askEndpoints validBeforeUnix candidates
    | some block =>
      if (block.timestamp : ℤ) ≤ validBeforeUnix then none
      else
        match endpoint.authorizationState block.number with
        | none => askEndpoints validBeforeUnix candidates
        | some used => some ⟨used, block.number, block.timestamp⟩

/-- The state of an authorization at a finalized block past its expiry; an expiry that is no number is none. -/
def readAuthorizationState (authorization : Authorization) (validBeforeUnix : Option ℤ) (primary : Option Endpoint)
    (fallbacks : List Endpoint) : Option AuthorizationObservation :=
  if isEvmAddress authorization.authorizer && isNonceHex authorization.nonce then
    match validBeforeUnix with
    | none => none
    | some expiry => if expiry ≤ 0 then none else askEndpoints expiry (primary.toList ++ fallbacks)
  else none

/-! ## The chain -/

structure Block where
  timestamp : ℕ
  executes : Authorization → Bool
  cancels : Authorization → Bool

/-- The token marks an authorization that is executed or cancelled. -/
def Block.marks (block : Block) (authorization : Authorization) : Bool :=
  block.executes authorization || block.cancels authorization

/-- The canonical chain at each time. Its last blocks may be replaced, its finalized ones not. -/
structure History where
  chain : ℕ → List Block
  /-- How many blocks are finalized. -/
  finalized : ℕ → ℕ
  validBefore : Authorization → ℤ
  increasing : ∀ time, (chain time).Pairwise fun earlier later => earlier.timestamp < later.timestamp
  exists_finalized : ∀ time, finalized time ≤ (chain time).length
  kept : ∀ time later, time ≤ later → (chain later).take (finalized time) = (chain time).take (finalized time)
  expires : ∀ time, ∀ block ∈ (chain time), ∀ authorization,
    block.executes authorization = true → (block.timestamp : ℤ) < validBefore authorization

/-- The state of the token's mark after a block. -/
def markedAt (chain : List Block) (authorization : Authorization) (number : ℕ) : Bool :=
  (chain.take (number + 1)).any fun block => block.marks authorization

/-- The endpoint answers for what it sees of the chain; what it sees may lag behind, but does not go back. -/
structure TruthfulRpc (history : History) (now : ℕ) (authorization : Authorization) (endpoint : Endpoint) : Prop where
  view : ∀ block, endpoint.finalized = some block → ∃ seen ≤ now, block.number < history.finalized seen ∧
    ((history.chain seen)[block.number]?).map Block.timestamp = some block.timestamp ∧
    ∀ used, endpoint.authorizationState block.number = some used → ∃ later ≥ seen, later ≤ now ∧
      used = markedAt (history.chain later) authorization block.number

/-! ## What a report says -/

/-- The endpoint that an observation comes from. -/
structure Observed (expiry : ℤ) (seen : AuthorizationObservation) (endpoint : Endpoint) : Prop where
  finalized : endpoint.finalized = some ⟨seen.blockNumber, seen.blockTimestamp⟩
  past : expiry < seen.blockTimestamp
  state : endpoint.authorizationState seen.blockNumber = some seen.used

variable {seen : AuthorizationObservation}

theorem askEndpoints_found {expiry : ℤ} {candidates : List Endpoint}
    (found : askEndpoints expiry candidates = some seen) : ∃ endpoint ∈ candidates, Observed expiry seen endpoint := by
  induction candidates with
  | nil => cases found
  | cons endpoint candidates ih =>
    have later (next : askEndpoints expiry candidates = some seen) :
        ∃ other ∈ endpoint :: candidates, Observed expiry seen other := by
      obtain ⟨other, member, observed⟩ := ih next
      exact ⟨other, mem_cons_of_mem _ member, observed⟩
    rw [askEndpoints] at found
    split at found
    next => exact later found
    next block read =>
      split at found
      next => cases found
      next past =>
        split at found
        next => exact later found
        next used answered =>
          obtain rfl := Option.some.inj found
          exact ⟨endpoint, mem_cons_self, read, not_le.mp past, answered⟩

theorem readAuthorizationState_found {authorization : Authorization} {validBeforeUnix : Option ℤ}
    {primary : Option Endpoint} {fallbacks : List Endpoint}
    (found : readAuthorizationState authorization validBeforeUnix primary fallbacks = some seen) :
    ∃ expiry, validBeforeUnix = some expiry ∧ askEndpoints expiry (primary.toList ++ fallbacks) = some seen := by
  unfold readAuthorizationState at found
  split at found
  next =>
    cases validBeforeUnix with
    | none => cases found
    | some expiry =>
      dsimp only at found
      split at found
      next => cases found
      next => exact ⟨expiry, rfl, found⟩
  next => cases found

variable {history : History} {now : ℕ} {authorization : Authorization}

/-- A finalized block is part of every later chain, with all blocks before it. -/
theorem History.take_finalized {number seen later : ℕ} (final : number < history.finalized seen) (after : seen ≤ later) :
    (history.chain later).take (number + 1) = (history.chain seen).take (number + 1) := by
  have shorter : min (number + 1) (history.finalized seen) = number + 1 := by omega
  rw [← shorter, ← take_take, history.kept seen later after, take_take]

theorem History.never_executes {number seen later : ℕ} {timestamp : ℕ} (final : number < history.finalized seen)
    (after : seen ≤ later) (header : ((history.chain seen)[number]?).map Block.timestamp = some timestamp)
    (past : history.validBefore authorization < timestamp)
    (unused : ∀ block ∈ (history.chain later).take (number + 1), block.executes authorization = false) :
    ∀ block ∈ history.chain later, block.executes authorization = false := by
  obtain ⟨last, found, rfl⟩ := Option.map_eq_some_iff.mp header
  have inside : last ∈ (history.chain later).take (number + 1) := by
    rw [history.take_finalized final after]
    apply mem_of_getElem?
    rw [getElem?_take_of_lt (Nat.lt_succ_self number)]
    exact found
  intro block member
  rw [← take_append_drop (number + 1) (history.chain later)] at member
  rcases mem_append.mp member with early | late
  · exact unused block early
  · -- Blocks after the finalized one are past the expiry.
    have increasing := history.increasing later
    rw [← take_append_drop (number + 1) (history.chain later), pairwise_append] at increasing
    have newer : last.timestamp < block.timestamp := increasing.2.2 last inside block late
    by_contra executes
    have early := history.expires later block (mem_of_mem_drop late) authorization (Bool.not_eq_false _ ▸ executes)
    omega

theorem Observed.report {endpoint : Endpoint} (observed : Observed (history.validBefore authorization) seen endpoint)
    (truthful : TruthfulRpc history now authorization endpoint) :
    (seen.used = false → ∀ later ≥ now, ∀ block ∈ history.chain later, block.executes authorization = false) ∧
    (seen.used = true → ∀ later ≥ now, ∃ block ∈ history.chain later, block.marks authorization = true) := by
  obtain ⟨view, viewed, final, header, state⟩ := truthful.view _ observed.finalized
  obtain ⟨again, notBack, notAhead, used⟩ := state _ observed.state
  -- Both views and every later chain agree up to the finalized block.
  have same (later : ℕ) (after : later ≥ now) :
      (history.chain later).take (seen.blockNumber + 1) = (history.chain again).take (seen.blockNumber + 1) := by
    rw [history.take_finalized final (viewed.trans after), history.take_finalized final notBack]
  constructor
  · intro unused later after
    apply history.never_executes final (viewed.trans after) header observed.past
    intro block member
    rw [same later after] at member
    rw [unused, markedAt, eq_comm, any_eq_false] at used
    have unmarked := used block member
    rw [Block.marks, Bool.not_eq_true, Bool.or_eq_false_iff] at unmarked
    exact unmarked.1
  · intro marked later after
    rw [marked, markedAt, eq_comm, ← same later after, any_eq_true] at used
    obtain ⟨block, member, marks⟩ := used
    exact ⟨block, mem_of_mem_take member, marks⟩

/-- What an observation settles for good, at a time and ever after. -/
structure Final (history : History) (now : ℕ) (authorization : Authorization) (used : Bool) : Prop where
  unused : used = false → ∀ later ≥ now, ∀ block ∈ history.chain later, block.executes authorization = false
  used : used = true → ∀ later ≥ now, ∃ block ∈ history.chain later,
    block.executes authorization = true ∨ block.cancels authorization = true

theorem read_final {primary : Option Endpoint} {fallbacks : List Endpoint}
    (truthful : ∀ endpoint ∈ primary.toList ++ fallbacks, TruthfulRpc history now authorization endpoint)
    (found : readAuthorizationState authorization (some (history.validBefore authorization)) primary fallbacks = some seen) :
    Final history now authorization seen.used := by
  obtain ⟨expiry, given, asked⟩ := readAuthorizationState_found found
  obtain rfl := Option.some.inj given
  obtain ⟨endpoint, member, observed⟩ := askEndpoints_found asked
  obtain ⟨unused, used⟩ := observed.report (truthful endpoint member)
  refine ⟨unused, fun marked later after => ?_⟩
  obtain ⟨block, inside, marks⟩ := used marked later after
  exact ⟨block, inside, Bool.or_eq_true _ _ ▸ marks⟩

/-- An authorization that is read as unused is not executed by any block, before or later, and one that is read as used has
been executed, or cancelled by its authorizer. -/
theorem authorization_final (history : History) (now : ℕ) (authorization : Authorization) (primary : Option Endpoint)
    (fallbacks : List Endpoint)
    (truthful : ∀ endpoint ∈ primary.toList ++ fallbacks, TruthfulRpc history now authorization endpoint)
    (seen : AuthorizationObservation)
    (found : readAuthorizationState authorization (some (history.validBefore authorization)) primary fallbacks = some seen) :
    (seen.used = false → ∀ later ≥ now, ∀ block ∈ history.chain later, block.executes authorization = false) ∧
    (seen.used = true → ∀ later ≥ now, ∃ block ∈ history.chain later,
      block.executes authorization = true ∨ block.cancels authorization = true) := by
  have final := read_final truthful found
  exact ⟨final.unused, final.used⟩

/-! ## A cancelled authorization -/

/-- A chain that stands still, all of it final. -/
def History.still (chain : List Block) (validBefore : Authorization → ℤ)
    (increasing : chain.Pairwise fun earlier later => earlier.timestamp < later.timestamp)
    (expires : ∀ block ∈ chain, ∀ authorization,
      block.executes authorization = true → (block.timestamp : ℤ) < validBefore authorization) : History where
  chain _ := chain
  finalized _ := chain.length
  validBefore
  increasing _ := increasing
  exists_finalized _ := le_rfl
  kept _ _ _ := rfl
  expires _ := expires

def expired : Authorization where
  authorizer := "0x00000000000000000000000000000000000000aa"
  nonce := "0x00000000000000000000000000000000000000000000000000000000000000bb"

/-- A block before the expiry, which may cancel the authorization, and one after it. -/
def expiredHistory (cancelled : Bool) : History :=
  History.still [⟨50, fun _ => false, fun _ => cancelled⟩, ⟨150, fun _ => false, fun _ => false⟩] (fun _ => 100)
    (by simp) (by simp)

/-- An endpoint at the head of that chain. -/
def atHead (cancelled : Bool) : Endpoint where
  finalized := some ⟨1, 150⟩
  authorizationState _ := some cancelled

theorem atHead_truthful (cancelled : Bool) : TruthfulRpc (expiredHistory cancelled) 0 expired (atHead cancelled) where
  view block read := by
    obtain rfl := Option.some.inj read
    refine ⟨0, Nat.le_refl 0, Nat.lt_succ_self 1, rfl, fun used answered => ⟨0, Nat.le_refl 0, Nat.le_refl 0, ?_⟩⟩
    obtain rfl := Option.some.inj answered
    cases cancelled <;> rfl

theorem authorization_final_unused : (((expiredHistory false).chain 5).all fun block => !block.executes expired) = true := by
  have never := (authorization_final (expiredHistory false) 0 expired (some (atHead false)) []
    (fun endpoint member => mem_singleton.mp member ▸ atHead_truthful false) ⟨false, 1, 150⟩ (by decide +kernel)).1 rfl
  apply all_eq_true.mpr
  intro block member
  rw [never 5 (by decide) block member]
  rfl

/-- Each call of an endpoint is answered for a view of its own, which may be older than that of the call before. -/
structure TruthfulCalls (history : History) (now : ℕ) (authorization : Authorization) (endpoint : Endpoint) : Prop where
  view : ∀ block, endpoint.finalized = some block → (∃ seen ≤ now, block.number < history.finalized seen ∧
      ((history.chain seen)[block.number]?).map Block.timestamp = some block.timestamp) ∧
    ∀ used, endpoint.authorizationState block.number = some used → ∃ seen ≤ now,
      block.number < (history.chain seen).length ∧ used = markedAt (history.chain seen) authorization block.number

/-- A chain that is replaced, before any of it is final, by one that executes the authorization. -/
def replacedHistory : History where
  chain time := if time = 0 then [⟨50, fun _ => false, fun _ => false⟩, ⟨90, fun _ => false, fun _ => false⟩]
    else [⟨60, fun _ => true, fun _ => false⟩, ⟨150, fun _ => false, fun _ => false⟩]
  finalized time := if time = 0 then 0 else 2
  validBefore _ := 100
  increasing time := by split <;> simp
  exists_finalized time := by split <;> simp
  kept time later after := by
    by_cases first : time = 0
    · simp [first]
    · have last : later ≠ 0 := by omega
      simp [first, last]
  expires time := by split <;> simp

/-- The authorizer cancels: the authorization is reported as used, and no block ever executes it. An endpoint whose second
view is older than its first: an authorization that was executed is reported as unused. -/
theorem cancelled_reported_used : (TruthfulRpc (expiredHistory true) 0 expired (atHead true) ∧
      readAuthorizationState expired (some ((expiredHistory true).validBefore expired)) (some (atHead true)) [] =
        some ⟨true, 1, 150⟩ ∧
      ∀ later, ∀ block ∈ (expiredHistory true).chain later, block.executes expired = false) ∧
    TruthfulCalls replacedHistory 1 expired (atHead false) ∧
      readAuthorizationState expired (some (replacedHistory.validBefore expired)) (some (atHead false)) [] =
        some ⟨false, 1, 150⟩ ∧
      ∀ later ≥ 1, ∃ block ∈ replacedHistory.chain later, block.executes expired = true := by
  refine ⟨⟨atHead_truthful true, by decide +kernel, fun later block member => ?_⟩, ⟨fun block read => ?_⟩,
    by decide +kernel, fun later after => ?_⟩
  · have member : block ∈ [_, _] := member
    rcases mem_cons.mp member with rfl | last
    · rfl
    · obtain rfl := mem_singleton.mp last
      rfl
  · obtain rfl := Option.some.inj read
    refine ⟨⟨1, Nat.le_refl 1, Nat.lt_succ_self 1, rfl⟩, fun used answered => ⟨0, Nat.zero_le 1, Nat.lt_succ_self 1, ?_⟩⟩
    obtain rfl := Option.some.inj answered
    rfl
  · have last : later ≠ 0 := by omega
    exact ⟨⟨60, fun _ => true, fun _ => false⟩, by simp [replacedHistory, last], rfl⟩

end MppRouter.X402Payer
