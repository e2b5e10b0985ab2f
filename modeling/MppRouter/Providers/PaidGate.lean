import MppRouter.Core.Base64
import MppRouter.Core.Decimal
import MppRouter.Core.Solo
import MppRouter.Providers.OwnerOnly
import MppRouter.Providers.Verify

/-! # What the paid gate certifies

The provider answers the paid call as it likes, and names in its receipt the transaction that the ledger is then asked about.
The ledger shows that the verification wallet paid the address there, but not for which call.
-/

namespace MppRouter.Providers.Onboarding.PaidGate

open Concurrent Concurrent.Machine List

/-! ## Receipts -/

def isWordChar (c : Char) : Bool := c.isAlphanum || c == '_'

/-- `[0-9a-f]`, in either case. -/
def isHexDigit (c : Char) : Bool := c.isDigit || ('a' ≤ c && c ≤ 'f') || ('A' ≤ c && c ≤ 'F')

/-- `/\b([0-9a-f]{64})\b/i`: the first word that consists of 64 hexadecimal digits. -/
def matchHash (text : List Char) : Option (List Char) :=
  (text.splitOnP fun c => !isWordChar c).find? fun word => word.length == 64 && word.all isHexDigit

/-- Pull a 64-hex transaction hash out of a receipt header in any encoding. -/
def extractTxHash (header : List Char) : Option (List Char) :=
  match matchHash header with
  | some direct => some (direct.map Char.toLower)
  | none =>
    match Base64.atob (header.map fun c => if c = '-' then '+' else if c = '_' then '/' else c) with
    | some decoded => (matchHash (decoded.map fun byte => Char.ofNat byte.toNat)).map fun inner => inner.map Char.toLower
    | none => none

def RECEIPT_HEADERS : List String := ["payment-receipt", "payment-response", "x-payment-response", "x-payment-tx"]

/-- The settlement receipt, wherever the provider's stack puts it. -/
def receiptTxHash (headers : List (String × List Char)) : Option String :=
  RECEIPT_HEADERS.findSome? fun name => (headers.lookup name).bind fun value => (extractTxHash value).map String.ofList

/-- The provider's answer as it is sent. -/
structure RawResponse where
  status : ℕ := 200
  body : List Char
  headers : List (String × List Char)

/-- What the gate reads of an answer. -/
def RawResponse.read (raw : RawResponse) : Response where
  status := raw.status
  emptyBody := raw.body.all Decimal.isSpace
  txHash := receiptTxHash raw.headers

inductive RawAnswer where
  | threw
  | reply (raw : RawResponse)
  | challenge (offers : Option (List Offer))

def RawAnswer.read : RawAnswer → FirstAnswer
  | .threw => .threw
  | .reply raw => .reply raw.read
  | .challenge offers => .challenge offers

/-- A transaction hash as the ledger writes it. -/
def IsTxHash (hash : String) : Prop := hash.length = 64 ∧ ∀ c ∈ hash.toList, isHexDigit c = true ∧ c.toLower = c

/-! ## The ledger -/

inductive OperationType where
  | payment | pathPaymentStrictSend | pathPaymentStrictReceive | invokeHostFunction | other
  deriving DecidableEq, Repr

inductive ChangeType where
  | transfer | mint | burn | clawback
  deriving DecidableEq, Repr

structure BalanceChange where
  type : ChangeType
  sender : Option String
  receiver : Option String
  deriving DecidableEq, Repr

/-- One operation of a transaction, as the ledger shows it. -/
structure LedgerOperation where
  type : OperationType
  sender : Option String := none
  receiver : Option String := none
  assetBalanceChanges : Option (List BalanceChange) := none
  deriving DecidableEq, Repr

def isPayment (type : OperationType) : Bool :=
  type == .payment || type == .pathPaymentStrictSend || type == .pathPaymentStrictReceive

/-- The transfers that are read of an operation. -/
def transfersOf (operation : LedgerOperation) : List Transfer :=
  (if isPayment operation.type then [⟨operation.sender, operation.receiver⟩] else []) ++
    if operation.type = .invokeHostFunction then
      (operation.assetBalanceChanges.getD []).filterMap fun change =>
        if change.type = .transfer then some ⟨change.sender, change.receiver⟩ else none
    else []

/-- The operation moves value from one account to another. -/
def LedgerOperation.Moves (operation : LedgerOperation) (sender receiver : String) : Prop :=
  (isPayment operation.type = true ∧ operation.sender = some sender ∧ operation.receiver = some receiver) ∨
    operation.type = .invokeHostFunction ∧ ∃ changes, operation.assetBalanceChanges = some changes ∧
      ⟨.transfer, some sender, some receiver⟩ ∈ changes

/-- A payment that the verification wallet signed: in which call, and to whom. -/
structure PaymentAuthorisation where
  call : ℕ
  number : ℕ
  payTo : String
  deriving DecidableEq, Repr

structure Transaction where
  hash : String
  successful : Bool
  operations : List LedgerOperation
  /-- The signed payment of the verification wallet that it carries out. -/
  authorisation : Option PaymentAuthorisation := none
  deriving DecidableEq, Repr

/-- The ledger, newest first, and the signed payments that can still be submitted. -/
structure Ledger where
  transactions : List Transaction
  usable : List PaymentAuthorisation

def Ledger.transactionOf (ledger : Ledger) (hash : String) : Option Transaction :=
  ledger.transactions.find? (·.hash = hash)

def OPERATIONS_LIMIT : ℕ := 50

/-- What is read of the operations of a transaction. -/
def Transaction.page (transaction : Transaction) : List TransactionOperation :=
  (transaction.operations.take OPERATIONS_LIMIT).map fun operation => ⟨transaction.successful, transfersOf operation⟩

variable (deployment : Deployment)

/-- Nothing leaves the verification wallet but by a payment that it signed, to whom it signed it for. -/
def Ledger.lawful (ledger : Ledger) (transaction : Transaction) : Bool :=
  transaction.authorisation.all ledger.usable.contains &&
    (transaction.operations.flatMap transfersOf).all fun transfer =>
      transfer.sender != some deployment.verifyWallet ||
        transaction.authorisation.any fun authorisation => transfer.receiver == some authorisation.payTo

/-- A transaction lands. A signed payment is carried out once. -/
def Ledger.land (ledger : Ledger) (transaction : Transaction) : Option Ledger :=
  if ledger.lawful deployment transaction then
    some ⟨transaction :: ledger.transactions, transaction.authorisation.toList.foldl List.erase ledger.usable⟩
  else none

def Ledger.signing (ledger : Ledger) (call : ℕ) (payTo : String) : Ledger :=
  { ledger with usable := ⟨call, ledger.usable.length + ledger.transactions.length, payTo⟩ :: ledger.usable }

inductive HorizonState where
  | current | behind | unreadable
  deriving DecidableEq, Repr

/-- What the provider, the ledger and the deployment's store do at one step of the call. -/
structure PaidChoice where
  landed : List Transaction := []
  budget : Option Bool := some true
  first : RawAnswer := .threw
  pick : Option ℕ := some 0
  response : Option RawResponse := none
  horizon : HorizonState := .current

/-- What the ledger's reader answers of a transaction: what is there, or that it is not there yet. -/
def Ledger.answer (ledger : Ledger) (state : HorizonState) (hash : String) : TransactionAnswer :=
  match state with
  | .unreadable => .unreadable
  | .behind => .notFound
  | .current =>
    match ledger.transactionOf hash with
    | none => .notFound
    | some transaction => .operations transaction.page

/-- What a step of the call is answered. -/
def answerPaid (tid : ℕ) : (action : Action) → PaidChoice → Ledger → Option (action.Answer × Ledger)
  | .reserveDailyBudget _, choice, ledger => some (choice.budget, ledger)
  | .firstFetch _, choice, ledger => some (choice.first.read, ledger)
  | .sign _ offers, choice, ledger =>
    match choice.pick.bind (offers[·]?) with
    | some offer => some (true, ledger.signing tid offer.payTo)
    | none => some (false, ledger)
  | .paidFetch _, choice, ledger => some (choice.response.map RawResponse.read, ledger)
  | .transaction hash, choice, ledger => some (ledger.answer choice.horizon hash, ledger)
  | _, _, _ => none

/-- One step of the call, after what has landed before it. -/
def performPaid (tid : ℕ) (action : Action) (choice : PaidChoice) (ledger : Ledger) : Option (action.Answer × Ledger) :=
  (choice.landed.foldlM (Ledger.land deployment) ledger).bind (answerPaid tid action choice)

abbrev paidMachine : Machine :=
  ⟨Action, Action.Answer, PaidChoice, Ledger, performPaid deployment⟩

/-! ## What is claimed -/

/-- The transaction is on the ledger, succeeded, and moves value from the verification wallet to the address. -/
def Settled (payTo hash : String) (ledger : Ledger) : Prop :=
  ∃ transaction, ledger.transactionOf hash = some transaction ∧ transaction.successful = true ∧
    ∃ operation ∈ transaction.operations, operation.Moves deployment.verifyWallet payTo

/-- The transaction carries out a payment that was signed in this call. -/
def OwnPayment (call : ℕ) (hash : String) (ledger : Ledger) : Prop :=
  ∃ transaction authorisation, ledger.transactionOf hash = some transaction ∧
    transaction.authorisation = some authorisation ∧ authorisation.call = call

/-- Whom the call pays, unless it is refused before. -/
def paysTo (record : ProviderRecord) (spec : ProviderRouteSpec) (dialect : ChallengeDialect) : Option String :=
  if refusedPaidCall deployment record spec dialect = none ∧ deployment.verifySecret = .sound then
    (stellarPayout record.payouts).map RouteOperatorPayout.payTo
  else none

/-- The check on the ledger accepts the transaction for the address. -/
def Certifies (payTo : String) (transaction : Transaction) : Prop :=
  judgeOperations deployment transaction.hash payTo transaction.page = .ok transaction.hash

/-- No payment of another call to the address is on the ledger or can still get there, unless to the router itself. -/
structure NoOtherPayment (payTo : String) (call : ℕ) (ledger : Ledger) : Prop where
  landed : ∀ hash transaction, IsTxHash hash → ledger.transactionOf hash = some transaction →
    Certifies deployment payTo transaction →
    ∃ authorisation, transaction.authorisation = some authorisation ∧ authorisation.call = call
  usable : ∀ authorisation ∈ ledger.usable, authorisation.payTo = payTo →
    authorisation.call = call ∨ deployment.routerAddress = some payTo

variable {deployment}

/-! ## Hashes -/

theorem matchHash_some {text hash : List Char} (found : matchHash text = some hash) :
    hash.length = 64 ∧ ∀ c ∈ hash, isHexDigit c = true := by
  have both := find?_some found
  rw [Bool.and_eq_true, beq_iff_eq, all_eq_true] at both
  exact both

/-- A hexadecimal digit is one of these numbers. -/
theorem isHexDigit_toNat {c : Char} (hex : isHexDigit c = true) :
    (48 ≤ c.toNat ∧ c.toNat ≤ 57) ∨ (97 ≤ c.toNat ∧ c.toNat ≤ 102) ∨ 65 ≤ c.toNat ∧ c.toNat ≤ 70 := by
  simp only [isHexDigit, Char.isDigit, Bool.or_eq_true, Bool.and_eq_true, decide_eq_true_eq, Char.le_def, ge_iff_le,
    UInt32.le_iff_toNat_le, or_assoc] at hex
  exact hex

theorem isHexDigit_facts {c : Char} (hex : isHexDigit c = true) :
    isHexDigit c.toLower = true ∧ c.toLower.toLower = c.toLower ∧ isWordChar c = true := by
  have named : c = Char.ofNat c.toNat := (Char.ofNat_toNat c).symm
  have range := isHexDigit_toNat hex
  rw [named]
  generalize c.toNat = code at range
  rcases range with ⟨low, high⟩ | ⟨low, high⟩ | ⟨low, high⟩ <;> interval_cases code <;> decide

variable {hash : String}

/-- Whatever the headers say, what is read of them is a transaction hash. -/
theorem receiptTxHash_isTxHash {headers : List (String × List Char)} (read : receiptTxHash headers = some hash) :
    IsTxHash hash := by
  have lowered {text found : List Char} (matched : matchHash text = some found) :
      IsTxHash (String.ofList (found.map Char.toLower)) := by
    obtain ⟨long, hex⟩ := matchHash_some matched
    constructor
    · rw [String.length_ofList, length_map, long]
    · rw [String.toList_ofList, forall_mem_map]
      exact fun c member => ⟨(isHexDigit_facts (hex c member)).1, (isHexDigit_facts (hex c member)).2.1⟩
  obtain ⟨name, _, found⟩ := exists_of_findSome?_eq_some read
  obtain ⟨value, _, extracted⟩ := Option.bind_eq_some_iff.mp found
  obtain ⟨text, taken, rfl⟩ := Option.map_eq_some_iff.mp extracted
  unfold extractTxHash at taken
  split at taken
  next direct matched =>
    cases taken
    exact lowered matched
  next =>
    split at taken
    next decoded _ =>
      obtain ⟨inner, matched, rfl⟩ := Option.map_eq_some_iff.mp taken
      exact lowered matched
    next => cases taken

/-- A transaction hash in a header is read as it is. -/
theorem extractTxHash_of_isTxHash (wellFormed : IsTxHash hash) : extractTxHash hash.toList = some hash.toList := by
  obtain ⟨long, hex⟩ := wellFormed
  have word : ∀ c ∈ hash.toList, (!isWordChar c) = false := by
    intro c member
    rw [(isHexDigit_facts (hex c member).1).2.2]
    rfl
  have matched : matchHash hash.toList = some hash.toList := by
    rw [matchHash, splitOnP_eq_singleton word, find?_cons_of_pos]
    rw [Bool.and_eq_true, beq_iff_eq, all_eq_true]
    exact ⟨long, fun c member => (hex c member).1⟩
  have lower : hash.toList.map Char.toLower = hash.toList := by
    conv_rhs => rw [← map_id hash.toList]
    exact map_congr_left fun c member => (hex c member).2
  rw [extractTxHash, matched]
  exact congrArg some lower

/-! ## What the ledger shows -/

theorem mem_transfersOf {operation : LedgerOperation} {sender receiver : String} :
    ⟨some sender, some receiver⟩ ∈ transfersOf operation ↔ operation.Moves sender receiver := by
  have changed : (⟨some sender, some receiver⟩ : Transfer) ∈ (operation.assetBalanceChanges.getD []).filterMap (fun change =>
        if change.type = .transfer then some ⟨change.sender, change.receiver⟩ else none) ↔
      ∃ changes, operation.assetBalanceChanges = some changes ∧ ⟨.transfer, some sender, some receiver⟩ ∈ changes := by
    rw [mem_filterMap]
    constructor
    · rintro ⟨change, listed, moved⟩
      split at moved
      next transfer =>
        obtain ⟨type, payer, payee⟩ := change
        cases transfer
        cases moved
        cases shown : operation.assetBalanceChanges with
        | none =>
          rw [shown] at listed
          exact absurd listed not_mem_nil
        | some changes =>
          rw [shown, Option.getD_some] at listed
          exact ⟨changes, rfl, listed⟩
      next => cases moved
    · rintro ⟨changes, shown, listed⟩
      rw [shown, Option.getD_some]
      exact ⟨_, listed, if_pos rfl⟩
  rw [transfersOf, mem_append, LedgerOperation.Moves]
  apply or_congr
  · split
    next payment =>
      rw [mem_singleton, Transfer.mk.injEq]
      exact ⟨fun same => ⟨payment, same.1.symm, same.2.symm⟩, fun moved => ⟨moved.2.1.symm, moved.2.2.symm⟩⟩
    next other => exact ⟨fun impossible => absurd impossible not_mem_nil, fun moved => absurd moved.1 other⟩
  · split
    next invokes => exact changed.trans ⟨fun moved => ⟨invokes, moved⟩, And.right⟩
    next other => exact ⟨fun impossible => absurd impossible not_mem_nil, fun moved => absurd moved.1 other⟩

/-- A verdict over transfers that accepts them has seen one from the wallet to the address. -/
theorem judgeTransfers_ok {txHash address : String} (sound : deployment.verifySecret = .sound) {transfers : List Transfer}
    (judged : judgeTransfers deployment txHash address transfers = some (.ok hash)) :
    hash = txHash ∧ deployment.routerAddress ≠ some address ∧
      ⟨some deployment.verifyWallet, some address⟩ ∈ transfers := by
  have wallet : verifyWalletPublicKey deployment = some deployment.verifyWallet := if_pos sound
  induction transfers with
  | nil => cases judged
  | cons transfer rest ih =>
    rw [judgeTransfers, wallet, Option.any_some] at judged
    have later (judged : judgeTransfers deployment txHash address rest = some (.ok hash)) : hash = txHash ∧
        deployment.routerAddress ≠ some address ∧
          ⟨some deployment.verifyWallet, some address⟩ ∈ transfer :: rest := by
      obtain ⟨same, direct, member⟩ := ih judged
      exact ⟨same, direct, mem_cons_of_mem _ member⟩
    split at judged
    next => exact later judged
    next own =>
      split at judged
      next => cases judged
      next direct =>
        split at judged
        next paid =>
          cases judged
          have sent : transfer.sender = some deployment.verifyWallet := by simpa using own
          have transferred : transfer = ⟨some deployment.verifyWallet, some address⟩ := by
            cases transfer
            rw [← sent, ← paid]
          refine ⟨rfl, fun router => direct ⟨by rw [router]; rfl, paid.trans router.symm⟩, ?_⟩
          rw [transferred]
          exact mem_cons_self
        next => exact later judged

theorem judgeOperations_ok {txHash address : String} (sound : deployment.verifySecret = .sound)
    {operations : List TransactionOperation}
    (judged : judgeOperations deployment txHash address operations = .ok hash) :
    hash = txHash ∧ deployment.routerAddress ≠ some address ∧ ∃ operation ∈ operations, operation.successful = true ∧
      ⟨some deployment.verifyWallet, some address⟩ ∈ operation.transfers := by
  induction operations with
  | nil => cases judged
  | cons operation rest ih =>
    rw [judgeOperations] at judged
    split at judged
    next => cases judged
    next successful =>
      split at judged
      next verdict found =>
        cases judged
        obtain ⟨same, direct, member⟩ := judgeTransfers_ok sound found
        exact ⟨same, direct, operation, mem_cons_self, Bool.not_eq_false _ ▸ successful, member⟩
      next =>
        obtain ⟨same, direct, other, member, found⟩ := ih judged
        exact ⟨same, direct, other, mem_cons_of_mem _ member, found⟩

variable {transaction : Transaction}

/-- An accepted transaction succeeded and moved value from the wallet to the address. -/
theorem page_ok {txHash address : String} (sound : deployment.verifySecret = .sound)
    (judged : judgeOperations deployment txHash address transaction.page = .ok hash) :
    hash = txHash ∧ deployment.routerAddress ≠ some address ∧ transaction.successful = true ∧
      ∃ operation ∈ transaction.operations, operation.Moves deployment.verifyWallet address := by
  obtain ⟨same, direct, shown, member, successful, paid⟩ := judgeOperations_ok sound judged
  obtain ⟨operation, taken, rfl⟩ := mem_map.mp member
  exact ⟨same, direct, successful, operation, mem_of_mem_take taken, mem_transfersOf.mp paid⟩

/-! ## What the call ends with -/

variable {tid : ℕ} {ledger after : Ledger}

theorem performPaid_some {action : Action} {choice : PaidChoice} {answer : action.Answer}
    (performed : performPaid deployment tid action choice ledger = some (answer, after)) :
    ∃ middle, choice.landed.foldlM (Ledger.land deployment) ledger = some middle ∧
      answerPaid tid action choice middle = some (answer, after) :=
  Option.bind_eq_some_iff.mp performed

/-- A gate that passes has been answered with a transaction that it accepts. -/
theorem assertSettledToProvider_ok {txHash address : String}
    (solo : Solo (unrestricted (paidMachine deployment)) tid (assertSettledToProvider deployment txHash address) ledger
      (.ok hash) after) :
    ∃ transaction, after.transactionOf txHash = some transaction ∧
      judgeOperations deployment txHash address transaction.page = .ok hash := by
  obtain ⟨choice, answer, middle, _, performed, later⟩ := Solo.of_call solo
  obtain ⟨landed, _, answered⟩ := performPaid_some performed
  cases answered
  unfold Ledger.answer at later
  cases state : choice.horizon with
  | unreadable =>
    rw [state] at later
    exact later.elim nofun
  | behind =>
    rw [state] at later
    exact later.elim nofun
  | current =>
    rw [state] at later
    dsimp only at later
    cases found : middle.transactionOf txHash with
    | none =>
      rw [found] at later
      exact later.elim nofun
    | some transaction =>
      rw [found] at later
      obtain ⟨judged, rfl⟩ := Solo.of_pure later
      exact ⟨transaction, found, judged.symm⟩

theorem signAndFetch_read {call : PaidCall} {offers : List Offer} {response : Response}
    (solo : Solo (unrestricted (paidMachine deployment)) tid (signAndFetch call offers) ledger (.response response) after) :
    ∃ raw : RawResponse, response = raw.read := by
  obtain ⟨choice, signed, middle, _, performed, later⟩ := Solo.of_call solo
  cases signed with
  | false =>
    exact later.elim nofun
  | true =>
    obtain ⟨choice, fetched, last, _, performed, later⟩ := Solo.of_call later
    obtain ⟨landed, _, answered⟩ := performPaid_some performed
    cases answered
    cases sent : choice.response with
    | none =>
      rw [sent] at later
      exact later.elim nofun
    | some raw =>
      rw [sent] at later
      obtain ⟨same, -⟩ := Solo.of_pure later
      cases same
      exact ⟨raw, rfl⟩

/-- Every response that is judged was read of an answer of the provider. -/
theorem executePaidCall_read {call : PaidCall} {response : Response}
    (solo : Solo (unrestricted (paidMachine deployment)) tid (executePaidCall call) ledger (.response response) after) :
    ∃ raw : RawResponse, response = raw.read := by
  unfold executePaidCall at solo
  cases spoken : call.dialect with
  | x402 =>
    rw [spoken] at solo
    obtain ⟨choice, first, middle, _, performed, later⟩ := Solo.of_call solo
    obtain ⟨landed, _, answered⟩ := performPaid_some performed
    cases answered
    cases answer : choice.first with
    | threw =>
      rw [answer] at later
      exact later.elim nofun
    | reply raw =>
      rw [answer] at later
      obtain ⟨same, -⟩ := Solo.of_pure later
      cases same
      exact ⟨raw, rfl⟩
    | challenge offers =>
      rw [answer, RawAnswer.read] at later
      cases offers with
      | none =>
        exact later.elim nofun
      | some offers =>
        dsimp only at later
        split at later
        · exact later.elim nofun
        · exact signAndFetch_read later
  | mppx =>
    rw [spoken] at solo
    obtain ⟨choice, first, middle, _, performed, later⟩ := Solo.of_call solo
    obtain ⟨landed, _, answered⟩ := performPaid_some performed
    cases answered
    cases answer : choice.first with
    | threw =>
      rw [answer] at later
      exact later.elim nofun
    | reply raw =>
      rw [answer] at later
      obtain ⟨same, -⟩ := Solo.of_pure later
      cases same
      exact ⟨raw, rfl⟩
    | challenge offers =>
      rw [answer, RawAnswer.read] at later
      rcases offers with _ | _ | ⟨offer, offers⟩
      · exact later.elim nofun
      · exact later.elim nofun
      · dsimp only at later
        split at later
        · exact signAndFetch_read later
        · exact later.elim nofun

/-- A response that proves a payment names a transaction, which the ledger shows to be accepted. -/
theorem judgeResponse_ok {call : PaidCall} {raw : RawResponse}
    (solo : Solo (unrestricted (paidMachine deployment)) tid (judgeResponse deployment call raw.read) ledger (.ok hash) after) :
    ∃ txHash transaction, IsTxHash txHash ∧ after.transactionOf txHash = some transaction ∧
      judgeOperations deployment txHash call.payTo transaction.page = .ok hash := by
  unfold judgeResponse at solo
  split at solo
  · exact solo.elim nofun
  split at solo
  · exact solo.elim nofun
  split at solo
  · exact solo.elim nofun
  next txHash receipt =>
    obtain ⟨transaction, found, judged⟩ := assertSettledToProvider_ok solo
    exact ⟨txHash, transaction, receiptTxHash_isTxHash receipt, found, judged⟩

variable {record : ProviderRecord} {spec : ProviderRouteSpec} {dialect : ChallengeDialect}

variable {payTo : String}

/-- A call that passes has paid somebody, and the ledger accepts the transaction of its receipt for them. -/
theorem gateRealMoneyCall_ok {version : String}
    (solo : Solo (unrestricted (paidMachine deployment)) tid (gateRealMoneyCall deployment version record spec dialect) ledger
      (some (.ok hash)) after) :
    ∃ payTo, paysTo deployment record spec dialect = some payTo ∧ ∃ txHash transaction, IsTxHash txHash ∧
      after.transactionOf txHash = some transaction ∧
      judgeOperations deployment txHash payTo transaction.page = .ok hash := by
  unfold gateRealMoneyCall at solo
  split at solo
  next payout price refuses paid priced =>
    obtain ⟨choice, budget, first, _, performed, later⟩ := Solo.of_call solo
    rcases budget with _ | _ | _
    · exact later.elim nofun
    · exact later.elim nofun
    dsimp only at later
    split at later
    · exact later.elim nofun
    next formed =>
      have sound : deployment.verifySecret = .sound := by
        cases secret : deployment.verifySecret with
        | missing =>
          rw [refusedPaidCall, if_pos secret] at refuses
          cases refuses
        | malformed => exact absurd secret formed
        | sound => rfl
      refine ⟨payout.payTo, ?_, ?_⟩
      · rw [paysTo, if_pos ⟨refuses, sound⟩, paid, Option.map_some]
      · obtain ⟨executed, second, executing, later⟩ := Solo.of_bind later
        cases executed with
        | challengeMismatch =>
          exact later.elim nofun
        | threw =>
          exact later.elim nofun
        | response response =>
          obtain ⟨raw, rfl⟩ := executePaidCall_read executing
          obtain ⟨result, third, judging, later⟩ := Solo.of_bind later
          obtain ⟨same, rfl⟩ := Solo.of_pure later
          cases same
          exact judgeResponse_ok judging
  next =>
    exact solo.elim nofun
  next =>
    exact solo.elim nofun

theorem transactionOf_hash (found : ledger.transactionOf hash = some transaction) : transaction.hash = hash := by
  have passes := find?_some found
  exact of_decide_eq_true passes

/-! ## Payments of other calls -/

theorem lawful_own (lawful : ledger.lawful deployment transaction = true)
    (moves : ∃ operation ∈ transaction.operations, operation.Moves deployment.verifyWallet payTo) :
    ∃ authorisation ∈ ledger.usable, transaction.authorisation = some authorisation ∧ authorisation.payTo = payTo := by
  rw [Ledger.lawful, Bool.and_eq_true, all_eq_true] at lawful
  obtain ⟨usable, paid⟩ := lawful
  obtain ⟨operation, member, moved⟩ := moves
  have allowed := paid ⟨some deployment.verifyWallet, some payTo⟩
    (mem_flatMap.mpr ⟨operation, member, mem_transfersOf.mpr moved⟩)
  rw [bne_self_eq_false, Bool.false_or, Option.any_eq_true] at allowed
  obtain ⟨authorisation, carried, named⟩ := allowed
  rw [carried, Option.all_some] at usable
  exact ⟨authorisation, contains_iff_mem.mp usable, carried, (Option.some.inj (eq_of_beq named)).symm⟩

theorem transactionOf_land (landed : ledger.land deployment transaction = some after) (hash : String) :
    after.transactionOf hash = if transaction.hash = hash then some transaction else ledger.transactionOf hash := by
  unfold Ledger.land at landed
  split at landed
  · cases landed
    rw [Ledger.transactionOf, find?_cons]
    split
    next same => rw [if_pos (of_decide_eq_true same)]
    next other => rw [if_neg (of_decide_eq_false other), Ledger.transactionOf]
  · cases landed

theorem usable_land (landed : ledger.land deployment transaction = some after) :
    ∀ authorisation ∈ after.usable, authorisation ∈ ledger.usable := by
  unfold Ledger.land at landed
  split at landed
  · cases landed
    intro authorisation member
    cases carried : transaction.authorisation with
    | none =>
      rw [carried] at member
      exact member
    | some own =>
      rw [carried] at member
      exact mem_of_mem_erase member
  · cases landed

section Landing

variable (sound : deployment.verifySecret = .sound) (none : NoOtherPayment deployment payTo tid ledger)

include sound none

/-- Where only this call may still pay the address, what lands does not pay it for another. -/
theorem NoOtherPayment.land
    (landed : ledger.land deployment transaction = some after) : NoOtherPayment deployment payTo tid after where
  landed hash found wellFormed shown certified := by
    rw [transactionOf_land landed] at shown
    split at shown
    next =>
      cases shown
      obtain ⟨-, direct, -, moves⟩ := page_ok sound certified
      have lawful : ledger.lawful deployment transaction = true := by
        unfold Ledger.land at landed
        split at landed
        next lawful => exact lawful
        next => cases landed
      obtain ⟨authorisation, member, carried, named⟩ := lawful_own lawful moves
      rcases none.usable authorisation member named with own | router
      · exact ⟨authorisation, carried, own⟩
      · exact absurd router direct
    next => exact none.landed hash found wellFormed shown certified
  usable authorisation member named := none.usable authorisation (usable_land landed authorisation member) named

theorem NoOtherPayment.landAll {transactions : List Transaction}
    (landed : transactions.foldlM (Ledger.land deployment) ledger = some after) :
    NoOtherPayment deployment payTo tid after := by
  induction transactions generalizing ledger with
  | nil =>
    cases landed
    exact none
  | cons transaction rest ih =>
    rw [foldlM_cons] at landed
    obtain ⟨middle, first, later⟩ := Option.bind_eq_some_iff.mp landed
    exact ih (none.land sound first) later

/-- No step of the call, and nothing that lands meanwhile, brings a payment of another call. -/
theorem NoOtherPayment.step {action : Action} {choice : PaidChoice} {answer : action.Answer}
    (performed : performPaid deployment tid action choice ledger = some (answer, after)) :
    NoOtherPayment deployment payTo tid after := by
  obtain ⟨middle, landed, answered⟩ := performPaid_some performed
  have still := none.landAll sound landed
  cases action with
  | reserveDailyBudget | firstFetch | paidFetch | transaction =>
    cases answered
    exact still
  | sign call offers =>
    rw [answerPaid] at answered
    split at answered
    next offer _ =>
      cases answered
      refine ⟨still.landed, forall_mem_cons.mpr ⟨fun _ => .inl rfl, still.usable⟩⟩
    next =>
      cases answered
      exact still
  | _ => cases answered

end Landing

theorem gate_keeps {version : String} {result : Option GateResult} (sound : deployment.verifySecret = .sound)
    (solo : Solo (unrestricted (paidMachine deployment)) tid (gateRealMoneyCall deployment version record spec dialect) ledger
      result after)
    (none : NoOtherPayment deployment payTo tid ledger) : NoOtherPayment deployment payTo tid after := by
  suffices moves : ∀ action, True → ∀ choice (middle : Ledger) answer later, True →
      performPaid deployment tid action choice middle = some (answer, later) →
      NoOtherPayment deployment payTo tid middle → NoOtherPayment deployment payTo tid later from
    Solo.kept moves (Prog.Performs.always _) solo none
  intro action _ choice middle answer later _ performed sofar
  exact sofar.step sound performed

/-- The answer of a provider that serves the first request and names a transaction. -/
def naming (hash : String) : RawResponse where
  body := ['{', '}']
  headers := [("payment-receipt", hash.toList)]

theorem naming_read (wellFormed : IsTxHash hash) : (naming hash).read = ⟨200, false, some hash⟩ := by
  have first : ((naming hash).headers.lookup "payment-receipt").bind (fun value => (extractTxHash value).map String.ofList) =
      some hash := by
    change (extractTxHash hash.toList).map String.ofList = _
    rw [extractTxHash_of_isTxHash wellFormed, Option.map_some, String.ofList_toList]
  have receipt : receiptTxHash (naming hash).headers = some hash := by
    rw [receiptTxHash, RECEIPT_HEADERS, findSome?_cons, first]
  rw [RawResponse.read, receipt]
  rfl

/-- What the first request is answered with is judged. -/
theorem executePaidCall_reply (call : PaidCall) (raw : RawResponse) (ledger : Ledger) :
    Solo (unrestricted (paidMachine deployment)) tid (executePaidCall call) ledger (.response raw.read) ledger := by
  have performed : (paidMachine deployment).perform tid (.firstFetch call) ({ first := .reply raw } : PaidChoice) ledger =
      some (.reply raw.read, ledger) := rfl
  unfold executePaidCall
  split
  · exact .act trivial performed (.pure _ _)
  · exact .act trivial performed (.pure _ _)

theorem priced_of_unrefused
    (sound : deployment.verifySecret = .sound) (refuses : refusedPaidCall deployment record spec dialect = none) :
    ∃ price, deployment.baseUnits spec.priceUsd = some price := by
  cases priced : deployment.baseUnits spec.priceUsd with
  | some price => exact ⟨price, rfl⟩
  | none =>
    rw [refusedPaidCall, priced, if_neg (by rw [sound]; decide)] at refuses
    cases refuses

/-- A provider that answers the first request and names a transaction that the check accepts is certified by it. -/
theorem replayed {version : String}
    (pays : paysTo deployment record spec dialect = some payTo) {landed : List Transaction}
    (lands : landed.foldlM (Ledger.land deployment) ledger = some after)
    (wellFormed : IsTxHash hash) (found : after.transactionOf hash = some transaction)
    (certified : Certifies deployment payTo transaction) :
    Solo (unrestricted (paidMachine deployment)) tid (gateRealMoneyCall deployment version record spec dialect) ledger
      (some (.ok hash)) after := by
  unfold paysTo at pays
  split at pays
  next reaches =>
    obtain ⟨refuses, sound⟩ := reaches
    obtain ⟨payout, paid, rfl⟩ := Option.map_eq_some_iff.mp pays
    obtain ⟨price, priced⟩ := priced_of_unrefused sound refuses
    have budget : (paidMachine deployment).perform tid (.reserveDailyBudget price) ({ landed := landed } : PaidChoice) ledger =
        some (some true, after) := by
      change performPaid deployment tid _ _ _ = _
      rw [performPaid, lands]
      rfl
    have named := transactionOf_hash found
    have shown : (paidMachine deployment).perform tid (.transaction hash) ({} : PaidChoice) after =
        some (.operations transaction.page, after) := by
      change some (Ledger.answer after .current hash, after) = _
      rw [Ledger.answer, found]
    have judged : Solo (unrestricted (paidMachine deployment)) tid
        (judgeResponse deployment ⟨version, record, spec, dialect, payout.network, payout.payTo, price⟩ (naming hash).read) after
        (.ok hash) after := by
      rw [naming_read wellFormed]
      refine .act trivial shown ?_
      rw [Certifies, named] at certified
      change Solo (unrestricted (paidMachine deployment)) tid
        (.pure (judgeOperations deployment hash payout.payTo transaction.page)) after (.ok hash) after
      rw [certified]
      exact .pure _ _
    unfold gateRealMoneyCall
    rw [refuses, paid, priced]
    refine Solo.ask trivial budget ?_
    change Solo (unrestricted (paidMachine deployment)) tid (if deployment.verifySecret = .malformed then _ else _) _ _ _
    rw [if_neg (by rw [sound]; decide)]
    refine Solo.bind (executePaidCall_reply _ (naming hash) after) ?_
    exact Solo.bind judged (.pure _ _)
  next => cases pays

variable (deployment) in
/-- The transaction that carries out a signed payment. -/
def carrying (authorisation : PaymentAuthorisation) : Transaction where
  hash := String.ofList (List.replicate 64 '0')
  successful := true
  operations := [{ type := .payment, sender := some deployment.verifyWallet, receiver := some authorisation.payTo }]
  authorisation := some authorisation

theorem carrying_isTxHash : IsTxHash (String.ofList (List.replicate 64 '0')) := by
  constructor
  · rw [String.length_ofList, length_replicate]
  · rw [String.toList_ofList]
    intro c member
    rw [(mem_replicate.mp member).2]
    decide

variable {authorisation : PaymentAuthorisation}

theorem carrying_lands (usable : authorisation ∈ ledger.usable) :
    ∃ after, ledger.land deployment (carrying deployment authorisation) = some after := by
  have lawful : ledger.lawful deployment (carrying deployment authorisation) = true := by
    rw [Ledger.lawful, Bool.and_eq_true]
    constructor
    · exact contains_iff_mem.mpr usable
    · change ((some deployment.verifyWallet != some deployment.verifyWallet ||
        (some authorisation.payTo == some authorisation.payTo)) && true) = true
      rw [beq_self_eq_true, Bool.or_true]
      rfl
  exact ⟨_, if_pos lawful⟩

theorem carrying_certified (sound : deployment.verifySecret = .sound)
    (direct : deployment.routerAddress ≠ some authorisation.payTo) :
    Certifies deployment authorisation.payTo (carrying deployment authorisation) := by
  have wallet : verifyWalletPublicKey deployment = some deployment.verifyWallet := if_pos sound
  have judged (hash : String) : judgeTransfers deployment hash authorisation.payTo
      [⟨some deployment.verifyWallet, some authorisation.payTo⟩] = some (.ok hash) := by
    rw [judgeTransfers, wallet, Option.any_some, if_neg (by simp), if_neg, if_pos rfl]
    exact fun router => direct router.2.symm
  have page : (carrying deployment authorisation).page =
      [⟨true, [⟨some deployment.verifyWallet, some authorisation.payTo⟩]⟩] := rfl
  rw [Certifies, page, judgeOperations, if_neg (by simp), judged]

/-! ## The law -/

/-- What passes the paid gate is settled: the transaction that is reported is on the ledger, succeeded, and pays the address from
the verification wallet. It is always a payment of this very call exactly when no other call's payment to the address is on
the ledger or can still get there. -/
theorem certifies_own_payment_iff (deployment : Deployment) (version : String) (record : ProviderRecord)
    (spec : ProviderRouteSpec) (dialect : ChallengeDialect) (tid : ℕ) (ledger : Ledger) :
    (∀ hash after,
      Solo (unrestricted (paidMachine deployment)) tid (gateRealMoneyCall deployment version record spec dialect) ledger
        (some (.ok hash)) after →
      ∃ payTo, paysTo deployment record spec dialect = some payTo ∧ Settled deployment payTo hash after) ∧
    ((∀ hash after,
      Solo (unrestricted (paidMachine deployment)) tid (gateRealMoneyCall deployment version record spec dialect) ledger
        (some (.ok hash)) after → OwnPayment tid hash after) ↔
      ∀ payTo, paysTo deployment record spec dialect = some payTo → NoOtherPayment deployment payTo tid ledger) := by
  have sound {payTo : String} (pays : paysTo deployment record spec dialect = some payTo) : deployment.verifySecret = .sound := by
    unfold paysTo at pays
    split at pays
    next reaches => exact reaches.2
    next => cases pays
  constructor
  · intro hash after solo
    obtain ⟨payTo, pays, txHash, transaction, _, found, judged⟩ := gateRealMoneyCall_ok solo
    obtain ⟨rfl, -, successful, moves⟩ := page_ok (sound pays) judged
    exact ⟨payTo, pays, transaction, found, successful, moves⟩
  constructor
  · intro own payTo pays
    constructor
    · intro hash transaction wellFormed found certified
      obtain ⟨same, authorisation, shown, carried, mine⟩ :=
        own hash ledger (replayed pays foldlM_nil wellFormed found certified)
      rw [found] at shown
      cases shown
      exact ⟨authorisation, carried, mine⟩
    · intro authorisation usable named
      by_contra either
      obtain ⟨other, direct⟩ := not_or.mp either
      subst named
      -- The payment lands, and the provider names it.
      obtain ⟨after, landed⟩ := carrying_lands usable
      have found : after.transactionOf (carrying deployment authorisation).hash = some (carrying deployment authorisation) := by
        rw [transactionOf_land landed, if_pos rfl]
      have lands : [carrying deployment authorisation].foldlM (Ledger.land deployment) ledger = some after := by
        rw [foldlM_cons, landed]
        rfl
      obtain ⟨same, authorised, shown, carried, mine⟩ :=
        own _ after (replayed pays lands carrying_isTxHash found (carrying_certified (sound pays) direct))
      have shown := found.symm.trans shown
      cases shown
      cases carried
      exact other mine
  · intro none hash after solo
    obtain ⟨payTo, pays, txHash, transaction, wellFormed, found, judged⟩ := gateRealMoneyCall_ok solo
    obtain ⟨rfl, -, -, -⟩ := page_ok (sound pays) judged
    have named := transactionOf_hash found
    have certified : Certifies deployment payTo transaction := by
      rw [Certifies, named]
      exact judged
    obtain ⟨authorisation, carried, mine⟩ := (gate_keeps (sound pays) solo (none payTo pays)).landed hash transaction wellFormed found certified
    exact ⟨transaction, authorisation, found, carried, mine⟩

/-! ## A second verification -/

/-- A deployment with a funded verification wallet. -/
def payingDesk : Deployment := { oneDesk with verifyWallet := "W" }

/-- A provider with one Stellar payout. -/
def acmeRecord : ProviderRecord where
  id := "acme"
  payouts := acme.payouts
  routes := acme.routes
  status := .pending

def runRoute : ProviderRouteSpec := { operation := "run", method := "GET", upstreamPath := "/", priceUsd := "0.01" }

/-- The ledger after a first verification has paid the provider. -/
def paidOnce : Ledger where
  transactions := [carrying payingDesk ⟨0, 0, "G"⟩]
  usable := []

/-- In the next verification the provider names the payment of the first, and the gate passes without a payment. -/
theorem earlier_payment_certified : ∃ hash after,
    Solo (unrestricted (paidMachine payingDesk)) 1 (gateRealMoneyCall payingDesk "v" acmeRecord runRoute .x402) paidOnce
      (some (.ok hash)) after ∧ after = paidOnce ∧ ¬ OwnPayment 1 hash after := by
  have pays : paysTo payingDesk acmeRecord runRoute .x402 = some "G" := by decide
  have found : paidOnce.transactionOf (String.ofList (List.replicate 64 '0')) = some (carrying payingDesk ⟨0, 0, "G"⟩) := by
    decide
  refine ⟨_, paidOnce, replayed pays foldlM_nil carrying_isTxHash found (carrying_certified rfl (by decide)), rfl, ?_⟩
  rintro ⟨transaction, authorisation, shown, carried, mine⟩
  cases found.symm.trans shown
  cases carried
  cases mine

end MppRouter.Providers.Onboarding.PaidGate
