import Mathlib.Tactic.Ring
import MppRouter.Core.Totals
import MppRouter.Playground.Ledger

/-! # Conservation of playground money

Three incremental totals follow two tables of rows. Each operation is inverted once, into the rows
and counters it writes; the identities between totals and tables then hold after every sequence of
requests because each write moves both sides by the same amount.
-/

namespace MppRouter.Playground

open List

/-- What a call holds against its account's balance. -/
def StoredCall.hold (call : StoredCall) : ℤ := if call.status = .reserved then call.maxPrice else 0

/-- What a call has charged for good. -/
def StoredCall.spent (call : StoredCall) : ℤ := if call.status = .committed then call.charged else 0

/-- What an intent has credited to its account. -/
def StoredIntent.credit (intent : StoredIntent) : ℤ := if intent.status = .consumed then intent.amount else 0

namespace Storage

def balancesSum (storage : Storage) : ℤ := storage.balances.total fun _ balance => balance

def holdsSum (storage : Storage) : ℤ := storage.calls.total fun _ call => call.hold

def spentSum (storage : Storage) : ℤ := storage.calls.total fun _ call => call.spent

def consumedSum (storage : Storage) : ℤ := storage.intents.total fun _ intent => intent.credit

theorem balance_eq_weightAt (storage : Storage) (account : String) :
    storage.balance account = storage.balances.weightAt (fun _ balance => balance) account := by
  simp only [balance, AList.weightAt]
  cases storage.balances.lookup account <;> rfl

/-- Rewriting one balance row moves the sum of balances by the difference. -/
theorem total_insert_balance (storage : Storage) (account : String) (amount : ℤ) :
    (storage.balances.insert account amount).total (fun _ balance => balance) =
      storage.balancesSum - storage.balance account + amount := by
  rw [AList.total_insert, balance_eq_weightAt, balancesSum]

end Storage

/-! ## What each operation writes -/

section Inversion

variable {α β : Type} {storage after : Storage}

theorem bind_ok {action : Except RangeError α} {rest : α → Except RangeError β} {answer : β}
    (step : (action >>= rest) = .ok answer) : ∃ value, action = .ok value ∧ rest value = .ok answer := by
  cases action with
  | error failure => cases step
  | ok value => exact ⟨value, rfl, step⟩

/-- A refusal guard either answers with the storage unchanged or lets the operation go on. -/
theorem guard_ok {refused : Prop} [Decidable refused] {answer result : Result α}
    {rest : Except RangeError (Answer α)}
    (step : (if refused then pure (answer, storage) else rest) = .ok (result, after)) :
    after = storage ∨ ¬ refused ∧ rest = .ok (result, after) := by
  split_ifs at step with taken
  · cases step
    exact .inl rfl
  · exact .inr ⟨taken, step⟩

/-- A create changes nothing the money identities read except one intent, which it leaves open. -/
theorem createIntent_cases {body : CreateIntentBody} {result : Result StoredIntent}
    (step : createIntent storage body = .ok (result, after)) :
    after = storage ∨ ∃ intent memos rates openSlots, intent.status = .open ∧ 0 < intent.amount ∧
      after = { storage with
        intents := storage.intents.insert body.intentId intent, memos, rates, openSlots } := by
  obtain ⟨amount, -, step⟩ := bind_ok step
  obtain rfl | ⟨positive, step⟩ := guard_ok step
  · exact .inl rfl
  obtain rfl | ⟨-, step⟩ := guard_ok step
  · exact .inl rfl
  obtain ⟨dayCap, -, step⟩ := bind_ok step
  obtain rfl | ⟨-, step⟩ := guard_ok step
  · exact .inl rfl
  obtain ⟨globalCap, -, step⟩ := bind_ok step
  obtain rfl | ⟨-, step⟩ := guard_ok step
  · exact .inl rfl
  obtain rfl | ⟨-, step⟩ := guard_ok step
  · exact .inl rfl
  obtain rfl | ⟨-, step⟩ := guard_ok step
  · exact .inl rfl
  cases step
  exact .inr ⟨_, _, _, _, rfl, not_le.mp positive, rfl⟩

/-- An open renews a consumed intent, closes a live one without credit, or credits a live one once. -/
inductive OpenEffect (storage : Storage) (body : OpenBody) : Storage → Prop
  | unchanged : OpenEffect storage body storage
  | renewed {intent returned : StoredIntent} (found : storage.intents.lookup body.intentId = some intent)
      (amount : returned.amount = intent.amount) (status : returned.status = intent.status) :
      OpenEffect storage body { storage with intents := storage.intents.insert body.intentId returned }
  | closed {intent marked : StoredIntent} (openSlots : AList fun _ : String => ℤ)
      (overCaps : AList fun _ : String => OverCap)
      (found : storage.intents.lookup body.intentId = some intent) (live : intent.status ≠ .consumed)
      (amount : marked.amount = intent.amount) (status : marked.status ≠ .consumed) :
      OpenEffect storage body
        { storage with intents := storage.intents.insert body.intentId marked, openSlots, overCaps }
  | credited {intent updated : StoredIntent} (openSlots : AList fun _ : String => ℤ)
      (consumed : AList fun _ : String × ℤ => String) (deposits : AList fun _ : String × ℤ => ℤ)
      (found : storage.intents.lookup body.intentId = some intent) (live : intent.status ≠ .consumed)
      (amount : updated.amount = intent.amount) (status : updated.status = .consumed) :
      OpenEffect storage body
        { storage with
          intents := storage.intents.insert body.intentId updated, openSlots, consumed, deposits
          balances := storage.balances.insert intent.account (storage.balance intent.account + intent.amount)
          totalCredited := storage.totalCredited + intent.amount
          totalOutstanding := storage.totalOutstanding + intent.amount }

theorem openIntent_cases {body : OpenBody} {result : Result Opened}
    (step : openIntent storage body = .ok (result, after)) : OpenEffect storage body after := by
  unfold openIntent at step
  cases found : storage.intents.lookup body.intentId with
  | none =>
    rw [found] at step
    cases step
    exact .unchanged
  | some intent =>
    rw [found] at step
    dsimp only at step
    obtain rfl | ⟨-, step⟩ := guard_ok step
    · exact .unchanged
    split at step
    next consumed =>
      split at step
      · split at step
        · cases step
          exact .renewed found rfl rfl
        · cases step
          exact .unchanged
      · cases step
        exact .unchanged
    next live =>
      obtain rfl | ⟨-, step⟩ := guard_ok step
      · exact .unchanged
      split at step
      · cases step
        exact .closed _ _ found live rfl (fun same => nomatch same)
      obtain ⟨dayCap, -, step⟩ := bind_ok step
      obtain ⟨globalCap, -, step⟩ := bind_ok step
      split at step
      · cases step
        exact .closed _ _ found live rfl (fun same => nomatch same)
      · cases step
        exact .credited _ _ _ found live rfl rfl

theorem reserve_cases {body : ReserveBody} {result : Result ReserveOutcome}
    (step : reserve storage body = .ok (result, after)) :
    after = storage ∨ ∃ (call : StoredCall) (history : AList fun _ : String => List String) (alarmAt : Option ℤ),
      storage.calls.lookup body.callId = none ∧
      call.status = .reserved ∧ 0 ≤ call.maxPrice ∧ call.maxPrice ≤ storage.balance body.account ∧
      after = { storage with
        balances := storage.balances.insert body.account (storage.balance body.account - call.maxPrice)
        calls := storage.calls.insert body.callId call, history, alarmAt } := by
  obtain ⟨maxPrice, -, step⟩ := bind_ok step
  obtain rfl | ⟨nonneg, step⟩ := guard_ok step
  · exact .inl rfl
  cases found : storage.calls.lookup body.callId with
  | some existing =>
    rw [found] at step
    cases step
    exact .inl rfl
  | none =>
    rw [found] at step
    obtain rfl | ⟨funded, step⟩ := guard_ok step
    · exact .inl rfl
    cases step
    let call : StoredCall :=
      { callId := body.callId, account := body.account, chip := body.chip, model := body.model
        status := .reserved, maxPrice, charged := 0, at_ := body.now }
    exact .inr ⟨call, _, _, rfl, rfl, not_lt.mp nonneg, not_lt.mp funded, rfl⟩

theorem markDispatched_cases {callId : String} {result : Result Bool}
    (step : markDispatched storage callId = .ok (result, after)) :
    after = storage ∨ ∃ call, storage.calls.lookup callId = some call ∧
      after = { storage with calls := storage.calls.insert callId { call with dispatched := true } } := by
  unfold markDispatched at step
  cases found : storage.calls.lookup callId with
  | none =>
    rw [found] at step
    cases step
    exact .inl rfl
  | some call =>
    rw [found] at step
    obtain rfl | ⟨-, step⟩ := guard_ok step
    · exact .inl rfl
    cases step
    exact .inr ⟨call, rfl, rfl⟩

/-- A reserved call gives back part of its hold and spends the rest. -/
inductive Finished (storage : Storage) (callId : String) : Storage → Prop
  | done {call : StoredCall} (settled : StoredCall) (charged : ℤ)
      (found : storage.calls.lookup callId = some call) (reserved : call.status = .reserved)
      (settlement : settled.status ≠ .reserved) (spent : settled.spent = charged)
      (held : settled.maxPrice = call.maxPrice)
      (clamped : 0 ≤ call.maxPrice → 0 ≤ charged ∧ charged ≤ call.maxPrice) :
      Finished storage callId
        { storage with
          calls := storage.calls.insert callId settled
          balances := storage.balances.insert call.account
            (storage.balance call.account + (call.maxPrice - charged))
          totalCommitted := storage.totalCommitted + charged
          totalOutstanding := storage.totalOutstanding - charged }

theorem settle_cases {body : SettleBody} {result : Result Settled}
    (step : settle storage body = .ok (result, after)) : after = storage ∨ Finished storage body.callId after := by
  unfold settle at step
  cases found : storage.calls.lookup body.callId with
  | none =>
    rw [found] at step
    cases step
    exact .inl rfl
  | some call =>
    rw [found] at step
    dsimp only at step
    obtain rfl | ⟨reserved, step⟩ := guard_ok step
    · exact .inl rfl
    rw [not_not] at reserved
    split at step
    · cases step
      have finished := Finished.done
        { call with status := .released, charged := 0, releaseReason := body.reason } 0
        found reserved (fun same => nomatch same) rfl rfl (fun held => ⟨le_refl 0, held⟩)
      simp only [sub_zero, add_zero] at finished
      exact .inr finished
    · obtain ⟨requested, -, step⟩ := bind_ok step
      cases step
      exact .inr (.done _ _ found reserved (fun same => nomatch same) rfl rfl
        (fun held => ⟨le_min (le_max_right _ _) held, min_le_right _ _⟩))

theorem reapCall_cases {now : ℤ} {row : Sigma fun _ : String => StoredCall}
    (found : storage.calls.lookup row.1 = some row.2) :
    reapCall now storage row = storage ∨ Finished storage row.1 (reapCall now storage row) := by
  simp only [reapCall]
  split_ifs with settled leased
  · exact .inl rfl
  · exact .inl rfl
  · have finished := Finished.done row.2.reap 0 found (not_not.mp settled) (fun same => nomatch same) rfl rfl
      (fun held => ⟨le_refl 0, held⟩)
    simp only [sub_zero, add_zero] at finished
    exact .inr finished

/-- What holds before an operation and after each of its answers holds in the storage it leaves. -/
theorem storageAfter_of {outcome : Except RangeError (Answer α)} {kept : Storage → Prop} (before : kept storage)
    (answered : ∀ result after, outcome = .ok (result, after) → kept after) : kept (storageAfter storage outcome) := by
  cases outcome with
  | error failure => exact before
  | ok answer => exact answered _ _ rfl

end Inversion

/-! ## The invariant -/

/-- The money identities of the ledger, with the signs that keep every operation within its holds. -/
structure Conserved (storage : Storage) : Prop where
  outstanding : storage.totalOutstanding = storage.balancesSum + storage.holdsSum
  credited : storage.totalCredited = storage.totalOutstanding + storage.totalCommitted
  committed : storage.totalCommitted = storage.spentSum
  balances : ∀ account, 0 ≤ storage.balance account
  holds : ∀ callId call, storage.calls.lookup callId = some call → 0 ≤ call.maxPrice
  deposits : ∀ intentId intent, storage.intents.lookup intentId = some intent → 0 ≤ intent.amount

/-- Every credited amount belongs to an intent that is recorded as consumed. -/
def CreditsConsumed (storage : Storage) : Prop := storage.totalCredited = storage.consumedSum

theorem Conserved.empty : Conserved Storage.empty where
  outstanding := rfl
  credited := rfl
  committed := rfl
  balances account := le_refl 0
  holds callId call found := by simp [Storage.empty] at found
  deposits intentId intent found := by simp [Storage.empty] at found

section Preservation

variable {storage after : Storage}

private theorem forall_insert {V : Type} {P : V → Prop} {store : AList fun _ : String => V} {key : String}
    {value : V} (kept : ∀ other row, store.lookup other = some row → P row) (new : P value) :
    ∀ other row, (store.insert key value).lookup other = some row → P row := by
  intro other row found
  by_cases same : other = key
  · subst same
    rw [AList.lookup_insert] at found
    cases found
    exact new
  · rw [AList.lookup_insert_ne same] at found
    exact kept other row found

private theorem nonneg_insert {balances : AList fun _ : String => ℤ} {account : String} {amount : ℤ}
    (kept : ∀ other, 0 ≤ (balances.lookup other).getD 0) (new : 0 ≤ amount) :
    ∀ other, 0 ≤ ((balances.insert account amount).lookup other).getD 0 := by
  intro other
  by_cases same : other = account
  · subst same
    simpa only [AList.lookup_insert, Option.getD_some] using new
  · rw [AList.lookup_insert_ne same]
    exact kept other

section Kept

variable (inv : Conserved storage)

include inv

/-- Rewriting one intent row leaves the balances, the holds and the totals alone. -/
theorem Conserved.insert_intent (intentId : String) {intent : StoredIntent} (amount : 0 ≤ intent.amount) :
    Conserved { storage with intents := storage.intents.insert intentId intent } :=
  { inv with deposits := forall_insert inv.deposits amount }

theorem Conserved.createIntent {body : CreateIntentBody}
    {result : Result StoredIntent} (step : createIntent storage body = .ok (result, after)) :
    Conserved after := by
  obtain rfl | ⟨intent, memos, rates, openSlots, -, positive, rfl⟩ := createIntent_cases step
  · exact inv
  · exact { inv.insert_intent body.intentId positive.le with }

theorem Conserved.openIntent {body : OpenBody} (effect : OpenEffect storage body after) : Conserved after := by
  cases effect with
  | unchanged => exact inv
  | renewed found amount status =>
    exact inv.insert_intent body.intentId (amount ▸ inv.deposits _ _ found)
  | closed openSlots overCaps found live amount status =>
    exact { inv.insert_intent body.intentId (amount ▸ inv.deposits _ _ found) with }
  | @credited intent updated openSlots consumed deposits found live amount status =>
    have nonneg := inv.deposits _ _ found
    refine { inv.insert_intent body.intentId (amount ▸ nonneg) with
      outstanding := ?_, credited := ?_, balances := ?_ }
    · simp only [Storage.balancesSum, Storage.total_insert_balance]
      have outstanding := inv.outstanding
      simp only [Storage.balancesSum, Storage.holdsSum] at outstanding ⊢
      omega
    · have credited := inv.credited
      simp only
      omega
    · exact nonneg_insert inv.balances (add_nonneg (inv.balances _) nonneg)

theorem Conserved.reserve {body : ReserveBody} {result : Result ReserveOutcome}
    (step : reserve storage body = .ok (result, after)) : Conserved after := by
  obtain rfl | ⟨call, history, alarmAt, fresh, reserved, held, funded, rfl⟩ := reserve_cases step
  · exact inv
  have hold : call.hold = call.maxPrice := if_pos reserved
  have spent : call.spent = 0 := if_neg (by rw [reserved]; decide)
  refine ⟨?_, inv.credited, ?_, ?_, ?_, inv.deposits⟩
  · have outstanding := inv.outstanding
    simp only [Storage.balancesSum, Storage.holdsSum, Storage.total_insert_balance] at outstanding ⊢
    rw [AList.total_insert, AList.weightAt_of_absent fresh, hold]
    omega
  · simp only [Storage.spentSum]
    rw [AList.total_insert_of_eq (by rw [AList.weightAt_of_absent fresh, spent])]
    exact inv.committed
  · exact nonneg_insert inv.balances (sub_nonneg.mpr funded)
  · exact forall_insert inv.holds held

theorem Conserved.markDispatched {callId : String} {result : Result Bool}
    (step : markDispatched storage callId = .ok (result, after)) : Conserved after := by
  obtain rfl | ⟨call, found, rfl⟩ := markDispatched_cases step
  · exact inv
  refine ⟨?_, inv.credited, ?_, inv.balances, forall_insert inv.holds (inv.holds _ call found), inv.deposits⟩
  · simp only [Storage.balancesSum, Storage.holdsSum]
    rw [AList.total_insert_of_eq (by rw [AList.weightAt_of_lookup found]; rfl)]
    exact inv.outstanding
  · simp only [Storage.spentSum]
    rw [AList.total_insert_of_eq (by rw [AList.weightAt_of_lookup found]; rfl)]
    exact inv.committed

/-- Finishing a call moves its hold into the balance and into the committed total. -/
theorem Conserved.finished {callId : String} (effect : Finished storage callId after) : Conserved after := by
  obtain @⟨call, settled, charged, found, reserved, settlement, spent, held, clamped⟩ := effect
  have nonneg := inv.holds _ _ found
  obtain ⟨chargedNonneg, covered⟩ := clamped nonneg
  have hold : call.hold = call.maxPrice := if_pos reserved
  have unspent : call.spent = 0 := if_neg (by rw [reserved]; decide)
  have cleared : settled.hold = 0 := if_neg settlement
  refine ⟨?_, ?_, ?_, ?_, forall_insert inv.holds (held ▸ nonneg), inv.deposits⟩
  · have outstanding := inv.outstanding
    simp only [Storage.balancesSum, Storage.holdsSum, Storage.total_insert_balance] at outstanding ⊢
    rw [AList.total_insert, AList.weightAt_of_lookup found, hold, cleared]
    omega
  · have credited := inv.credited
    simp only
    omega
  · have committed := inv.committed
    simp only [Storage.spentSum] at committed ⊢
    rw [AList.total_insert, AList.weightAt_of_lookup found, unspent, spent, committed]
    omega
  · exact nonneg_insert inv.balances (add_nonneg (inv.balances _) (sub_nonneg.mpr covered))

end Kept

/-- A finished call leaves every other call's record as it was. -/
theorem Finished.lookup_ne {callId other : String} (effect : Finished storage callId after)
    (distinct : other ≠ callId) : after.calls.lookup other = storage.calls.lookup other := by
  obtain @⟨call, settled, charged, -, -, -, -, -, -⟩ := effect
  exact AList.lookup_insert_ne distinct

/-- The rows of the reaper's snapshot it has not reached yet still hold the snapshot's records. -/
theorem Conserved.reap {now : ℤ} (rows : List (Sigma fun _ : String => StoredCall)) (nodup : rows.NodupKeys)
    (current : ∀ row ∈ rows, storage.calls.lookup row.1 = some row.2) (inv : Conserved storage) :
    Conserved (rows.foldl (reapCall now) storage) := by
  induction rows generalizing storage with
  | nil => exact inv
  | cons row rest ih =>
    obtain ⟨fresh, nodup⟩ := nodupKeys_cons.mp nodup
    have found := current row mem_cons_self
    have others : ∀ entry ∈ rest, entry.1 ≠ row.1 := fun entry member same =>
      fresh (same ▸ mem_keys_of_mem member)
    rw [foldl_cons]
    obtain same | effect : _ ∨ Finished storage row.1 (reapCall now storage row) := reapCall_cases found
    · rw [same]
      exact ih nodup (fun entry member => current entry (mem_cons_of_mem _ member)) inv
    · refine ih nodup (fun entry member => ?_) (inv.finished effect)
      rw [effect.lookup_ne (others entry member)]
      exact current entry (mem_cons_of_mem _ member)

theorem Conserved.alarm (inv : Conserved storage) (now : ℤ) : Conserved (alarm storage now) := by
  have cleared : Conserved { storage with alarmAt := none } := { inv with }
  have reaped : Conserved (storage.calls.entries.foldl (reapCall now) { storage with alarmAt := none }) :=
    Conserved.reap _ storage.calls.nodupKeys (fun row member => AList.mem_lookup_iff.mpr member) cleared
  simp only [Playground.alarm]
  split_ifs
  · exact { reaped with }
  · exact reaped

end Preservation

/-- Every request keeps the identities, also one that throws. -/
theorem Conserved.handle {storage : Storage} (inv : Conserved storage) (request : Request) :
    Conserved (handle storage request) := by
  cases request with
  | intentCreate body => exact storageAfter_of inv fun _ _ step => inv.createIntent step
  | «open» body => exact storageAfter_of inv fun _ _ step => inv.openIntent (openIntent_cases step)
  | reserve body => exact storageAfter_of inv fun _ _ step => inv.reserve step
  | dispatch callId => exact storageAfter_of inv fun _ _ step => inv.markDispatched step
  | settle body =>
    refine storageAfter_of inv fun _ after step => ?_
    obtain rfl | effect := settle_cases step
    · exact inv
    · exact inv.finished effect
  | alarm now => exact inv.alarm now

theorem Conserved.serve (requests : List Request) : Conserved (serve requests) := by
  suffices run : ∀ storage, Conserved storage → Conserved (requests.foldl Playground.handle storage) from
    run _ .empty
  induction requests with
  | nil => exact fun storage inv => inv
  | cons request rest ih => exact fun storage inv => ih _ (inv.handle request)

/-! ## Credits and consumed intents -/

/-- A create does not reuse the id of an intent that has already been credited. -/
def Request.KeepsConsumed (storage : Storage) : Request → Prop
  | .intentCreate body => (storage.intents.lookup body.intentId).map (·.status) ≠ some .consumed
  | _ => True

instance (storage : Storage) (request : Request) : Decidable (request.KeepsConsumed storage) := by
  cases request <;> unfold Request.KeepsConsumed <;> infer_instance

/-- Every create of a sequence of requests keeps the consumed intents it finds. -/
def NeverRecreatesConsumed : Storage → List Request → Prop
  | _, [] => True
  | storage, request :: rest =>
    request.KeepsConsumed storage ∧ NeverRecreatesConsumed (handle storage request) rest

instance : (storage : Storage) → (requests : List Request) → Decidable (NeverRecreatesConsumed storage requests)
  | _, [] => inferInstanceAs (Decidable True)
  | storage, request :: rest =>
    have := instDecidableNeverRecreatesConsumed (handle storage request) rest
    inferInstanceAs (Decidable (_ ∧ _))

section Credits

variable {storage after : Storage}

private theorem credit_eq_zero {intent : StoredIntent} (status : intent.status ≠ .consumed) :
    intent.credit = 0 := if_neg status

theorem CreditsConsumed.createIntent (inv : CreditsConsumed storage) {body : CreateIntentBody}
    (kept : (storage.intents.lookup body.intentId).map (·.status) ≠ some .consumed)
    {result : Result StoredIntent} (step : createIntent storage body = .ok (result, after)) :
    CreditsConsumed after := by
  obtain rfl | ⟨intent, memos, rates, openSlots, status, -, rfl⟩ := createIntent_cases step
  · exact inv
  have replaced : storage.intents.weightAt (fun _ row => row.credit) body.intentId = 0 := by
    cases found : storage.intents.lookup body.intentId with
    | none => exact AList.weightAt_of_absent found
    | some row =>
      rw [AList.weightAt_of_lookup found]
      rw [found] at kept
      exact credit_eq_zero fun same => kept (congrArg some same)
  simp only [CreditsConsumed, Storage.consumedSum]
  rw [AList.total_insert_of_eq (by rw [replaced, credit_eq_zero (by rw [status]; decide)])]
  exact inv

theorem CreditsConsumed.openIntent (inv : CreditsConsumed storage) {body : OpenBody}
    (effect : OpenEffect storage body after) : CreditsConsumed after := by
  have credited : storage.totalCredited = storage.consumedSum := inv
  cases effect with
  | unchanged => exact inv
  | renewed found amount status =>
    simp only [CreditsConsumed, Storage.consumedSum]
    rw [AList.total_insert_of_eq]
    · exact inv
    · rw [AList.weightAt_of_lookup found, StoredIntent.credit, StoredIntent.credit, amount, status]
  | closed openSlots overCaps found live amount status =>
    simp only [CreditsConsumed, Storage.consumedSum]
    rw [AList.total_insert_of_eq]
    · exact inv
    · rw [AList.weightAt_of_lookup found, credit_eq_zero live, credit_eq_zero status]
  | @credited intent updated openSlots consumed deposits found live amount status =>
    have credit : updated.credit = intent.amount := (if_pos status).trans amount
    simp only [CreditsConsumed, Storage.consumedSum] at credited ⊢
    rw [AList.total_insert, AList.weightAt_of_lookup found, credit_eq_zero live, credit, credited]
    ring

theorem CreditsConsumed.finished (inv : CreditsConsumed storage) {callId : String}
    (effect : Finished storage callId after) : CreditsConsumed after := by
  obtain @⟨call, settled, charged, -, -, -, -, -, -⟩ := effect
  exact inv

theorem CreditsConsumed.reap {now : ℤ} (rows : List (Sigma fun _ : String => StoredCall))
    (inv : CreditsConsumed storage) : CreditsConsumed (rows.foldl (reapCall now) storage) := by
  induction rows generalizing storage with
  | nil => exact inv
  | cons row rest ih =>
    refine ih ?_
    simp only [reapCall]
    split_ifs <;> exact inv

theorem CreditsConsumed.handle (inv : CreditsConsumed storage) {request : Request}
    (kept : request.KeepsConsumed storage) : CreditsConsumed (handle storage request) := by
  cases request with
  | intentCreate body => exact storageAfter_of inv fun _ _ step => inv.createIntent kept step
  | «open» body => exact storageAfter_of inv fun _ _ step => inv.openIntent (openIntent_cases step)
  | reserve body =>
    refine storageAfter_of inv fun _ after step => ?_
    obtain rfl | ⟨call, history, alarmAt, -, -, -, -, rfl⟩ := reserve_cases step
    · exact inv
    · exact inv
  | dispatch callId =>
    refine storageAfter_of inv fun _ after step => ?_
    obtain rfl | ⟨call, -, rfl⟩ := markDispatched_cases step
    · exact inv
    · exact inv
  | settle body =>
    refine storageAfter_of inv fun _ after step => ?_
    obtain rfl | effect := settle_cases step
    · exact inv
    · exact inv.finished effect
  | alarm now =>
    have cleared : CreditsConsumed { storage with alarmAt := none } := inv
    have reaped : CreditsConsumed (storage.calls.entries.foldl (reapCall now) { storage with alarmAt := none }) :=
      cleared.reap _
    change CreditsConsumed (Playground.alarm storage now)
    simp only [Playground.alarm]
    split_ifs
    · exact reaped
    · exact reaped

theorem CreditsConsumed.run (inv : CreditsConsumed storage) (requests : List Request)
    (kept : NeverRecreatesConsumed storage requests) :
    CreditsConsumed (requests.foldl Playground.handle storage) := by
  induction requests generalizing storage with
  | nil => exact inv
  | cons request rest ih => exact ih (inv.handle kept.1) kept.2

end Credits

/-- Money is conserved over every sequence of requests to a fresh ledger. Credits match the consumed
intents as long as no create reuses the id of an intent that is already consumed. -/
theorem serve_conserves (requests : List Request) :
    (serve requests).totalOutstanding = (serve requests).balancesSum + (serve requests).holdsSum ∧
    (serve requests).totalCredited = (serve requests).totalOutstanding + (serve requests).totalCommitted ∧
    (serve requests).totalCommitted = (serve requests).spentSum ∧
    (NeverRecreatesConsumed Storage.empty requests →
      (serve requests).totalCredited = (serve requests).consumedSum) ∧
    (∀ account, 0 ≤ (serve requests).balance account) ∧
    ∀ callId call, (serve requests).calls.lookup callId = some call → 0 ≤ call.hold := by
  have inv := Conserved.serve requests
  refine ⟨inv.outstanding, inv.credited, inv.committed, fun kept => ?_, inv.balances, ?_⟩
  · exact CreditsConsumed.run (show CreditsConsumed Storage.empty from rfl) requests kept
  · intro callId call found
    simp only [StoredCall.hold]
    split_ifs
    · exact inv.holds callId call found
    · exact le_refl 0

/-- An intent of the account "G1", of 1000 units, for payments that carry `memo`. -/
def createdIntent (intentId memo : String) (now maxOpenIntents : ℤ) : Request :=
  .intentCreate ⟨intentId, "G1", "1000", memo, "D", now, 100, "5000", "5000", 5, maxOpenIntents⟩

/-- The claim of a payment that confirmed at `confirmedAt`. -/
def openedWith (intentId txHash jti : String) (now confirmedAt : ℤ) : Request :=
  .open ⟨intentId, txHash, 0, now, confirmedAt, jti, 99, "5000", "5000"⟩

/-- One deposit, one committed call and one released by the reaper. -/
def oneDeposit : List Request :=
  [createdIntent "i1" "m1" 0 5, openedWith "i1" "t1" "j1" 10 10,
    .reserve ⟨"c1", "G1", "chat", none, "400", 20, 10⟩, .settle ⟨"c1", .commit, some "250", none⟩,
    .reserve ⟨"c2", "G1", "chat", none, "300", 20, 10⟩, .alarm 400000]

theorem serve_conserves_deposit :
    (serve oneDeposit).totalCredited = 1000 ∧ (serve oneDeposit).consumedSum = 1000 := by
  have conserved := serve_conserves oneDeposit
  have credited := conserved.2.2.2.1 (by decide)
  rw [← credited]
  decide

/-- A create that reuses a consumed intent's id reopens it. -/
def reopened : List Request :=
  [createdIntent "i1" "m1" 0 5, openedWith "i1" "t1" "j1" 10 10, createdIntent "i1" "m2" 20 5]

/-- The credit of a reopened intent loses its intent. -/
theorem serve_loses_consumed_intent : (serve reopened).totalCredited ≠ (serve reopened).consumedSum := by
  decide

end MppRouter.Playground
