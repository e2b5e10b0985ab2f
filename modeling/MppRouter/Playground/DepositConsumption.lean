import MppRouter.Playground.LedgerConservation

/-! # Consumption of deposits

A deposit is one payment operation on chain. It is credited through one intent, once: the payment index
and the intents name each other. Both sides hold as long as the ids of intents are minted the way the
router does it, never empty and never that of an intent that was credited already.
-/

namespace MppRouter.Playground

open List

/-- A payment that was credited through an intent. -/
structure Credit where
  intentId : String
  payment : String × ℤ
  deriving DecidableEq, Repr

def creditOf (storage : Storage) : Request → Option Credit
  | .open body =>
    match openIntent storage body with
    | .ok (.ok opened, _) => if opened.replayed then none else some ⟨body.intentId, (body.txHash, body.opIndex)⟩
    | _ => none
  | _ => none

/-- Every credit of a sequence of requests. -/
def creditsFrom : Storage → List Request → List Credit
  | _, [] => []
  | storage, request :: rest => (creditOf storage request).toList ++ creditsFrom (handle storage request) rest

/-- The payment a consumed intent is bound to. -/
def StoredIntent.payment (intent : StoredIntent) : Option (String × ℤ) :=
  if intent.status = .consumed then intent.txHash.bind fun txHash => intent.opIndex.map fun opIndex => (txHash, opIndex)
  else none

theorem StoredIntent.payment_eq_some {intent : StoredIntent} {txHash : String} {opIndex : ℤ} :
    intent.payment = some (txHash, opIndex) ↔
      intent.status = .consumed ∧ intent.txHash = some txHash ∧ intent.opIndex = some opIndex := by
  unfold StoredIntent.payment
  constructor
  · intro bound
    split_ifs at bound with consumed
    obtain ⟨tx, hasTx, bound⟩ := Option.bind_eq_some_iff.mp bound
    obtain ⟨op, hasOp, same⟩ := Option.map_eq_some_iff.mp bound
    cases same
    exact ⟨consumed, hasTx, hasOp⟩
  · rintro ⟨consumed, hasTx, hasOp⟩
    rw [if_pos consumed, hasTx, hasOp]
    rfl

theorem StoredIntent.payment_of_live {intent : StoredIntent} (live : intent.status ≠ .consumed) :
    intent.payment = none := if_neg live

/-! ## Outcomes of an open -/

/-- The money of the ledger: its balances and its totals. -/
structure SameMoney (before after : Storage) : Prop where
  balances : after.balances = before.balances
  totalCredited : after.totalCredited = before.totalCredited
  totalCommitted : after.totalCommitted = before.totalCommitted
  totalOutstanding : after.totalOutstanding = before.totalOutstanding

/-- What an open answers, with the storage it leaves. -/
inductive OpenOutcome (storage : Storage) (body : OpenBody) : Result Opened → Storage → Prop
  | refused (failure : Err) : OpenOutcome storage body (.error failure) storage
  | closed {intent marked : StoredIntent} {after : Storage} (failure : Err)
      (found : storage.intents.lookup body.intentId = some intent) (live : intent.status ≠ .consumed)
      (still : marked.status ≠ .consumed) (intents : after.intents = storage.intents.insert body.intentId marked)
      (consumed : after.consumed = storage.consumed) (money : SameMoney storage after) :
      OpenOutcome storage body (.error failure) after
  | repeated {opened : Opened} (replayed : opened.replayed = true) : OpenOutcome storage body (.ok opened) storage
  | renewed {intent returned : StoredIntent} {opened : Opened}
      (found : storage.intents.lookup body.intentId = some intent) (same : returned.payment = intent.payment)
      (replayed : opened.replayed = true) :
      OpenOutcome storage body (.ok opened) { storage with intents := storage.intents.insert body.intentId returned }
  | credited {intent : StoredIntent} {opened : Opened} {after : Storage} {dayCap globalCap : ℤ}
      (found : storage.intents.lookup body.intentId = some intent) (live : intent.status ≠ .consumed)
      (unclaimed : (storage.consumed.lookup (body.txHash, body.opIndex)).getD "" = "")
      (fresh : opened.replayed = false) (account : opened.intent.account = intent.account)
      (bound : opened.intent.payment = some (body.txHash, body.opIndex))
      (intents : after.intents = storage.intents.insert body.intentId opened.intent)
      (consumed : after.consumed = storage.consumed.insert (body.txHash, body.opIndex) body.intentId)
      (dayCapRead : parseAtomic (some body.perAccountDayCap) = .ok dayCap)
      (globalCapRead : parseAtomic (some body.globalCap) = .ok globalCap)
      (withinDay : after.deposited intent.account (utcDayKey body.confirmedAt) ≤ dayCap)
      (withinGlobal : after.totalOutstanding ≤ globalCap) : OpenOutcome storage body (.ok opened) after

section Inversion

variable {storage after : Storage}

theorem openIntent_outcome {body : OpenBody} {result : Result Opened}
    (step : openIntent storage body = .ok (result, after)) : OpenOutcome storage body result after := by
  unfold openIntent at step
  cases found : storage.intents.lookup body.intentId with
  | none =>
    rw [found] at step
    cases step
    exact .refused _
  | some intent =>
    rw [found] at step
    dsimp only at step
    split at step
    next overCap =>
      cases step
      exact .refused _
    next =>
      split at step
      next consumed =>
        split at step
        next samePayment =>
          split at step
          next renew =>
            cases step
            exact .renewed found rfl rfl
          next =>
            cases step
            exact .repeated rfl
        next =>
          cases step
          exact .refused _
      next live =>
        split at step
        next claimed =>
          cases step
          exact .refused _
        next unclaimed =>
          split at step
          next late =>
            cases step
            exact .closed _ found live (by simp) rfl rfl ⟨rfl, rfl, rfl, rfl⟩
          next =>
            obtain ⟨dayCap, dayCapRead, step⟩ := bind_ok step
            obtain ⟨globalCap, globalCapRead, step⟩ := bind_ok step
            split at step
            next exceeds =>
              cases step
              exact .closed _ found live (by simp) rfl rfl ⟨rfl, rfl, rfl, rfl⟩
            next within =>
              cases step
              obtain ⟨withinDay, withinGlobal⟩ := not_or.mp within
              refine .credited found live (not_not.mp unclaimed) rfl rfl (if_pos rfl) rfl rfl dayCapRead globalCapRead ?_ ?_
              · simp only [Storage.deposited, Storage.releaseOpenSlot, AList.lookup_insert, Option.getD_some]
                exact not_lt.mp withinDay
              · exact not_lt.mp withinGlobal

end Inversion

/-! ## What a request does to intents and payments -/

/-- A request leaves both tables alone, mints an intent, rewrites one under its payment, or credits one. -/
inductive DepositStep (storage : Storage) : Request → Option Credit → Storage → Prop
  | elsewhere {request : Request} {after : Storage} (intents : after.intents = storage.intents)
      (consumed : after.consumed = storage.consumed) : DepositStep storage request none after
  | created {body : CreateIntentBody} {intent : StoredIntent} {after : Storage} (unbound : intent.payment = none)
      (intents : after.intents = storage.intents.insert body.intentId intent)
      (consumed : after.consumed = storage.consumed) : DepositStep storage (.intentCreate body) none after
  | kept {body : OpenBody} {intent marked : StoredIntent} {after : Storage}
      (found : storage.intents.lookup body.intentId = some intent) (same : marked.payment = intent.payment)
      (intents : after.intents = storage.intents.insert body.intentId marked)
      (consumed : after.consumed = storage.consumed) : DepositStep storage (.open body) none after
  | credited {body : OpenBody} {intent updated : StoredIntent} {after : Storage}
      (found : storage.intents.lookup body.intentId = some intent) (unbound : intent.payment = none)
      (unclaimed : (storage.consumed.lookup (body.txHash, body.opIndex)).getD "" = "")
      (bound : updated.payment = some (body.txHash, body.opIndex))
      (intents : after.intents = storage.intents.insert body.intentId updated)
      (consumed : after.consumed = storage.consumed.insert (body.txHash, body.opIndex) body.intentId) :
      DepositStep storage (.open body) (some ⟨body.intentId, (body.txHash, body.opIndex)⟩) after

section Steps

variable {storage : Storage}

/-- The intents, their payments and their slots are left alone. -/
structure SameIntents (before after : Storage) : Prop where
  intents : after.intents = before.intents
  consumed : after.consumed = before.consumed
  slots : after.openSlots = before.openSlots

theorem SameIntents.refl (storage : Storage) : SameIntents storage storage := ⟨rfl, rfl, rfl⟩

theorem SameIntents.trans {before middle after : Storage} (first : SameIntents before middle)
    (second : SameIntents middle after) : SameIntents before after where
  intents := second.intents.trans first.intents
  consumed := second.consumed.trans first.consumed
  slots := second.slots.trans first.slots

theorem finished_sameIntents {callId : String} {after : Storage} (effect : Finished storage callId after) :
    SameIntents storage after := by
  obtain @⟨call, settled, charged, -, -, -, -, -, -⟩ := effect
  exact ⟨rfl, rfl, rfl⟩

theorem reap_sameIntents (now : ℤ) (rows : List (Sigma fun _ : String => StoredCall)) (storage : Storage) :
    SameIntents storage (rows.foldl (reapCall now) storage) := by
  induction rows generalizing storage with
  | nil => exact .refl storage
  | cons row rest ih =>
    have here : SameIntents storage (reapCall now storage row) := by
      simp only [reapCall]
      split_ifs <;> exact ⟨rfl, rfl, rfl⟩
    exact here.trans (ih (reapCall now storage row))

theorem alarm_sameIntents (storage : Storage) (now : ℤ) : SameIntents storage (alarm storage now) := by
  have reaped := reap_sameIntents now storage.calls.entries { storage with alarmAt := none }
  simp only [alarm]
  split_ifs
  · exact ⟨reaped.intents, reaped.consumed, reaped.slots⟩
  · exact ⟨reaped.intents, reaped.consumed, reaped.slots⟩

/-- A request that mints or opens no intent. -/
def Request.OnCalls : Request → Prop
  | .intentCreate _ | .open _ => False
  | _ => True

theorem handle_sameIntents {request : Request} (calls : request.OnCalls) :
    SameIntents storage (handle storage request) := by
  have refl := SameIntents.refl storage
  cases request with
  | intentCreate body => exact calls.elim
  | «open» body => exact calls.elim
  | reserve body =>
    refine storageAfter_of refl fun _ after step => ?_
    obtain rfl | ⟨call, history, alarmAt, -, -, -, -, rfl⟩ := reserve_cases step
    · exact refl
    · exact ⟨rfl, rfl, rfl⟩
  | dispatch callId =>
    refine storageAfter_of refl fun _ after step => ?_
    obtain rfl | ⟨call, -, rfl⟩ := markDispatched_cases step
    · exact refl
    · exact ⟨rfl, rfl, rfl⟩
  | settle body =>
    refine storageAfter_of refl fun _ after step => ?_
    obtain rfl | effect := settle_cases step
    · exact refl
    · exact finished_sameIntents effect
  | alarm now => exact alarm_sameIntents storage now

theorem createIntent_step (body : CreateIntentBody) :
    DepositStep storage (.intentCreate body) none (storageAfter storage (createIntent storage body)) := by
  cases step : createIntent storage body with
  | error failure => exact .elsewhere rfl rfl
  | ok answer =>
    obtain same | ⟨intent, memos, rates, openSlots, status, -, same⟩ := createIntent_cases step
    · rw [storageAfter, same]
      exact .elsewhere rfl rfl
    · rw [storageAfter, same]
      refine .created (StoredIntent.payment_of_live ?_) rfl rfl
      rw [status]
      decide

theorem openIntent_step (body : OpenBody) :
    DepositStep storage (.open body) (creditOf storage (.open body)) (storageAfter storage (openIntent storage body)) := by
  cases step : openIntent storage body with
  | error failure =>
    simp only [creditOf, step]
    exact .elsewhere rfl rfl
  | ok answer =>
    obtain ⟨result, after⟩ := answer
    cases openIntent_outcome step with
    | refused failure =>
      simp only [creditOf, step]
      exact .elsewhere rfl rfl
    | closed failure found live still intents consumed money =>
      simp only [creditOf, step]
      refine .kept found ?_ intents consumed
      rw [StoredIntent.payment_of_live live, StoredIntent.payment_of_live still]
    | repeated replayed =>
      simp only [creditOf, step, replayed, if_true]
      exact .elsewhere rfl rfl
    | renewed found same replayed =>
      simp only [creditOf, step, replayed, if_true]
      exact .kept found same rfl rfl
    | credited found live unclaimed fresh account bound intents consumed =>
      simp only [creditOf, step, fresh, Bool.false_eq_true, if_false]
      exact .credited found (StoredIntent.payment_of_live live) unclaimed bound intents consumed

theorem handle_step (storage : Storage) (request : Request) :
    DepositStep storage request (creditOf storage request) (handle storage request) := by
  have elsewhere (calls : request.OnCalls) : DepositStep storage request none (handle storage request) := by
    have same : SameIntents storage (handle storage request) := handle_sameIntents calls
    exact .elsewhere same.intents same.consumed
  cases request with
  | intentCreate body => exact createIntent_step body
  | «open» body => exact openIntent_step body
  | reserve | dispatch | settle | alarm => exact elsewhere trivial

end Steps

/-! ## Credits are remembered -/

/-- Credits have different keys when a storage remembers the key of each credit and credits no key it
remembers. -/
theorem creditsFrom_nodup {K : Type} (key : Credit → K) (remembers : Storage → K → Prop)
    (good : Storage → List Request → Prop)
    (next : ∀ storage request rest, good storage (request :: rest) → good (handle storage request) rest)
    (keeps : ∀ storage request rest remembered, good storage (request :: rest) → remembers storage remembered →
      remembers (handle storage request) remembered)
    (credits : ∀ storage request rest credit, good storage (request :: rest) → creditOf storage request = some credit →
      ¬ remembers storage (key credit) ∧ remembers (handle storage request) (key credit))
    (requests : List Request) (storage : Storage) (isGood : good storage requests) :
    ((creditsFrom storage requests).map key).Nodup ∧
      ∀ credit ∈ creditsFrom storage requests, ¬ remembers storage (key credit) := by
  induction requests generalizing storage with
  | nil => exact ⟨nodup_nil, nofun⟩
  | cons request rest ih =>
    obtain ⟨nodup, unknown⟩ := ih (handle storage request) (next _ _ _ isGood)
    have later : ∀ credit ∈ creditsFrom (handle storage request) rest, ¬ remembers storage (key credit) := by
      intro credit member known
      exact unknown credit member (keeps _ _ _ _ isGood known)
    rw [creditsFrom]
    cases credited : creditOf storage request with
    | none => exact ⟨nodup, later⟩
    | some credit =>
      obtain ⟨isNew, isKnown⟩ := credits _ _ _ _ isGood credited
      simp only [Option.toList_some, singleton_append, map_cons, nodup_cons, mem_map,
        forall_mem_cons]
      refine ⟨⟨?_, nodup⟩, isNew, later⟩
      rintro ⟨other, member, same⟩
      exact unknown other member (same ▸ isKnown)

/-- An intent is minted under a name. -/
def Request.NamesIntent : Request → Prop
  | .intentCreate body => body.intentId ≠ ""
  | _ => True

instance (request : Request) : Decidable request.NamesIntent := by
  apply @Request.casesOn (fun request => Decidable request.NamesIntent) request <;> intros <;>
    dsimp only [Request.NamesIntent] <;> infer_instance

def NamesIntents (requests : List Request) : Prop := ∀ request ∈ requests, request.NamesIntent

instance (requests : List Request) : Decidable (NamesIntents requests) := inferInstanceAs (Decidable (∀ _ ∈ _, _))

def Named (storage : Storage) : Prop := ∀ intentId intent, storage.intents.lookup intentId = some intent → intentId ≠ ""

theorem named_empty : Named Storage.empty := by
  intro intentId intent found
  simp [Storage.empty] at found

section Runs

variable {storage after : Storage} {request : Request} {credit : Option Credit}

theorem lookup_insert_cases {V : Type} {store : AList fun _ : String => V} {key other : String} {value found : V}
    (looked : (store.insert key value).lookup other = some found) :
    other = key ∧ found = value ∨ other ≠ key ∧ store.lookup other = some found := by
  by_cases same : other = key
  · subst same
    rw [AList.lookup_insert] at looked
    exact .inl ⟨rfl, (Option.some.inj looked).symm⟩
  · rw [AList.lookup_insert_ne same] at looked
    exact .inr ⟨same, looked⟩

theorem Named.step (named : Named storage) (step : DepositStep storage request credit after)
    (names : request.NamesIntent) : Named after := by
  intro other found looked
  cases step with
  | elsewhere intents =>
    rw [intents] at looked
    exact named other found looked
  | created unbound intents =>
    rw [intents] at looked
    rcases lookup_insert_cases looked with ⟨rfl, -⟩ | ⟨-, was⟩
    · exact names
    · exact named other found was
  | kept was same intents =>
    rw [intents] at looked
    rcases lookup_insert_cases looked with ⟨rfl, -⟩ | ⟨-, was⟩
    · exact named _ _ was
    · exact named other found was
  | credited was unbound unclaimed bound intents =>
    rw [intents] at looked
    rcases lookup_insert_cases looked with ⟨rfl, -⟩ | ⟨-, was⟩
    · exact named _ _ was
    · exact named other found was

/-- A payment that the index holds under a name is never credited again. -/
theorem claimed_stays {payment : String × ℤ} (claimed : (storage.consumed.lookup payment).getD "" ≠ "")
    (step : DepositStep storage request credit after) : (after.consumed.lookup payment).getD "" ≠ "" := by
  cases step with
  | elsewhere _ consumed => rwa [consumed]
  | created _ _ consumed => rwa [consumed]
  | kept _ _ _ consumed => rwa [consumed]
  | credited found unbound unclaimed bound intents consumed =>
    rw [consumed, AList.lookup_insert_ne]
    · exact claimed
    · rintro rfl
      exact claimed unclaimed

/-- Each payment is credited at most once. -/
theorem payments_nodup (requests : List Request) (names : NamesIntents requests) :
    ((creditsFrom Storage.empty requests).map Credit.payment).Nodup := by
  refine (creditsFrom_nodup Credit.payment (fun storage payment => (storage.consumed.lookup payment).getD "" ≠ "")
    (fun storage requests => Named storage ∧ NamesIntents requests) ?_ ?_ ?_ requests Storage.empty ⟨named_empty, names⟩).1
  · rintro storage request rest ⟨named, names⟩
    exact ⟨named.step (handle_step storage request) (names request mem_cons_self),
      fun other member => names other (mem_cons_of_mem _ member)⟩
  · rintro storage request rest payment - claimed
    exact claimed_stays claimed (handle_step storage request)
  · rintro storage request rest credit ⟨named, -⟩ credited
    have step := handle_step storage request
    rw [credited] at step
    cases step with
    | credited found unbound unclaimed bound intents consumed =>
      refine ⟨not_not.mpr unclaimed, ?_⟩
      rw [consumed, AList.lookup_insert]
      exact named _ _ found

theorem unbound_of_keeps {body : CreateIntentBody} {intent : StoredIntent}
    (keeps : (Request.intentCreate body).KeepsConsumed storage)
    (found : storage.intents.lookup body.intentId = some intent) : intent.payment = none := by
  refine StoredIntent.payment_of_live fun consumed => keeps ?_
  rw [found, Option.map_some, consumed]

theorem bound_stays {intentId : String} {intent : StoredIntent} {payment : String × ℤ}
    (keeps : request.KeepsConsumed storage) (found : storage.intents.lookup intentId = some intent)
    (bound : intent.payment = some payment) (step : DepositStep storage request credit after) :
    ∃ later, after.intents.lookup intentId = some later ∧ later.payment = some payment := by
  have elsewhere {key : String} {value : StoredIntent} (intents : after.intents = storage.intents.insert key value)
      (other : intentId ≠ key) : ∃ later, after.intents.lookup intentId = some later ∧ later.payment = some payment :=
    ⟨intent, by rw [intents, AList.lookup_insert_ne other, found], bound⟩
  cases step with
  | elsewhere intents => exact ⟨intent, by rw [intents, found], bound⟩
  | created unbound intents =>
    refine elsewhere intents ?_
    rintro rfl
    rw [unbound_of_keeps keeps found] at bound
    cases bound
  | @kept body was marked _ foundWas same intents =>
    by_cases other : intentId = body.intentId
    · subst other
      rw [found] at foundWas
      cases foundWas
      exact ⟨marked, by rw [intents, AList.lookup_insert], same.trans bound⟩
    · exact elsewhere intents other
  | credited foundWas unbound unclaimed _ intents =>
    refine elsewhere intents ?_
    rintro rfl
    rw [found] at foundWas
    cases foundWas
    rw [unbound] at bound
    cases bound

/-- Each intent is credited at most once. -/
theorem intents_nodup (requests : List Request) (keeps : NeverRecreatesConsumed Storage.empty requests) :
    ((creditsFrom Storage.empty requests).map Credit.intentId).Nodup := by
  refine (creditsFrom_nodup Credit.intentId
    (fun storage intentId => ∃ intent payment, storage.intents.lookup intentId = some intent ∧
      intent.payment = some payment)
    NeverRecreatesConsumed ?_ ?_ ?_ requests Storage.empty keeps).1
  · rintro storage request rest ⟨-, keeps⟩
    exact keeps
  · rintro storage request rest intentId ⟨keeps, -⟩ ⟨intent, payment, found, bound⟩
    obtain ⟨later, foundLater, stillBound⟩ := bound_stays keeps found bound (handle_step storage request)
    exact ⟨later, payment, foundLater, stillBound⟩
  · rintro storage request rest credit - credited
    have step := handle_step storage request
    rw [credited] at step
    cases step with
    | @credited body was updated _ found unbound unclaimed bound intents consumed =>
      refine ⟨?_, updated, _, by rw [intents, AList.lookup_insert], bound⟩
      rintro ⟨intent, payment, foundIntent, boundIntent⟩
      rw [found] at foundIntent
      cases foundIntent
      rw [unbound] at boundIntent
      cases boundIntent

/-! ## The payment index -/

/-- The payment index and the consumed intents name each other. -/
def Indexed (storage : Storage) : Prop :=
  ∀ payment intentId, storage.consumed.lookup payment = some intentId ↔
    ∃ intent, storage.intents.lookup intentId = some intent ∧ intent.payment = some payment

theorem indexed_empty : Indexed Storage.empty := by
  intro payment intentId
  simp [Storage.empty]

theorem indexed_insert {intentId : String} {marked : StoredIntent} (indexed : Indexed storage)
    (unchanged : ∀ payment, marked.payment = some payment ↔
      ∃ intent, storage.intents.lookup intentId = some intent ∧ intent.payment = some payment)
    (intents : after.intents = storage.intents.insert intentId marked)
    (consumed : after.consumed = storage.consumed) : Indexed after := by
  intro payment other
  rw [consumed, intents, indexed payment other]
  by_cases same : other = intentId
  · subst same
    rw [AList.lookup_insert, ← unchanged]
    simp
  · rw [AList.lookup_insert_ne same]

theorem Indexed.step (indexed : Indexed storage) (named : Named storage) (keeps : request.KeepsConsumed storage)
    (step : DepositStep storage request credit after) : Indexed after := by
  cases step with
  | elsewhere intents consumed =>
    intro payment intentId
    rw [intents, consumed]
    exact indexed payment intentId
  | @created body intent _ unbound intents consumed =>
    refine indexed_insert indexed (fun payment => ?_) intents consumed
    rw [unbound]
    constructor
    · exact nofun
    · rintro ⟨was, found, bound⟩
      rw [unbound_of_keeps keeps found] at bound
      cases bound
  | @kept body was marked _ found same intents consumed =>
    refine indexed_insert indexed (fun payment => ?_) intents consumed
    rw [same, found]
    simp
  | @credited body was updated _ found unbound unclaimed bound intents consumed =>
    intro payment intentId
    rw [consumed, intents]
    by_cases samePayment : payment = (body.txHash, body.opIndex)
    · subst samePayment
      rw [AList.lookup_insert]
      constructor
      · rintro ⟨⟩
        exact ⟨updated, AList.lookup_insert _, bound⟩
      · rintro ⟨intent, looked, boundIntent⟩
        rcases lookup_insert_cases looked with ⟨rfl, -⟩ | ⟨-, wasThere⟩
        · rfl
        · have claimed := (indexed _ _).mpr ⟨intent, wasThere, boundIntent⟩
          rw [claimed] at unclaimed
          exact absurd unclaimed (named _ _ wasThere)
    · rw [AList.lookup_insert_ne samePayment, indexed payment intentId]
      constructor
      · rintro ⟨intent, looked, boundIntent⟩
        have other : intentId ≠ body.intentId := by
          rintro rfl
          rw [found] at looked
          cases looked
          rw [unbound] at boundIntent
          cases boundIntent
        exact ⟨intent, by rw [AList.lookup_insert_ne other, looked], boundIntent⟩
      · rintro ⟨intent, looked, boundIntent⟩
        rcases lookup_insert_cases looked with ⟨rfl, rfl⟩ | ⟨-, wasThere⟩
        · rw [bound] at boundIntent
          exact absurd (Option.some.inj boundIntent).symm samePayment
        · exact ⟨intent, wasThere, boundIntent⟩

theorem Indexed.run (requests : List Request) (storage : Storage) (indexed : Indexed storage) (named : Named storage)
    (names : NamesIntents requests) (keeps : NeverRecreatesConsumed storage requests) :
    Indexed (requests.foldl handle storage) := by
  induction requests generalizing storage with
  | nil => exact indexed
  | cons request rest ih =>
    have step := handle_step storage request
    exact ih (handle storage request) (indexed.step named keeps.1 step) (named.step step (names request mem_cons_self))
      (fun other member => names other (mem_cons_of_mem _ member)) keeps.2

end Runs

/-! ## Errors and ceilings -/

theorem refused_open_moves_nothing (storage : Storage) (body : OpenBody)
    (refused : ∀ opened after, openIntent storage body ≠ .ok (.ok opened, after)) :
    SameMoney storage (handle storage (.open body)) := by
  have refl : SameMoney storage storage := ⟨rfl, rfl, rfl, rfl⟩
  refine storageAfter_of refl fun result after step => ?_
  cases openIntent_outcome step with
  | refused => exact refl
  | closed _ found live still intents consumed money => exact money
  | repeated | renewed | credited => exact absurd step (refused _ _)

/-- Right after a credit both ceilings that were passed hold. -/
theorem credit_within_caps {storage after : Storage} {body : OpenBody} {opened : Opened}
    (step : openIntent storage body = .ok (.ok opened, after)) (credits : opened.replayed = false) :
    ∃ dayCap globalCap, parseAtomic (some body.perAccountDayCap) = .ok dayCap ∧
      parseAtomic (some body.globalCap) = .ok globalCap ∧ after.totalOutstanding ≤ globalCap ∧
      after.deposited opened.intent.account (utcDayKey body.confirmedAt) ≤ dayCap := by
  cases openIntent_outcome step with
  | repeated replayed =>
    rw [credits] at replayed
    cases replayed
  | renewed found same replayed =>
    rw [credits] at replayed
    cases replayed
  | credited found live unclaimed fresh account bound intents consumed dayCapRead globalCapRead withinDay withinGlobal =>
    exact ⟨_, _, dayCapRead, globalCapRead, withinGlobal, account ▸ withinDay⟩

/-! ## Deposits over runs -/

/-- What a ledger that served these requests has credited. -/
def credits (requests : List Request) : List Credit := creditsFrom Storage.empty requests

/-- A payment is credited once, through one intent that stays bound to it, and only below both ceilings;
a refused open moves no money. -/
theorem deposits_consumed_once (requests : List Request) :
    (NamesIntents requests → ((credits requests).map Credit.payment).Nodup) ∧
    (NeverRecreatesConsumed Storage.empty requests → ((credits requests).map Credit.intentId).Nodup) ∧
    (NamesIntents requests → NeverRecreatesConsumed Storage.empty requests → ∀ txHash opIndex intentId,
      (serve requests).consumed.lookup (txHash, opIndex) = some intentId ↔
        ∃ intent, (serve requests).intents.lookup intentId = some intent ∧ intent.status = .consumed ∧
          intent.txHash = some txHash ∧ intent.opIndex = some opIndex) ∧
    (∀ body, (∀ opened after, openIntent (serve requests) body ≠ .ok (.ok opened, after)) →
      SameMoney (serve requests) (handle (serve requests) (.open body))) ∧
    ∀ body opened after, openIntent (serve requests) body = .ok (.ok opened, after) → opened.replayed = false →
      ∃ dayCap globalCap, parseAtomic (some body.perAccountDayCap) = .ok dayCap ∧
        parseAtomic (some body.globalCap) = .ok globalCap ∧ after.totalOutstanding ≤ globalCap ∧
        after.deposited opened.intent.account (utcDayKey body.confirmedAt) ≤ dayCap := by
  refine ⟨payments_nodup requests, intents_nodup requests, ?_, refused_open_moves_nothing _, ?_⟩
  · intro names keeps txHash opIndex intentId
    have indexed := Indexed.run requests Storage.empty indexed_empty named_empty names keeps
    refine (indexed (txHash, opIndex) intentId).trans ?_
    simp only [StoredIntent.payment_eq_some]
    rfl
  · exact fun body opened after => credit_within_caps

/-- Two deposits of one account, each claimed twice. -/
def twoDeposits : List Request :=
  [createdIntent "i1" "m1" 0 5, createdIntent "i2" "m2" 0 5, openedWith "i1" "t1" "j1" 10 10,
    openedWith "i2" "t1" "j2" 10 10, openedWith "i2" "t2" "j2" 10 10, openedWith "i1" "t1" "j1" 10 10]

theorem deposits_consumed_once_two : (credits twoDeposits).map Credit.payment = [("t1", 0), ("t2", 0)] ∧
    ((credits twoDeposits).map Credit.payment).Nodup ∧ ((credits twoDeposits).map Credit.intentId).Nodup := by
  obtain ⟨payments, intents, -, -, -⟩ := deposits_consumed_once twoDeposits
  exact ⟨by decide, payments (by decide), intents (by decide)⟩

/-- A create under a consumed intent's id lets it be credited again; a payment that was credited through
an intent without a name is credited again. -/
theorem deposits_consumed_twice :
    ¬ ((credits (reopened ++ [openedWith "i1" "t2" "j2" 30 30])).map Credit.intentId).Nodup ∧
    ¬ ((credits [createdIntent "" "m1" 0 5, createdIntent "i2" "m2" 0 5, openedWith "" "t1" "j1" 10 10,
      openedWith "i2" "t1" "j2" 20 20]).map Credit.payment).Nodup := by
  constructor <;> decide

end MppRouter.Playground
