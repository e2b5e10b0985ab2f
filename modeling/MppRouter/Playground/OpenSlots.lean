import MppRouter.Playground.DepositConsumption

/-! # The open-intent slots

Each account has a counter of its unclaimed intents, raised by a create and lowered by an open. The counter follows the
stored intents as long as no create takes the id of an open intent and no open lowers it for an intent that has expired
before; a request that does either breaks it.
-/

namespace MppRouter.Playground

open List

/-! ## The law of the counter -/

/-- What an intent weighs in the count of an account's unclaimed intents. -/
def StoredIntent.slot (account : String) (intent : StoredIntent) : ℤ :=
  if intent.status = .open ∧ intent.account = account then 1 else 0

/-- How many unclaimed intents of the account are stored. -/
def Storage.openIntents (storage : Storage) (account : String) : ℕ :=
  (storage.intents.entries.filter fun row => row.2.status = .open ∧ row.2.account = account).length

def SlotsCounted (storage : Storage) : Prop := ∀ account, storage.openCount account = storage.openIntents account

/-- The checks of a create all pass. -/
structure Accepts (storage : Storage) (body : CreateIntentBody) (amount dayCap globalCap : ℤ) : Prop where
  parsed : parseAtomic (some body.amount) = .ok amount
  positive : 0 < amount
  rate : (storage.rates.lookup (body.account, utcHourKey body.now)).getD 0 < body.intentsPerHour
  day : parseAtomic (some body.perAccountDayCap) = .ok dayCap
  withinDay : storage.deposited body.account (utcDayKey body.now) + amount ≤ dayCap
  ceiling : parseAtomic (some body.globalCap) = .ok globalCap
  withinGlobal : storage.totalOutstanding + amount ≤ globalCap
  slot : storage.openCount body.account < body.maxOpenIntents
  memo : (storage.memos.lookup body.memo).getD "" = ""

/-- An open of an unclaimed payment comes to give back the slot of its intent: the payment confirmed too late, or the
caps are read and it is credited or recorded above a ceiling. -/
def Terminates (storage : Storage) (body : OpenBody) (intent : StoredIntent) : Prop :=
  (storage.consumed.lookup (body.txHash, body.opIndex)).getD "" = "" ∧
    (intent.expiresAt < body.confirmedAt ∨ ∃ dayCap globalCap,
      parseAtomic (some body.perAccountDayCap) = .ok dayCap ∧ parseAtomic (some body.globalCap) = .ok globalCap)

/-- The request does not take the id of an open intent, nor a slot for an intent that has given its own back. -/
def KeepsSlots (storage : Storage) : Request → Prop
  | .intentCreate body => (∀ intent ∈ storage.intents.lookup body.intentId, intent.status ≠ .open) ∨
      ∀ amount dayCap globalCap, ¬ Accepts storage body amount dayCap globalCap
  | .open body => ∀ intent ∈ storage.intents.lookup body.intentId, intent.status = .expired →
      storage.openCount intent.account = 0 ∨ ¬ Terminates storage body intent
  | _ => True

/-- Every request of the sequence keeps the slots where it is served. -/
def AllKeepSlots : Storage → List Request → Prop
  | _, [] => True
  | storage, request :: rest => KeepsSlots storage request ∧ AllKeepSlots (handle storage request) rest

namespace Storage

variable (storage : Storage)

theorem openIntents_eq_total (account : String) :
    (storage.openIntents account : ℤ) = storage.intents.total fun _ intent => intent.slot account := by
  unfold openIntents AList.total
  induction storage.intents.entries with
  | nil => rfl
  | cons row rest ih =>
    rw [map_cons, sum_cons, ← ih, filter_cons]
    by_cases counted : row.2.status = .open ∧ row.2.account = account
    · simp only [StoredIntent.slot, decide_eq_true counted, if_pos counted, if_true, length_cons]
      omega
    · simp only [StoredIntent.slot, decide_eq_false counted, if_neg counted, Bool.false_eq_true, if_false]
      omega

/-- The unclaimed intents after a write: those of before, without the replaced intent, with the new one. -/
theorem openIntents_insert {after : Storage} {intentId : String} {intent : StoredIntent} (account : String)
    (written : after.intents = storage.intents.insert intentId intent) :
    (after.openIntents account : ℤ) = storage.openIntents account -
      ((storage.intents.lookup intentId).elim 0 fun replaced => replaced.slot account) + intent.slot account := by
  rw [openIntents_eq_total, openIntents_eq_total, written, AList.total_insert]
  rfl

theorem openCount_insert {after : Storage} {account : String} {count : ℤ} (other : String)
    (written : after.openSlots = storage.openSlots.insert account count) :
    after.openCount other = if other = account then count else storage.openCount other := by
  unfold openCount
  rw [written]
  split_ifs with same
  · rw [same, AList.lookup_insert]
    rfl
  · rw [AList.lookup_insert_ne same]

end Storage

theorem SlotsCounted.same {before after : Storage} (counted : SlotsCounted before) (same : SameIntents before after) :
    SlotsCounted after := by
  intro account
  have standing := counted account
  unfold Storage.openCount Storage.openIntents at *
  rw [same.slots, same.intents]
  exact standing

theorem SameIntents.openCount_le {before after : Storage} {account : String} {limit : ℤ} (same : SameIntents before after)
    (bounded : before.openCount account ≤ limit) : after.openCount account ≤ limit := by
  unfold Storage.openCount at *
  rw [same.slots]
  exact bounded

/-! ## What a create and an open write -/

section Writes

variable {storage after : Storage}

theorem createIntent_accepted {body : CreateIntentBody} {amount dayCap globalCap : ℤ}
    (accepts : Accepts storage body amount dayCap globalCap) :
    ∃ intent memos rates, intent.status = .open ∧ intent.account = body.account ∧
      storageAfter storage (createIntent storage body) = { storage with
        intents := storage.intents.insert body.intentId intent, memos, rates
        openSlots := storage.openSlots.insert body.account (storage.openCount body.account + 1) } := by
  let intent : StoredIntent :=
    { intentId := body.intentId, account := body.account, amount, memo := body.memo
      destination := body.destination, createdAt := body.now, expiresAt := body.expiresAt, status := .open }
  have step : createIntent storage body = .ok (.ok intent,
      { storage with
        intents := storage.intents.insert body.intentId intent
        memos := storage.memos.insert body.memo body.intentId
        rates := storage.rates.insert (body.account, utcHourKey body.now)
          ((storage.rates.lookup (body.account, utcHourKey body.now)).getD 0 + 1)
        openSlots := storage.openSlots.insert body.account (storage.openCount body.account + 1) }) := by
    unfold createIntent
    rw [accepts.parsed, accepts.day, accepts.ceiling]
    simp only [bind, Except.bind]
    rw [if_neg (not_le.mpr accepts.positive), if_neg (not_le.mpr accepts.rate), if_neg (not_lt.mpr accepts.withinDay),
      if_neg (not_lt.mpr accepts.withinGlobal), if_neg (not_le.mpr accepts.slot), if_neg (not_not.mpr accepts.memo)]
    rfl
  rw [step]
  exact ⟨intent, _, _, rfl, rfl, rfl⟩

theorem createIntent_refused {body : CreateIntentBody}
    (refused : ∀ amount dayCap globalCap, ¬ Accepts storage body amount dayCap globalCap) :
    storageAfter storage (createIntent storage body) = storage := by
  cases step : createIntent storage body with
  | error failure => rfl
  | ok answer =>
    obtain ⟨result, after⟩ := answer
    obtain ⟨amount, parsed, step⟩ := bind_ok step
    obtain rfl | ⟨positive, step⟩ := guard_ok step
    · rfl
    obtain rfl | ⟨rate, step⟩ := guard_ok step
    · rfl
    obtain ⟨dayCap, day, step⟩ := bind_ok step
    obtain rfl | ⟨withinDay, step⟩ := guard_ok step
    · rfl
    obtain ⟨globalCap, ceiling, step⟩ := bind_ok step
    obtain rfl | ⟨withinGlobal, step⟩ := guard_ok step
    · rfl
    obtain rfl | ⟨slot, step⟩ := guard_ok step
    · rfl
    obtain rfl | ⟨memo, step⟩ := guard_ok step
    · rfl
    exact absurd ⟨parsed, not_le.mp positive, not_le.mp rate, day, not_lt.mp withinDay, ceiling, not_lt.mp withinGlobal,
      not_le.mp slot, not_not.mp memo⟩ (refused amount dayCap globalCap)

/-- An open leaves the slots and what is open alone, or gives back the slot of an intent it leaves closed. -/
inductive SlotEffect (storage : Storage) (body : OpenBody) : Storage → Prop
  | still {after : Storage} (slots : after.openSlots = storage.openSlots)
      (intents : after.intents = storage.intents ∨ ∃ intent returned, after.intents =
        storage.intents.insert body.intentId returned ∧ storage.intents.lookup body.intentId = some intent ∧
          intent.status = .consumed ∧ returned.status = .consumed)
      (idle : ∀ intent ∈ storage.intents.lookup body.intentId, intent.status = .open ∨ intent.status = .expired →
        ¬ Terminates storage body intent) : SlotEffect storage body after
  | released {after : Storage} {intent marked : StoredIntent}
      (found : storage.intents.lookup body.intentId = some intent)
      (live : intent.status = .open ∨ intent.status = .expired) (terminates : Terminates storage body intent)
      (intents : after.intents = storage.intents.insert body.intentId marked)
      (slots : after.openSlots = (storage.releaseOpenSlot intent.account).openSlots)
      (closed : marked.status ≠ .open) : SlotEffect storage body after

theorem openIntent_slots {body : OpenBody} {result : Result Opened}
    (step : openIntent storage body = .ok (result, after)) : SlotEffect storage body after := by
  unfold openIntent at step
  cases found : storage.intents.lookup body.intentId with
  | none =>
    rw [found] at step
    cases step
    exact .still rfl (.inl rfl) (by rw [found]; rintro intent ⟨⟩)
  | some intent =>
    -- An intent that is neither open nor expired, or whose payment is claimed, has nothing to give back.
    have settled (idle : (intent.status = .open ∨ intent.status = .expired) → ¬ Terminates storage body intent) :
        ∀ other ∈ storage.intents.lookup body.intentId, other.status = .open ∨ other.status = .expired →
          ¬ Terminates storage body other := by
      rintro other member
      rw [found] at member
      cases member
      exact idle
    rw [found] at step
    dsimp only at step
    split at step
    next ended =>
      cases step
      exact .still rfl (.inl rfl) (settled fun live => by rw [ended] at live; simp at live)
    next below =>
      split at step
      next consumed =>
        have done : (intent.status = .open ∨ intent.status = .expired) → ¬ Terminates storage body intent :=
          fun live => by rw [consumed] at live; simp at live
        split at step
        · split at step
          · cases step
            exact .still rfl (.inr ⟨intent, _, rfl, found, consumed, consumed⟩) (settled done)
          · cases step
            exact .still rfl (.inl rfl) (settled done)
        · cases step
          exact .still rfl (.inl rfl) (settled done)
      next unconsumed =>
        have live : intent.status = .open ∨ intent.status = .expired := by
          cases status : intent.status with
          | «open» => exact .inl rfl
          | expired => exact .inr rfl
          | consumed => exact absurd status unconsumed
          | overCap => exact absurd status below
        split at step
        next claimed =>
          cases step
          exact .still rfl (.inl rfl) (settled fun _ terminates => claimed terminates.1)
        next unclaimed =>
          have free := not_not.mp unclaimed
          split at step
          next late =>
            cases step
            exact .released found live ⟨free, .inl late⟩ rfl rfl (fun same => nomatch same)
          obtain ⟨dayCap, day, step⟩ := bind_ok step
          obtain ⟨globalCap, ceiling, step⟩ := bind_ok step
          split at step
          · cases step
            exact .released found live ⟨free, .inr ⟨_, _, day, ceiling⟩⟩ rfl rfl (fun same => nomatch same)
          · cases step
            exact .released found live ⟨free, .inr ⟨_, _, day, ceiling⟩⟩ rfl rfl (fun same => nomatch same)

/-- An open that throws had no slot to give back. -/
theorem openIntent_thrown {body : OpenBody} {failure : RangeError} (step : openIntent storage body = .error failure) :
    ∀ intent ∈ storage.intents.lookup body.intentId, intent.status = .open ∨ intent.status = .expired →
      ¬ Terminates storage body intent := by
  rintro intent found live ⟨free, terminates⟩
  unfold openIntent at step
  rw [Option.mem_def.mp found] at step
  dsimp only at step
  have below : intent.status ≠ .overCap := by rcases live with same | same <;> rw [same] <;> decide
  have unconsumed : intent.status ≠ .consumed := by rcases live with same | same <;> rw [same] <;> decide
  rw [if_neg below, if_neg unconsumed, if_neg (not_not.mpr free)] at step
  split at step
  · cases step
  next early =>
    obtain late | ⟨dayCap, globalCap, day, ceiling⟩ := terminates
    · exact early late
    · rw [day, ceiling] at step
      simp only [bind, Except.bind] at step
      split at step <;> cases step

end Writes

/-! ## The law over a run -/

section Steps

variable {storage : Storage}

/-- No intent is open under an id, seen from the counts of the accounts. -/
theorem no_slot_iff {intentId : String} :
    (∀ account, ((storage.intents.lookup intentId).elim 0 fun replaced => replaced.slot account) = 0) ↔
      ∀ intent ∈ storage.intents.lookup intentId, intent.status ≠ .open := by
  cases storage.intents.lookup intentId with
  | none => simp
  | some intent => simp [StoredIntent.slot]

section Counted

variable (counted : SlotsCounted storage)

include counted

theorem createIntent_slotsCounted (body : CreateIntentBody) :
    SlotsCounted (handle storage (.intentCreate body)) ↔ KeepsSlots storage (.intentCreate body) := by
  by_cases accepted : ∃ amount dayCap globalCap, Accepts storage body amount dayCap globalCap
  · obtain ⟨amount, dayCap, globalCap, accepts⟩ := accepted
    obtain ⟨intent, memos, rates, isOpen, own, after⟩ := createIntent_accepted accepts
    have moved : ∀ account, (handle storage (.intentCreate body)).openCount account =
        (handle storage (.intentCreate body)).openIntents account ↔
          ((storage.intents.lookup body.intentId).elim 0 fun replaced => replaced.slot account) = 0 := by
      intro account
      have before := counted account
      change (storageAfter storage (createIntent storage body)).openCount account =
        (storageAfter storage (createIntent storage body)).openIntents account ↔ _
      rw [after, storage.openCount_insert account rfl, storage.openIntents_insert account rfl]
      by_cases same : account = body.account
      · have slot : intent.slot account = 1 := if_pos ⟨isOpen, own.trans same.symm⟩
        rw [if_pos same, slot, ← same]
        omega
      · have slot : intent.slot account = 0 := if_neg fun both => same (both.2.symm.trans own)
        rw [if_neg same, slot]
        omega
    have kept : KeepsSlots storage (.intentCreate body) ↔
        ∀ intent ∈ storage.intents.lookup body.intentId, intent.status ≠ .open :=
      ⟨fun keeps => keeps.resolve_right fun refused => refused _ _ _ accepts, .inl⟩
    rw [kept, ← no_slot_iff]
    exact forall_congr' moved
  · have refused : ∀ amount dayCap globalCap, ¬ Accepts storage body amount dayCap globalCap :=
      fun amount dayCap globalCap accepts => accepted ⟨amount, dayCap, globalCap, accepts⟩
    have same : handle storage (.intentCreate body) = storage := createIntent_refused refused
    rw [same]
    exact ⟨fun _ => .inr refused, fun _ => counted⟩

theorem SlotEffect.slotsCounted {body : OpenBody} {after : Storage}
    (effect : SlotEffect storage body after) : SlotsCounted after ↔ KeepsSlots storage (.open body) := by
  cases effect with
  | still slots intents idle =>
    have kept : SlotsCounted after := by
      intro account
      have before := counted account
      have count : after.openCount account = storage.openCount account := by
        unfold Storage.openCount
        rw [slots]
      rw [count, before]
      obtain same | ⟨intent, returned, written, found, was, is⟩ := intents
      · unfold Storage.openIntents
        rw [same]
      · rw [storage.openIntents_insert account written, found]
        simp [StoredIntent.slot, was, is]
    exact ⟨fun _ intent found expired => .inr (idle intent found (.inr expired)), fun _ => kept⟩
  | @released intent marked found live terminates intents slots closed =>
    have rest : ∀ account, (after.openIntents account : ℤ) = storage.openIntents account - intent.slot account := by
      intro account
      rw [storage.openIntents_insert account intents, found]
      simp [StoredIntent.slot, closed]
    have count : ∀ account, after.openCount account = if account = intent.account then
        (if storage.openCount intent.account > 0 then storage.openCount intent.account - 1 else 0)
        else storage.openCount account := fun account => storage.openCount_insert account slots
    have elsewhere : ∀ account ≠ intent.account, after.openCount account = after.openIntents account := by
      intro account other
      have slot : intent.slot account = 0 := if_neg fun both => other both.2.symm
      rw [count, if_neg other, rest, slot, counted account]
      omega
    have here := rest intent.account
    have before := counted intent.account
    have moved := count intent.account
    rw [if_pos rfl] at moved
    constructor
    · intro kept other member expired
      rw [found] at member
      cases member
      have slot : intent.slot intent.account = 0 := if_neg fun both => by simp [expired] at both
      have standing := kept intent.account
      left
      split_ifs at moved <;> omega
    · intro keeps account
      by_cases same : account = intent.account
      · rw [same]
        rcases live with isOpen | expired
        · have slot : intent.slot intent.account = 1 := if_pos ⟨isOpen, rfl⟩
          split_ifs at moved <;> omega
        · have slot : intent.slot intent.account = 0 := if_neg fun both => by simp [expired] at both
          have empty := (keeps intent found expired).resolve_right (not_not.mpr terminates)
          split_ifs at moved <;> omega
      · exact elsewhere account same

theorem openIntent_slotsCounted (body : OpenBody) :
    SlotsCounted (handle storage (.open body)) ↔ KeepsSlots storage (.open body) := by
  change SlotsCounted (storageAfter storage (openIntent storage body)) ↔ _
  cases step : openIntent storage body with
  | error failure =>
    exact ⟨fun _ intent found expired => .inr (openIntent_thrown step intent found (.inr expired)), fun _ => counted⟩
  | ok answer => exact (openIntent_slots step).slotsCounted counted

/-- Where the counter is right, a request leaves it right exactly when it keeps the slots. -/
theorem handle_slotsCounted (request : Request) :
    SlotsCounted (handle storage request) ↔ KeepsSlots storage request := by
  cases request with
  | intentCreate body => exact createIntent_slotsCounted counted body
  | «open» body => exact openIntent_slotsCounted counted body
  | reserve | dispatch | settle | alarm =>
    exact ⟨fun _ => trivial, fun _ => counted.same (handle_sameIntents trivial)⟩

theorem run_slotsCounted (requests : List Request) :
    (∀ served, served <+: requests → SlotsCounted (served.foldl handle storage)) ↔ AllKeepSlots storage requests := by
  induction requests generalizing storage with
  | nil =>
    refine ⟨fun _ => trivial, fun _ served within => ?_⟩
    rw [prefix_nil.mp within]
    exact counted
  | cons request rest ih =>
    have first := handle_slotsCounted counted request
    constructor
    · intro all
      have next : SlotsCounted (handle storage request) := all [request] ⟨rest, rfl⟩
      refine ⟨first.mp next, (ih next).mp fun served within => ?_⟩
      exact all (request :: served) ((prefix_cons_inj request).mpr within)
    · rintro ⟨keeps, later⟩ served within
      cases served with
      | nil => exact counted
      | cons other served =>
        obtain ⟨rfl, inner⟩ := cons_prefix_cons.mp within
        exact (ih (first.mpr keeps)).mpr later served inner

end Counted

/-! ## The ceiling -/

/-- No create asks for more open intents than the limit. -/
def Request.CeilingAtMost (limit : ℕ) : Request → Prop
  | .intentCreate body => body.maxOpenIntents ≤ limit
  | _ => True

instance (limit : ℕ) : DecidablePred (Request.CeilingAtMost limit)
  | .intentCreate body => inferInstanceAs (Decidable (body.maxOpenIntents ≤ limit))
  | .open _ | .reserve _ | .dispatch _ | .settle _ | .alarm _ => inferInstanceAs (Decidable True)

/-- The counter never passes the limit, whatever is opened. -/
theorem handle_openCount_le {limit : ℕ} {request : Request} (ceiling : request.CeilingAtMost limit)
    (bounded : ∀ account, storage.openCount account ≤ limit) (account : String) :
    (handle storage request).openCount account ≤ limit := by
  have standing := bounded account
  cases request with
  | intentCreate body =>
    change (storageAfter storage (createIntent storage body)).openCount account ≤ limit
    by_cases accepted : ∃ amount dayCap globalCap, Accepts storage body amount dayCap globalCap
    · obtain ⟨amount, dayCap, globalCap, accepts⟩ := accepted
      obtain ⟨intent, memos, rates, -, -, after⟩ := createIntent_accepted accepts
      have most : body.maxOpenIntents ≤ limit := ceiling
      have free := accepts.slot
      rw [after, storage.openCount_insert account rfl]
      split_ifs <;> omega
    · rw [createIntent_refused fun amount dayCap globalCap accepts => accepted ⟨amount, dayCap, globalCap, accepts⟩]
      exact standing
  | «open» body =>
    change (storageAfter storage (openIntent storage body)).openCount account ≤ limit
    cases step : openIntent storage body with
    | error failure => exact standing
    | ok answer =>
      change answer.2.openCount account ≤ limit
      cases openIntent_slots step with
      | still slots =>
        unfold Storage.openCount at *
        rw [slots]
        exact standing
      | released found live terminates intents slots closed =>
        rw [storage.openCount_insert account slots]
        split_ifs with same positive
        · have current := bounded account
          rw [same] at current
          omega
        · omega
        · exact standing
  | reserve | dispatch | settle | alarm =>
    exact SameIntents.openCount_le (handle_sameIntents trivial) standing

theorem run_openCount_le {limit : ℕ} (requests : List Request) (ceiling : ∀ request ∈ requests, request.CeilingAtMost limit)
    (bounded : ∀ account, storage.openCount account ≤ limit) (account : String) :
    (requests.foldl handle storage).openCount account ≤ limit := by
  induction requests generalizing storage with
  | nil => exact bounded account
  | cons request rest ih =>
    apply ih fun later member => ceiling later (mem_cons_of_mem request member)
    exact handle_openCount_le (ceiling request mem_cons_self) bounded

end Steps

theorem slotsCounted_empty : SlotsCounted Storage.empty := fun _ => rfl

/-- Over a fresh ledger, the counter of every account is the number of its unclaimed intents after each request exactly
when every request keeps the slots; then no account has more unclaimed intents than the limit. -/
theorem open_slots_counted (requests : List Request) :
    ((∀ served, served <+: requests → SlotsCounted (serve served)) ↔ AllKeepSlots Storage.empty requests) ∧
    (AllKeepSlots Storage.empty requests → ∀ limit : ℕ, (∀ request ∈ requests, request.CeilingAtMost limit) →
      ∀ served, served <+: requests → ∀ account, (serve served).openIntents account ≤ limit) := by
  have law : (∀ served, served <+: requests → SlotsCounted (serve served)) ↔ AllKeepSlots Storage.empty requests :=
    run_slotsCounted slotsCounted_empty requests
  refine ⟨law, fun keeps limit ceiling served within account => ?_⟩
  have counted := law.mpr keeps served within account
  have bounded : (serve served).openCount account ≤ limit := by
    apply run_openCount_le served fun request member => ceiling request (within.subset member)
    intro other
    exact Int.natCast_nonneg limit
  rw [counted] at bounded
  exact Int.ofNat_le.mp bounded

/-- Two intents of one account, of which the first is claimed. -/
def twoIntents : List Request :=
  [createdIntent "i1" "m1" 0 2, createdIntent "i2" "m2" 0 2, openedWith "i1" "t1" "j1" 10 10]

theorem open_slots_counted_two : (serve twoIntents).openCount "G1" = 1 ∧ (serve twoIntents).openIntents "G1" = 1 ∧
    (serve twoIntents).openIntents "G1" ≤ 2 := by
  have status : ((serve (twoIntents.take 2)).intents.lookup "i1").map StoredIntent.status = some .open := by decide
  have keeps : AllKeepSlots Storage.empty twoIntents := by
    refine ⟨.inl (by decide), .inl (by decide), fun intent found expired => ?_, trivial⟩
    have isOpen : intent.status = .open := Option.some.inj ((congrArg (Option.map StoredIntent.status) found).symm.trans status)
    rw [isOpen] at expired
    cases expired
  have counted := open_slots_counted twoIntents
  exact ⟨by decide, by decide, counted.2 keeps 2 (by decide) twoIntents (prefix_refl _) "G1"⟩

/-- A payment that confirmed too late is submitted twice: the second time gives back the slot of another intent, and
the account comes to store three unclaimed intents where two are allowed. -/
theorem slot_released_twice :
    let twice : Request := openedWith "i1" "t1" "j1" 300 200
    let requests : List Request :=
      [createdIntent "i1" "m1" 0 2, createdIntent "i2" "m2" 0 2, twice, twice,
        createdIntent "i3" "m3" 0 2, createdIntent "i4" "m4" 0 2]
    ¬ SlotsCounted (serve requests) ∧ 2 < (serve requests).openIntents "G1" := by
  have three : (2 : ℤ) ≠ 3 := by decide
  exact ⟨fun counted => three (counted "G1"), by decide⟩

end MppRouter.Playground
