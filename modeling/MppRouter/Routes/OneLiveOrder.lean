import MppRouter.Routes.PayableRail

/-! # One live order per link

An order is created only where the scan of its call showed no live order in the slots that a call reads and looks at.
Of two calls that create orders outside the contract slots, the one whose slot comes later has read the order of the
other and found it over, so that both are never live while the upstream does not prolong the life of an order.
-/

namespace MppRouter.Routes.Orders

open Concurrent Function List Option Bool Machine Prod

/-! ## Life of an order -/

theorem zecQuoteExpiredUnfunded_mono {now later : ℕ} (order : now ≤ later) {row : Row}
    (expired : zecQuoteExpiredUnfunded now row = true) : zecQuoteExpiredUnfunded later row = true := by
  simp only [zecQuoteExpiredUnfunded, and_eq_true, any_eq_true_iff_get] at expired ⊢
  obtain ⟨⟨kind, present, form, past⟩, clean⟩ := expired
  refine ⟨⟨kind, present, form, ?_⟩, clean⟩
  obtain ⟨dated, reached⟩ := past
  exact ⟨dated, decide_eq_true (le_trans (of_decide_eq_true reached) order)⟩

theorem isLive_before {now later : ℕ} (order : now ≤ later) {row : Row} (live : isLive later row = true) :
    isLive now row = true := by
  obtain ⟨unexpired, standing⟩ := and_eq_true_iff.mp live
  apply and_eq_true_iff.mpr
  constructor
  · obtain ⟨expiry, known, ahead⟩ := (any_eq_true _ _).mp unexpired
    exact (any_eq_true _ _).mpr ⟨expiry, known, decide_eq_true (lt_of_le_of_lt order (of_decide_eq_true ahead))⟩
  · cases expired : zecQuoteExpiredUnfunded now row with
    | false => rfl
    | true =>
      rw [zecQuoteExpiredUnfunded_mono order expired] at standing
      cases standing

/-- From now on, a row is live only while another one is. -/
def NoLonger (now : ℕ) (current row : Row) : Prop := ∀ time, now ≤ time → isLive time row = true → isLive time current = true

/-- The upstream never prolongs the life of an order. -/
def lasting : orderMachine.Admits := fun _ action choice world =>
  match action with
  | .change slot row => ∀ current, world.orders slot = some current → NoLonger world.now current row
  | .rotateExistingSource slot _ => ∀ row, choice.row = some row → ∀ current, world.orders slot = some current →
      NoLonger world.now current row
  | _ => True

theorem rank_injective : Injective Slot.rank := by
  intro left right same
  cases left <;> cases right <;> simp only [Slot.rank] at same <;> first | rfl | omega | (congr 1; omega)

/-! ## What was read outlives what stands -/

/-- Time goes on, orders stay, and none lives longer than before. -/
structure Onward (world after : World) : Prop where
  time : world.now ≤ after.now
  orders : ∀ slot current, world.orders slot = some current →
    ∃ row, after.orders slot = some row ∧ NoLonger world.now current row

theorem Onward.refl (world : World) : Onward world world :=
  ⟨le_rfl, fun _ current stands => ⟨current, stands, fun _ _ live => live⟩⟩

theorem Onward.put {world : World} {slot : Slot} {row : Row}
    (lasts : ∀ current, world.orders slot = some current → NoLonger world.now current row) :
    Onward world (world.put slot row) := by
  refine ⟨le_rfl, fun other current stands => ?_⟩
  by_cases same : other = slot
  · subst same
    exact ⟨row, update_self .., lasts current stands⟩
  · exact ⟨current, (update_of_ne same ..).trans stands, fun _ _ live => live⟩

theorem performed_onward {tid : ℕ} {action : Action} {choice : Choice} {world after : World} {answer : action.Answer}
    (admitted : lasting tid action choice world) (performed : perform action choice world = some (answer, after)) :
    Onward world after := by
  cases action with
  | lookupOrder | refetchPaymentRow =>
    obtain ⟨read, -, same⟩ := map_eq_some_iff.mp performed
    obtain ⟨-, rfl⟩ := mk.inj same
    exact .refl world
  | scanVerdict | now | checkLink | answer =>
    obtain ⟨-, rfl⟩ := mk.inj (some.inj performed)
    exact .refl world
  | tick elapsed =>
    obtain ⟨-, rfl⟩ := mk.inj (some.inj performed)
    exact ⟨Nat.le_add_right .., (Onward.refl world).orders⟩
  | change slot row =>
    obtain ⟨current, stands, same⟩ := map_eq_some_iff.mp performed
    obtain ⟨-, rfl⟩ := mk.inj same
    exact .put admitted
  | rotateExistingSource slot source =>
    simp only [perform] at performed
    split at performed
    · obtain ⟨-, rfl⟩ := mk.inj (some.inj performed)
      exact .refl world
    · rename_i row committed
      obtain ⟨-, rfl⟩ := mk.inj (some.inj performed)
      exact .put (admitted row committed)
  | createOrder attempt =>
    simp only [perform] at performed
    split at performed
    · obtain ⟨-, rfl⟩ := mk.inj (some.inj performed)
      exact .refl world
    · obtain ⟨-, rfl⟩ := mk.inj (some.inj performed)
      exact .refl world
    · rename_i free _
      obtain ⟨row, -, same⟩ := map_eq_some_iff.mp performed
      obtain ⟨-, rfl⟩ := mk.inj same
      apply Onward.put
      intro current stands
      cases free.symm.trans stands

/-- What an event read of an order outlives what became of it, and its look at the clock is past. -/
structure Outlives (event : Event orderMachine) (world : World) : Prop where
  found : ∀ slot row, lookupOf slot event.deed = some (.found row) →
    ∃ current, world.orders slot = some current ∧ NoLonger world.now row current
  clock : ∀ time, clockOf event.deed = some time → time ≤ world.now

theorem Outlives.onward {event : Event orderMachine} {world after : World} (outlives : Outlives event world)
    (onward : Onward world after) : Outlives event after := by
  constructor
  · intro slot row found
    obtain ⟨current, stands, bound⟩ := outlives.found slot row found
    obtain ⟨later, standsLater, shorter⟩ := onward.orders slot current stands
    refine ⟨later, standsLater, fun time ahead live => ?_⟩
    have reached := le_trans onward.time ahead
    exact bound time reached (shorter time reached live)
  · intro time looked
    exact le_trans (outlives.clock time looked) onward.time

theorem Outlives.of_performed {action : Action} {choice : Choice} {world after : World} {answer : action.Answer}
    (performed : perform action choice world = some (answer, after)) : Outlives ⟨⟨action, answer⟩, world⟩ world := by
  constructor
  · intro slot row found
    exact ⟨row, (truthful_of_performed performed).found slot row found, fun _ _ live => live⟩
  · intro time looked
    cases action with
    | now =>
      obtain ⟨rfl, -⟩ := mk.inj (some.inj performed)
      exact le_of_eq (some.inj looked).symm
    | _ => cases looked

/-- After this past, newest first, a call set out to create an order. -/
def Attempted (history : List (Event orderMachine)) (attempt : Attempt) (earlier : List (Event orderMachine)) : Prop :=
  ∃ event, event :: earlier <:+ history ∧ event.deed.1 = .createOrder attempt

section Runs

variable {world : World} {parties : ℕ → Party} {after : (recorded orderMachine).Config}

theorem events_outlive
    (run : Run (Admits.recorded lasting) (invoicing world parties).unrecorded after) {tid : ℕ}
    {event : Event orderMachine} (member : event ∈ after.world.2 tid) : Outlives event after.world.1 := by
  refine run.keeps (fun world : (recorded orderMachine).World => ∀ tid, ∀ event ∈ world.2 tid, Outlives event world.1) ?_ ?_ tid event member
  · intro tid action choice world answer next admitted performed outlive other event member
    obtain ⟨was, history⟩ := recorded_perform performed
    have onward := performed_onward admitted was
    rw [history] at member
    by_cases same : other = tid
    · subst same
      rw [update_self] at member
      rcases mem_cons.mp member with rfl | earlier
      · exact (Outlives.of_performed was).onward onward
      · exact (outlive other event earlier).onward onward
    · rw [update_of_ne same] at member
      exact (outlive other event member).onward onward
  · exact fun _ _ member => absurd member not_mem_nil

/-- An attempt rests on what its call read. -/
theorem attempt_allowed
    (run : Run (unrestricted orderMachine).recorded (invoicing world parties).unrecorded after) {tid : ℕ}
    {attempt : Attempt} {earlier : List (Event orderMachine)} (attempted : Attempted (after.world.2 tid) attempt earlier) :
    ∃ now, clock (earlier.map Event.deed) = some now ∧
      OneLive now (fun slot => lookedUp slot (earlier.map Event.deed)) attempt := by
  obtain ⟨event, done, creates⟩ := attempted
  have allowed := rules_obeyed run tid event earlier done
  rw [creates] at allowed
  exact allowed

/-- A call that creates an order outside the contract slots leaves none live in an earlier slot. -/
theorem earlier_over
    (run : Run (Admits.recorded lasting) (invoicing world parties).unrecorded after) {tid : ℕ}
    {attempt : Attempt} {earlier : List (Event orderMachine)} (attempted : Attempted (after.world.2 tid) attempt earlier) (plain : attempt.slot.isContract = false)
    {slot : Slot} (first : slot.rank < attempt.slot.rank) {row : Row} (stands : after.world.1.orders slot = some row) :
    isLive after.world.1.now row = false := by
  obtain ⟨now, judged, one⟩ := attempt_allowed (run.admitted fun _ _ _ _ _ _ _ => trivial) attempted
  obtain ⟨event, done, -⟩ := attempted
  have fresh : attempt.superseded = none := by
    cases superseded : attempt.superseded with
    | none => rfl
    | some classic =>
      have contract := (one.supersedes classic superseded).2.1
      rw [plain] at contract
      cases contract
  obtain ⟨found, looked⟩ := one.taken fresh slot first
  have outside : slot.isContract = false := by
    cases slot with
    | contract variant =>
      have low : attempt.slot.rank < 6 := by
        cases at_ : attempt.slot with
        | base => exact Nat.succ_pos 5
        | retry variant =>
          simp only [Slot.rank]
          omega
        | contract variant =>
          rw [at_] at plain
          cases plain
      have high : (Slot.contract variant).rank = variant + 6 := rfl
      omega
    | _ => rfl
  obtain ⟨lookDeed, lookMember, look⟩ := exists_of_findSome?_eq_some looked
  obtain ⟨lookEvent, lookDone, rfl⟩ := mem_map.mp lookMember
  obtain ⟨clockDeed, clockMember, clock⟩ := exists_of_findSome?_eq_some judged
  obtain ⟨clockEvent, clockDone, rfl⟩ := mem_map.mp clockMember
  have within : ∀ event ∈ earlier, Outlives event after.world.1 :=
    fun event member => events_outlive run (done.subset (mem_cons_of_mem _ member))
  obtain ⟨current, standing, bound⟩ := (within lookEvent lookDone).found slot found look
  obtain rfl : current = row := some.inj (standing.symm.trans stands)
  cases live : isLive after.world.1.now current with
  | false => rfl
  | true =>
    have alive := isLive_before ((within clockEvent clockDone).clock now clock) (bound _ le_rfl live)
    have contract := (one.fresh fresh slot found looked alive).1
    rw [outside] at contract
    cases contract

end Runs

/-! ## One live order -/

/-- An order is created only where the scan showed none live, and two calls never both leave a live one outside the
contract slots. -/
theorem one_live_order :
    (∀ (world : World) (parties : ℕ → Party) (after : (recorded orderMachine).Config),
      Run (unrestricted orderMachine).recorded (invoicing world parties).unrecorded after →
      ∀ tid attempt earlier, Attempted (after.world.2 tid) attempt earlier →
        (∃ now, clock (earlier.map Event.deed) = some now ∧
          OneLive now (fun slot => lookedUp slot (earlier.map Event.deed)) attempt) ∧
        ∀ read ∈ earlier, Truthful read) ∧
    ∀ (world : World) (parties : ℕ → Party) (after : (recorded orderMachine).Config),
      Run (Admits.recorded lasting) (invoicing world parties).unrecorded after →
      ∀ tid attempt earlier, Attempted (after.world.2 tid) attempt earlier →
      ∀ otherTid other otherEarlier, Attempted (after.world.2 otherTid) other otherEarlier →
      attempt.slot.isContract = false → other.slot.isContract = false → attempt.slot ≠ other.slot →
      ∀ row otherRow, after.world.1.orders attempt.slot = some row → after.world.1.orders other.slot = some otherRow →
        isLive after.world.1.now row = false ∨ isLive after.world.1.now otherRow = false := by
  constructor
  · intro world parties after run tid attempt earlier attempted
    refine ⟨attempt_allowed run attempted, fun read member => ?_⟩
    obtain ⟨event, done, -⟩ := attempted
    exact reads_truthful run (done.subset (mem_cons_of_mem _ member))
  · intro world parties after run tid attempt earlier attempted otherTid other otherEarlier otherAttempted plain
      otherPlain distinct row otherRow stands otherStands
    rcases lt_trichotomy attempt.slot.rank other.slot.rank with first | same | last
    · exact .inl (earlier_over run otherAttempted otherPlain first stands)
    · exact absurd (rank_injective same) distinct
    · exact .inr (earlier_over run attempted plain last otherStands)

/-! ## Two orders, one after the other -/

def plainUsdc : Request where
  source := { chainId := "8453", tokenSymbol := "USDC" }
  payinIntent := false
  lightningRotateOutEnabled := false
  pendingPricingMatches _ := true
  refundAddressMatches _ := true

def usdcRow (status : String) (expiresAt : ℕ) : Row where
  status := some status
  expiresAt := some expiresAt
  chainId := some "8453"
  tokenSymbol := some "USDC"

def emptyLink : World := ⟨0, fun _ => none⟩

/-- Two calls without intent; between them, the order of the first one expires. An upstream may revive it. -/
def twoCallers : ℕ → Party
  | 0 => .caller plainUsdc
  | 1 => .surroundings [.tick 20, .change .base (usdcRow PAYMENT_EXPIRED 10)]
  | 2 => .caller plainUsdc
  | 3 => .surroundings [.change .base (usdcRow REUSABLE_PAYMENT_STATUS 1000)]
  | _ => .idle

/-- Orders without a quote keep their expiry. -/
def keepsExpiry (action : Action) (choice : Choice) (world : World) : Bool :=
  match action with
  | .change slot row => (world.orders slot).all fun current =>
      row.expiresAt = current.expiresAt && row.zec.isNone && current.zec.isNone
  | .rotateExistingSource _ _ => choice.row.isNone
  | _ => true

theorem keepsExpiry_lasting {tid : ℕ} {action : Action} {choice : Choice} {world : World}
    (keeps : keepsExpiry action choice world = true) : lasting tid action choice world := by
  cases action with
  | change slot row =>
    intro current stands time _ live
    simp only [keepsExpiry, stands, all_some, and_eq_true, decide_eq_true_eq, isNone_iff_eq_none] at keeps
    obtain ⟨⟨expiry, -⟩, zec⟩ := keeps
    simp only [isLive, and_eq_true, expiry] at live
    simp [isLive, zecQuoteExpiredUnfunded, live.1, zec]
  | rotateExistingSource slot source =>
    intro row committed
    simp only [keepsExpiry, committed, isNone_some, false_eq_true] at keeps
  | _ => trivial

def reorderSchedule : List (ℕ × Choice) :=
  [(0, {}), (0, {}), (0, {}), (0, {}), (0, {}), (0, {}), (0, { row := some (usdcRow "" 10) }), (1, {}), (1, {}),
    (2, {}), (2, {}), (2, {}), (2, {}), (2, {}), (2, {}), (2, {}), (2, {}), (2, {}), (2, {}), (2, {}), (2, {}), (2, {}),
    (2, { row := some (usdcRow "" 100) })]

/-- The last thing that the thread did was to set out to create an order in this slot. -/
def creating (tid : ℕ) (attempt : Attempt) (world : (recorded orderMachine).World) : Bool :=
  match world.2 tid with
  | [] => false
  | event :: _ => event.deed.1 = .createOrder attempt

theorem creating_attempted {tid : ℕ} {attempt : Attempt} {world : (recorded orderMachine).World}
    (creates : creating tid attempt world = true) : ∃ earlier, Attempted (world.2 tid) attempt earlier := by
  unfold creating at creates
  cases history : world.2 tid with
  | nil =>
    rw [history] at creates
    cases creates
  | cons event earlier =>
    rw [history] at creates
    exact ⟨earlier, event, suffix_refl _, of_decide_eq_true creates⟩

theorem reordered_one_live : ∃ after : (recorded orderMachine).Config,
    (∃ tid attempt earlier, Attempted (after.world.2 tid) attempt earlier ∧ attempt.slot = .retry 0 ∧
      (∃ now, clock (earlier.map Event.deed) = some now ∧
        OneLive now (fun slot => lookedUp slot (earlier.map Event.deed)) attempt) ∧ ∀ read ∈ earlier, Truthful read) ∧
    ∃ row otherRow, after.world.1.orders .base = some row ∧ after.world.1.orders (.retry 0) = some otherRow ∧
      (isLive after.world.1.now row = false ∨ isLive after.world.1.now otherRow = false) := by
  obtain ⟨after, run, passed⟩ := Config.exec_reaches
    (Admits.recorded fun _ action choice world => keepsExpiry action choice world = true)
    (invoicing emptyLink twoCallers).unrecorded reorderSchedule
    (fun world => creating 0 ⟨.base, false, [], none⟩ world && creating 2 ⟨.retry 0, false, [.base], none⟩ world &&
      (world.1.orders .base).isSome && (world.1.orders (.retry 0)).isSome) (by decide +kernel)
  simp only [and_eq_true] at passed
  obtain ⟨⟨⟨first, second⟩, base⟩, retry⟩ := passed
  obtain ⟨firstPast, firstAttempted⟩ := creating_attempted first
  obtain ⟨secondPast, secondAttempted⟩ := creating_attempted second
  obtain ⟨row, stands⟩ := isSome_iff_exists.mp base
  obtain ⟨otherRow, otherStands⟩ := isSome_iff_exists.mp retry
  have lasts : Run (Admits.recorded lasting) (invoicing emptyLink twoCallers).unrecorded after :=
    run.admitted fun _ _ _ _ _ _ keeps => keepsExpiry_lasting keeps
  have one := one_live_order.1 _ _ _ (run.admitted fun _ _ _ _ _ _ _ => trivial) _ _ _ secondAttempted
  have two := one_live_order.2 _ _ _ lasts _ _ _ firstAttempted _ _ _ secondAttempted rfl rfl (by decide) row otherRow
    stands otherStands
  exact ⟨after, ⟨2, _, secondPast, secondAttempted, rfl, one⟩, row, otherRow, stands, otherStands, two⟩

/-- Where the upstream revives an expired order, two orders outside the contract slots are live at once. -/
theorem revived_both_live : ∃ after : (recorded orderMachine).Config,
    Run (unrestricted orderMachine).recorded (invoicing emptyLink twoCallers).unrecorded after ∧
      (∃ earlier, Attempted (after.world.2 0) ⟨.base, false, [], none⟩ earlier) ∧
      (∃ earlier, Attempted (after.world.2 2) ⟨.retry 0, false, [.base], none⟩ earlier) ∧
      ∀ slot ∈ [.base, .retry 0], ∃ row, after.world.1.orders slot = some row ∧ isLive after.world.1.now row = true := by
  obtain ⟨after, run, passed⟩ := Config.exec_reaches (unrestricted orderMachine).recorded
    (invoicing emptyLink twoCallers).unrecorded (reorderSchedule ++ [(3, ({} : Choice))])
    (fun world => creating 0 ⟨.base, false, [], none⟩ world && creating 2 ⟨.retry 0, false, [.base], none⟩ world &&
      [Slot.base, .retry 0].all fun slot => (world.1.orders slot).any (isLive world.1.now)) (by decide +kernel)
  simp only [and_eq_true] at passed
  obtain ⟨⟨first, second⟩, live⟩ := passed
  refine ⟨after, run, creating_attempted first, creating_attempted second, fun slot member => ?_⟩
  exact (any_eq_true _ _).mp (all_eq_true.mp live slot member)

/-! ## Live orders that a scan passes by -/

/-- Only this slot holds a live classic order. -/
def onlyLive (slot : Slot) : World where
  now := 0
  orders other := if other = slot then some (usdcRow REUSABLE_PAYMENT_STATUS 1000) else none

def oneOrder : ℕ → Party
  | 0 => .caller plainUsdc
  | _ => .idle

def freshSchedule : List (ℕ × Choice) :=
  [(0, {}), (0, {}), (0, {}), (0, {}), (0, {}), (0, {}), (0, { row := some (usdcRow "" 2000) })]

/-- An attempt that supersedes nothing, while the slot held a live order all along. -/
def passedBy (slot : Slot) (world : (recorded orderMachine).World) : Bool :=
  match world.2 0 with
  | [] => false
  | event :: earlier => event.deed.1 = .createOrder ⟨.base, false, [], none⟩ &&
      (event :: earlier).all fun read => (read.before.orders slot).any fun row => isLive read.before.now row

/-- A request alone creates an order at the base slot while the order of this slot is live throughout. -/
def PassedBy (slot : Slot) : Prop :=
  ∃ after event earlier,
    Run (unrestricted orderMachine).recorded (invoicing (onlyLive slot) oneOrder).unrecorded after ∧
      event :: earlier <:+ after.world.2 0 ∧ event.deed.1 = .createOrder ⟨.base, false, [], none⟩ ∧
      ∀ read ∈ event :: earlier, ∃ row, read.before.orders slot = some row ∧ isLive read.before.now row = true

theorem PassedBy.of_exec {slot : Slot}
    (executed : ((invoicing (onlyLive slot) oneOrder).unrecorded.exec (unrestricted orderMachine).recorded
      freshSchedule).any (fun after => passedBy slot after.world) = true) : PassedBy slot := by
  obtain ⟨after, run, passed⟩ := Config.exec_reaches (unrestricted orderMachine).recorded
    (invoicing (onlyLive slot) oneOrder).unrecorded freshSchedule (passedBy slot) executed
  unfold passedBy at passed
  cases history : after.world.2 0 with
  | nil =>
    rw [history] at passed
    cases passed
  | cons event earlier =>
    rw [history] at passed
    obtain ⟨creates, throughout⟩ := and_eq_true_iff.mp passed
    refine ⟨after, event, earlier, run, history ▸ suffix_refl _, of_decide_eq_true creates, fun read member => ?_⟩
    exact (any_eq_true _ _).mp (all_eq_true.mp throughout read member)

/-- A live order in a re-order slot is not read while the base slot is free, and a live classic order in a contract slot
is not looked at: the base slot is taken all the same. -/
theorem live_order_passed_by : PassedBy (.retry 0) ∧ PassedBy (.contract 0) := by
  constructor
  · apply PassedBy.of_exec
    decide +kernel
  · apply PassedBy.of_exec
    decide +kernel

end MppRouter.Routes.Orders
