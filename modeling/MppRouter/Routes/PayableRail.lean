import MppRouter.Routes.CreateInvoiceRules

/-! # One payable rail per link

Whatever stands in the slots of a link and whatever becomes of it between the reads of a call, an order is handed out
only as the reads and re-checks of that call allow. A re-check that fails is let pass in one place by design.
-/

namespace MppRouter.Routes.Orders

open Concurrent Option Machine

/-! ## Reads are truthful -/

/-- What an event of a call read is what the upstream held. -/
structure Truthful (event : Event orderMachine) : Prop where
  found : ∀ slot row, lookupOf slot event.deed = some (.found row) → event.before.orders slot = some row
  missing : ∀ slot, lookupOf slot event.deed = some .missing → event.before.orders slot = none
  rechecked : ∀ slot row, recheckOf slot event.deed = some (some row) → event.before.orders slot = some row

theorem truthful_of_performed {action : Action} {choice : Choice} {world after : World} {answer : action.Answer}
    (performed : perform action choice world = some (answer, after)) : Truthful ⟨⟨action, answer⟩, world⟩ := by
  cases action with
  | lookupOrder waiting =>
    obtain ⟨read, -, same⟩ := map_eq_some_iff.mp performed
    obtain ⟨rfl, rfl⟩ := Prod.mk.inj same
    refine ⟨fun slot row found => ?_, fun slot missing => ?_, by rintro _ _ ⟨⟩⟩
    · simp only [lookupOf] at found
      split at found
      · rename_i same
        subst same
        cases fault : choice.fault <;> cases stands : world.orders read <;> simp_all
      · cases found
    · simp only [lookupOf] at missing
      split at missing
      · rename_i same
        subst same
        cases fault : choice.fault <;> cases stands : world.orders read <;> simp_all
      · cases missing
  | refetchPaymentRow waiting =>
    obtain ⟨read, -, same⟩ := map_eq_some_iff.mp performed
    obtain ⟨rfl, rfl⟩ := Prod.mk.inj same
    refine ⟨by rintro _ _ ⟨⟩, by rintro _ ⟨⟩, fun slot row found => ?_⟩
    simp only [recheckOf] at found
    split at found
    · rename_i same
      subst same
      cases fault : choice.fault <;> simp_all
    · cases found
  | _ => exact ⟨by rintro _ _ ⟨⟩, by rintro _ ⟨⟩, by rintro _ _ ⟨⟩⟩

section Runs

variable {world : World} {parties : ℕ → Party} {after : (recorded orderMachine).Config}

theorem reads_truthful
    (run : Run (unrestricted orderMachine).recorded (invoicing world parties).unrecorded after) {tid : ℕ}
    {event : Event orderMachine} (member : event ∈ after.world.2 tid) : Truthful event := by
  obtain ⟨choice, next, performed⟩ := recorded_truly run member
  exact truthful_of_performed performed

/-- An order is handed out only as the truthful reads and re-checks of the call allow. -/
theorem handed_out_sole
    (run : Run (unrestricted orderMachine).recorded (invoicing world parties).unrecorded after) {tid : ℕ}
    {event : Event orderMachine} {earlier : List (Event orderMachine)} (done : event :: earlier <:+ after.world.2 tid)
    {slot : Slot} (payable : event.deed.1 = .answer (.payable slot)) :
    OneRail slot (earlier.map Event.deed) ∧ ∀ read ∈ earlier, Truthful read := by
  constructor
  · have allowed := rules_obeyed run tid event earlier done
    rw [payable] at allowed
    exact allowed
  · intro read member
    exact reads_truthful run (done.subset (List.mem_cons_of_mem _ member))

end Runs

/-! ## A run with a new order -/

def stellarContract : Request where
  source := { chainId := "1500", tokenSymbol := "USDC" }
  payinIntent := true
  lightningRotateOutEnabled := false
  pendingPricingMatches _ := true
  refundAddressMatches _ := true

/-- A classic order awaits payment in the base slot. -/
def classicBase : World where
  now := 0
  orders := fun slot => if slot = .base then
    some { status := some REUSABLE_PAYMENT_STATUS, expiresAt := some 1000, chainId := some "8453", tokenSymbol := some "USDC" }
  else none

def contractRow : Row where
  status := some REUSABLE_PAYMENT_STATUS
  expiresAt := some 1000
  chainId := some "1500"
  tokenSymbol := some "USDC"
  receiverAddressContract := true

def oneCaller : ℕ → Party
  | 0 => .caller stellarContract
  | _ => .idle

/-- The scan, the check of the link, the create, a re-check with this fault, and the answer. -/
def supersedingSchedule (recheck : Fault) : List (ℕ × Choice) :=
  [(0, {}), (0, {}), (0, {}), (0, {}), (0, {}), (0, {}), (0, { row := some contractRow }), (0, { fault := recheck }), (0, {})]

/-- The call handed out the slot after its last re-check of the base order came to this. -/
def handedOut (slot : Slot) (recheck : Option Row → Bool) (world : (recorded orderMachine).World) : Bool :=
  match world.2 0 with
  | [] => false
  | event :: earlier =>
    event.deed.1 = .answer (.payable slot) && (lastRecheck .base (earlier.map Event.deed)).any recheck

theorem superseding_sole : ∃ after event earlier,
    Run (unrestricted orderMachine).recorded (invoicing classicBase oneCaller).unrecorded after ∧
      after.world.2 0 = event :: earlier ∧ event.deed.1 = .answer (.payable (.contract 0)) ∧
      OneRail (.contract 0) (earlier.map Event.deed) ∧ ∀ read ∈ earlier, Truthful read := by
  obtain ⟨after, run, passed⟩ := Config.exec_reaches (unrestricted orderMachine).recorded
    (invoicing classicBase oneCaller).unrecorded (supersedingSchedule .none)
    (handedOut (.contract 0) fun read => read.any fun row => row.status = some REUSABLE_PAYMENT_STATUS) (by decide +kernel)
  unfold handedOut at passed
  cases history : after.world.2 0 with
  | nil =>
    rw [history] at passed
    cases passed
  | cons event earlier =>
    rw [history] at passed
    obtain ⟨payable, -⟩ := Bool.and_eq_true_iff.mp passed
    have answered := of_decide_eq_true payable
    have done : event :: earlier <:+ after.world.2 0 := history ▸ List.suffix_refl _
    exact ⟨after, event, earlier, run, history, answered, handed_out_sole run done answered⟩

/-! ## A re-check that fails -/

/-- Every order that an answer rests on was read, and read as unpaid or closed unpaid. -/
structure ReadThroughout (slot : Slot) (past : Past) : Prop where
  named : (∃ attempt row, (attempt, .created row) ∈ attempts past ∧ attempt.slot = slot) ∨
    ∃ row, lastSight slot past = some row ∧ row.status = some REUSABLE_PAYMENT_STATUS
  siblings : ∀ attempt reply, (attempt, reply) ∈ attempts past → ∀ old,
    old ∈ attempt.replaced ∨ attempt.superseded = some old → ∃ row, lastRecheck old past = some (some row) ∧
      (row.status = some PAYMENT_EXPIRED ∨ row.status = some REUSABLE_PAYMENT_STATUS)
  rechecks : ∀ order, lastRecheck order past ≠ some none

/-- The re-check of a superseded order fails, and the new order is handed out. -/
theorem failed_recheck_passes : ¬∀ (world : World) (parties : ℕ → Party) (after : (recorded orderMachine).Config),
    Run (unrestricted orderMachine).recorded (invoicing world parties).unrecorded after →
    ∀ tid event earlier, event :: earlier <:+ after.world.2 tid → ∀ slot, event.deed.1 = .answer (.payable slot) →
      ReadThroughout slot (earlier.map Event.deed) := by
  intro claim
  obtain ⟨after, run, passed⟩ := Config.exec_reaches (unrestricted orderMachine).recorded
    (invoicing classicBase oneCaller).unrecorded (supersedingSchedule .failed)
    (handedOut (.contract 0) Option.isNone) (by decide +kernel)
  unfold handedOut at passed
  cases history : after.world.2 0 with
  | nil =>
    rw [history] at passed
    cases passed
  | cons event earlier =>
    rw [history] at passed
    obtain ⟨payable, failed⟩ := Bool.and_eq_true_iff.mp passed
    have done : event :: earlier <:+ after.world.2 0 := history ▸ List.suffix_refl _
    have rechecks := (claim _ _ after run 0 event earlier done _ (of_decide_eq_true payable)).rechecks .base
    obtain ⟨read, last, empty⟩ := (any_eq_true _ _).mp failed
    rw [isNone_iff_eq_none.mp empty] at last
    exact rechecks last

end MppRouter.Routes.Orders
