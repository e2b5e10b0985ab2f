import MppRouter.Core.Totals
import MppRouter.Playground.StoredVoucher

/-! # Vouchers and write-offs of all channels

The settlement cron goes over all channels. Each channel has keys of its own; one more key counts what was written
off on all of them, and keeps the channels that it has counted in the same value. To one channel this is the
machine of its calls and settlement runs. Updates of vouchers and write-offs, settlement runs and the operations of
calls interleave over all channels here.
-/

namespace MppRouter.Playground.Channel.Recon

open Concurrent Machine Option List

/-! ## The recon key -/

/-- What was written off so far, with the amount of every channel that it counts. -/
structure WriteoffTotals where
  count : ℕ
  totalRaw : ℤ
  channels : AList fun _ : String => ℤ

/-- An absent key counts nothing. -/
def WriteoffTotals.absent : WriteoffTotals := ⟨0, 0, ∅⟩

/-- Count a channel once; count, total and channels move in one update. -/
def countChannel (channelContract : String) (cumulativeRaw : ℤ) (current : Option WriteoffTotals) :
    Option WriteoffTotals :=
  let totals := current.getD .absent
  if (totals.channels.lookup channelContract).isSome then current
  else some ⟨totals.count + 1, totals.totalRaw + cumulativeRaw, totals.channels.insert channelContract cumulativeRaw⟩

/-! ## The machine -/

structure World where
  channels : String → SettleWorld
  totals : Option WriteoffTotals

def World.initial : World := ⟨fun _ => .initial, none⟩

/-- An operation on one channel. -/
structure ReconAction where
  channelContract : String
  action : SettleAction

abbrev ReconAction.Answer (operation : ReconAction) : Type := operation.action.Answer

def World.update (world : World) (channelContract : String) (channel : SettleWorld) : World :=
  { world with channels := Function.update world.channels channelContract channel }

/-- Only the count of the write-offs is shared by the channels. -/
def perform (verifier : Verifier) (tid : ℕ) : (operation : ReconAction) → SettleChoice → World →
    operation.Answer × World
  | ⟨channelContract, .countWriteoff cumulativeRaw⟩, choice, world =>
    choice.call.fault.apply
      (fun world => ((), { world with totals := countChannel channelContract cumulativeRaw world.totals })) world
  | ⟨channelContract, action⟩, choice, world =>
    let (answer, channel) := settlePerform verifier tid action choice (world.channels channelContract)
    (answer, world.update channelContract channel)

abbrev reconMachine (verifier : Verifier) : Machine where
  Action := ReconAction
  Answer := ReconAction.Answer
  Choice := SettleChoice
  World := World
  perform tid operation choice world := some (perform verifier tid operation choice world)

/-! ## The runs -/

/-- The terminal record of the channel, then the count. -/
def markVoucherWrittenOff (cumulativeRaw : ℤ) : Settling Unit := do
  OptionT.mk (onSettle (.recordWriteoff cumulativeRaw))
  OptionT.mk (onSettle (.countWriteoff cumulativeRaw))

/-- What runs on a channel. -/
inductive Job where
  | putLatestVoucher (cumulativeRaw : ℤ) (signature : String)
  | markVoucherSettled (settledRaw : ℤ)
  | markVoucherWrittenOff (cumulativeRaw : ℤ)
  | settleOneChannel
  /-- Another operation of a call: on the lock, the markers or the watermark. -/
  | call (op : StoreOp)
  deriving DecidableEq

def Job.program : Job → Prog SettleAction SettleAction.Answer Unit
  | .putLatestVoucher cumulativeRaw signature =>
    finish (onSettle (.call (.store (.putVoucher cumulativeRaw signature))))
  | .markVoucherSettled settledRaw => finish (onSettle (.markVoucherSettled settledRaw))
  | .markVoucherWrittenOff cumulativeRaw => finish (Recon.markVoucherWrittenOff cumulativeRaw).run
  | .settleOneChannel => finish Channel.settleOneChannel.run
  | .call op => finish (onSettle (.call (.store op)))

def onContract {α : Type} (channelContract : String) (program : Prog SettleAction SettleAction.Answer α) :
    Prog ReconAction ReconAction.Answer α :=
  program.embed (ReconAction.mk channelContract) fun _ answer => answer

/-- The thread of a job, if there is one. -/
def thread : Option (String × Job) → Prog ReconAction ReconAction.Answer Unit
  | some (channelContract, job) => onContract channelContract job.program
  | none => pure ()

/-! ## What is claimed -/

def World.voucher (world : World) (channelContract : String) : Option LatestVoucher :=
  (world.channels channelContract).channel.voucher

/-- The amount that a channel is counted with. -/
def World.entry (world : World) (channelContract : String) : Option ℤ :=
  world.totals.bind fun totals => totals.channels.lookup channelContract

/-- Neither amount of a voucher falls. -/
def Rises (before after : Option LatestVoucher) : Prop :=
  ∀ voucher, before = some voucher → ∃ later, after = some later ∧
    voucher.cumulativeRaw ≤ later.cumulativeRaw ∧ voucher.lastSettledRaw ≤ later.lastSettledRaw

/-- What is settled was signed. -/
def World.Settled (world : World) : Prop :=
  ∀ channelContract voucher, world.voucher channelContract = some voucher →
    voucher.lastSettledRaw ≤ voucher.cumulativeRaw

/-- Count and total are those of the channels, each of which is there once. -/
structure WriteoffTotals.Exact (totals : WriteoffTotals) : Prop where
  count : totals.count = totals.channels.keys.length
  totalRaw : totals.totalRaw = totals.channels.total fun _ cumulativeRaw => cumulativeRaw
  once : totals.channels.keys.Nodup

/-- Vouchers rise, and a channel that is counted keeps its amount. -/
structure Grows (before after : World) : Prop where
  vouchers : ∀ channelContract, Rises (before.voucher channelContract) (after.voucher channelContract)
  entries : ∀ channelContract cumulativeRaw, before.entry channelContract = some cumulativeRaw →
    after.entry channelContract = some cumulativeRaw

/-- What the callers of the updates see to: amounts are not negative, and a voucher is marked as settled up to no
more than was signed. Settlement runs promise nothing. -/
def promised (job : Option (String × Job)) (operation : ReconAction) (world : World) : Bool :=
  match operation.action with
  | .call (.store (.putVoucher cumulativeRaw _)) => 0 ≤ cumulativeRaw
  | .markVoucherSettled settledRaw => job = some (operation.channelContract, .settleOneChannel) ∨
      (world.voucher operation.channelContract).all fun voucher => settledRaw ≤ voucher.cumulativeRaw
  | _ => true

def Promised (jobs : ℕ → Option (String × Job)) (verifier : Verifier) : (reconMachine verifier).Admits :=
  fun tid operation _ world => promised (jobs tid) operation world = true

instance (jobs : ℕ → Option (String × Job)) (verifier : Verifier) (tid : ℕ) (operation : ReconAction)
    (choice : SettleChoice) (world : World) : Decidable (Promised jobs verifier tid operation choice world) :=
  inferInstanceAs (Decidable (_ = _))

/-! ## What one step does -/

section Rises

variable {before middle after current : Option LatestVoucher}

theorem Rises.refl (current : Option LatestVoucher) : Rises current current :=
  fun voucher stored => ⟨voucher, stored, Int.le_rfl, Int.le_rfl⟩

theorem Rises.trans (first : Rises before middle) (second : Rises middle after) : Rises before after := by
  intro voucher stored
  obtain ⟨between, present, signed, settled⟩ := first voucher stored
  obtain ⟨last, found, signedLater, settledLater⟩ := second between present
  exact ⟨last, found, by omega, by omega⟩

theorem rises_put (cumulativeRaw : ℤ) (signature : String) (current : Option LatestVoucher) :
    Rises current (some (putLatestVoucher cumulativeRaw signature current)) := by
  rintro voucher rfl
  refine ⟨_, rfl, ?_⟩
  unfold putLatestVoucher
  dsimp only
  split_ifs with higher
  · exact ⟨Int.le_rfl, Int.le_rfl⟩
  · constructor
    · dsimp only
      omega
    · exact Int.le_rfl

theorem rises_settled (settledRaw : ℤ) (current : Option LatestVoucher) :
    Rises current (markVoucherSettled settledRaw current) := by
  rintro voucher rfl
  unfold markVoucherSettled
  dsimp only
  split_ifs with higher
  · exact Rises.refl _ voucher rfl
  · refine ⟨_, rfl, Int.le_rfl, ?_⟩
    dsimp only
    omega

theorem voucherStep_rises {action : SettleAction} {world after : SettleWorld} (step : VoucherStep action world after) :
    Rises world.channel.voucher after.channel.voucher := by
  cases step with
  | kept same =>
    rw [same]
    exact .refl _
  | put performs stored =>
    rw [stored]
    exact rises_put _ _ _
  | settled performs marked =>
    rw [marked]
    exact rises_settled _ _

end Rises

section Counting

variable {channelContract : String} {cumulativeRaw : ℤ} {current : Option WriteoffTotals}

theorem WriteoffTotals.exact_absent : WriteoffTotals.absent.Exact := ⟨rfl, rfl, nodup_nil⟩

/-- A channel that is counted for the first time adds itself and its amount. -/
theorem countChannel_exact (sound : (current.getD .absent).Exact) :
    ((countChannel channelContract cumulativeRaw current).getD .absent).Exact := by
  unfold countChannel
  dsimp only
  split_ifs with counted
  · exact sound
  · have absent : (current.getD .absent).channels.lookup channelContract = none := by simpa using counted
    have fresh : channelContract ∉ (current.getD .absent).channels.keys :=
      fun listed => AList.lookup_eq_none.mp absent (AList.mem_keys.mpr listed)
    constructor
    case count =>
      rw [getD_some, AList.keys_insert, erase_of_not_mem fresh, length_cons, sound.count]
    case totalRaw =>
      rw [getD_some, AList.total_insert, AList.weightAt_of_absent absent, sub_zero]
      exact congrArg (· + cumulativeRaw) sound.totalRaw
    case once => exact AList.keys_nodup _

theorem countChannel_entry {other : String} {amount : ℤ}
    (entry : (current.bind fun totals => totals.channels.lookup other) = some amount) :
    ((countChannel channelContract cumulativeRaw current).bind fun totals => totals.channels.lookup other) =
      some amount := by
  obtain ⟨totals, rfl, present⟩ := bind_eq_some_iff.mp entry
  unfold countChannel
  dsimp only [getD_some]
  split_ifs with counted
  · exact entry
  · have distinct : other ≠ channelContract := by
      rintro rfl
      rw [present] at counted
      exact counted rfl
    rw [bind_some, AList.lookup_insert_ne distinct]
    exact present

end Counting

section Steps

variable {verifier : Verifier} {tid : ℕ} {operation : ReconAction} {choice : SettleChoice} {world : World}

/-- A step touches the voucher of its own channel alone, and that as the machine of the channel does. -/
theorem perform_voucher : (∀ other, other ≠ operation.channelContract →
      (perform verifier tid operation choice world).2.voucher other = world.voucher other) ∧
    VoucherStep operation.action (world.channels operation.channelContract)
      ((perform verifier tid operation choice world).2.channels operation.channelContract) := by
  obtain ⟨channelContract, action⟩ := operation
  have updated : ∀ channel : SettleWorld, VoucherStep action (world.channels channelContract) channel →
      (∀ other, other ≠ channelContract → (world.update channelContract channel).voucher other = world.voucher other) ∧
        VoucherStep action (world.channels channelContract)
          ((world.update channelContract channel).channels channelContract) := by
    intro channel step
    constructor
    · intro other distinct
      simp only [World.voucher, World.update, Function.update_of_ne distinct]
    · simp only [World.update, Function.update_self]
      exact step
  cases action with
  | countWriteoff cumulativeRaw =>
    simp only [perform, Fault.apply]
    cases choice.call.fault <;> exact ⟨fun _ _ => rfl, .kept rfl⟩
  | _ => exact updated _ (@voucher_step verifier tid _ choice _)

theorem perform_totals : (perform verifier tid operation choice world).2.totals = world.totals ∨
    ∃ cumulativeRaw, (perform verifier tid operation choice world).2.totals =
      countChannel operation.channelContract cumulativeRaw world.totals := by
  obtain ⟨channelContract, action⟩ := operation
  cases action with
  | countWriteoff cumulativeRaw =>
    simp only [perform, Fault.apply]
    cases choice.call.fault with
    | failed => exact .inl rfl
    | none => exact .inr ⟨cumulativeRaw, rfl⟩
    | lost => exact .inr ⟨cumulativeRaw, rfl⟩
  | _ => exact .inl rfl

theorem Grows.refl (world : World) : Grows world world := ⟨fun _ => .refl _, fun _ _ entry => entry⟩

theorem Grows.trans {middle after : World} (first : Grows world middle) (second : Grows middle after) :
    Grows world after where
  vouchers channelContract := (first.vouchers channelContract).trans (second.vouchers channelContract)
  entries channelContract amount entry := second.entries channelContract amount (first.entries channelContract amount entry)

theorem perform_grows : Grows world (perform verifier tid operation choice world).2 := by
  obtain ⟨others, step⟩ := @perform_voucher verifier tid operation choice world
  constructor
  · intro other
    by_cases same : other = operation.channelContract
    · subst same
      exact voucherStep_rises step
    · rw [others other same]
      exact .refl _
  · intro other amount entry
    obtain same | ⟨cumulativeRaw, counted⟩ := @perform_totals verifier tid operation choice world
    · rw [World.entry, same]
      exact entry
    · rw [World.entry, counted]
      exact countChannel_entry entry

theorem perform_exact (sound : (world.totals.getD .absent).Exact) :
    ((perform verifier tid operation choice world).2.totals.getD .absent).Exact := by
  obtain same | ⟨cumulativeRaw, counted⟩ := @perform_totals verifier tid operation choice world
  · rw [same]
    exact sound
  · rw [counted]
    exact countChannel_exact sound

end Steps

/-! ## Any threads -/

section Runs

variable {verifier : Verifier} {admits : (reconMachine verifier).Admits} {before after : (reconMachine verifier).Config}

theorem grows_run (run : Run admits before after) : Grows before.world after.world := by
  induction run with
  | refl => exact .refl _
  | tail _ step ih =>
    apply ih.trans
    cases step with
    | mk next admitted performed =>
      obtain ⟨rfl, rfl⟩ := Prod.mk.inj (some.inj performed)
      exact perform_grows

theorem exact_run (run : Run admits before after) (sound : (before.world.totals.getD .absent).Exact) :
    (after.world.totals.getD .absent).Exact := by
  induction run with
  | refl => exact sound
  | tail _ step ih =>
    cases step with
    | mk next admitted performed =>
      obtain ⟨rfl, rfl⟩ := Prod.mk.inj (some.inj performed)
      exact perform_exact ih

end Runs

/-! ## What is settled was signed -/

/-- Where a job starts. -/
def Job.floor : Job → Floor
  | .settleOneChannel => .unread
  | _ => .promised

/-- The phase that a thread starts in. -/
def startOf : Option (String × Job) → String × Floor
  | some (channelContract, job) => (channelContract, job.floor)
  | none => ("", .unread)

/-- The flow of a run on one of the channels. -/
def reconFlow (verifier : Verifier) : Typestate (reconMachine verifier) where
  Phase := String × Floor
  allowed phase operation := operation.channelContract = phase.1 ∧ phase.2.allows operation.action
  next phase operation answer := (phase.1, phase.2.next operation.action answer)

section Walk

open Typestate

variable {verifier : Verifier}

theorem floor_job (job : Job) : (floorFlow verifier).Follows job.program anyhow job.floor := by
  cases job with
  | settleOneChannel => exact Follows.bind (Follows.of_run follows_settleOneChannel).loose
  | markVoucherSettled settledRaw => exact Follows.ask (.inl rfl) fun _ => trivial
  | markVoucherWrittenOff cumulativeRaw =>
    have quiet : Throwing.Performs (settles none) (Recon.markVoucherWrittenOff cumulativeRaw) :=
      Throwing.Performs.bind (performs_settle (.recordWriteoff cumulativeRaw) ⟨trivial, trivial⟩)
        fun _ => performs_settle (.countWriteoff cumulativeRaw) ⟨trivial, trivial⟩
    exact Follows.bind (Follows.of_run (run_quiet quiet)).loose
  | putLatestVoucher cumulativeRaw signature => exact Follows.ask trivial fun _ => trivial
  | call op => exact Follows.ask trivial fun _ => trivial

theorem follows_thread (job : Option (String × Job)) :
    (reconFlow verifier).Follows (thread job) anyhow (startOf job) := by
  cases job with
  | none => trivial
  | some job =>
    obtain ⟨channelContract, job⟩ := job
    have embedded := @Follows.embed _ _ (floorFlow verifier) (reconFlow verifier) _ (ReconAction.mk channelContract)
      (fun _ answer => answer) (Prod.mk channelContract) (fun _ _ allowed => ⟨rfl, allowed⟩) (fun _ _ _ => rfl)
      job.program _ job.floor (floor_job job)
    exact embedded.loose

end Walk

/-! ## Every run -/

section Protocol

variable {jobs : ℕ → Option (String × Job)} {verifier : Verifier} {tid : ℕ} {phase : String × Floor} {world : World}

/-- What is settled was signed, and vouchers rise. -/
def reconProtocol (verifier : Verifier) : Protocol (reconMachine verifier) where
  Inv := World.Settled
  Guar _ := Grows

/-- What a thread knows: a voucher that was read is still there, or a higher one. -/
def FloorKnows (jobs : ℕ → Option (String × Job)) (tid : ℕ) : String × Floor → World → Prop
  | (channelContract, .promised), _ => jobs tid ≠ some (channelContract, .settleOneChannel)
  | (_, .unread), _ => True
  | (channelContract, .read cumulativeRaw), world =>
    ∃ voucher, world.voucher channelContract = some voucher ∧ cumulativeRaw ≤ voucher.cumulativeRaw

theorem FloorKnows.keep {after : World} (knows : FloorKnows jobs tid phase world) (grows : Grows world after) :
    FloorKnows jobs tid phase after := by
  obtain ⟨channelContract, floor⟩ := phase
  cases floor with
  | promised => exact knows
  | unread => trivial
  | read cumulativeRaw =>
    obtain ⟨voucher, stored, signed⟩ := knows
    obtain ⟨later, present, rises, -⟩ := grows.vouchers channelContract voucher stored
    exact ⟨later, present, signed.trans rises⟩

theorem start_knows : FloorKnows jobs tid (startOf (jobs tid)) world := by
  cases thread : jobs tid with
  | none => trivial
  | some job =>
    obtain ⟨channelContract, job⟩ := job
    cases job with
    | settleOneChannel => trivial
    | _ =>
      intro settles
      rw [thread] at settles
      cases settles

variable {operation : ReconAction} {choice : SettleChoice}

theorem mark_covered {settledRaw : ℤ}
    (marks : operation.action = .markVoucherSettled settledRaw) (knows : FloorKnows jobs tid phase world)
    (allowed : (reconFlow verifier).allowed phase operation)
    (admitted : Promised jobs verifier tid operation choice world) {voucher : LatestVoucher}
    (stored : world.voucher operation.channelContract = some voucher) : settledRaw ≤ voucher.cumulativeRaw := by
  obtain ⟨channelContract, action⟩ := operation
  obtain ⟨contract, floor⟩ := phase
  obtain ⟨same, floored⟩ := allowed
  dsimp only at same marks stored
  subst same marks
  rcases floored with promised | read
  · dsimp only at promised
    subst promised
    rcases of_decide_eq_true admitted with settles | covers
    · exact absurd settles knows
    · rw [stored] at covers
      exact of_decide_eq_true covers
  · dsimp only at read
    subst read
    obtain ⟨other, present, signed⟩ := knows
    obtain rfl := some.inj (present.symm.trans stored)
    exact signed

/-- Every step keeps what is settled below what was signed. -/
theorem settled_step (settled : world.Settled)
    (knows : FloorKnows jobs tid phase world) (allowed : (reconFlow verifier).allowed phase operation)
    (admitted : Promised jobs verifier tid operation choice world) :
    (perform verifier tid operation choice world).2.Settled := by
  obtain ⟨others, step⟩ := @perform_voucher verifier tid operation choice world
  intro other voucher stored
  by_cases same : other = operation.channelContract
  · subst same
    cases step with
    | kept unchanged => exact settled _ voucher (unchanged.symm.trans stored)
    | @put cumulativeRaw signature performs put =>
      have signed : 0 ≤ cumulativeRaw := by
        have signed := admitted
        simp only [Promised, promised, performs] at signed
        exact of_decide_eq_true signed
      obtain rfl := some.inj (put.symm.trans stored)
      unfold putLatestVoucher
      split
      next before present =>
        have below := settled _ before present
        split_ifs with higher
        · exact below
        · dsimp only
          omega
      next => exact signed
    | settled performs marked =>
      have after := marked.symm.trans stored
      unfold markVoucherSettled at after
      split at after
      next => cases after
      next before present =>
        have below := settled _ before present
        have covered := mark_covered performs knows allowed admitted present
        split_ifs at after with higher
        · obtain rfl := some.inj after
          exact below
        · obtain rfl := some.inj after
          exact covered
  · rw [others other same] at stored
    exact settled other voucher stored

/-- A settlement run that has read a voucher knows it. -/
theorem next_knows (knows : FloorKnows jobs tid phase world)
    (allowed : (reconFlow verifier).allowed phase operation) :
    FloorKnows jobs tid ((reconFlow verifier).next phase operation (perform verifier tid operation choice world).1)
      (perform verifier tid operation choice world).2 := by
  have kept : FloorKnows jobs tid phase (perform verifier tid operation choice world).2 := knows.keep perform_grows
  obtain ⟨channelContract, action⟩ := operation
  obtain ⟨contract, floor⟩ := phase
  obtain ⟨same, -⟩ := allowed
  dsimp only at same
  subst same
  cases action with
  | call action =>
    cases action with
    | store op =>
      cases op with
      | readVoucher =>
        have answered : ∀ voucher, (perform verifier tid ⟨channelContract, .call (.store .readVoucher)⟩ choice world).1 =
            some (some voucher) → world.voucher channelContract = some voucher := by
          intro voucher
          simp only [perform, settlePerform, Channel.perform, Fault.apply]
          cases choice.call.fault with
          | none => exact fun answer => some.inj answer
          | lost => rintro ⟨⟩
          | failed => rintro ⟨⟩
        generalize (perform verifier tid ⟨channelContract, .call (.store .readVoucher)⟩ choice world).1 = answer
          at answered ⊢
        rcases answer with _ | _ | voucher
        · exact kept
        · exact kept
        · have read : FloorKnows jobs tid (channelContract, .read voucher.cumulativeRaw) world :=
            ⟨voucher, answered voucher rfl, Int.le_rfl⟩
          cases floor with
          | promised => exact kept
          | unread => exact read.keep perform_grows
          | read cumulativeRaw => exact read.keep perform_grows
      | _ => exact kept
    | _ => exact kept
  | _ => exact kept

theorem floor_keeps (tid : ℕ) : (reconFlow verifier).Keeps (reconProtocol verifier) (Promised jobs verifier) tid
    (FloorKnows jobs tid) where
  stable phase := fun _ _ _ _ _ _ grows knows => knows.keep grows
  step phase operation allowed world settled knows choice answer after admitted performed := by
    obtain ⟨rfl, rfl⟩ := Prod.mk.inj (some.inj performed)
    have grows : Grows world (perform verifier tid operation choice world).2 := perform_grows
    exact ⟨settled_step settled knows allowed admitted, grows, next_knows knows allowed⟩

end Protocol

/-- Over any interleaving of voucher updates, write-offs, settlement runs and operations of calls, on any channels,
crashing or failing anywhere: no amount of a voucher ever falls; the count and the total of the write-offs are those
of the counted channels, each of which is counted once and keeps its amount; and as long as the callers of the
updates keep their promise, no voucher is settled beyond what was signed. -/
theorem vouchers_and_writeoffs (verifier : Verifier) (jobs : ℕ → Option (String × Job))
    {before after : (reconMachine verifier).Config}
    (run : Run (unrestricted (reconMachine verifier)) ⟨.initial, fun tid => thread (jobs tid)⟩ before)
    (onward : Run (unrestricted (reconMachine verifier)) before after) :
    Grows before.world after.world ∧ (∀ totals, after.world.totals = some totals → totals.Exact) ∧
      (Run (Promised jobs verifier) ⟨.initial, fun tid => thread (jobs tid)⟩ after → after.world.Settled) := by
  refine ⟨grows_run onward, ?_, ?_⟩
  · intro totals counted
    have sound := exact_run (run.trans onward) WriteoffTotals.exact_absent
    rw [counted] at sound
    exact sound
  · intro promised
    have start : (reconProtocol verifier).Inv World.initial := fun _ _ stored => nomatch stored
    exact Typestate.sound_each floor_keeps (fun tid => startOf (jobs tid)) start (fun _ => start_knows)
      (fun tid => follows_thread (jobs tid)) promised

section Example

/-- A voucher is stored and written off by a settlement run, and a write-off that is recorded elsewhere is counted
with it. -/
private def writeoffJobs : ℕ → Option (String × Job)
  | 0 => some ("first", .putLatestVoucher 3000000 "signature")
  | 1 => some ("first", .settleOneChannel)
  | 2 => some ("second", .markVoucherWrittenOff 70000)
  | _ => none

theorem vouchers_and_writeoffs_two : ∃ before after : (reconMachine atLeast).Config,
    Grows before.world after.world ∧ (∀ totals, after.world.totals = some totals → totals.Exact) ∧
      after.world.Settled ∧ after.world.entry "first" = some 3000000 ∧
        after.world.totals.map WriteoffTotals.totalRaw = some 3070000 := by
  obtain ⟨before, after, run, onward, counted⟩ := Config.exec_reaches_then (Promised writeoffJobs atLeast)
    ⟨.initial, fun tid => thread (writeoffJobs tid)⟩
    ((0, .plain) :: replicate 14 (1, { state := some ⟨true, true⟩ })) (replicate 2 (2, .plain))
    (fun _ after => after.entry "first" = some 3000000 ∧
      after.totals.map WriteoffTotals.totalRaw = some 3070000) (by decide +kernel)
  have free : Run (unrestricted (reconMachine atLeast)) ⟨.initial, fun tid => thread (writeoffJobs tid)⟩ before :=
    run.admitted fun _ _ _ _ _ _ _ => trivial
  have onwardFree : Run (unrestricted (reconMachine atLeast)) before after :=
    onward.admitted fun _ _ _ _ _ _ _ => trivial
  obtain ⟨grows, sound, settled⟩ := vouchers_and_writeoffs atLeast writeoffJobs free onwardFree
  exact ⟨before, after, grows, sound, settled (run.trans onward), of_decide_eq_true counted⟩

/-- A voucher is stored, and more is marked as settled than was signed. -/
private def overmarkedJobs : ℕ → Option (String × Job)
  | 0 => some ("channel", .putLatestVoucher 50 "signature")
  | 1 => some ("channel", .markVoucherSettled 100)
  | _ => none

/-- A mark that is given more than the stored voucher settles beyond what was signed. -/
theorem settled_beyond_signed : ¬∀ (verifier : Verifier) (jobs : ℕ → Option (String × Job))
    (after : (reconMachine verifier).Config),
    Run (unrestricted (reconMachine verifier)) ⟨.initial, fun tid => thread (jobs tid)⟩ after → after.world.Settled := by
  intro claim
  obtain ⟨after, run, reached⟩ := Config.exec_reaches (unrestricted (reconMachine atLeast))
    ⟨.initial, fun tid => thread (overmarkedJobs tid)⟩ [(0, .plain), (1, .plain)]
    (fun world => (world.voucher "channel").any fun voucher => voucher.cumulativeRaw < voucher.lastSettledRaw)
    (by decide +kernel)
  obtain ⟨voucher, stored, beyond⟩ := (any_eq_true _ _).mp reached
  have signed := claim atLeast overmarkedJobs after run "channel" voucher stored
  exact absurd (of_decide_eq_true beyond) (not_lt.mpr signed)

end Example

end MppRouter.Playground.Channel.Recon
