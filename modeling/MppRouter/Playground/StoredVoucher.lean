import MppRouter.Playground.FenceFirst

/-! # What a stored voucher can collect

Before a voucher is verified, the router checks that the watermark it has read and the price together stay within
the deposit of the channel. What it stores is the amount that the client signed: a voucher over more than the
deposit passes the check, replaces the one that could be collected, and the close of the channel fails.
-/

namespace MppRouter.Playground.Channel

open Concurrent Machine

/-! ## What is claimed, and when it holds -/

/-- A verifier that checks the signature, and that the amount is at least the watermark and the price. -/
def signedVerifier (signed : Credential → Bool) : Verifier :=
  fun watermark priceRaw credential => signed credential ∧ watermark + priceRaw ≤ credential.amount

/-- The deposit suffices to collect the stored voucher. -/
def SettleWorld.Collectable (depositRaw : ℤ) (world : SettleWorld) : Prop :=
  ∀ voucher, world.channel.voucher = some voucher → voucher.cumulativeRaw ≤ depositRaw

/-- Metered calls on a channel with this deposit, with any credential, and settlement runs. -/
inductive IsDepositThread (depositRaw : ℤ) : Prog SettleAction SettleAction.Answer Unit → Prop
  | idle : IsDepositThread depositRaw (pure ())
  | call (call : MeteredCall) (credential : Option Credential) (registered : call.depositRaw = depositRaw) :
      IsDepositThread depositRaw (finish (embedCall (serve call credential)))
  | settle : IsDepositThread depositRaw (finish settleOneChannel.run)

theorem IsDepositThread.member {depositRaw : ℤ} {thread : Prog SettleAction SettleAction.Answer Unit}
    (member : IsDepositThread depositRaw thread) : IsChannelThread thread := by
  cases member with
  | idle => exact .idle
  | call call credential registered => exact .call call credential
  | settle => exact .settle

/-- A voucher that is accepted is not signed over more than the deposit. -/
def withinDeposit (depositRaw : ℤ) (verifier : Verifier) (action : SettleAction) (world : SettleWorld) : Bool :=
  match action with
  | .call (.store (.verify priceRaw credential _)) =>
    ¬ verifier world.channel.watermark priceRaw credential ∨ credential.amount ≤ depositRaw
  | _ => true

def WithinDeposit (depositRaw : ℤ) (verifier : Verifier) : (settleMachine verifier).Admits :=
  fun _ action _ world => withinDeposit depositRaw verifier action world = true

instance (depositRaw : ℤ) (verifier : Verifier) (tid : ℕ) (action : SettleAction) (choice : SettleChoice)
    (world : SettleWorld) : Decidable (WithinDeposit depositRaw verifier tid action choice world) :=
  inferInstanceAs (Decidable (_ = _))

/-! ## What one action does to the stored voucher -/

inductive VoucherStep (action : SettleAction) (world after : SettleWorld) : Prop
  | kept (same : after.channel.voucher = world.channel.voucher)
  | put {cumulativeRaw : ℤ} {signature : String} (performs : action = .call (.store (.putVoucher cumulativeRaw signature)))
      (stored : after.channel.voucher = some (putLatestVoucher cumulativeRaw signature world.channel.voucher))
  | settled {settledRaw : ℤ} (performs : action = .markVoucherSettled settledRaw)
      (marked : after.channel.voucher = markVoucherSettled settledRaw world.channel.voucher)

section Steps

variable {verifier : Verifier} {tid : ℕ}

/-- Apart from the two updates of its key, no operation of a call touches the voucher. -/
theorem store_voucher (op : StoreOp) (text : String) (world : World) :
    (op.perform verifier tid text world).2.voucher = world.voucher ∨ ∃ cumulativeRaw signature,
      op = .putVoucher cumulativeRaw signature ∧ (op.perform verifier tid text world).2.voucher =
        some (putLatestVoucher cumulativeRaw signature world.voucher) := by
  cases op with
  | putVoucher cumulativeRaw signature => exact .inr ⟨cumulativeRaw, signature, rfl, rfl⟩
  | rollback voucher =>
    left
    simp only [StoreOp.perform]
    split <;> rfl
  | verify priceRaw credential previousAmount =>
    left
    simp only [StoreOp.perform]
    split_ifs <;> rfl
  | _ => exact .inl rfl

theorem call_voucher (action : Action) (choice : Choice) (world : World) :
    (perform verifier tid action choice world).2.voucher = world.voucher ∨ ∃ cumulativeRaw signature,
      action = .store (.putVoucher cumulativeRaw signature) ∧ (perform verifier tid action choice world).2.voucher =
        some (putLatestVoucher cumulativeRaw signature world.voucher) := by
  cases action with
  | store op =>
    have performed : ∀ after, after = (op.perform verifier tid choice.text world).2 → after.voucher = world.voucher ∨
        ∃ cumulativeRaw signature, Action.store op = .store (.putVoucher cumulativeRaw signature) ∧
          after.voucher = some (putLatestVoucher cumulativeRaw signature world.voucher) := by
      rintro after rfl
      obtain same | ⟨cumulativeRaw, signature, rfl, stored⟩ := store_voucher op choice.text world
      · exact .inl same
      · exact .inr ⟨cumulativeRaw, signature, rfl, stored⟩
    simp only [perform, Fault.apply]
    cases choice.fault with
    | failed => exact .inl rfl
    | none => exact performed _ rfl
    | lost => exact performed _ rfl
  | respond response =>
    left
    simp only [perform]
    split_ifs <;> rfl
  | _ => exact .inl rfl

theorem voucher_step (action : SettleAction) (choice : SettleChoice) (world : SettleWorld) :
    VoucherStep action world (settlePerform verifier tid action choice world).2 := by
  cases action with
  | call action =>
    obtain same | ⟨cumulativeRaw, signature, rfl, stored⟩ :=
      @call_voucher verifier tid action choice.call world.channel
    · exact .kept same
    · exact .put rfl stored
  | markVoucherSettled settledRaw =>
    simp only [settlePerform, Fault.apply]
    cases choice.call.fault with
    | failed => exact .kept rfl
    | none => exact .settled rfl rfl
    | lost => exact .settled rfl rfl
  | recordWriteoff cumulativeRaw =>
    simp only [settlePerform, Fault.apply]
    cases choice.call.fault <;> exact .kept rfl
  | countWriteoff cumulativeRaw =>
    simp only [settlePerform, Fault.apply]
    cases choice.call.fault <;> exact .kept rfl
  | getChannelState => exact .kept rfl
  | close amount signature => exact .kept rfl

end Steps

/-! ## The protocol -/

section Protocol

variable {depositRaw : ℤ} {verifier : Verifier} {tid : ℕ} {phase : CallPhase}

theorem putLatestVoucher_fits {cumulativeRaw : ℤ} {signature : String} {current : Option LatestVoucher}
    (fits : cumulativeRaw ≤ depositRaw) (stored : ∀ voucher, current = some voucher → voucher.cumulativeRaw ≤ depositRaw) :
    (putLatestVoucher cumulativeRaw signature current).cumulativeRaw ≤ depositRaw := by
  unfold putLatestVoucher
  split
  next voucher =>
    split_ifs
    · exact stored voucher rfl
    · exact fits
  next => exact fits

/-- Marking what was settled leaves the amount of the voucher alone. -/
theorem markVoucherSettled_cumulativeRaw {settledRaw : ℤ} {current : Option LatestVoucher} {voucher : LatestVoucher}
    (marked : markVoucherSettled settledRaw current = some voucher) :
    ∃ before, current = some before ∧ voucher.cumulativeRaw = before.cumulativeRaw := by
  unfold markVoucherSettled at marked
  split at marked
  next => cases marked
  next before =>
    refine ⟨before, rfl, ?_⟩
    split_ifs at marked <;> cases marked <;> rfl

/-- The stored voucher is collectable; the parties guarantee each other nothing else. -/
def depositProtocol (depositRaw : ℤ) (verifier : Verifier) : Protocol (settleMachine verifier) where
  Inv := SettleWorld.Collectable depositRaw
  Guar _ _ _ := True

/-- What a call knows of the voucher that it carries. -/
def FitsDeposit (depositRaw : ℤ) : CallPhase → SettleWorld → Prop
  | .accepted amount, _ | .paid amount _, _ => amount ≤ depositRaw
  | _, _ => True

theorem fitsDeposit_fence {done : Bool} {world : SettleWorld} (fits : FitsDeposit depositRaw phase world) :
    FitsDeposit depositRaw (phase.fence done) world := by
  cases phase <;> exact fits

/-- What the amount of a call is bounded by does not change on its way. -/
theorem fitsDeposit_next {action : Action} {choice : SettleChoice} {world : SettleWorld}
    (fits : FitsDeposit depositRaw phase world)
    (admitted : WithinDeposit depositRaw verifier tid (.call action) choice world) :
    FitsDeposit depositRaw (phase.next action (settlePerform verifier tid (.call action) choice world).1)
      (settlePerform verifier tid (.call action) choice world).2 := by
  have kept : ∀ after : SettleWorld, FitsDeposit depositRaw phase after := by
    intro after
    cases phase <;> exact fits
  cases action with
  | callUpstream =>
    cases phase with
    | accepted amount =>
      simp only [CallPhase.next]
      split_ifs <;> exact fits
    | _ => exact kept _
  | store op =>
    simp only [settlePerform, perform, Fault.apply]
    cases op with
    | verify priceRaw credential previousAmount =>
      cases choice.call.fault with
      | lost => trivial
      | failed => trivial
      | none =>
        simp only [StoreOp.perform]
        split_ifs with accepts
        · rcases of_decide_eq_true admitted with refuses | within
          · exact absurd accepts refuses
          · exact within
        · trivial
    | readClosed => cases choice.call.fault <;> trivial
    | readFenced =>
      cases choice.call.fault with
      | none =>
        simp only [CallPhase.next]
        split <;> trivial
      | _ =>
        simp only [CallPhase.next]
        trivial
    | fence =>
      cases choice.call.fault with
      | none => exact fitsDeposit_fence (kept _)
      | _ => exact kept _
    | rollback voucher => cases choice.call.fault <;> trivial
    | _ => cases choice.call.fault <;> exact kept _
  | _ => exact kept _

theorem depositFlow_keeps (tid : ℕ) : (settleFlow verifier).Keeps (depositProtocol depositRaw verifier)
    (WithinDeposit depositRaw verifier) tid (FitsDeposit depositRaw) where
  stable phase := by
    intro other world after distinct _ _ _ fits
    cases phase <;> exact fits
  step phase action allowed world inv fits choice answer after admitted performed := by
    obtain ⟨rfl, rfl⟩ := Prod.mk.inj (Option.some.inj performed)
    refine ⟨?_, trivial, ?_⟩
    · intro voucher stored
      cases voucher_step action choice world with
      | kept same => exact inv voucher (same.symm.trans stored)
      | put performs put =>
        subst performs
        obtain ⟨fenced, rfl⟩ := allowed
        obtain rfl := Option.some.inj (put.symm.trans stored)
        exact putLatestVoucher_fits fits inv
      | settled performs marked =>
        obtain ⟨before, present, same⟩ := markVoucherSettled_cumulativeRaw (marked.symm.trans stored)
        rw [same]
        exact inv before present
    · cases action with
      | call action => exact fitsDeposit_next fits admitted
      | _ => cases phase <;> exact fits

end Protocol

/-! ## Every run -/

/-- Over any interleaving of metered calls and settlement runs, crashing or failing anywhere, in which no voucher is
accepted that is signed over more than the deposit, the deposit suffices to collect the stored voucher. -/
theorem stored_voucher_collectable (signed : Credential → Bool) (depositRaw : ℤ)
    (threads : ℕ → Prog SettleAction SettleAction.Answer Unit) (members : ∀ tid, IsDepositThread depositRaw (threads tid))
    {after : (settleMachine (signedVerifier signed)).Config}
    (run : Run (WithinDeposit depositRaw (signedVerifier signed)) ⟨.initial, threads⟩ after) :
    after.world.Collectable depositRaw := by
  have start : (depositProtocol depositRaw (signedVerifier signed)).Inv SettleWorld.initial :=
    fun _ stored => nomatch stored
  exact Typestate.sound depositFlow_keeps .start start (fun _ => trivial)
    (fun tid => (members tid).member.follows) run

section Oversigned

/-- Two calls in a row on a channel with a deposit of $0.0025, priced $0.001 each. -/
private def depositCalls (second : ℤ) : ℕ → Prog SettleAction SettleAction.Answer Unit
  | 0 => finish (embedCall (serve ⟨0, 25000⟩ (some ⟨"first", 10000, .voucher, "signature"⟩)))
  | 1 => finish (embedCall (serve ⟨0, 25000⟩ (some ⟨"second", second, .voucher, "signature"⟩)))
  | _ => pure ()

private theorem depositCalls_members (second : ℤ) : ∀ tid, IsDepositThread 25000 (depositCalls second tid)
  | 0 => .call _ _ rfl
  | 1 => .call _ _ rfl
  | _ + 2 => .idle

/-- The first call is served, then the second one. -/
private def oneByOne : List (ℕ × SettleChoice) := List.replicate 16 (0, .plain) ++ List.replicate 16 (1, .plain)

theorem stored_voucher_collectable_twice : ∃ after : (settleMachine (signedVerifier fun _ => true)).Config,
    after.world.Collectable 25000 ∧
      after.world.channel.voucher.map LatestVoucher.cumulativeRaw = some 20000 := by
  obtain ⟨after, run, stored⟩ := Config.exec_reaches (WithinDeposit 25000 (signedVerifier fun _ => true))
    ⟨.initial, depositCalls 20000⟩ oneByOne
    (fun world => world.channel.voucher.map LatestVoucher.cumulativeRaw = some 20000) (by rfl)
  exact ⟨after, stored_voucher_collectable (fun _ => true) 25000 (depositCalls 20000) (depositCalls_members 20000) run,
    of_decide_eq_true stored⟩

/-- The second client signs over more than the deposit: the voucher passes the check of the watermark and the price,
and replaces the one that could be collected. -/
theorem stored_voucher_oversigned : ¬ ∀ (signed : Credential → Bool) (depositRaw : ℤ)
    (threads : ℕ → Prog SettleAction SettleAction.Answer Unit), (∀ tid, IsDepositThread depositRaw (threads tid)) →
      ∀ after : (settleMachine (signedVerifier signed)).Config,
        Run (unrestricted (settleMachine (signedVerifier signed))) ⟨.initial, threads⟩ after →
          after.world.Collectable depositRaw := by
  intro always
  obtain ⟨after, run, stored⟩ := Config.exec_reaches (unrestricted (settleMachine (signedVerifier fun _ => true)))
    ⟨.initial, depositCalls 30000⟩ oneByOne
    (fun world => world.channel.voucher.map LatestVoucher.cumulativeRaw = some 30000) (by rfl)
  obtain ⟨voucher, present, high⟩ := Option.map_eq_some_iff.mp (of_decide_eq_true stored)
  have collectable := always (fun _ => true) 25000 (depositCalls 30000) (depositCalls_members 30000) after run voucher
    present
  rw [high] at collectable
  exact absurd collectable (by decide)

end Oversigned

end MppRouter.Playground.Channel
