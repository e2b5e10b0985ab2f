import MppRouter.Core.Performs
import MppRouter.Playground.Settle

/-! # The flow of a settlement run

A settlement run takes the lock, reads the stored voucher, closes and fences the channel, and marks the amount that
it has read. It verifies nothing, takes nothing back and pays nobody.
-/

namespace MppRouter.Playground.Channel

open Concurrent Option

/-- What a thread may mark as settled on its channel. -/
inductive Floor where
  /-- What its caller has promised. -/
  | promised
  /-- A settlement run that has not read the voucher. -/
  | unread
  /-- A settlement run that has read a voucher over this amount. -/
  | read (cumulativeRaw : ℤ)

namespace Floor

def allows (floor : Floor) : SettleAction → Prop
  | .markVoucherSettled settledRaw => floor = .promised ∨ floor = .read settledRaw
  | _ => True

def next (floor : Floor) : (action : SettleAction) → action.Answer → Floor
  | .call (.store .readVoucher), some (some voucher) =>
    match floor with
    | .promised => .promised
    | _ => .read voucher.cumulativeRaw
  | _, _ => floor

end Floor

def floorFlow (verifier : Verifier) : Typestate (settleMachine verifier) := ⟨Floor, Floor.allows, Floor.next⟩

/-- What a settlement run does to the keys of the calls. -/
def runs : SettleAction → Prop
  | .call .now | .call .randomUuid => True
  | .call (.store op) =>
    match op with
    | .acquireLock .. | .revalidateLock .. | .releaseLock _ | .markClosed | .fence | .readVoucher => True
    | _ => False
  | .call _ => False
  | _ => True

/-- A settlement run marks what it has read, and touches nothing else of the calls. -/
def runFlow (verifier : Verifier) : Typestate (settleMachine verifier) :=
  (floorFlow verifier).relax fun floor action => floor.allows action ∧ runs action

/-- Neither a reading of the voucher nor a mark, except for this amount. -/
def marksOnly (marked : Option ℤ) : SettleAction → Prop
  | .call (.store .readVoucher) => False
  | .markVoucherSettled settledRaw => marked = some settledRaw
  | _ => True

section Performs

/-- What a run does once it has read the voucher. -/
def settles (marked : Option ℤ) (action : SettleAction) : Prop := marksOnly marked action ∧ runs action

variable {marked : Option ℤ}

theorem performs_onChannel {α : Type} {program : Call α}
    (performs : Throwing.Performs (fun action => settles marked (.call action)) program) :
    Throwing.Performs (settles marked) (onChannel program) := by
  have embedded : Prog.Performs (settles marked) (embedCall program.run) :=
    Prog.Performs.embed (fun (action : Action) (now : settles marked (.call action)) => now) performs
  exact embedded

theorem performs_ask (action : Action) (quiet : settles marked (.call action)) :
    Throwing.Performs (settles marked) (onChannel (ask action)) :=
  performs_onChannel (Prog.Performs.bind ⟨quiet, fun _ => trivial⟩ fun _ => trivial)

theorem performs_store (op : StoreOp) (quiet : settles marked (.call (.store op))) :
    Throwing.Performs (settles marked) (onChannel (onStore op)) :=
  performs_onChannel ⟨quiet, fun _ => trivial⟩

theorem performs_settle (action : SettleAction) (quiet : settles marked action) :
    Prog.Performs (settles marked) (onSettle action) := ⟨quiet, fun _ => trivial⟩

theorem performs_fence (attempts : ℕ) :
    Throwing.Performs (fun action => settles marked (.call action)) (fenceAttempts attempts) := by
  induction attempts with
  | zero => trivial
  | succ attempts ih =>
    apply Throwing.Performs.bind
    · apply Throwing.Performs.attempt
      exact ⟨⟨trivial, trivial⟩, fun _ => trivial⟩
    · intro fenced
      cases fenced with
      | none => exact ih
      | some _ => trivial

theorem performs_releaseLock (lockId : LockId) :
    Throwing.Performs (settles marked) (onChannel (releaseLock lockId)) := by
  apply performs_onChannel
  apply Throwing.Performs.bind
  · exact ⟨⟨trivial, trivial⟩, fun _ => trivial⟩
  · intro _
    trivial

theorem performs_writeOff (cumulativeRaw : ℤ) :
    Throwing.Performs (settles (some cumulativeRaw)) (writeOffRefundedChannel cumulativeRaw) := by
  apply Throwing.Performs.bind (performs_settle (.recordWriteoff cumulativeRaw) ⟨trivial, trivial⟩)
  intro _
  apply Throwing.Performs.bind (performs_settle (.countWriteoff cumulativeRaw) ⟨trivial, trivial⟩)
  intro _
  exact performs_settle (.markVoucherSettled cumulativeRaw) ⟨rfl, trivial⟩

theorem performs_collectVoucher (voucher : LatestVoucher) (state : ChannelState) :
    Throwing.Performs (settles (some voucher.cumulativeRaw)) (collectVoucher voucher state) := by
  unfold collectVoucher
  split_ifs
  · exact Throwing.Performs.bind (performs_writeOff _) fun _ => trivial
  · apply Throwing.Performs.bind
    · exact Prog.Performs.bind (performs_settle _ ⟨trivial, trivial⟩) fun _ => trivial
    · intro outcome
      cases outcome with
      | collected txHash =>
        apply Throwing.Performs.bind (performs_settle (.markVoucherSettled voucher.cumulativeRaw) ⟨rfl, trivial⟩)
        intro _
        trivial
      | insufficient => exact Throwing.Performs.bind (performs_writeOff _) fun _ => trivial
      | threw => trivial

/-- Once the voucher is read, a settlement run marks its amount and nothing else. -/
theorem performs_settleVoucher (lockId : LockId) (voucher : LatestVoucher) :
    Throwing.Performs (settles (some voucher.cumulativeRaw)) (settleVoucher lockId voucher) := by
  have fences := performs_onChannel (@performs_fence (some voucher.cumulativeRaw) 3)
  apply Throwing.Performs.bind (performs_settle .getChannelState ⟨trivial, trivial⟩)
  intro state
  apply Throwing.Performs.bind
  · unfold fenceClosing
    split_ifs
    · exact Throwing.Performs.bind fences fun _ => trivial
    · trivial
  · intro _
    dsimp only
    split_ifs
    · trivial
    · trivial
    · apply Throwing.Performs.bind (performs_ask .now ⟨trivial, trivial⟩)
      intro now
      apply Throwing.Performs.bind (performs_store (.revalidateLock lockId now) ⟨trivial, trivial⟩)
      intro valid
      cases valid with
      | false => trivial
      | true =>
        apply Throwing.Performs.bind (performs_store .markClosed ⟨trivial, trivial⟩)
        intro _
        apply Throwing.Performs.bind fences
        intro _
        exact performs_collectVoucher voucher state

end Performs

section Walk

open Typestate

variable {verifier : Verifier} {floor : Floor}

/-- A program that marks nothing but what its floor allows stays there. -/
theorem floor_performs {α : Type} {marked : Option ℤ} (covered : ∀ settledRaw, marked = some settledRaw →
      floor = .promised ∨ floor = .read settledRaw)
    {program : Prog SettleAction SettleAction.Answer α} (performs : program.Performs (marksOnly marked)) :
    (floorFlow verifier).Follows program (fun _ after => after = floor) floor := by
  apply Follows.of_performs _ performs
  intro action kind
  cases action with
  | markVoucherSettled settledRaw => exact ⟨covered settledRaw kind, fun _ => rfl⟩
  | call action =>
    cases action with
    | store op =>
      cases op with
      | readVoucher => exact kind.elim
      | _ => exact ⟨trivial, fun _ => rfl⟩
    | _ => exact ⟨trivial, fun _ => rfl⟩
  | _ => exact ⟨trivial, fun _ => rfl⟩

theorem run_performs {α : Type} {marked : Option ℤ} (covered : ∀ settledRaw, marked = some settledRaw →
      floor = .promised ∨ floor = .read settledRaw)
    {program : Prog SettleAction SettleAction.Answer α} (performs : program.Performs (settles marked)) :
    (runFlow verifier).Follows program (fun _ after => after = floor) floor :=
  (floor_performs covered (performs.mono fun _ => And.left)).both (performs.mono fun _ => And.right)

theorem Follows.of_run {α : Type} {program : Prog SettleAction SettleAction.Answer α} {post : α → Floor → Prop}
    (follows : (runFlow verifier).Follows program post floor) : (floorFlow verifier).Follows program post floor :=
  @Follows.relax _ (runFlow verifier) _ _ _ _ Floor.allows (fun _ _ => And.left) follows

theorem run_quiet {α : Type} {program : Settling α} (performs : Throwing.Performs (settles none) program) :
    (runFlow verifier).Follows program.run (fun _ after => after = floor) floor :=
  @run_performs verifier floor _ none (fun _ same => nomatch same) _ performs

/-- A settlement run marks what it has read. -/
theorem follows_settleUnderLock (lockId : LockId) :
    (runFlow verifier).Follows (settleUnderLock lockId).run anyhow .unread := by
  apply Follows.seq
  refine Follows.call ⟨trivial, trivial⟩ fun read => ?_
  cases read with
  | none => trivial
  | some stored =>
    cases stored with
    | none => trivial
    | some voucher =>
      have settled := @run_performs verifier (.read voucher.cumulativeRaw) _ (some voucher.cumulativeRaw)
        (fun settledRaw same => .inr (congrArg Floor.read (some.inj same))) _
        (performs_settleVoucher lockId voucher)
      exact settled.loose

theorem follows_settleOneChannel : (runFlow verifier).Follows settleOneChannel.run anyhow .unread := by
  apply Follows.seq
  apply (run_quiet (performs_ask .randomUuid ⟨trivial, trivial⟩)).mono
  rintro lockId _ rfl
  cases lockId with
  | none => trivial
  | some lockId =>
    apply Follows.seq
    apply (run_quiet (performs_ask .now ⟨trivial, trivial⟩)).mono
    rintro now _ rfl
    cases now with
    | none => trivial
    | some now =>
      apply Follows.seq
      apply (run_quiet (performs_store (.acquireLock lockId now) ⟨trivial, trivial⟩)).mono
      rintro acquired _ rfl
      rcases acquired with _ | _ | _
      · trivial
      · trivial
      · apply Follows.bind
        apply (follows_settleUnderLock lockId).mono
        intro result after _
        apply Follows.bind
        apply Follows.bind
        exact (run_quiet (performs_releaseLock lockId)).loose

end Walk

end MppRouter.Playground.Channel
