import MppRouter.Playground.ChannelBooks

/-! # Channel charges are exact

Each call is checked alone: it takes its own voucher back or sees it covered before it answers, and
where it can do neither it stops the channel.
-/

namespace MppRouter.Playground.Channel

open Concurrent Machine Protocol Option List
open Mpp (cumulativeAmount rollbackCumulative_latest)

def books (verifier : Verifier) : Protocol (channelMachine verifier) where
  Inv := Kept
  Guar := Moves

/-- The program throws nothing and ends with its postcondition, whatever the other calls do. -/
abbrev Spec (verifier : Verifier) (tid : ℕ) {α : Type} (program : Call α) (post : α → World → Prop)
    (world : World) : Prop :=
  (books verifier).Returns (Exacting verifier) tid program post world

/-! ## What a call knows -/

/-- Knowledge that survives the other calls, and own steps that touch neither vouchers nor markers. -/
structure Knows (tid : ℕ) (known : World → Prop) : Prop where
  stable : ∀ other world after, other ≠ tid → Moves other world after → known world → known after
  framed : ∀ world after : World, after.closed = world.closed → after.fenced = world.fenced →
    after.standing = world.standing → after.voucher = world.voucher → known world → known after

section Knowledge

variable {tid : ℕ}

theorem knows_fact (tid : ℕ) (fact : Prop) : Knows tid fun _ => fact :=
  ⟨fun _ _ _ _ _ now => now, fun _ _ _ _ _ _ now => now⟩

theorem Knows.and {left right : World → Prop} (first : Knows tid left) (second : Knows tid right) :
    Knows tid fun world => left world ∧ right world where
  stable other world after distinct moves now :=
    ⟨first.stable other world after distinct moves now.1, second.stable other world after distinct moves now.2⟩
  framed world after closed fenced standing voucher now :=
    ⟨first.framed world after closed fenced standing voucher now.1,
      second.framed world after closed fenced standing voucher now.2⟩

theorem Knows.unless {fact : World → Prop} (knows : Knows tid fact) : Knows tid (Unless fact) where
  stable other world after distinct moves now := now.imp moves.blocked (knows.stable other world after distinct moves)
  framed world after closed fenced standing voucher now := by
    refine now.imp (fun stopped => ?_) (knows.framed world after closed fenced standing voucher)
    rw [World.blocked, closed, fenced]
    exact stopped

theorem Knows.imp {fact : Prop} {known : World → Prop} (knows : Knows tid known) :
    Knows tid fun world => fact → known world where
  stable other world after distinct moves now holds := knows.stable other world after distinct moves (now holds)
  framed world after closed fenced standing voucher now holds :=
    knows.framed world after closed fenced standing voucher (now holds)

theorem knows_member {acceptance : Acceptance} (own : acceptance.owner = tid) :
    Knows tid fun world => acceptance ∈ world.standing where
  stable other world after distinct moves now := by
    refine (moves.others acceptance fun same => ?_).mpr now
    exact distinct (same.symm.trans own)
  framed world after _ _ standing _ now := by
    rw [standing]
    exact now

theorem knows_stands (tid : ℕ) (priceRaw amount : ℤ) (phase : Phase) :
    Knows tid fun world => world.Stands tid priceRaw amount phase where
  stable other world after distinct moves := fun ⟨before, member⟩ =>
    ⟨before, (knows_member rfl).stable other world after distinct moves member⟩
  framed world after closed fenced standing voucher := fun ⟨before, member⟩ =>
    ⟨before, (@knows_member tid _ rfl).framed world after closed fenced standing voucher member⟩

theorem knows_covers (tid : ℕ) (amount : ℤ) : Knows tid fun world => world.Covers amount where
  stable _ _ _ _ moves now := moves.covers amount now
  framed world after _ _ _ voucher now := by
    rw [World.Covers, voucher]
    exact now

theorem knows_gone (tid : ℕ) : Knows tid (Gone tid) := by
  refine Knows.unless ⟨fun other world after distinct moves now acceptance member own => ?_, ?_⟩
  · have foreign : acceptance.owner ≠ other := fun same => distinct (same.symm.trans own)
    exact now acceptance ((moves.others acceptance foreign).mp member) own
  · intro world after _ _ standing _ now
    rw [World.Free, standing]
    exact now

theorem knows_mine (tid : ℕ) (priceRaw amount : ℤ) : Knows tid (Mine tid priceRaw amount) :=
  (knows_stands tid priceRaw amount .accepted).unless

theorem knows_payable (tid : ℕ) (priceRaw : ℤ) : Knows tid (Payable tid priceRaw) := by
  refine Knows.unless ⟨?_, ?_⟩
  · rintro other world after distinct moves ⟨amount, phase, open_, stands, covers⟩
    exact ⟨amount, phase, open_, (knows_stands tid _ _ _).stable other world after distinct moves stands,
      moves.covers amount covers⟩
  · rintro world after closed fenced standing voucher ⟨amount, phase, open_, stands, covers⟩
    exact ⟨amount, phase, open_, (knows_stands tid _ _ _).framed world after closed fenced standing voucher stands,
      (knows_covers tid amount).framed world after closed fenced standing voucher covers⟩

theorem knows_settles (tid : ℕ) (response : CallResponse) : Knows tid (Settles tid response) where
  stable other world after distinct moves now :=
    now.imp (And.imp_right ((knows_gone tid).stable other world after distinct moves))
      (And.imp_right ((knows_payable tid _).stable other world after distinct moves))
  framed world after closed fenced standing voucher now :=
    now.imp (And.imp_right ((knows_gone tid).framed world after closed fenced standing voucher))
      (And.imp_right ((knows_payable tid _).framed world after closed fenced standing voucher))

end Knowledge

/-! ## One action -/

section Actions

variable {verifier : Verifier} {tid : ℕ} {world : World} {known : World → Prop}

/-- The rule of one store operation: what the call knows makes it legal, and it establishes its postcondition. -/
theorem spec_store {op : StoreOp} {post : op.Answer → World → Prop} (knows : Knows tid known) (now : known world)
    (legal : ∀ before, known before → Legal tid (.store op) before)
    (establish : ∀ before text, Kept before → known before → exacting verifier tid (.store op) before = true →
      post (op.perform verifier tid text before).1 (op.perform verifier tid text before).2) :
    Spec verifier tid (onStore op) post world := by
  refine Holds.step known (fun other world after distinct _ _ moves now =>
    knows.stable other world after distinct moves now) now ?_
  intro before kept known choice answer after admitted performed
  have stepped := Kept.step kept (legal before known) admitted
  obtain ⟨rfl, rfl⟩ := Prod.mk.inj (some.inj performed)
  refine ⟨stepped.1, stepped.2, ?_⟩
  have established := establish before choice.text kept known admitted.2
  simp only [admitted.1]
  exact ⟨_, rfl, established⟩

/-- The operations that touch neither vouchers nor markers. -/
def StoreOp.quiet : StoreOp → Bool
  | .markClosed | .fence | .rollback _ | .putVoucher _ _ | .verify _ _ _ => false
  | _ => true

theorem spec_quiet {op : StoreOp} (quiet : op.quiet = true) (knows : Knows tid known) (now : known world) :
    Spec verifier tid (onStore op) (fun _ => known) world := by
  refine spec_store knows now (fun before _ => ?_) fun before text _ known _ => ?_
  · cases op <;> trivial
  · cases op <;> first | exact knows.framed before _ rfl rfl rfl rfl known | cases quiet

/-- The exchanges with the outside that answer nobody. -/
def Action.quiet : Action → Bool
  | .store _ | .respond _ => false
  | _ => true

theorem spec_ask {action : Action} (quiet : action.quiet = true) (knows : Knows tid known) (now : known world) :
    Spec verifier tid (ask action) (fun _ => known) world := by
  refine Holds.step known (fun other world after distinct _ _ moves now =>
    knows.stable other world after distinct moves now) now ?_
  intro before kept known choice answer after admitted performed
  have legal : Legal tid action before := by cases action <;> trivial
  have stepped := Kept.step kept legal admitted
  obtain ⟨rfl, rfl⟩ := Prod.mk.inj (some.inj performed)
  refine ⟨stepped.1, stepped.2, _, rfl, ?_⟩
  cases action <;> first | exact knows.framed before _ rfl rfl rfl rfl known | cases quiet

theorem spec_releaseLock (lockId : LockId) (knows : Knows tid known) (now : known world) :
    Spec verifier tid (releaseLock lockId) (fun _ => known) world :=
  .bind ((spec_quiet rfl knows now).mono fun _ _ known => .pure known)

theorem spec_isChannelBlocked (knows : Knows tid known) (now : known world) :
    Spec verifier tid isChannelBlocked (fun _ => known) world := by
  refine .bind ((spec_quiet rfl knows now).mono fun closed after known => ?_)
  exact .bind ((spec_quiet rfl knows known).mono fun fenced after known => .pure known)

/-- The fence is written, and stops the channel. -/
theorem spec_fenceChannelPersistent :
    Spec verifier tid fenceChannelPersistent (fun fenced after => fenced = true ∧ after.blocked = true) world := by
  have fences : Spec verifier tid (onStore .fence) (fun _ after => after.blocked = true) world :=
    spec_store (knows_fact tid True) trivial (fun _ _ => trivial) fun before _ _ _ _ => by
      simp [StoreOp.perform, World.blocked]
  refine .bind (.attempt (fences.mono fun _ after stopped => ?_))
  exact .pure ⟨rfl, stopped⟩

end Actions

/-! ## Taking a charge back -/

section Rollback

variable {verifier : Verifier} {tid : ℕ} {world : World} {priceRaw : ℤ} {voucher : ChannelVoucher}

section Own

variable (mine : Mine tid priceRaw voucher.acceptedAmount world)

include mine

/-- The rollback of a standing voucher takes it back, or leaves it where it is; a close voucher is taken back. -/
theorem spec_rollback : Spec verifier tid (onStore (.rollback voucher)) (fun rolledBack after =>
      (rolledBack = true ∨ voucher.action = .close → Gone tid after) ∧
        Unless (fun after => rolledBack = true ∨
          ⟨tid, priceRaw, voucher.previousAmount, voucher.acceptedAmount, .accepted⟩ ∈ after.standing) after) world := by
  refine spec_store (knows_mine tid priceRaw voucher.acceptedAmount) mine (fun _ mine => ⟨priceRaw, mine⟩) ?_
  intro before text kept mine exacts
  have moves : Moves tid before (StoreOp.perform verifier tid text (.rollback voucher) before).2 :=
    StoreOp.moves (.rollback voucher) text before
  rcases mine with stopped | ⟨replaced, member⟩
  · exact ⟨fun _ => .inl (moves.blocked stopped), .inl (moves.blocked stopped)⟩
  · rcases kept with stopped | books
    · exact ⟨fun _ => .inl (moves.blocked stopped), .inl (moves.blocked stopped)⟩
    · simp only [exacting, decide_eq_true_eq] at exacts
      obtain rfl : replaced = voucher.previousAmount := exacts.1 _ member rfl
      simp only [StoreOp.perform]
      cases rolledBack : voucher.rollback before.cumulative with
      | some restored =>
        refine ⟨fun _ => .inr fun acceptance present own => ?_, .inr (.inl rfl)⟩
        have other := (mem_filter.mp present).2
        exact of_decide_eq_true other own
      | none =>
        refine ⟨fun closes => ?_, .inr (.inr member)⟩
        have close : voucher.action = .close := closes.resolve_left (by simp)
        rcases exacts.2 close with top | stopped
        · have bounds := books.linked.le member
          have below := books.linked.newest member top.symm
          obtain ⟨rest, -, below⟩ := below
          have lower := below.nonneg
          have positive : 0 < voucher.acceptedAmount := by dsimp only at bounds lower; omega
          have latest : (voucher.rollback before.cumulative).isSome = true :=
            rollbackCumulative_latest positive.ne' books.settling top
          rw [rolledBack] at latest
          cases latest
        · exact .inl stopped

/-- A rollback that reports success has taken the voucher back, and so has one of a close voucher. -/
theorem spec_rollbackFailedChannelVoucher :
    Spec verifier tid (rollbackFailedChannelVoucher voucher) (fun rolledBack after =>
      rolledBack = true ∨ voucher.action = .close → Gone tid after) world := by
  refine .bind ((spec_rollback mine).mono fun rolledBack after outcome => ?_)
  obtain ⟨gone, stands⟩ := outcome
  cases rolledBack with
  | true =>
    have free : Gone tid after := gone (.inl rfl)
    exact .bind ((spec_quiet rfl (knows_gone tid) free).mono fun _ after free => .pure fun _ => free)
  | false =>
    let mine : Acceptance := ⟨tid, priceRaw, voucher.previousAmount, voucher.acceptedAmount, .accepted⟩
    have standing : Unless (fun world => mine ∈ world.standing) after :=
      stands.imp id fun still => still.resolve_left (by simp)
    have closes : voucher.action = .close → Gone tid after := fun close => gone (.inr close)
    have gones : Knows tid fun world => voucher.action = .close → Gone tid world := (knows_gone tid).imp
    have own : mine.owner = tid := rfl
    have stays : Knows tid (Unless fun world => mine ∈ world.standing) := (knows_member own).unless
    -- the voucher still stands, so the watermark is above what it replaced
    have reads : Spec verifier tid (onStore .readCumulative) (fun current after =>
        Unless (fun _ => cumulativeAmount current ≠ voucher.previousAmount) after ∧
          (voucher.action = .close → Gone tid after)) after := by
      refine spec_store (stays.and gones) ⟨standing, closes⟩ (fun _ _ => trivial) ?_
      rintro before text kept ⟨standing, closes⟩ -
      refine ⟨?_, closes⟩
      rcases standing with stopped | member
      · exact .inl stopped
      · rcases kept with stopped | books
        · exact .inl stopped
        · right
          have bounds := books.linked.le member
          have watermark : cumulativeAmount before.cumulative = before.watermark := rfl
          simp only [StoreOp.perform, watermark]
          dsimp only [mine] at bounds
          omega
    refine .bind (reads.mono fun current after differs => ?_)
    have quiet := (knows_fact tid (cumulativeAmount current ≠ voucher.previousAmount)).unless.and gones
    refine .bind ((spec_quiet rfl quiet differs).mono fun challenge after differs => .pure ?_)
    rintro (restored | close)
    · rcases differs.1 with stopped | differs
      · exact .inl stopped
      · exact absurd (of_decide_eq_true restored).1 differs
    · exact differs.2 close

/-- A charge that must not stand is taken back, or the channel is stopped. -/
theorem spec_reverseChargeOrFence : Spec verifier tid (reverseChargeOrFence voucher) (fun _ => Gone tid) world := by
  refine .bind (.attempt ((spec_rollbackFailedChannelVoucher mine).mono fun rolledBack after gone => ?_))
  split_ifs with restored
  · exact .pure (gone (.inl (some.inj restored)))
  · have marks : Spec verifier tid (onStore .markClosed) anyhow after :=
      spec_store (knows_fact tid True) trivial (fun _ _ => trivial) fun _ _ _ _ _ => trivial
    refine .bind (.attempt (marks.mono fun _ after _ => ?_))
    exact .bind (spec_fenceChannelPersistent.mono fun _ after fenced => .pure (.inl fenced.2))

/-- An absorbed call leaves the channel stopped. -/
theorem spec_absorbPaidCallAndFence : Spec verifier tid (absorbPaidCallAndFence voucher) (fun _ => Gone tid) world := by
  have knows := knows_mine tid priceRaw voucher.acceptedAmount
  refine .bind (.attempt ((spec_quiet rfl knows mine).mono fun _ after _ => ?_))
  refine .bind (spec_fenceChannelPersistent.mono fun fenced after stopped => ?_)
  obtain ⟨rfl, stopped⟩ := stopped
  have back : Mine tid priceRaw voucher.acceptedAmount after := .inl stopped
  have rolls : Spec verifier tid (rollbackFailedChannelVoucher voucher) (fun rolledBack after =>
      (rolledBack = true ∨ voucher.action = .close → Gone tid after) ∧ after.blocked = true) after :=
    (spec_rollbackFailedChannelVoucher back).frame (fun world : World => world.blocked = true)
      (fun _ _ _ moves => Moves.blocked moves) stopped
  exact .bind (.attempt (rolls.mono fun _ after framed => .pure (.inl framed.2)))

end Own

end Rollback

/-! ## A paid call -/

section Commit

variable {verifier : Verifier} {tid : ℕ} {world : World} {priceRaw : ℤ} {voucher : ChannelVoucher}

/-- What is covered stays covered; a read that finds no cover changes nothing. -/
theorem spec_checkCovered {known : World → Prop} (knows : Knows tid known) (now : known world) (cumulativeRaw : ℤ) :
    Spec verifier tid (checkCovered cumulativeRaw) (fun covered after =>
      known after ∧ (covered = true → after.Covers cumulativeRaw)) world := by
  have reads : Spec verifier tid (onStore .readVoucher) (fun stored after => known after ∧
      ∀ voucher, stored = some voucher → after.Covers voucher.cumulativeRaw) world := by
    refine spec_store knows now (fun _ _ => trivial) fun before text _ known _ => ⟨known, ?_⟩
    exact fun voucher found => ⟨voucher, found, Int.le_rfl⟩
  refine .bind (.attempt (reads.mono fun stored after read => ?_))
  cases stored with
  | none => exact .pure ⟨read.1, fun same => nomatch same⟩
  | some voucher =>
    refine .pure ⟨read.1, fun reaches => ?_⟩
    obtain ⟨stored, found, covers⟩ := read.2 voucher rfl
    have enough := of_decide_eq_true reaches
    exact ⟨stored, found, by omega⟩

/-- A charge that stands is payable; otherwise it was taken back. -/
def Stands (tid : ℕ) (priceRaw : ℤ) (stands : Bool) (world : World) : Prop :=
  if stands then Payable tid priceRaw world else Gone tid world

theorem payable_of_covered (mine : Mine tid priceRaw voucher.acceptedAmount world)
    (covers : world.Covers voucher.acceptedAmount) : Payable tid priceRaw world :=
  mine.imp id fun stands => ⟨_, .accepted, by simp, stands, covers⟩

theorem spec_persistVoucherOrReverse (mine : Mine tid priceRaw voucher.acceptedAmount world) :
    Spec verifier tid (persistVoucherOrReverse voucher) (Stands tid priceRaw) world := by
  unfold persistVoucherOrReverse
  split_ifs
  · exact .bind ((spec_absorbPaidCallAndFence mine).mono fun _ _ gone => .pure gone)
  · have puts : Spec verifier tid (onStore (.putVoucher voucher.acceptedAmount voucher.signature))
        (fun _ => Payable tid priceRaw) world := by
      refine spec_store (knows_mine tid priceRaw voucher.acceptedAmount) mine (fun _ mine => ⟨priceRaw, mine⟩) ?_
      rintro before text - (stopped | ⟨replaced, member⟩) -
      · exact .inl stopped
      · right
        refine ⟨voucher.acceptedAmount, .kept, by simp, ⟨replaced, ?_⟩, _, rfl, putLatestVoucher_le _ _ _⟩
        exact mem_map.mpr ⟨_, member, Acceptance.advance_own rfl⟩
    exact .bind (.attempt (puts.mono fun _ _ payable => .pure payable))

/-- Without a response the charge stands; a response charges nothing, and the charge was taken back. -/
theorem spec_commitPaidVoucher (lockId : LockId) (mine : Mine tid priceRaw voucher.acceptedAmount world) :
    Spec verifier tid (commitPaidVoucher voucher lockId) (fun response after => match response with
      | none => Payable tid priceRaw after
      | some response => response.chargedRaw = 0 ∧ Gone tid after) world := by
  have knows := knows_mine tid priceRaw voucher.acceptedAmount
  refine .bind ((spec_ask rfl knows mine).mono fun now after mine => ?_)
  refine .bind ((spec_quiet rfl knows mine).mono fun valid after mine => ?_)
  split_ifs
  · refine .bind ((spec_persistVoucherOrReverse mine).mono fun stands after settled => ?_)
    cases stands with
    | true => exact .pure settled
    | false => exact .pure ⟨rfl, settled⟩
  · refine .bind ((spec_checkCovered knows mine voucher.acceptedAmount).mono fun covered after known => ?_)
    cases covered with
    | true => exact .pure (payable_of_covered known.1 (known.2 rfl))
    | false => exact .bind ((spec_absorbPaidCallAndFence known.1).mono fun _ _ gone => .pure ⟨rfl, gone⟩)

theorem spec_commitThen (lockId : LockId) {stands : CallResponse} (charges : stands.chargedRaw = priceRaw)
    (unchallenged : stands.challenge = none) (mine : Mine tid priceRaw voucher.acceptedAmount world) :
    Spec verifier tid (commitThen voucher lockId stands) (Settles tid) world := by
  refine .bind ((spec_commitPaidVoucher lockId mine).mono fun response after settled => ?_)
  cases response with
  | none => exact .pure (.inr ⟨unchallenged, charges ▸ settled⟩)
  | some response => exact .pure (.inl settled)

theorem spec_reverseThen {response : CallResponse} (free : response.chargedRaw = 0)
    (mine : Mine tid priceRaw voucher.acceptedAmount world) :
    Spec verifier tid (reverseThen voucher response) (Settles tid) world :=
  .bind ((spec_reverseChargeOrFence mine).mono fun _ _ gone => .pure (.inl ⟨free, gone⟩))

theorem spec_settleCall (call : MeteredCall) (lockId : LockId)
    (mine : Mine tid call.priceRaw voucher.acceptedAmount world) :
    Spec verifier tid (settleCall call voucher lockId) (Settles tid) world := by
  have knows := knows_mine tid call.priceRaw voucher.acceptedAmount
  refine .bind ((spec_ask rfl knows mine).mono fun now after mine => ?_)
  refine .bind ((spec_quiet rfl knows mine).mono fun valid after mine => ?_)
  split_ifs
  · refine .bind ((spec_ask rfl knows mine).mono fun upstream after mine => ?_)
    split
    next => exact spec_commitThen lockId rfl rfl mine
    next => exact spec_reverseThen rfl mine
    next => exact spec_reverseThen rfl mine
    next => exact spec_commitThen lockId rfl rfl mine
    next => exact spec_commitThen lockId rfl rfl mine
  · exact spec_reverseThen rfl mine

end Commit

/-! ## Verification -/

section Verify

variable {verifier : Verifier} {tid : ℕ} {world : World}

/-- A response charges nothing and leaves no voucher of the call; a verified voucher stands. -/
def Verified (tid : ℕ) (priceRaw : ℤ) (outcome : VerifyOutcome) (world : World) : Prop :=
  match outcome with
  | .respond response => response.chargedRaw = 0 ∧ Gone tid world
  | .verified voucher _ => Mine tid priceRaw voucher.acceptedAmount world

theorem spec_refuse {priceRaw : ℤ} {response : CallResponse} (lockId : LockId) (free : response.chargedRaw = 0)
    (gone : Gone tid world) :
    Spec verifier tid (do releaseLock lockId; pure (VerifyOutcome.respond response)) (Verified tid priceRaw) world :=
  .bind ((spec_releaseLock lockId (knows_gone tid) gone).mono fun _ _ gone => .pure ⟨free, gone⟩)

theorem spec_verify {priceRaw : ℤ} (positive : 0 < priceRaw) (credential : Credential) (previousAmount : ℤ)
    (gone : Gone tid world) :
    Spec verifier tid (onStore (.verify priceRaw credential previousAmount)) (fun result after => match result with
      | .accepted voucher => Mine tid priceRaw voucher.acceptedAmount after
      | .challenged _ => Gone tid after) world := by
  refine spec_store (knows_gone tid) gone (fun _ gone => ⟨positive, gone⟩) ?_
  rintro before text - gone -
  simp only [StoreOp.perform]
  by_cases accepts : verifier (cumulativeAmount before.cumulative) priceRaw credential = true
  · rw [if_pos accepts]
    exact .inr ⟨_, mem_cons_self⟩
  · rw [if_neg accepts]
    exact gone

theorem spec_verifiedVoucher {priceRaw : ℤ} (voucher : ChannelVoucher) (lockId : LockId)
    (mine : Mine tid priceRaw voucher.acceptedAmount world) :
    Spec verifier tid (verifiedVoucher voucher lockId) (Verified tid priceRaw) world := by
  unfold verifiedVoucher
  split
  next => exact .pure mine
  next close =>
    refine .bind (.attempt ((spec_rollbackFailedChannelVoucher mine).mono fun _ after gone => ?_))
    exact spec_refuse lockId rfl (gone (.inr close))

theorem spec_verifyUnderLock (call : MeteredCall) (credential : Credential) (lockId : LockId)
    (gone : Gone tid world) :
    Spec verifier tid (verifyUnderLock call credential lockId) (Verified tid call.priceRaw) world := by
  have positive : 0 < call.priceRaw := Int.natCast_pos.mpr (applyMarkup_pos call.maxUpstreamRaw)
  refine .bind ((spec_quiet rfl (knows_gone tid) gone).mono fun previous after gone => ?_)
  split_ifs
  · exact spec_refuse lockId rfl gone
  · refine .bind (.attempt ((spec_verify positive credential _ gone).mono fun result after outcome => ?_))
    cases result with
    | challenged challenge => exact spec_refuse lockId rfl outcome
    | accepted voucher => exact spec_verifiedVoucher voucher lockId outcome

theorem spec_verifyLocked (call : MeteredCall) (credential : Credential) (lockId : LockId) (gone : Gone tid world) :
    Spec verifier tid (verifyLocked call credential lockId) (Verified tid call.priceRaw) world := by
  refine .bind ((spec_isChannelBlocked (knows_gone tid) gone).mono fun blocked after gone => ?_)
  split_ifs
  · exact spec_refuse lockId rfl gone
  · refine .bind ((spec_ask rfl (knows_gone tid) gone).mono fun closing after gone => ?_)
    split_ifs
    · exact .bind (spec_fenceChannelPersistent.mono fun _ _ fenced => spec_refuse lockId rfl (.inl fenced.2))
    · exact spec_verifyUnderLock call credential lockId gone

theorem spec_verifyChannelVoucher (call : MeteredCall) (credential : Option Credential) (gone : Gone tid world) :
    Spec verifier tid (verifyChannelVoucher call credential) (Verified tid call.priceRaw) world := by
  have knows := knows_gone tid
  cases credential with
  | none => exact .bind (.attempt ((spec_quiet rfl knows gone).mono fun _ _ gone => .pure ⟨rfl, gone⟩))
  | some credential =>
    refine .bind ((spec_ask rfl knows gone).mono fun lockId after gone => ?_)
    refine .bind ((spec_ask rfl knows gone).mono fun now after gone => ?_)
    refine .bind ((spec_quiet rfl knows gone).mono fun acquired after gone => ?_)
    split_ifs
    · exact spec_verifyLocked call credential lockId gone
    · exact .pure ⟨rfl, gone⟩

theorem spec_executeMeteredChannelCall (call : MeteredCall) (credential : Option Credential)
    (gone : Gone tid world) :
    Spec verifier tid (executeMeteredChannelCall call credential) (Settles tid) world := by
  refine .bind ((spec_verifyChannelVoucher call credential gone).mono fun outcome after verified => ?_)
  cases outcome with
  | respond response => exact .pure (.inl verified)
  | verified voucher lockId =>
    refine Returns.ensuring ((spec_settleCall call lockId verified).mono fun response after settles => ?_)
    refine Holds.bind (Holds.mono ?_ (spec_releaseLock lockId (knows_settles tid response) settles))
    rintro _ after ⟨_, rfl, settles⟩
    exact settles

end Verify

/-! ## Clients -/

section Clients

variable {verifier : Verifier} {tid : ℕ} {world : World}

/-- An answered request that may be tried again has left no voucher. -/
theorem spec_serve (call : MeteredCall) (credential : Option Credential) (gone : Gone tid world) :
    (books verifier).Holds (Exacting verifier) tid (serve call credential)
      (fun response after => response.challenge ≠ none → Gone tid after) world := by
  refine Holds.bind (Holds.mono ?_ (spec_executeMeteredChannelCall call credential gone))
  rintro _ after ⟨response, rfl, settles⟩
  refine Holds.step (Settles tid response) (fun other world after distinct _ _ moves now =>
    (knows_settles tid response).stable other world after distinct moves now) settles ?_
  rintro before kept settles choice answer after admitted performed
  have legal : Legal tid (.respond response) before := settles
  have stepped := Kept.step kept legal admitted
  obtain ⟨rfl, rfl⟩ := Prod.mk.inj (some.inj performed)
  refine ⟨stepped.1, stepped.2, fun challenged => ?_⟩
  rcases settles with ⟨nothing, gone⟩ | ⟨unchallenged, -⟩
  · simp only [getD_some, if_pos nothing]
    exact gone
  · exact absurd unchallenged challenged

theorem spec_answerChallenge (call : MeteredCall) (action : CredentialAction) (signature : String) (tries : ℕ)
    (response : CallResponse) (gone : response.challenge ≠ none → Gone tid world) :
    (books verifier).Holds (Exacting verifier) tid (answerChallenge call action signature tries response)
      anyhow world := by
  induction tries generalizing response world with
  | zero => exact trivial
  | succ tries ih =>
    unfold answerChallenge
    split
    next => exact trivial
    next challenge challenged =>
      have left : Gone tid world := gone (by simp [challenged])
      exact Holds.bind ((spec_serve call _ left).mono fun next _ gone => ih next gone)

/-- The requests of honest clients. -/
inductive IsClient : Prog Action Action.Answer Unit → Prop
  | idle : IsClient (pure ())
  | honest (call : MeteredCall) (action : CredentialAction) (signature : String) (tries : ℕ) :
      IsClient (honestClient call action signature tries)

theorem IsClient.spec {thread : Prog Action Action.Answer Unit} (member : IsClient thread) (gone : Gone tid world) :
    (books verifier).Holds (Exacting verifier) tid thread anyhow world := by
  cases member with
  | idle => exact trivial
  | honest call action signature tries =>
    exact Holds.bind ((spec_serve call none gone).mono fun quoted after gone =>
      spec_answerChallenge call action signature tries quoted gone)

end Clients

theorem books_initial : Books .initial where
  linked := rfl
  settling _ found := nomatch found
  owners := nodup_nil
  inFlight _ member := nomatch member
  covered _ member := nomatch member
  backed _ found := nomatch found
  total := rfl

/-- While every acceptance advances the watermark by exactly its price and every rollback restores what its
voucher replaced, an open channel without a call in flight has stored exactly what it charged. -/
theorem channel_charges_exact (verifier : Verifier) (threads : ℕ → Prog Action Action.Answer Unit)
    (members : ∀ tid, IsClient (threads tid)) {after : (channelMachine verifier).Config}
    (run : Run (Exacting verifier) ⟨.initial, threads⟩ after) (idle : after.world.inFlight = [])
    (unblocked : after.world.blocked = false) : after.world.Exact := by
  have start : (books verifier).Checked (Exacting verifier) ⟨.initial, threads⟩ :=
    ⟨.inr books_initial, fun tid => (members tid).spec (.inr fun _ member => nomatch member)⟩
  have kept : Kept after.world := (sound start run).1
  rcases kept with stopped | books
  · cases stopped.symm.trans unblocked
  · exact books.exact idle

/-- The verifier accepts exactly the vouchers that reach the watermark plus the price. -/
def atLeast : Verifier := fun watermark priceRaw credential => watermark + priceRaw ≤ credential.amount

private def chatCall : MeteredCall := ⟨0, 1000000⟩

private def twoClients : ℕ → Prog Action Action.Answer Unit
  | 0 | 1 => honestClient chatCall .voucher "signature" 1
  | _ => pure ()

private theorem twoClients_members : ∀ tid, IsClient (twoClients tid)
  | 0 | 1 => .honest _ _ _ _
  | _ + 2 => .idle

/-- A client is quoted, pays, and is charged; the second one comes afterwards. -/
private def twoCharges : List (ℕ × Choice) := replicate 18 (0, .plain) ++ replicate 18 (1, .plain)

theorem channel_charges_exact_twice : ∃ after,
    Run (Exacting atLeast) ⟨.initial, twoClients⟩ after ∧ after.world.storedRaw = 20000 ∧ after.world.Exact := by
  obtain ⟨after, run, reached⟩ := Config.exec_reaches (Exacting atLeast) ⟨.initial, twoClients⟩ twoCharges
    (fun world => world.storedRaw = 20000 ∧ world.inFlight = [] ∧ world.blocked = false) (by rfl)
  obtain ⟨stored, idle, unblocked⟩ := of_decide_eq_true reached
  exact ⟨after, run, stored, channel_charges_exact atLeast twoClients twoClients_members run idle unblocked⟩

/-- The second client is quoted while the first call is in flight; that call is not paid and taken back. -/
private def quotedInFlight : List (ℕ × Choice) :=
  replicate 10 (0, .plain) ++ replicate 2 (1, .plain) ++
    [(0, .plain), (0, .plain), (0, { upstream := .returned false true })] ++ replicate 4 (0, .plain) ++
      replicate 16 (1, .plain)

/-- An honest client that was quoted a watermark which is taken back again pays for two calls and gets one. -/
theorem channel_overcharges : ¬ ∀ verifier : Verifier,
    (∀ watermark priceRaw credential, verifier watermark priceRaw credential = true ↔
      watermark + priceRaw ≤ credential.amount) →
    ∀ threads : ℕ → Prog Action Action.Answer Unit, (∀ tid, IsClient (threads tid)) →
      ∀ after : (channelMachine verifier).Config, Run (Reliable verifier) ⟨.initial, threads⟩ after →
        after.world.inFlight = [] → after.world.blocked = false → after.world.Exact := by
  intro always
  obtain ⟨after, run, reached⟩ := Config.exec_reaches (Reliable atLeast) ⟨.initial, twoClients⟩ quotedInFlight
    (fun world => world.storedRaw = 20000 ∧ world.chargedTotal = 10000 ∧ world.inFlight = [] ∧ world.blocked = false)
    (by rfl)
  obtain ⟨stored, charged, idle, unblocked⟩ := of_decide_eq_true reached
  have exact := always atLeast (fun _ _ _ => decide_eq_true_iff) twoClients twoClients_members after run idle unblocked
  have same := exact.voucher
  omega

end MppRouter.Playground.Channel
