import MppRouter.Core.DecimalFraction
import MppRouter.Mpp.TempoChannel

/-! # A watermark that may rewind

An update compares its amount with the record that it has read, and writes that record back with the amount raised.
Nothing keeps another update, or the operator, from writing in between: the slower update then puts a lower
watermark over a higher one, or an old deposit over a new one. As long as its comparison still holds when an update
writes, and no other field has changed since, watermarks only rise, and once all updates have finished they have
reached every voucher signed.
-/

namespace MppRouter.Mpp.TempoChannel

open Concurrent Machine Decimal Proxy List Option Function

/-! ## What is claimed, and when it holds -/

/-- No record goes, and no watermark falls. -/
def Rises (before after : World) : Prop :=
  ∀ slot record, before.store slot = some record → ∃ later, after.store slot = some later ∧
    record.channel.cumulativeRaw ≤ later.channel.cumulativeRaw

/-- The other fields are as the operator has set them. -/
def World.Intact (world : World) : Prop :=
  ∀ slot, (world.store slot).map ChannelRecord.settings = world.settings slot

/-- The slot that the router signs for. -/
def World.slotOf (world : World) (router : Option String) : Option Slot :=
  if (world.store .primary).any (signedByRouter router) then some .primary
  else if (world.store .alternate).any (signedByRouter router) then some .alternate
  else none

/-- The stored watermark has reached a voucher. -/
def World.Reaches (world : World) (update : Update) : Prop :=
  ∃ slot record, world.slotOf update.router = some slot ∧ world.store slot = some record ∧
    update.cumulativeRaw ≤ record.channel.cumulativeRaw

/-- Once all updates have finished, the watermarks have reached every voucher signed. -/
def World.Caught (world : World) : Prop :=
  world.updates = [] → world.bumping = [] → ∀ update ∈ world.signed, world.Reaches update

/-- When an update writes, its comparison holds of what is stored, and no other field has changed since it read. -/
def undisturbed (tid : ℕ) (action : Action) (world : World) : Bool :=
  match action with
  | .putSlot slot record => (world.store slot).all fun stored =>
      stored.channel.cumulativeRaw ≤ record.channel.cumulativeRaw ∧
        (world.reads tid).all fun read => stored.settings = read.settings
  | _ => true

def Undisturbed : tempoMachine.Admits := fun tid action _ world => undisturbed tid action world = true

instance (tid : ℕ) (action : Action) (choice : Choice) (world : World) :
    Decidable (Undisturbed tid action choice world) := inferInstanceAs (Decidable (_ = _))

/-! ## Records that are kept -/

/-- Every record stays, signed by the same key, with no lower watermark; and none appears. -/
structure StoreKept (before after : World) : Prop where
  kept : ∀ slot record, before.store slot = some record → ∃ later, after.store slot = some later ∧
    record.channel.cumulativeRaw ≤ later.channel.cumulativeRaw ∧ later.authorizedSigner = record.authorizedSigner
  absent : ∀ slot, before.store slot = none → after.store slot = none

section Kept

variable {before middle after : World} {router : Option String}

theorem StoreKept.of_eq (same : after.store = before.store) : StoreKept before after where
  kept _ record stored := ⟨record, same ▸ stored, le_rfl, rfl⟩
  absent _ stored := same ▸ stored

theorem StoreKept.rises (kept : StoreKept before after) : Rises before after := by
  intro slot record stored
  obtain ⟨later, present, rises, -⟩ := kept.kept slot record stored
  exact ⟨later, present, rises⟩

theorem Rises.refl (world : World) : Rises world world := fun _ record stored => ⟨record, stored, le_rfl⟩

theorem Rises.trans (first : Rises before middle) (second : Rises middle after) : Rises before after := by
  intro slot record stored
  obtain ⟨between, present, rises⟩ := first slot record stored
  obtain ⟨later, found, risesLater⟩ := second slot between present
  exact ⟨later, found, by omega⟩

/-- A router that can sign for a record can sign for it later. -/
theorem StoreKept.signed (kept : StoreKept before after) (slot : Slot) :
    (after.store slot).any (signedByRouter router) = (before.store slot).any (signedByRouter router) := by
  cases stored : before.store slot with
  | none => rw [kept.absent slot stored]
  | some record =>
    obtain ⟨later, present, -, signer⟩ := kept.kept slot record stored
    rw [present]
    simp only [any_some, signedByRouter, signer]

theorem StoreKept.slotOf (kept : StoreKept before after) : after.slotOf router = before.slotOf router := by
  unfold World.slotOf
  rw [kept.signed .primary, kept.signed .alternate]

theorem StoreKept.reaches (kept : StoreKept before after) {update : Update} (reaches : before.Reaches update) :
    after.Reaches update := by
  obtain ⟨slot, record, signs, stored, covers⟩ := reaches
  obtain ⟨later, present, rises, -⟩ := kept.kept slot record stored
  refine ⟨slot, later, kept.slotOf.trans signs, present, ?_⟩
  omega

end Kept

/-! ## The protocol -/

/-- The watermarks are in order: what is signed is reached, or an update is on its way to reach it. -/
structure Watermark (world : World) : Prop where
  intact : world.Intact
  waiting : ∀ update ∈ world.updates, (world.slotOf update.router).isSome = true
  begun : ∀ tid update, (tid, update) ∈ world.bumping → (world.slotOf update.router).isSome = true
  nonneg : ∀ update ∈ world.signed, 0 ≤ update.cumulativeRaw
  covered : ∀ update ∈ world.signed, update ∈ world.updates ∨ (∃ tid, (tid, update) ∈ world.bumping) ∨
    world.Reaches update

/-- A party's step keeps the records, and begins or reads nothing for the others. -/
structure Moves (tid : ℕ) (before after : World) : Prop where
  store : StoreKept before after
  bumping : ∀ other update, other ≠ tid → (other, update) ∈ after.bumping → (other, update) ∈ before.bumping
  reads : ∀ other, other ≠ tid → after.reads other = before.reads other

def tempoProtocol : Protocol tempoMachine where
  Inv := Watermark
  Guar := Moves

/-! ## The flow -/

/-- How far a party has come; a call carries out no update. -/
inductive BumpPhase where
  | waiting
  | resolving (router : Option String) (bump : Option ℤ)
  /-- The primary record is not the router's. -/
  | unsigned (router : Option String) (bump : Option ℤ)
  | resolved (router : Option String) (bump : Option ℤ) (slot : Slot) (read : ChannelRecord)
  | missing (router : Option String) (bump : Option ℤ)
  | reached (router : Option String) (cumulativeRaw : ℤ)

namespace BumpPhase

/-- An update that finishes has reached its amount, or could not. -/
def done : BumpPhase → Prop
  | .resolving _ (some cumulativeRaw) => cumulativeRaw < 0
  | .resolved _ (some cumulativeRaw) _ read => cumulativeRaw ≤ read.channel.cumulativeRaw
  | .missing _ (some _) => True
  | .reached _ _ => True
  | _ => False

def allows (phase : BumpPhase) : Action → Prop
  | .readSlot .primary => ∃ router bump, phase = .resolving router bump
  | .readSlot .alternate => ∃ router bump, phase = .unsigned router bump
  | .putSlot slot record => ∃ (router : Option String) (cumulativeRaw now : ℕ) (read : ChannelRecord),
      phase = .resolved router (some cumulativeRaw) slot read ∧ read.channel.cumulativeRaw < cumulativeRaw ∧
        record = read.bump cumulativeRaw now
  | .createCredential router cumulativeRaw => 0 ≤ cumulativeRaw ∧ ∃ slot read, phase = .resolved router none slot read
  | .waitUntil router _ => ∃ slot read, phase = .resolved router none slot read
  | .takeUpdate => phase = .waiting
  | .finished => phase.done
  | _ => True

def next (phase : BumpPhase) : (action : Action) → action.Answer → BumpPhase
  | .readSlot slot, answer =>
    match phase with
    | .resolving router bump =>
      match answer.filter (signedByRouter router) with
      | some read => .resolved router bump slot read
      | none => .unsigned router bump
    | .unsigned router bump =>
      match answer.filter (signedByRouter router) with
      | some read => .resolved router bump slot read
      | none => .missing router bump
    | phase => phase
  | .putSlot _ _, _ =>
    match phase with
    | .resolved router (some cumulativeRaw) _ _ => .reached router cumulativeRaw
    | phase => phase
  | .takeUpdate, update => .resolving update.router (some update.cumulativeRaw)
  | .finished, _ => .waiting
  | _, _ => phase

end BumpPhase

def bumpFlow : Typestate tempoMachine := ⟨BumpPhase, BumpPhase.allows, BumpPhase.next⟩

section Walk

open Typestate

/-- What resolving a channel tells. -/
def Resolves (router : Option String) (bump : Option ℤ) (found : Option (Slot × ChannelRecord)) (phase : BumpPhase) :
    Prop :=
  match found with
  | some (slot, read) => phase = .resolved router bump slot read
  | none => phase = .missing router bump

theorem follows_resolveChannel (router : Option String) (bump : Option ℤ) :
    bumpFlow.Follows (resolveChannel router) (Resolves router bump) (.resolving router bump) := by
  apply Follows.bind
  apply Follows.call
  · exact ⟨router, bump, rfl⟩
  · intro primary
    simp only [bumpFlow, BumpPhase.next]
    cases primary.filter (signedByRouter router) with
    | some read => exact rfl
    | none =>
      apply Follows.bind
      apply Follows.call
      · exact ⟨router, bump, rfl⟩
      · intro alternate
        simp only [BumpPhase.next]
        cases alternate.filter (signedByRouter router) with
        | some read => exact rfl
        | none => exact rfl

theorem follows_bumpCumulative (router : Option String) (cumulativeRaw : ℤ) :
    bumpFlow.Follows (bumpCumulative router cumulativeRaw) (fun _ phase => phase.done)
      (.resolving router (some cumulativeRaw)) := by
  unfold bumpCumulative
  split_ifs with negative
  · exact negative
  · apply Follows.bind
    apply (follows_resolveChannel router (some cumulativeRaw)).mono
    intro found phase resolves
    cases found with
    | none =>
      obtain rfl : phase = .missing router (some cumulativeRaw) := resolves
      trivial
    | some found =>
      obtain ⟨slot, read⟩ := found
      obtain rfl : phase = .resolved router (some cumulativeRaw) slot read := resolves
      dsimp only
      split_ifs with reached
      · exact reached
      · obtain ⟨amount, rfl⟩ : ∃ amount : ℕ, cumulativeRaw = amount := ⟨cumulativeRaw.toNat, by omega⟩
        apply Follows.bind
        apply Follows.call
        · trivial
        · intro now
          apply Follows.bind
          apply Follows.call
          · refine ⟨router, amount, now, read, rfl, by omega, ?_⟩
            rw [Int.toNat_natCast]
          · intro _
            trivial

theorem follows_bumpNext : bumpFlow.Follows bumpNext anyhow .waiting := by
  apply Follows.bind
  apply Follows.call
  · exact rfl
  · intro update
    apply Follows.bind
    apply (follows_bumpCumulative update.router update.cumulativeRaw).mono
    intro _ phase done
    exact Follows.call done fun _ => trivial

/-- A voucher is over what was read and a number of units. -/
theorem onChallenge_nonneg {opts : SessionOpts} {channel : TempoChannelState} {challenge : Challenge}
    {cumulativeRaw : ℤ} (signs : onChallenge opts channel challenge = .ok cumulativeRaw) : 0 ≤ cumulativeRaw := by
  unfold onChallenge at signs
  split at signs
  · cases signs
  split at signs
  · cases signs
  next readable =>
    have digits : isDigits challenge.request.amount.toList = true := by simpa using readable
    rw [bigInt_of_isDigits digits] at signs
    dsimp only at signs
    split_ifs at signs
    unfold nextSessionCumulative at signs
    split_ifs at signs
    have signed := Except.ok.inj signs
    omega

/-- A call that was answered stands behind the record that it has read. -/
def Answered (router : Option String) (result : Option (ChannelRecord × Bool)) (phase : BumpPhase) : Prop :=
  ∀ answered, result = some answered → ∃ slot, phase = .resolved router none slot answered.1

theorem follows_payMerchantSession (router : Option String) (opts : SessionOpts) :
    bumpFlow.Follows (payMerchantSession router opts) (Answered router) (.resolving router none) := by
  have threw : ∀ phase, Answered router none phase := fun _ _ same => nomatch same
  apply Follows.bind
  apply (follows_resolveChannel router none).mono
  intro found phase resolves
  cases found with
  | none => exact threw phase
  | some found =>
    obtain ⟨slot, read⟩ := found
    obtain rfl : phase = .resolved router none slot read := resolves
    have answers : bumpFlow.Follows (do
        let response ← Prog.call Action.response
        pure (response.map fun ok => (read, ok)) : Tempo (Option (ChannelRecord × Bool))) (Answered router)
        (.resolved router none slot read) := by
      apply Follows.bind
      apply Follows.call trivial
      intro response answered same
      obtain ⟨ok, -, rfl⟩ := map_eq_some_iff.mp same
      exact ⟨slot, rfl⟩
    apply Follows.bind
    apply Follows.call trivial
    intro requote
    cases requote with
    | threw => exact threw _
    | answered => exact answers
    | challenged offers =>
      apply Follows.bind
      apply Follows.call trivial
      intro picked
      cases picked with
      | none => exact threw _
      | some challenge =>
        dsimp only
        cases signs : onChallenge opts read.channel challenge with
        | error refused => exact threw _
        | ok cumulativeRaw =>
          apply Follows.bind
          apply Follows.call
          · exact ⟨onChallenge_nonneg signs, slot, read, rfl⟩
          · intro signed
            cases signed with
            | true => exact answers
            | false => exact threw _

theorem follows_proxySession (router : Option String) (amount : String) :
    bumpFlow.Follows (proxySession router amount) anyhow (.resolving router none) := by
  apply Follows.bind
  apply (follows_payMerchantSession router { expectedAmountRaw := some amount }).mono
  intro result phase answered
  rcases result with _ | ⟨channelBefore, ok⟩
  · trivial
  · obtain ⟨slot, rfl⟩ := answered _ rfl
    cases ok with
    | false => trivial
    | true =>
      dsimp only
      cases bigInt amount with
      | none => trivial
      | some delta => exact Follows.call ⟨slot, channelBefore, rfl⟩ fun _ => trivial

/-- Where a job starts. -/
def Job.phase : Job → BumpPhase
  | .proxied router _ | .direct router _ => .resolving router none
  | .bump | .topUp _ _ | .idle => .waiting

theorem follows_job (job : Job) : bumpFlow.Follows job.thread anyhow job.phase := by
  cases job with
  | proxied router amount => exact follows_proxySession router amount
  | direct router opts => exact Follows.bind (follows_payMerchantSession router opts).loose
  | bump => exact follows_bumpNext
  | topUp slot depositRaw => exact Follows.call trivial fun _ => trivial
  | idle => trivial

end Walk

/-! ## What a party knows -/

/-- The update that a party carries out; its channel is there. -/
def World.Begun (world : World) (tid : ℕ) (router : Option String) : Option ℤ → Prop
  | none => True
  | some cumulativeRaw => (∀ update, (tid, update) ∈ world.bumping → update = ⟨router, cumulativeRaw⟩) ∧
      (world.slotOf router).isSome = true

/-- The record was read from the router's slot, and has not fallen since. -/
structure World.Read (world : World) (tid : ℕ) (router : Option String) (slot : Slot) (read : ChannelRecord) : Prop where
  signs : world.slotOf router = some slot
  last : world.reads tid = some read
  stored : ∃ stored, world.store slot = some stored ∧ read.channel.cumulativeRaw ≤ stored.channel.cumulativeRaw

def Knows (tid : ℕ) : BumpPhase → World → Prop
  | .waiting, world => ∀ update, (tid, update) ∉ world.bumping
  | .resolving router bump, world => world.Begun tid router bump
  | .unsigned router bump, world => world.Begun tid router bump ∧ world.slotOf router ≠ some .primary
  | .resolved router bump slot read, world => world.Begun tid router bump ∧ world.Read tid router slot read
  | .missing router bump, world => world.Begun tid router bump ∧ world.slotOf router = none
  | .reached router cumulativeRaw, world =>
    world.Begun tid router (some cumulativeRaw) ∧ world.Reaches ⟨router, cumulativeRaw⟩

section Protocol

variable {tid : ℕ} {phase : BumpPhase} {world after : World}

/-- What is known survives as long as the records do, and nothing is begun or read in the party's name. -/
theorem Knows.keep (knows : Knows tid phase world) (store : StoreKept world after)
    (bumping : ∀ update, (tid, update) ∈ after.bumping → (tid, update) ∈ world.bumping)
    (reads : after.reads tid = world.reads tid) : Knows tid phase after := by
  have begun : ∀ router bump, world.Begun tid router bump → after.Begun tid router bump := by
    intro router bump begun
    cases bump with
    | none => trivial
    | some cumulativeRaw =>
      constructor
      · exact fun update member => begun.1 update (bumping update member)
      · rw [store.slotOf]
        exact begun.2
  cases phase with
  | waiting => exact fun update member => knows update (bumping update member)
  | resolving router bump => exact begun router bump knows
  | unsigned router bump => exact ⟨begun router bump knows.1, fun same => knows.2 (store.slotOf.symm.trans same)⟩
  | resolved router bump slot read =>
    obtain ⟨begins, signs, last, stored, present, higher⟩ := knows
    obtain ⟨later, found, rises, -⟩ := store.kept slot stored present
    exact ⟨begun router bump begins, store.slotOf.trans signs, reads.trans last, later, found, higher.trans rises⟩
  | missing router bump => exact ⟨begun router bump knows.1, store.slotOf.trans knows.2⟩
  | reached router cumulativeRaw => exact ⟨begun router _ knows.1, store.reaches knows.2⟩

theorem knows_stable : tempoProtocol.Stable tid (Knows tid phase) := by
  intro other world after distinct _ _ moves knows
  have own : tid ≠ other := Ne.symm distinct
  exact knows.keep moves.store (fun update => moves.bumping tid update own) (moves.reads tid own)

/-- A step that changes no list keeps the order of the watermarks. -/
theorem Watermark.keep (inv : Watermark world) (store : StoreKept world after) (intact : after.Intact)
    (signed : after.signed = world.signed) (updates : after.updates = world.updates)
    (bumping : after.bumping = world.bumping) : Watermark after where
  intact := intact
  waiting update member := by
    rw [store.slotOf]
    exact inv.waiting update (updates ▸ member)
  begun other update member := by
    rw [store.slotOf]
    exact inv.begun other update (bumping ▸ member)
  nonneg update member := inv.nonneg update (signed ▸ member)
  covered update member := by
    rw [updates, bumping]
    exact (inv.covered update (signed ▸ member)).imp id (Or.imp id store.reaches)

/-- A step that changes nothing but the records, and those as they may. -/
theorem keep_store (inv : Watermark world) (knows : Knows tid phase world) (store : StoreKept world after)
    (intact : after.Intact) (signed : after.signed = world.signed) (updates : after.updates = world.updates)
    (bumping : after.bumping = world.bumping) (reads : after.reads = world.reads) :
    Watermark after ∧ Moves tid world after ∧ Knows tid phase after := by
  refine ⟨inv.keep store intact signed updates bumping, ⟨store, ?_, ?_⟩, ?_⟩
  · exact fun other update _ member => bumping ▸ member
  · exact fun other _ => congrFun reads other
  · exact knows.keep store (fun update member => bumping ▸ member) (congrFun reads tid)

theorem keep_world (inv : Watermark world) (knows : Knows tid phase world) :
    Watermark world ∧ Moves tid world world ∧ Knows tid phase world :=
  keep_store inv knows (.of_eq rfl) inv.intact rfl rfl rfl rfl

/-! ### Every action -/

variable {slot : Slot}

/-- What a reading tells: the record, and whose it is. -/
theorem knows_readSlot (knows : Knows tid phase world) (allowed : phase.allows (.readSlot slot)) :
    Knows tid (phase.next (.readSlot slot) (world.store slot))
      { world with reads := Function.update world.reads tid (world.store slot) } := by
  have begun : ∀ router bump, world.Begun tid router bump →
      { world with reads := Function.update world.reads tid (world.store slot) }.Begun tid router bump := by
    intro router bump begun
    cases bump <;> exact begun
  have read : ∀ router record, world.store slot = some record → world.slotOf router = some slot →
      { world with reads := Function.update world.reads tid (world.store slot) }.Read tid router slot record := by
    intro router record stored signs
    refine ⟨signs, ?_, record, stored, le_rfl⟩
    dsimp only
    rw [update_self, stored]
  cases slot with
  | primary =>
    obtain ⟨router, bump, rfl⟩ := allowed
    simp only [BumpPhase.next]
    cases found : (world.store .primary).filter (signedByRouter router) with
    | some record =>
      obtain ⟨stored, signs⟩ := filter_eq_some_iff.mp found
      refine ⟨begun router bump knows, read router record stored ?_⟩
      unfold World.slotOf
      rw [if_pos (by rw [stored]; exact signs)]
    | none =>
      refine ⟨begun router bump knows, ?_⟩
      unfold World.slotOf
      have unsigned : ¬ (world.store .primary).any (signedByRouter router) = true := by
        intro signs
        obtain ⟨record, stored, own⟩ := (any_eq_true _ _).mp signs
        rw [stored, filter_some, if_pos own] at found
        cases found
      dsimp only
      rw [if_neg unsigned]
      split_ifs <;> simp
  | alternate =>
    obtain ⟨router, bump, rfl⟩ := allowed
    obtain ⟨begins, unsigned⟩ := knows
    have secondary : ¬ (world.store .primary).any (signedByRouter router) = true := by
      intro signs
      apply unsigned
      unfold World.slotOf
      rw [if_pos signs]
    simp only [BumpPhase.next]
    cases found : (world.store .alternate).filter (signedByRouter router) with
    | some record =>
      obtain ⟨stored, signs⟩ := filter_eq_some_iff.mp found
      refine ⟨begun router bump begins, read router record stored ?_⟩
      unfold World.slotOf
      rw [if_neg secondary, if_pos (by rw [stored]; exact signs)]
    | none =>
      refine ⟨begun router bump begins, ?_⟩
      unfold World.slotOf
      dsimp only
      rw [if_neg secondary, if_neg]
      intro signs
      obtain ⟨record, stored, own⟩ := (any_eq_true _ _).mp signs
      rw [stored, filter_some, if_pos own] at found
      cases found

/-- A record that is written over one that it does not undo. -/
theorem storeKept_put {record stored : ChannelRecord} (present : world.store slot = some stored)
    (rises : stored.channel.cumulativeRaw ≤ record.channel.cumulativeRaw)
    (same : record.settings = stored.settings) :
    StoreKept world { world with store := Function.update world.store slot (some record) } where
  kept other before found := by
    by_cases own : other = slot
    · subst own
      obtain rfl := some.inj (present.symm.trans found)
      have signer : record.settings.authorizedSigner = stored.settings.authorizedSigner :=
        congrArg ChannelRecord.authorizedSigner same
      refine ⟨record, ?_, rises, signer⟩
      dsimp only
      rw [update_self]
    · refine ⟨before, ?_, le_rfl, rfl⟩
      dsimp only
      rw [update_of_ne own]
      exact found
  absent other missing := by
    have distinct : other ≠ slot := by
      rintro rfl
      cases missing.symm.trans present
    dsimp only
    rw [update_of_ne distinct]
    exact missing

/-- The write of an update whose comparison still holds. -/
theorem step_putSlot {record : ChannelRecord} (inv : Watermark world) (knows : Knows tid phase world)
    (allowed : phase.allows (.putSlot slot record)) (admitted : undisturbed tid (.putSlot slot record) world = true) :
    let after := { world with store := Function.update world.store slot (some record) }
    Watermark after ∧ Moves tid world after ∧ Knows tid (phase.next (.putSlot slot record) ()) after := by
  obtain ⟨router, cumulativeRaw, now, read, rfl, lower, rfl⟩ := allowed
  obtain ⟨begins, signs, last, stored, present, -⟩ := knows
  simp only [undisturbed, present, last, all_some, decide_eq_true_eq] at admitted
  obtain ⟨rises, same⟩ := admitted
  have store := storeKept_put present rises same.symm
  have intact : World.Intact { world with
      store := Function.update world.store slot (some (read.bump cumulativeRaw now)) } := by
    intro other
    by_cases own : other = slot
    · subst own
      dsimp only
      rw [update_self, ← inv.intact other, present]
      exact congrArg some same.symm
    · dsimp only
      rw [update_of_ne own]
      exact inv.intact other
  have begun : Knows tid (.resolving router (some (cumulativeRaw : ℤ))) world := begins
  obtain ⟨kept, moves, begins⟩ := keep_store inv begun store intact rfl rfl rfl rfl
  refine ⟨kept, moves, begins, slot, read.bump cumulativeRaw now, store.slotOf.trans signs, ?_, Int.le_rfl⟩
  dsimp only
  rw [update_self]

/-- A new update, for a channel that is there. -/
theorem step_update {router : Option String} {cumulativeRaw : ℤ} {signed : List Update}
    (inv : Watermark world) (knows : Knows tid phase world) (signs : world.slotOf router = some slot)
    (vouchers : signed = world.signed ∨ (signed = ⟨router, cumulativeRaw⟩ :: world.signed ∧ 0 ≤ cumulativeRaw)) :
    let after := { world with signed := signed, updates := ⟨router, cumulativeRaw⟩ :: world.updates }
    Watermark after ∧ Moves tid world after ∧ Knows tid phase after := by
  have store : StoreKept world { world with
      signed := signed, updates := ⟨router, cumulativeRaw⟩ :: world.updates } := .of_eq rfl
  refine ⟨⟨inv.intact, ?_, ?_, ?_, ?_⟩, ⟨store, fun _ _ _ member => member, fun _ _ => rfl⟩,
    knows.keep store (fun _ member => member) rfl⟩
  · intro update member
    rw [store.slotOf]
    rcases mem_cons.mp member with rfl | earlier
    · rw [signs]
      rfl
    · exact inv.waiting update earlier
  · exact inv.begun
  · intro update member
    rcases vouchers with rfl | ⟨rfl, positive⟩
    · exact inv.nonneg update member
    · rcases mem_cons.mp member with rfl | earlier
      · exact positive
      · exact inv.nonneg update earlier
  · intro update member
    have earlier : update ∈ world.signed → update ∈ (⟨router, cumulativeRaw⟩ :: world.updates : List Update) ∨
        (∃ tid, (tid, update) ∈ world.bumping) ∨ world.Reaches update := by
      intro known
      rcases inv.covered update known with waiting | later
      · exact .inl (mem_cons_of_mem _ waiting)
      · exact .inr later
    have covered : update ∈ (⟨router, cumulativeRaw⟩ :: world.updates : List Update) ∨
        (∃ tid, (tid, update) ∈ world.bumping) ∨ world.Reaches update := by
      rcases vouchers with rfl | ⟨rfl, -⟩
      · exact earlier member
      · rcases mem_cons.mp member with rfl | known
        · exact .inl mem_cons_self
        · exact earlier known
    exact covered.imp id (Or.imp id store.reaches)

theorem step_takeUpdate {index : ℕ} {update : Update} (inv : Watermark world)
    (knows : ∀ update, (tid, update) ∉ world.bumping) (due : world.updates[index]? = some update) :
    let after := { world with
      updates := world.updates.eraseIdx index, bumping := (tid, update) :: world.bumping }
    Watermark after ∧ Moves tid world after ∧
      Knows tid (.resolving update.router (some update.cumulativeRaw)) after := by
  have store : StoreKept world { world with
      updates := world.updates.eraseIdx index, bumping := (tid, update) :: world.bumping } := .of_eq rfl
  have installed := inv.waiting update (mem_of_getElem? due)
  refine ⟨⟨inv.intact, ?_, ?_, inv.nonneg, ?_⟩, ⟨store, ?_, fun _ _ => rfl⟩, ?_⟩
  · intro other member
    rw [store.slotOf]
    exact inv.waiting other (mem_of_mem_eraseIdx member)
  · intro other begun member
    rw [store.slotOf]
    rcases mem_cons.mp member with same | earlier
    · obtain ⟨rfl, rfl⟩ := Prod.mk.inj same
      exact installed
    · exact inv.begun other begun earlier
  · intro other member
    dsimp only
    rcases inv.covered other member with waiting | ⟨owner, begun⟩ | reaches
    · by_cases same : other = update
      · subst same
        exact .inr (.inl ⟨tid, mem_cons_self⟩)
      · left
        obtain ⟨place, short, found⟩ := getElem_of_mem waiting
        apply mem_eraseIdx_iff_getElem.mpr
        refine ⟨place, short, ?_, found⟩
        rintro rfl
        rw [getElem?_eq_getElem short, found] at due
        exact same (some.inj due)
    · exact .inr (.inl ⟨owner, mem_cons_of_mem _ begun⟩)
    · exact .inr (.inr (store.reaches reaches))
  · intro other begun distinct member
    rcases mem_cons.mp member with same | earlier
    · exact absurd (Prod.mk.inj same).1 distinct
    · exact earlier
  · constructor
    · intro other member
      rcases mem_cons.mp member with same | earlier
      · exact (Prod.mk.inj same).2
      · exact absurd earlier (knows other)
    · rw [store.slotOf]
      exact installed

/-- The update of a party that is done has reached its amount, unless there is no such voucher. -/
theorem done_reaches (knows : Knows tid phase world) (done : phase.done) {update : Update}
    (begun : (tid, update) ∈ world.bumping) : update.cumulativeRaw < 0 ∨ world.Reaches update := by
  cases phase with
  | waiting => exact done.elim
  | unsigned router bump => exact done.elim
  | resolving router bump =>
    cases bump with
    | none => exact done.elim
    | some cumulativeRaw =>
      obtain rfl := knows.1 update begun
      exact .inl done
  | resolved router bump slot read =>
    cases bump with
    | none => exact done.elim
    | some cumulativeRaw =>
      obtain ⟨begins, signs, -, stored, present, higher⟩ := knows
      obtain rfl := begins.1 update begun
      have reached : cumulativeRaw ≤ read.channel.cumulativeRaw := done
      refine .inr ⟨slot, stored, signs, present, ?_⟩
      dsimp only
      omega
  | missing router bump =>
    cases bump with
    | none => exact done.elim
    | some cumulativeRaw =>
      obtain ⟨begins, absent⟩ := knows
      have installed := begins.2
      rw [absent] at installed
      cases installed
  | reached router cumulativeRaw =>
    obtain ⟨begins, reaches⟩ := knows
    obtain rfl := begins.1 update begun
    exact .inr reaches

theorem step_finished (inv : Watermark world) (knows : Knows tid phase world) (done : phase.done) :
    let after := { world with bumping := world.bumping.filter fun entry => entry.1 ≠ tid }
    Watermark after ∧ Moves tid world after ∧ Knows tid .waiting after := by
  have store : StoreKept world { world with
      bumping := world.bumping.filter fun entry => entry.1 ≠ tid } := .of_eq rfl
  refine ⟨⟨inv.intact, inv.waiting, ?_, inv.nonneg, ?_⟩, ⟨store, ?_, fun _ _ => rfl⟩, ?_⟩
  · exact fun other update member => inv.begun other update (mem_filter.mp member).1
  · intro update member
    rcases inv.covered update member with waiting | ⟨owner, begun⟩ | reaches
    · exact .inl waiting
    · by_cases own : owner = tid
      · subst own
        rcases done_reaches knows done begun with negative | reaches
        · have positive := inv.nonneg update member
          omega
        · exact .inr (.inr (store.reaches reaches))
      · exact .inr (.inl ⟨owner, mem_filter.mpr ⟨begun, by simpa using own⟩⟩)
    · exact .inr (.inr (store.reaches reaches))
  · exact fun other update _ member => (mem_filter.mp member).1
  · intro update member
    have own := (mem_filter.mp member).2
    simp at own

/-- The operator's change keeps the watermark. -/
theorem step_topUp {depositRaw : ℕ} (inv : Watermark world) (knows : Knows tid phase world) :
    let after := { world with
      store := Function.update world.store slot ((world.store slot).map (ChannelRecord.topUp depositRaw))
      settings := Function.update world.settings slot ((world.settings slot).map (ChannelRecord.topUp depositRaw)) }
    Watermark after ∧ Moves tid world after ∧ Knows tid phase after := by
  intro after
  have store : StoreKept world after := by
    constructor
    · intro other record stored
      by_cases own : other = slot
      · subst own
        refine ⟨record.topUp depositRaw, ?_, le_rfl, rfl⟩
        simp only [after, update_self, stored, map_some]
      · refine ⟨record, ?_, le_rfl, rfl⟩
        simp only [after, update_of_ne own]
        exact stored
    · intro other missing
      by_cases own : other = slot
      · subst own
        simp only [after, update_self, missing, map_none]
      · simp only [after, update_of_ne own]
        exact missing
  have intact : after.Intact := by
    intro other
    by_cases own : other = slot
    · subst own
      simp only [after, update_self, ← inv.intact other]
      cases world.store other <;> rfl
    · simp only [after, update_of_ne own]
      exact inv.intact other
  exact keep_store inv knows store intact rfl rfl rfl rfl

theorem bumpFlow_keeps (tid : ℕ) : bumpFlow.Keeps tempoProtocol Undisturbed tid (Knows tid) where
  stable phase := knows_stable
  step phase action allowed world inv knows choice answer after admitted performed := by
    cases action with
    | readSlot slot =>
      cases performed
      refine ⟨inv.keep (.of_eq rfl) inv.intact rfl rfl rfl, ⟨.of_eq rfl, fun _ _ _ member => member, ?_⟩,
        knows_readSlot knows allowed⟩
      exact fun other distinct => update_of_ne distinct ..
    | putSlot slot record =>
      cases performed
      exact step_putSlot inv knows allowed admitted
    | now =>
      cases performed
      exact keep_world inv knows
    | fetch =>
      cases performed
      exact keep_world inv knows
    | pick candidates =>
      cases performed
      exact keep_world inv knows
    | response =>
      cases performed
      exact keep_world inv knows
    | createCredential router cumulativeRaw =>
      obtain ⟨positive, slot, read, rfl⟩ := allowed
      cases performed
      split_ifs
      · exact step_update inv knows knows.2.signs (.inr ⟨rfl, positive⟩)
      · exact keep_world inv knows
    | waitUntil router cumulativeRaw =>
      obtain ⟨slot, read, rfl⟩ := allowed
      cases performed
      exact step_update inv knows knows.2.signs (.inl rfl)
    | takeUpdate =>
      obtain rfl : phase = .waiting := allowed
      obtain ⟨update, due, same⟩ := map_eq_some_iff.mp performed
      obtain ⟨rfl, rfl⟩ := Prod.mk.inj same
      exact step_takeUpdate inv knows due
    | finished =>
      cases performed
      exact step_finished inv knows allowed
    | topUp slot depositRaw =>
      cases performed
      exact step_topUp inv knows

end Protocol

/-! ## Every run -/

theorem watermark_start (store : Slot → Option ChannelRecord) : Watermark (World.start store) where
  intact _ := rfl
  waiting _ member := nomatch member
  begun _ _ member := nomatch member
  nonneg _ member := nomatch member
  covered _ member := nomatch member

/-- A party of every job starts with nothing read and nothing begun. -/
theorem job_checked (store : Slot → Option ChannelRecord) (jobs : ℕ → Job) :
    tempoProtocol.Checked Undisturbed ⟨.start store, fun tid => (jobs tid).thread⟩ := by
  refine ⟨watermark_start store, fun tid => ?_⟩
  have knows : Knows tid (jobs tid).phase (World.start store) := by
    cases jobs tid with
    | proxied router amount => trivial
    | direct router opts => trivial
    | bump => exact fun _ member => nomatch member
    | topUp slot depositRaw => exact fun _ member => nomatch member
    | idle => exact fun _ member => nomatch member
  exact ((follows_job (jobs tid)).holds (bumpFlow_keeps tid) knows).loose

/-- Over any interleaving of session payments, updates and changes by the operator in which the comparison of an
update still holds when it writes, and no other field has changed since it read: no watermark ever falls, no other
field is undone, and once all updates have finished the watermarks have reached every voucher signed. -/
theorem watermark_never_rewinds (store : Slot → Option ChannelRecord) (jobs : ℕ → Job)
    {before after : tempoMachine.Config}
    (run : Run Undisturbed ⟨.start store, fun tid => (jobs tid).thread⟩ before) (onward : Run Undisturbed before after) :
    Rises before.world after.world ∧ after.world.Intact ∧ after.world.Caught := by
  have checked := Protocol.sound (job_checked store jobs) run
  have inv : Watermark after.world := (Protocol.sound checked onward).1
  refine ⟨?_, inv.intact, ?_⟩
  · have guaranteed := Protocol.guaranteed checked onward
    generalize after.world = last at guaranteed
    induction guaranteed with
    | refl => exact .refl _
    | tail _ step ih =>
      obtain ⟨tid, moves⟩ := step
      exact ih.trans moves.store.rises
  · intro noUpdates noBumps update member
    rcases inv.covered update member with waiting | ⟨tid, begun⟩ | reaches
    · rw [noUpdates] at waiting
      cases waiting
    · rw [noBumps] at begun
      cases begun
    · exact reaches

section Example

private def demoRecord : ChannelRecord where
  channel := ⟨"channel", "escrow", "payee", "token", 4217, 100, some 1000⟩
  authorizedSigner := "router"
  descriptor := none
  openedAt := "opened"
  lastVoucherAt := none

private def demoStore : Slot → Option ChannelRecord
  | .primary => some demoRecord
  | .alternate => none

/-- Ten units, in the channel's token. -/
private def demoChallenge : Challenge where
  id := "challenge"
  intent := "session"
  request := ⟨"10", some "token", some "payee", some 6, some "escrow", some 4217⟩

/-- Two proxied calls, and four updates. -/
private def demoJobs : ℕ → Job
  | 0 | 1 => .proxied none "10"
  | 2 | 3 | 4 | 5 => .bump
  | _ => .idle

/-- One call up to its answer: it leaves two updates behind. -/
private def demoCall (tid : ℕ) : List (ℕ × Choice) :=
  [(tid, .plain), (tid, { requote := .challenged [demoChallenge] }), (tid, { pick := some demoChallenge }),
    (tid, .plain), (tid, .plain), (tid, .plain)]

/-- All updates of both calls finish. -/
theorem watermark_never_rewinds_two : ∃ before after : tempoMachine.Config,
    Rises before.world after.world ∧ after.world.Intact ∧
      (after.world.updates = [] ∧ after.world.bumping = [] ∧ ∀ update ∈ after.world.signed, after.world.Reaches update) ∧
      after.world.signed.map Update.cumulativeRaw = [120, 110] := by
  obtain ⟨before, after, run, onward, passed⟩ := Config.exec_reaches_then Undisturbed
    ⟨.start demoStore, fun tid => (demoJobs tid).thread⟩ (demoCall 0 ++ replicate 5 (2, .plain))
    (replicate 3 (3, .plain) ++ demoCall 1 ++ replicate 5 (4, .plain) ++ replicate 3 (5, .plain))
    (fun _ after => (after.updates = [] ∧ after.bumping = []) ∧ after.signed.map Update.cumulativeRaw = [120, 110])
    (by decide +kernel)
  obtain ⟨rises, intact, caught⟩ := watermark_never_rewinds demoStore demoJobs run onward
  obtain ⟨⟨none_due, none_begun⟩, signed⟩ := of_decide_eq_true passed
  exact ⟨before, after, rises, intact, ⟨none_due, none_begun, caught none_due none_begun⟩, signed⟩

/-- An update of the first call has read its record and stalls; its other update and the second call go on. -/
private def stalled : List (ℕ × Choice) :=
  demoCall 0 ++ replicate 3 (2, .plain) ++ replicate 5 (3, .plain) ++ demoCall 1 ++ replicate 5 (4, .plain)

/-- The stalled update puts its watermark over the higher one. -/
theorem watermark_rewinds : ¬ ∀ (store : Slot → Option ChannelRecord) (jobs : ℕ → Job)
    (before after : tempoMachine.Config),
    Run (unrestricted tempoMachine) ⟨.start store, fun tid => (jobs tid).thread⟩ before →
      Run (unrestricted tempoMachine) before after →
        Rises before.world after.world ∧ after.world.Intact ∧ after.world.Caught := by
  intro always
  obtain ⟨before, after, run, onward, passed⟩ := Config.exec_reaches_then (unrestricted tempoMachine)
    ⟨.start demoStore, fun tid => (demoJobs tid).thread⟩ stalled [(2, .plain)]
    (fun before after =>
      (before.store .primary).map (fun record => record.channel.cumulativeRaw) = some 120 ∧
        (after.store .primary).map (fun record => record.channel.cumulativeRaw) = some 110) (by decide +kernel)
  obtain ⟨high, low⟩ := of_decide_eq_true passed
  obtain ⟨record, stored, amount⟩ := map_eq_some_iff.mp high
  obtain ⟨later, present, rises⟩ := (always demoStore demoJobs before after run onward).1 .primary record stored
  rw [present, map_some, some.injEq] at low
  omega

end Example

end MppRouter.Mpp.TempoChannel
