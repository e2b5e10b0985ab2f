import Mathlib
import MppRouter.Playground.Channel

/-! # The books of a channel

The accepted vouchers that stand form a chain: each starts at the watermark the one below it set, and
the watermark is the amount of the topmost. As long as a voucher advances the watermark by exactly its
price, and a voucher taken back restores what it replaced, the watermark is the sum of their prices.
-/

namespace MppRouter.Playground.Channel

open Concurrent Machine List
open Mpp (cumulativeAmount rollbackCumulative_some)

/-! ## The chain of standing vouchers -/

/-- The vouchers lead from zero to the watermark, each by its price. -/
def Linked : ℤ → List Acceptance → Prop
  | watermark, [] => watermark = 0
  | watermark, acceptance :: rest => watermark = acceptance.amount ∧
      acceptance.amount = acceptance.before + acceptance.priceRaw ∧ 0 < acceptance.priceRaw ∧
      Linked acceptance.before rest

/-- The prices of the vouchers whose call was answered as charged. -/
def chargedSum : List Acceptance → ℤ
  | [] => 0
  | acceptance :: rest => (if acceptance.phase = .charged then acceptance.priceRaw else 0) + chargedSum rest

section Chain

variable {watermark : ℤ} {standing : List Acceptance}

theorem Linked.nonneg (linked : Linked watermark standing) : 0 ≤ watermark := by
  induction standing generalizing watermark with
  | nil => exact linked ▸ Int.le_refl 0
  | cons acceptance rest ih =>
    obtain ⟨top, step, positive, below⟩ := linked
    have lower := ih below
    omega

/-- No standing voucher exceeds the watermark. -/
theorem Linked.le (linked : Linked watermark standing) {acceptance : Acceptance} (member : acceptance ∈ standing) :
    acceptance.amount ≤ watermark ∧ acceptance.before < acceptance.amount ∧ 0 < acceptance.priceRaw := by
  induction standing generalizing watermark with
  | nil => cases member
  | cons newest rest ih =>
    obtain ⟨top, step, positive, below⟩ := linked
    rcases mem_cons.mp member with rfl | older
    · omega
    · have lower := ih below older
      omega

/-- A standing voucher that reaches the watermark is the newest. -/
theorem Linked.newest (linked : Linked watermark standing) {acceptance : Acceptance} (member : acceptance ∈ standing)
    (top : acceptance.amount = watermark) : ∃ rest, standing = acceptance :: rest ∧ Linked acceptance.before rest := by
  cases standing with
  | nil => cases member
  | cons newest rest =>
    obtain ⟨reaches, step, positive, below⟩ := linked
    rcases mem_cons.mp member with rfl | older
    · exact ⟨rest, rfl, below⟩
    · have lower := (below.le older).1
      omega

theorem Linked.charged (linked : Linked watermark standing)
    (all : ∀ acceptance ∈ standing, acceptance.phase = .charged) : chargedSum standing = watermark := by
  induction standing generalizing watermark with
  | nil => exact linked.symm
  | cons acceptance rest ih =>
    obtain ⟨top, step, positive, below⟩ := linked
    have older := ih below fun other member => all other (mem_cons_of_mem _ member)
    rw [chargedSum, if_pos (all acceptance mem_cons_self), older]
    omega

end Chain

/-! ### Moving a charge on -/

@[simp] theorem World.advance_standing (world : World) (owner : ℕ) (phase : Phase) :
    (world.advance owner phase).standing = world.standing.map (Acceptance.advance owner phase) := rfl

section Advance

variable {owner : ℕ} {phase : Phase} {watermark : ℤ} {standing : List Acceptance}

@[simp] theorem Acceptance.advance_owner (acceptance : Acceptance) :
    (acceptance.advance owner phase).owner = acceptance.owner := by
  unfold advance
  split_ifs <;> rfl

@[simp] theorem Acceptance.advance_amount (acceptance : Acceptance) :
    (acceptance.advance owner phase).amount = acceptance.amount := by
  unfold advance
  split_ifs <;> rfl

@[simp] theorem Acceptance.advance_priceRaw (acceptance : Acceptance) :
    (acceptance.advance owner phase).priceRaw = acceptance.priceRaw := by
  unfold advance
  split_ifs <;> rfl

@[simp] theorem Acceptance.advance_before (acceptance : Acceptance) :
    (acceptance.advance owner phase).before = acceptance.before := by
  unfold advance
  split_ifs <;> rfl

variable {acceptance : Acceptance}

theorem Acceptance.advance_own (own : acceptance.owner = owner) :
    acceptance.advance owner phase = { acceptance with phase } := if_pos own

theorem Acceptance.advance_other (other : acceptance.owner ≠ owner) :
    acceptance.advance owner phase = acceptance := if_neg other

theorem Linked.advance (linked : Linked watermark standing) :
    Linked watermark (standing.map (Acceptance.advance owner phase)) := by
  induction standing generalizing watermark with
  | nil => exact linked
  | cons acceptance rest ih =>
    obtain ⟨top, step, positive, below⟩ := linked
    refine ⟨?_, ?_, ?_, ?_⟩
    · rw [Acceptance.advance_amount, top]
    · rw [Acceptance.advance_amount, Acceptance.advance_before, Acceptance.advance_priceRaw, step]
    · rw [Acceptance.advance_priceRaw]
      exact positive
    · rw [Acceptance.advance_before]
      exact ih below

theorem map_advance_owner : (standing.map (Acceptance.advance owner phase)).map Acceptance.owner =
    standing.map Acceptance.owner := by
  rw [map_map]
  exact map_congr_left fun acceptance _ => acceptance.advance_owner

theorem map_advance_absent (absent : ∀ acceptance ∈ standing, acceptance.owner ≠ owner) :
    standing.map (Acceptance.advance owner phase) = standing := by
  rw [map_congr_left fun acceptance member => Acceptance.advance_other (absent acceptance member), map_id']

/-- A charge that was not counted yet is counted once its call is answered so. -/
theorem chargedSum_advance (owners : (standing.map Acceptance.owner).Nodup)
    (member : acceptance ∈ standing) (own : acceptance.owner = owner) (uncharged : acceptance.phase ≠ .charged) :
    chargedSum (standing.map (Acceptance.advance owner phase)) =
      chargedSum standing + if phase = .charged then acceptance.priceRaw else 0 := by
  induction standing with
  | nil => cases member
  | cons newest rest ih =>
    obtain ⟨unique, later⟩ := nodup_cons.mp owners
    rcases mem_cons.mp member with rfl | older
    · have absent : ∀ other ∈ rest, other.owner ≠ owner := fun other present same =>
        unique (mem_map.mpr ⟨other, present, same.trans own.symm⟩)
      rw [map_cons, map_advance_absent absent, Acceptance.advance_own own, chargedSum, chargedSum,
        if_neg uncharged]
      dsimp only
      omega
    · have other : newest.owner ≠ owner := fun same =>
        unique (mem_map.mpr ⟨acceptance, older, own.trans same.symm⟩)
      rw [map_cons, Acceptance.advance_other other, chargedSum, chargedSum, ih later older]
      omega

end Advance

/-! ## The invariant -/

/-- One of the two markers stops all calls. -/
def World.blocked (world : World) : Bool := world.closed || world.fenced

def World.watermark (world : World) : ℤ := cumulativeAmount world.cumulative

/-- The cumulative amount of the stored voucher, zero without one. -/
def World.storedRaw (world : World) : ℤ := (world.voucher.map LatestVoucher.cumulativeRaw).getD 0

/-- What the answers given so far have charged. -/
def World.chargedTotal (world : World) : ℤ := (world.answered.map CallResponse.chargedRaw).sum

/-- A stored voucher reaches this amount. -/
def World.Covers (world : World) (amount : ℤ) : Prop :=
  ∃ voucher, world.voucher = some voucher ∧ amount ≤ voucher.cumulativeRaw

/-- The books while the channel is open. -/
structure Books (world : World) : Prop where
  linked : Linked world.watermark world.standing
  settling : ∀ cumulative, world.cumulative = some cumulative → cumulative.settling = false
  owners : (world.standing.map Acceptance.owner).Nodup
  inFlight : ∀ acceptance ∈ world.standing, acceptance.phase ≠ .charged → acceptance.owner ∈ world.inFlight
  covered : ∀ acceptance ∈ world.standing, acceptance.phase = .charged → world.Covers acceptance.amount
  backed : ∀ voucher, world.voucher = some voucher →
    ∃ acceptance ∈ world.standing, acceptance.phase ≠ .accepted ∧ voucher.cumulativeRaw = acceptance.amount
  total : world.chargedTotal = chargedSum world.standing

/-- The stored voucher, the charges and the watermark agree. -/
structure World.Exact (world : World) : Prop where
  voucher : world.storedRaw = world.chargedTotal
  watermark : world.storedRaw = world.watermark

/-- With no call in flight everything that stands is charged, and the newest voucher is the stored one. -/
theorem Books.exact {world : World} (books : Books world) (idle : world.inFlight = []) : world.Exact := by
  have all : ∀ acceptance ∈ world.standing, acceptance.phase = .charged := by
    intro acceptance member
    by_contra uncharged
    have flying := books.inFlight acceptance member uncharged
    rw [idle] at flying
    cases flying
  have charged : world.chargedTotal = world.watermark := books.total.trans (books.linked.charged all)
  have stored : world.storedRaw = world.watermark := by
    cases found : world.voucher with
    | none =>
      cases standing : world.standing with
      | nil =>
        have zero := books.linked
        rw [standing] at zero
        rw [World.storedRaw, found]
        exact zero.symm
      | cons newest rest =>
        have member : newest ∈ world.standing := standing ▸ mem_cons_self
        obtain ⟨voucher, present, -⟩ := books.covered newest member (all newest member)
        cases found.symm.trans present
    | some voucher =>
      obtain ⟨acceptance, member, -, amount⟩ := books.backed voucher found
      have upper := (books.linked.le member).1
      have lower : world.watermark ≤ voucher.cumulativeRaw := by
        cases standing : world.standing with
        | nil =>
          rw [standing] at member
          cases member
        | cons newest rest =>
          have member : newest ∈ world.standing := standing ▸ mem_cons_self
          obtain ⟨other, present, covers⟩ := books.covered newest member (all newest member)
          obtain rfl := Option.some.inj (found.symm.trans present)
          have top := books.linked
          rw [standing] at top
          exact top.1 ▸ covers
      have read : world.storedRaw = voucher.cumulativeRaw := by rw [World.storedRaw, found]; rfl
      omega
  exact ⟨stored.trans charged.symm, stored⟩

/-! ## Steps -/

/-- Every accepted voucher advances the watermark by exactly its price; a rollback restores what its own
voucher replaced; and the rollback of a close voucher, whose outcome nobody looks at, finds it the latest. -/
def exacting (verifier : Verifier) (tid : ℕ) (action : Action) (world : World) : Bool :=
  match action with
  | .store (.verify priceRaw credential _) =>
    ¬ verifier world.watermark priceRaw credential ∨ credential.amount = world.watermark + priceRaw
  | .store (.rollback voucher) =>
    (∀ acceptance ∈ world.standing, acceptance.owner = tid → acceptance.before = voucher.previousAmount) ∧
      (voucher.action = .close → world.watermark = voucher.acceptedAmount ∨ world.blocked)
  | _ => true

/-- No operation throws. -/
def Reliable (verifier : Verifier) : (channelMachine verifier).Admits := fun _ _ choice _ => choice.fault = .none

/-- No operation throws, and every step is exacting. -/
def Exacting (verifier : Verifier) : (channelMachine verifier).Admits :=
  fun tid action choice world => choice.fault = .none ∧ exacting verifier tid action world = true

instance (verifier : Verifier) (tid : ℕ) (action : Action) (choice : Choice) (world : World) :
    Decidable (Reliable verifier tid action choice world) := inferInstanceAs (Decidable (_ = _))

instance (verifier : Verifier) (tid : ℕ) (action : Action) (choice : Choice) (world : World) :
    Decidable (Exacting verifier tid action choice world) := inferInstanceAs (Decidable (_ ∧ _))

/-- A call's voucher stands, with its charge this far. -/
def World.Stands (world : World) (tid : ℕ) (priceRaw amount : ℤ) (phase : Phase) : Prop :=
  ∃ before, ⟨tid, priceRaw, before, amount, phase⟩ ∈ world.standing

/-- No voucher of the call stands. -/
def World.Free (world : World) (tid : ℕ) : Prop := ∀ acceptance ∈ world.standing, acceptance.owner ≠ tid

/-- A fact that holds unless the channel is stopped. -/
def Unless (fact : World → Prop) (world : World) : Prop := world.blocked = true ∨ fact world

/-- The books hold, or the channel is stopped. -/
abbrev Kept : World → Prop := Unless Books

/-- The call's voucher stands and its charge is open. -/
abbrev Mine (tid : ℕ) (priceRaw amount : ℤ) : World → Prop :=
  Unless fun world => world.Stands tid priceRaw amount .accepted

/-- No voucher of the call stands. -/
abbrev Gone (tid : ℕ) : World → Prop := Unless fun world => world.Free tid

/-- The call's voucher stands and a stored voucher covers it. -/
abbrev Payable (tid : ℕ) (priceRaw : ℤ) : World → Prop :=
  Unless fun world => ∃ amount phase, phase ≠ .charged ∧ world.Stands tid priceRaw amount phase ∧ world.Covers amount

/-- What a call guarantees of its own steps. -/
structure Moves (tid : ℕ) (before after : World) : Prop where
  blocked : before.blocked = true → after.blocked = true
  others : ∀ acceptance, acceptance.owner ≠ tid → (acceptance ∈ after.standing ↔ acceptance ∈ before.standing)
  covers : ∀ amount, before.Covers amount → after.Covers amount

/-- An answer that charges for a covered voucher, or charges nothing once none stands. -/
def Settles (tid : ℕ) (response : CallResponse) (world : World) : Prop :=
  (response.chargedRaw = 0 ∧ Gone tid world) ∨ (response.challenge = none ∧ Payable tid response.chargedRaw world)

/-- What a call has made sure of before an action. -/
def Legal (tid : ℕ) (action : Action) (world : World) : Prop :=
  match action with
  | .store (.verify priceRaw _ _) => 0 < priceRaw ∧ Gone tid world
  | .store (.rollback voucher) => ∃ priceRaw, Mine tid priceRaw voucher.acceptedAmount world
  | .store (.putVoucher cumulativeRaw _) => ∃ priceRaw, Mine tid priceRaw cumulativeRaw world
  | .respond response => Settles tid response world
  | _ => True

section Steps

variable {verifier : Verifier} {tid : ℕ} {world after : World}

theorem Moves.same (blocked : after.blocked = world.blocked) (standing : after.standing = world.standing)
    (voucher : after.voucher = world.voucher) : Moves tid world after where
  blocked stopped := blocked.trans stopped
  others acceptance _ := by rw [standing]
  covers amount covers := by
    rw [World.Covers, voucher]
    exact covers

/-- A step that leaves watermark, vouchers and answers alone. -/
theorem Kept.same (kept : Kept world) (blocked : world.blocked = true → after.blocked = true)
    (cumulative : after.cumulative = world.cumulative) (standing : after.standing = world.standing)
    (voucher : after.voucher = world.voucher) (inFlight : after.inFlight = world.inFlight)
    (answered : after.answered = world.answered) : Kept after := by
  rcases kept with stopped | books
  · exact .inl (blocked stopped)
  · right
    constructor
    case linked =>
      rw [World.watermark, cumulative, standing]
      exact books.linked
    case settling => exact cumulative ▸ books.settling
    case owners => exact standing ▸ books.owners
    case inFlight =>
      rw [standing, inFlight]
      exact books.inFlight
    case covered =>
      simp only [standing, World.Covers, voucher]
      exact books.covered
    case backed =>
      rw [standing, voucher]
      exact books.backed
    case total =>
      rw [World.chargedTotal, answered, standing]
      exact books.total

theorem covers_put {amount cumulativeRaw : ℤ} {signature : String} (covers : world.Covers amount) :
    World.Covers { world with voucher := some (putLatestVoucher cumulativeRaw signature world.voucher) } amount := by
  obtain ⟨voucher, found, reaches⟩ := covers
  refine ⟨_, rfl, ?_⟩
  simp only [found, putLatestVoucher]
  split_ifs with higher
  · exact reaches
  · dsimp only
    omega

/-- A put stores a voucher at least as high. -/
theorem putLatestVoucher_le (cumulativeRaw : ℤ) (signature : String) (current : Option LatestVoucher) :
    cumulativeRaw ≤ (putLatestVoucher cumulativeRaw signature current).cumulativeRaw := by
  cases current with
  | none => exact Int.le_rfl
  | some stored =>
    simp only [putLatestVoucher]
    split_ifs with higher
    · exact higher
    · exact Int.le_rfl

/-- Advancing one's own charge leaves the others' alone. -/
theorem mem_advance {owner : ℕ} {phase : Phase} {standing : List Acceptance} {acceptance : Acceptance}
    (other : acceptance.owner ≠ owner) :
    acceptance ∈ standing.map (Acceptance.advance owner phase) ↔ acceptance ∈ standing := by
  constructor
  · intro member
    obtain ⟨source, present, same⟩ := mem_map.mp member
    have owned : (source.advance owner phase).owner = source.owner := source.advance_owner
    have foreign : source.owner ≠ owner := by
      rw [← owned, same]
      exact other
    rw [Acceptance.advance_other foreign] at same
    exact same ▸ present
  · intro member
    exact mem_map.mpr ⟨acceptance, member, Acceptance.advance_other other⟩

/-- An exacting acceptance puts its voucher on top of the chain. -/
theorem Books.verify (books : Books world) {priceRaw : ℤ} {credential : Credential} (previousAmount : ℤ) (text : String)
    (positive : 0 < priceRaw) (free : world.Free tid)
    (exacts : exacting verifier tid (.store (.verify priceRaw credential previousAmount)) world = true) :
    Books (StoreOp.perform verifier tid text (.verify priceRaw credential previousAmount) world).2 := by
  simp only [exacting, decide_eq_true_eq] at exacts
  simp only [StoreOp.perform]
  split_ifs with accepts
  · have amount : credential.amount = world.watermark + priceRaw := exacts.resolve_left (not_not.mpr accepts)
    constructor
    case linked => exact ⟨rfl, amount, positive, books.linked⟩
    case settling =>
      rintro _ same
      cases same
      rfl
    case owners =>
      refine nodup_cons.mpr ⟨fun member => ?_, books.owners⟩
      obtain ⟨acceptance, present, own⟩ := mem_map.mp member
      exact free acceptance present own
    case inFlight =>
      intro acceptance member uncharged
      rcases mem_cons.mp member with rfl | old
      · exact mem_cons_self
      · exact mem_cons_of_mem _ (books.inFlight acceptance old uncharged)
    case covered =>
      intro acceptance member charged
      rcases mem_cons.mp member with rfl | old
      · cases charged
      · exact books.covered acceptance old charged
    case backed =>
      intro voucher found
      obtain ⟨acceptance, member, kept⟩ := books.backed voucher found
      exact ⟨acceptance, mem_cons_of_mem _ member, kept⟩
    case total =>
      rw [chargedSum, if_neg (by simp), Int.zero_add]
      exact books.total
  · exact books

/-- The newest voucher is taken back, and the watermark is what it replaced. -/
theorem Books.rollback (books : Books world) {voucher : ChannelVoucher} (text : String) {priceRaw : ℤ}
    (stands : world.Stands tid priceRaw voucher.acceptedAmount .accepted)
    (exacts : exacting verifier tid (.store (.rollback voucher)) world = true) :
    Books (StoreOp.perform verifier tid text (.rollback voucher) world).2 := by
  simp only [exacting, decide_eq_true_eq] at exacts
  simp only [StoreOp.perform]
  split
  next => exact books
  next restored rolledBack =>
    obtain ⟨top, amount, settling⟩ := rollbackCumulative_some rolledBack
    obtain ⟨before, member⟩ := stands
    have replaced : before = voucher.previousAmount := exacts.1 _ member rfl
    obtain ⟨rest, standing, below⟩ := books.linked.newest member top.symm
    have owners := books.owners
    rw [standing, map_cons] at owners
    obtain ⟨unique, later⟩ := nodup_cons.mp owners
    have keeps : world.standing.filter (fun acceptance => acceptance.owner ≠ tid) = rest := by
      rw [standing, filter_cons_of_neg (by simp)]
      refine filter_eq_self.mpr fun acceptance present => decide_eq_true fun own => ?_
      exact unique (mem_map.mpr ⟨acceptance, present, own⟩)
    have older : ∀ acceptance ∈ rest, acceptance ∈ world.standing := fun acceptance present =>
      standing ▸ mem_cons_of_mem _ present
    dsimp only
    rw [keeps]
    constructor
    case linked =>
      rw [World.watermark, amount, ← replaced]
      exact below
    case settling => exact settling
    case owners => exact later
    case inFlight => exact fun acceptance present => books.inFlight acceptance (older acceptance present)
    case covered => exact fun acceptance present => books.covered acceptance (older acceptance present)
    case backed =>
      intro stored found
      obtain ⟨acceptance, present, kept, same⟩ := books.backed stored found
      rw [standing] at present
      rcases mem_cons.mp present with rfl | old
      · exact absurd rfl kept
      · exact ⟨acceptance, old, kept, same⟩
    case total =>
      have total := books.total
      rw [standing, chargedSum, if_neg (by simp), Int.zero_add] at total
      exact total

/-- A call's own voucher is the only one it owns. -/
theorem Books.own_unique (books : Books world) {left right : Acceptance} (first : left ∈ world.standing)
    (second : right ∈ world.standing) (same : left.owner = right.owner) : left = right :=
  inj_on_of_nodup_map books.owners first second same

/-- A stored voucher stays, or gives way to a higher one. -/
theorem putLatestVoucher_cases (cumulativeRaw : ℤ) (signature : String) (current : Option LatestVoucher) :
    (∃ stored, current = some stored ∧ putLatestVoucher cumulativeRaw signature current = stored) ∨
      (putLatestVoucher cumulativeRaw signature current).cumulativeRaw = cumulativeRaw := by
  cases current with
  | none => exact .inr rfl
  | some stored =>
    simp only [putLatestVoucher]
    split_ifs
    · exact .inl ⟨stored, rfl, rfl⟩
    · exact .inr rfl

/-- Keeping the voucher of a call that stands. -/
theorem Books.put (books : Books world) {cumulativeRaw : ℤ} (signature text : String) {priceRaw : ℤ}
    (stands : world.Stands tid priceRaw cumulativeRaw .accepted) :
    Books (StoreOp.perform verifier tid text (.putVoucher cumulativeRaw signature) world).2 := by
  obtain ⟨before, member⟩ := stands
  have uncharged : ∀ source ∈ world.standing, (source.advance tid .kept).phase = .charged ↔ source.phase = .charged := by
    intro source present
    by_cases own : source.owner = tid
    · rw [Acceptance.advance_own own, books.own_unique present member own]
      simp
    · rw [Acceptance.advance_other own]
  simp only [StoreOp.perform]
  constructor
  case linked => exact books.linked.advance
  case settling => exact books.settling
  case owners =>
    rw [World.advance_standing, map_advance_owner]
    exact books.owners
  case inFlight =>
    intro acceptance present open_
    obtain ⟨source, old, rfl⟩ := mem_map.mp present
    rw [Acceptance.advance_owner]
    exact books.inFlight source old fun charged => open_ ((uncharged source old).mpr charged)
  case covered =>
    intro acceptance present charged
    obtain ⟨source, old, rfl⟩ := mem_map.mp present
    rw [Acceptance.advance_amount]
    exact covers_put (books.covered source old ((uncharged source old).mp charged))
  case backed =>
    rintro _ same
    cases same
    obtain ⟨stored, found, stays⟩ | higher := putLatestVoucher_cases cumulativeRaw signature world.voucher
    · obtain ⟨acceptance, present, kept, amount⟩ := books.backed stored found
      have other : acceptance.owner ≠ tid := by
        intro own
        rw [books.own_unique present member own] at kept
        exact kept rfl
      exact ⟨acceptance, (mem_advance other).mpr present, kept, by rw [stays, amount]⟩
    · exact ⟨_, mem_map.mpr ⟨_, member, Acceptance.advance_own rfl⟩, by simp, higher⟩
  case total =>
    have counted : chargedSum (world.standing.map (Acceptance.advance tid .kept)) = chargedSum world.standing + 0 :=
      chargedSum_advance books.owners member rfl (by simp)
    rw [World.advance_standing, counted, Int.add_zero]
    exact books.total

/-- An answer that charges for a voucher that is covered, or charges nothing once none stands. -/
theorem Books.respond (books : Books world) {response : CallResponse} (choice : Choice)
    (settled : (response.chargedRaw = 0 ∧ world.Free tid) ∨
      ∃ amount phase, phase ≠ .charged ∧ world.Stands tid response.chargedRaw amount phase ∧ world.Covers amount) :
    Books (perform verifier tid (.respond response) choice world).2 := by
  have lands : ∀ acceptance ∈ world.standing, acceptance.owner ≠ tid → acceptance.phase ≠ .charged →
      acceptance.owner ∈ world.inFlight.filter fun other => other ≠ tid := by
    intro acceptance present other uncharged
    exact mem_filter.mpr ⟨books.inFlight acceptance present uncharged, decide_eq_true other⟩
  simp only [perform]
  rcases settled with ⟨nothing, free⟩ | ⟨amount, phase, uncharged, ⟨before, member⟩, covers⟩
  · rw [if_pos nothing]
    refine { books with inFlight := ?_, total := ?_ }
    · exact fun acceptance present open_ => lands acceptance present (free acceptance present) open_
    · simp only [World.chargedTotal, map_cons, sum_cons, nothing, Int.zero_add]
      exact books.total
  · have positive : 0 < response.chargedRaw := (books.linked.le member).2.2
    rw [if_neg (by omega)]
    constructor
    case linked => exact books.linked.advance
    case settling => exact books.settling
    case owners =>
      rw [World.advance_standing, map_advance_owner]
      exact books.owners
    case inFlight =>
      intro acceptance present open_
      obtain ⟨source, old, rfl⟩ := mem_map.mp present
      by_cases own : source.owner = tid
      · rw [Acceptance.advance_own own] at open_
        exact absurd rfl open_
      · rw [Acceptance.advance_other own] at open_ ⊢
        exact lands source old own open_
    case covered =>
      intro acceptance present charged
      obtain ⟨source, old, rfl⟩ := mem_map.mp present
      rw [Acceptance.advance_amount]
      by_cases own : source.owner = tid
      · rw [books.own_unique old member own]
        exact covers
      · rw [Acceptance.advance_other own] at charged
        exact books.covered source old charged
    case backed =>
      intro voucher found
      obtain ⟨acceptance, present, kept, same⟩ := books.backed voucher found
      refine ⟨_, mem_map.mpr ⟨acceptance, present, rfl⟩, ?_, ?_⟩
      · by_cases own : acceptance.owner = tid
        · rw [Acceptance.advance_own own]
          simp
        · rw [Acceptance.advance_other own]
          exact kept
      · rw [Acceptance.advance_amount]
        exact same
    case total =>
      have counted : chargedSum (world.standing.map (Acceptance.advance tid .charged)) =
          chargedSum world.standing + response.chargedRaw :=
        chargedSum_advance books.owners member rfl uncharged
      have total := books.total
      simp only [World.chargedTotal] at total
      rw [World.advance_standing, counted]
      simp only [World.chargedTotal, World.advance, map_cons, sum_cons]
      omega

/-! ### Every action -/

theorem Moves.advance {owner : ℕ} {phase : Phase} (world : World) : Moves owner world (world.advance owner phase) where
  blocked stopped := stopped
  others _ other := mem_advance other
  covers _ covers := covers

theorem Moves.trans {middle : World} (first : Moves tid world middle) (second : Moves tid middle after) :
    Moves tid world after where
  blocked stopped := second.blocked (first.blocked stopped)
  others acceptance other := (second.others acceptance other).trans (first.others acceptance other)
  covers amount covers := second.covers amount (first.covers amount covers)

/-- An operation on the stores. -/
theorem StoreOp.moves (op : StoreOp) (text : String) (world : World) :
    Moves tid world (op.perform verifier tid text world).2 := by
  cases op with
  | markClosed =>
    exact ⟨fun _ => by simp [StoreOp.perform, World.blocked], fun _ _ => Iff.rfl, fun _ covers => covers⟩
  | fence => exact ⟨fun _ => by simp [StoreOp.perform, World.blocked], fun _ _ => Iff.rfl, fun _ covers => covers⟩
  | rollback voucher =>
    simp only [StoreOp.perform]
    split
    next => exact .same rfl rfl rfl
    next =>
      refine ⟨fun stopped => stopped, fun acceptance other => ?_, fun _ covers => covers⟩
      exact ⟨fun member => (mem_filter.mp member).1, fun member =>
        mem_filter.mpr ⟨member, decide_eq_true other⟩⟩
  | putVoucher cumulativeRaw signature =>
    have stored : Moves tid world { world with
        voucher := some (putLatestVoucher cumulativeRaw signature world.voucher) } :=
      ⟨fun stopped => stopped, fun _ _ => Iff.rfl, fun _ covers => covers_put covers⟩
    exact stored.trans (.advance _)
  | verify priceRaw credential previousAmount =>
    simp only [StoreOp.perform]
    split_ifs
    · refine ⟨fun stopped => stopped, fun acceptance other => ?_, fun _ covers => covers⟩
      refine ⟨fun member => ?_, mem_cons_of_mem _⟩
      rcases mem_cons.mp member with rfl | old
      · exact absurd rfl other
      · exact old
    · exact .same rfl rfl rfl
  | _ => exact .same rfl rfl rfl

theorem StoreOp.kept (kept : Kept world) (op : StoreOp) (text : String) (legal : Legal tid (.store op) world)
    (exacts : exacting verifier tid (.store op) world = true) :
    Kept (op.perform verifier tid text world).2 := by
  rcases kept with stopped | books
  · exact .inl ((op.moves text world).blocked stopped)
  · cases op with
    | markClosed => exact .inl (by simp [StoreOp.perform, World.blocked])
    | fence => exact .inl (by simp [StoreOp.perform, World.blocked])
    | rollback voucher =>
      obtain ⟨priceRaw, stopped | stands⟩ := legal
      · exact .inl ((StoreOp.moves (.rollback voucher) text world).blocked stopped)
      · exact .inr (books.rollback text stands exacts)
    | putVoucher cumulativeRaw signature =>
      obtain ⟨priceRaw, stopped | stands⟩ := legal
      · exact .inl ((StoreOp.moves (.putVoucher cumulativeRaw signature) text world).blocked stopped)
      · exact .inr (books.put signature text stands)
    | verify priceRaw credential previousAmount =>
      obtain ⟨positive, stopped | free⟩ := legal
      · exact .inl ((StoreOp.moves (.verify priceRaw credential previousAmount) text world).blocked stopped)
      · exact .inr (books.verify previousAmount text positive free exacts)
    | _ => exact .inr { books with }

/-- Every legal and exacting step keeps the books and its call's guarantee. -/
theorem Kept.step (kept : Kept world) {action : Action} {choice : Choice} (legal : Legal tid action world)
    (admitted : Exacting verifier tid action choice world) :
    Kept (perform verifier tid action choice world).2 ∧ Moves tid world (perform verifier tid action choice world).2 := by
  obtain ⟨reliable, exacts⟩ := admitted
  cases action with
  | store op =>
    simp only [perform, reliable, Fault.apply]
    exact ⟨op.kept kept choice.text legal exacts, op.moves choice.text world⟩
  | respond response =>
    have moves : Moves tid world (perform verifier tid (.respond response) choice world).2 := by
      have answers : Moves tid world { world with
          answered := response :: world.answered, inFlight := world.inFlight.filter (fun other => other ≠ tid) } :=
        .same rfl rfl rfl
      simp only [perform]
      split_ifs
      · exact answers
      · exact answers.trans (.advance _)
    refine ⟨?_, moves⟩
    rcases kept with stopped | books
    · exact .inl (moves.blocked stopped)
    · rcases legal with ⟨nothing, stopped | free⟩ | ⟨-, stopped | payable⟩
      · exact .inl (moves.blocked stopped)
      · exact .inr (books.respond choice (.inl ⟨nothing, free⟩))
      · exact .inl (moves.blocked stopped)
      · exact .inr (books.respond choice (.inr payable))
  | _ => exact ⟨kept.same id rfl rfl rfl rfl rfl, .same rfl rfl rfl⟩

end Steps

end MppRouter.Playground.Channel
