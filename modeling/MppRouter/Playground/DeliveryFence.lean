import MppRouter.Core.Typestate
import MppRouter.Playground.ChannelStore
import Mathlib.Tactic.SplitIfs

/-! # The delivery lock as a fence

Holders take the lock of a channel, check it again before each step that moves money, and release it. The times they
write are captured before the store commits, and a holder that was superseded may call late. What the lock promises is
said by the times alone: steps that end before the expiry their holder wrote last do not overlap.
-/

namespace MppRouter.Playground.Channel.Delivery

open Concurrent Machine Function Typestate List Option

/-! ## The lock in time -/

/-- A step that moves money, from its begin to its end. -/
structure GuardedStep where
  lockId : LockId
  /-- The time that the revalidation before it captured. -/
  captured : ℕ
  start : ℕ
  finish : ℕ
  deriving DecidableEq, Repr

inductive Event where
  | acquired (lockId : LockId)
  | revalidated (lockId : LockId)
  | guarded (step : GuardedStep)
  deriving DecidableEq, Repr

/-- A revalidation that succeeded: the time it captured, and when it was committed. -/
structure Lease where
  captured : ℕ
  granted : ℕ
  deriving DecidableEq, Repr

structure World where
  clock : ℕ
  lock : Option DeliveryLock
  /-- Newest first. -/
  log : List Event := []
  /-- The last revalidation of each holder that has not released since. -/
  leases : ℕ → Option Lease := fun _ => none

inductive Action where
  /-- `Date.now()` -/
  | now
  | acquire (now : ℕ)
  | revalidate (now : ℕ)
  | release
  /-- The end of a step that began at `start`. -/
  | guarded (captured start : ℕ)
  deriving DecidableEq

/-- An operation on the store may throw. -/
@[reducible] def Action.Answer : Action → Type
  | .now => ℕ
  | .acquire _ => Option Bool
  | .revalidate _ => Option Bool
  | .release => Option Bool
  | .guarded _ _ => Unit

/-- When an action takes effect, and how it goes wrong. -/
structure Choice where
  time : ℕ
  fault : Fault := .none
  deriving DecidableEq, Repr

def World.acquire (lockId : LockId) (now : ℕ) (world : World) : Bool × World :=
  let (acquired, lock) := acquireChannelDeliveryLock lockId now world.lock
  (acquired, { world with lock, log := if acquired then .acquired lockId :: world.log else world.log })

def World.revalidate (tid : ℕ) (lockId : LockId) (now : ℕ) (world : World) : Bool × World :=
  let (valid, lock) := revalidateChannelDeliveryLock lockId now world.lock
  if valid then
    (true, { world with
      lock, log := .revalidated lockId :: world.log
      leases := update world.leases tid (some ⟨now, world.clock⟩) })
  else (false, { world with lock })

def World.release (tid : ℕ) (lockId : LockId) (world : World) : Bool × World :=
  let (released, lock) := releaseChannelDeliveryLock lockId world.lock
  (released, { world with lock, leases := update world.leases tid none })

def World.guarded (lockId : LockId) (captured start : ℕ) (world : World) : World :=
  { world with log := .guarded ⟨lockId, captured, start, world.clock⟩ :: world.log }

/-- An action at the time the clock shows. -/
def act (tid : ℕ) (lockId : LockId) : (action : Action) → Fault → World → action.Answer × World
  | .now, _, world => (world.clock, world)
  | .acquire now, fault, world => fault.apply (World.acquire lockId now) world
  | .revalidate now, fault, world => fault.apply (World.revalidate tid lockId now) world
  | .release, fault, world => fault.apply (World.release tid lockId) world
  | .guarded captured start, _, world => ((), world.guarded lockId captured start)

/-- Holders of one channel's lock, each with a token of its own. Time does not go back. -/
abbrev deliveryMachine (lockIds : ℕ → LockId) : Machine where
  Action := Action
  Answer := Action.Answer
  Choice := Choice
  World := World
  perform tid action choice world :=
    if choice.time < world.clock then none
    else some (act tid (lockIds tid) action choice.fault { world with clock := choice.time })

/-! ## Holders -/

/-- What a holder does: it takes the lock, guards a step by it, or gives it up. -/
inductive Call where
  | acquire | guarded | release
  deriving DecidableEq, Repr

/-- A guarded step is begun only after a revalidation that was answered `true`. -/
def Call.serve : Call → Prog Action Action.Answer Unit
  | .acquire => do
    let now ← Prog.call Action.now
    let _ ← Prog.call (Action.acquire now)
    pure ()
  | .guarded => do
    let now ← Prog.call Action.now
    match ← Prog.call (Action.revalidate now) with
    | some true => do
      let start ← Prog.call Action.now
      Prog.call (Action.guarded now start)
    | _ => pure ()
  | .release => do
    let _ ← Prog.call Action.release
    pure ()

/-- One call after the other, in any order. -/
def hold : List Call → Prog Action Action.Answer Unit
  | [] => pure ()
  | call :: calls => do
    call.serve
    hold calls

/-- Any holders at once, over any lock. -/
def holding (lockIds : ℕ → LockId) (clock : ℕ) (lock : Option DeliveryLock) (calls : ℕ → List Call) :
    (deliveryMachine lockIds).Config := ⟨{ clock, lock }, fun tid => hold (calls tid)⟩

/-! ## What the lock promises -/

/-- The token that took the lock last. -/
def lastAcquired (first : Option LockId) : List Event → Option LockId
  | [] => first
  | .acquired lockId :: _ => some lockId
  | .revalidated _ :: log => lastAcquired first log
  | .guarded _ :: log => lastAcquired first log

/-- Every revalidation that succeeded was by the token that took the lock last. -/
def RevalidatedByLast (first : Option LockId) (log : List Event) : Prop :=
  ∀ later earlier lockId, log = later ++ .revalidated lockId :: earlier → lastAcquired first earlier = some lockId

/-- The step ended before the expiry that its holder had written. -/
def GuardedStep.InTime (step : GuardedStep) : Prop := step.finish ≤ step.captured + deliveryLockTtlMs

/-- Steps of two holders that are in time do not overlap. -/
def NoOverlap (log : List Event) : Prop :=
  ∀ first second, .guarded first ∈ log → .guarded second ∈ log → first.lockId ≠ second.lockId → first.InTime →
    second.InTime → first.finish ≤ second.start ∨ second.finish ≤ first.start

/-! ## The invariant -/

/-- A lease holds: the lock is its holder's and expires when it says. -/
def Lease.Holds (lease : Lease) (lockId : LockId) (lock : Option DeliveryLock) : Prop :=
  ∃ held, lock = some held ∧ held.id = lockId ∧ held.expiresAt = some (lease.captured + deliveryLockTtlMs)

structure World.Fenced (lockIds : ℕ → LockId) (first : Option LockId) (world : World) : Prop where
  holder : ∀ lock, world.lock = some lock → lastAcquired first world.log = some lock.id
  last : RevalidatedByLast first world.log
  past : ∀ step, .guarded step ∈ world.log → step.finish ≤ world.clock
  apart : NoOverlap world.log
  granted : ∀ tid lease, world.leases tid = some lease → lease.granted ≤ world.clock
  /-- A lease that does not hold has expired. -/
  live : ∀ tid lease, world.leases tid = some lease →
    lease.Holds (lockIds tid) world.lock ∨ lease.captured + deliveryLockTtlMs ≤ world.clock
  /-- A step of another holder ended before a lease was granted, or began after it expired. -/
  behind : ∀ tid lease step, world.leases tid = some lease → .guarded step ∈ world.log → step.lockId ≠ lockIds tid →
    step.InTime → step.finish ≤ lease.granted ∨ lease.captured + deliveryLockTtlMs ≤ step.start
  /-- Of two leases, one had expired when the other was granted. -/
  between : ∀ tid other lease held, tid ≠ other → world.leases tid = some lease → world.leases other = some held →
    lease.captured + deliveryLockTtlMs ≤ held.granted ∨ held.captured + deliveryLockTtlMs ≤ lease.granted

theorem fenced_start (lockIds : ℕ → LockId) (clock : ℕ) (lock : Option DeliveryLock) :
    World.Fenced lockIds (lock.map DeliveryLock.id) { clock, lock } where
  holder held stored := by
    change lock = some held at stored
    simp only [lastAcquired, stored, map_some]
  last later earlier lockId parts := by simp at parts
  past step member := by cases member
  apart step other member := by cases member
  granted tid lease leased := by cases leased
  live tid lease leased := by cases leased
  behind tid lease step leased := by cases leased
  between tid other lease held distinct leased := by cases leased

section Steps

variable {lockIds : ℕ → LockId} {first : Option LockId} {world : World} {tid : ℕ}

/-- Time goes on. -/
theorem World.Fenced.wait (fenced : world.Fenced lockIds first) {time : ℕ} (later : world.clock ≤ time) :
    World.Fenced lockIds first { world with clock := time } where
  holder := fenced.holder
  last := fenced.last
  past step member := Nat.le_trans (fenced.past step member) later
  apart := fenced.apart
  granted tid lease leased := Nat.le_trans (fenced.granted tid lease leased) later
  live tid lease leased := by
    rcases fenced.live tid lease leased with holds | expired
    · exact .inl holds
    · exact .inr (Nat.le_trans expired later)
  behind := fenced.behind
  between := fenced.between

theorem RevalidatedByLast.cons {log : List Event} (last : RevalidatedByLast first log) {event : Event}
    (other : ∀ lockId, event = .revalidated lockId → lastAcquired first log = some lockId) :
    RevalidatedByLast first (event :: log) := by
  intro later earlier lockId parts
  cases later with
  | nil =>
    obtain ⟨same, rfl⟩ := cons.inj parts
    exact other lockId same
  | cons head later => exact last later earlier lockId (cons.inj parts).2

theorem World.acquire_cases (lockId : LockId) (now : ℕ) (world : World) : (World.acquire lockId now world).2 = world ∨
      (∀ held expiresAt, world.lock = some held → held.expiresAt = some expiresAt → expiresAt ≤ now) ∧
        (World.acquire lockId now world).2 = { world with
          lock := some ⟨lockId, now, some (now + deliveryLockTtlMs)⟩, log := .acquired lockId :: world.log } := by
  unfold World.acquire acquireChannelDeliveryLock
  split_ifs with blocked
  · left
    rfl
  · right
    constructor
    · intro held expiresAt stored expires
      simp only [stored, any_some, expires, decide_eq_true_eq] at blocked
      omega
    · rfl

theorem World.revalidate_cases (tid : ℕ) (lockId : LockId) (now : ℕ) (world : World) :
    (World.revalidate tid lockId now world).2 = world ∨
      ∃ held, world.lock = some held ∧ held.id = lockId ∧
        (World.revalidate tid lockId now world).2 = { world with
          lock := some { held with expiresAt := some (now + deliveryLockTtlMs) }
          log := .revalidated lockId :: world.log
          leases := update world.leases tid (some ⟨now, world.clock⟩) } := by
  rcases world with ⟨clock, lock, log, leases⟩
  unfold World.revalidate revalidateChannelDeliveryLock
  cases lock with
  | none => exact .inl rfl
  | some held =>
    by_cases mine : held.id = lockId
    · right
      refine ⟨held, rfl, mine, ?_⟩
      simp only [ne_eq, mine, not_true_eq_false, if_false, if_true]
    · left
      simp only [ne_eq, mine, not_false_eq_true, if_true, Bool.false_eq_true, if_false]

/-- The lock of another holder stays where it is. -/
theorem World.release_cases (tid : ℕ) (lockId : LockId) (world : World) :
    (∃ held, world.lock = some held ∧ held.id = lockId ∧
      (World.release tid lockId world).2 = { world with lock := none, leases := update world.leases tid none }) ∨
      (∀ held, world.lock = some held → held.id ≠ lockId) ∧
        (World.release tid lockId world).2 = { world with leases := update world.leases tid none } := by
  rcases world with ⟨clock, lock, log, leases⟩
  unfold World.release releaseChannelDeliveryLock
  cases lock with
  | none => exact .inr ⟨nofun, rfl⟩
  | some held =>
    by_cases mine : held.id = lockId
    · left
      refine ⟨held, rfl, mine, ?_⟩
      rw [if_pos (by simpa using mine)]
    · right
      constructor
      · intro other stored
        cases stored
        exact mine
      · rw [if_neg (by simpa using mine)]

theorem leased_cases {leases : ℕ → Option Lease} {other : ℕ} {fresh : Option Lease} {lease : Lease}
    (leased : update leases tid fresh other = some lease) :
    other = tid ∧ fresh = some lease ∨ other ≠ tid ∧ leases other = some lease := by
  by_cases own : other = tid
  · subst own
    rw [update_self] at leased
    exact .inl ⟨rfl, leased⟩
  · rw [update_of_ne own] at leased
    exact .inr ⟨own, leased⟩

/-- A lock is taken only when the lease that wrote it has expired. -/
theorem World.Fenced.acquire (fenced : world.Fenced lockIds first) (tid : ℕ) {now : ℕ} (captured : now ≤ world.clock) :
    World.Fenced lockIds first (World.acquire (lockIds tid) now world).2 := by
  rcases World.acquire_cases (lockIds tid) now world with same | ⟨expired, same⟩
  · rwa [same]
  · rw [same]
    constructor
    · intro held stored
      cases stored
      rfl
    · exact fenced.last.cons (by simp)
    · intro step member
      exact fenced.past step (by simpa using member)
    · intro step other member member'
      exact fenced.apart step other (by simpa using member) (by simpa using member')
    · exact fenced.granted
    · intro other lease leased
      right
      rcases fenced.live other lease leased with ⟨held, stored, -, expires⟩ | passed
      · have passed := expired held _ stored expires
        change lease.captured + deliveryLockTtlMs ≤ world.clock
        omega
      · exact passed
    · intro other lease step leased member
      exact fenced.behind other lease step leased (by simpa using member)
    · exact fenced.between

/-- A revalidation finds the lock its holder's, so every other lease has expired. -/
theorem World.Fenced.revalidate (distinct : Injective lockIds) (fenced : world.Fenced lockIds first) (tid now : ℕ) :
    World.Fenced lockIds first (World.revalidate tid (lockIds tid) now world).2 := by
  rcases World.revalidate_cases tid (lockIds tid) now world with same | ⟨held, stored, mine, same⟩
  · rwa [same]
  · rw [same]
    have expired : ∀ other lease, other ≠ tid → world.leases other = some lease →
        lease.captured + deliveryLockTtlMs ≤ world.clock := by
      intro other lease foreign leased
      rcases fenced.live other lease leased with ⟨lock, found, theirs, -⟩ | passed
      · obtain rfl := some.inj (stored.symm.trans found)
        exact absurd (distinct (theirs.symm.trans mine)) foreign
      · exact passed
    constructor
    · intro lock found
      cases found
      exact fenced.holder held stored
    · apply fenced.last.cons
      intro lockId revalidated
      cases revalidated
      rw [fenced.holder held stored, mine]
    · intro step member
      exact fenced.past step (by simpa using member)
    · intro step other member member'
      exact fenced.apart step other (by simpa using member) (by simpa using member')
    · intro other lease leased
      rcases leased_cases leased with ⟨rfl, fresh⟩ | ⟨-, leased⟩
      · cases fresh
        exact Nat.le_refl _
      · exact fenced.granted other lease leased
    · intro other lease leased
      rcases leased_cases leased with ⟨rfl, fresh⟩ | ⟨foreign, leased⟩
      · cases fresh
        exact .inl ⟨_, rfl, mine, rfl⟩
      · exact .inr (expired other lease foreign leased)
    · intro other lease step leased member foreign inTime
      have earlier : Event.guarded step ∈ world.log := by simpa using member
      rcases leased_cases leased with ⟨rfl, fresh⟩ | ⟨-, leased⟩
      · cases fresh
        exact .inl (fenced.past step earlier)
      · exact fenced.behind other lease step leased earlier foreign inTime
    · intro one other lease lease' apart leased leased'
      rcases leased_cases leased with ⟨rfl, fresh⟩ | ⟨foreign, leased⟩
      · cases fresh
        rcases leased_cases leased' with ⟨same, -⟩ | ⟨foreign, leased'⟩
        · exact absurd same.symm apart
        · exact .inr (expired other lease' foreign leased')
      · rcases leased_cases leased' with ⟨same, fresh⟩ | ⟨-, leased'⟩
        · cases fresh
          exact .inl (expired one lease foreign ‹_›)
        · exact fenced.between one other lease lease' apart ‹_› leased'

/-- A holder that releases gives up its lease, and takes no other holder's. -/
theorem World.Fenced.release (distinct : Injective lockIds) (fenced : world.Fenced lockIds first) (tid : ℕ) :
    World.Fenced lockIds first (World.release tid (lockIds tid) world).2 := by
  have kept : ∀ other lease, update world.leases tid none other = some lease →
      other ≠ tid ∧ world.leases other = some lease := by
    intro other lease leased
    rcases leased_cases leased with ⟨-, fresh⟩ | kept
    · cases fresh
    · exact kept
  have given : World.Fenced lockIds first { world with leases := update world.leases tid none } :=
    { fenced with
      granted := fun other lease leased => fenced.granted other lease (kept other lease leased).2
      live := fun other lease leased => fenced.live other lease (kept other lease leased).2
      behind := fun other lease step leased => fenced.behind other lease step (kept other lease leased).2
      between := fun one other lease lease' apart leased leased' =>
        fenced.between one other lease lease' apart (kept one lease leased).2 (kept other lease' leased').2 }
  rcases World.release_cases tid (lockIds tid) world with ⟨held, stored, mine, same⟩ | ⟨-, same⟩
  · rw [same]
    refine { given with holder := nofun, live := fun other lease leased => .inr ?_ }
    obtain ⟨foreign, leased⟩ := kept other lease leased
    rcases fenced.live other lease leased with ⟨lock, found, theirs, -⟩ | passed
    · obtain rfl := some.inj (stored.symm.trans found)
      exact absurd (distinct (theirs.symm.trans mine)) foreign
    · exact passed
  · rwa [same]

/-- A step that ends in time is apart from those before it, and from those that will end under another lease. -/
theorem World.Fenced.guarded (fenced : world.Fenced lockIds first) {start : ℕ} {lease : Lease}
    (leased : world.leases tid = some lease) (began : lease.granted ≤ start) :
    World.Fenced lockIds first (world.guarded (lockIds tid) lease.captured start) := by
  unfold World.guarded
  have earlier : ∀ other, .guarded other ∈ world.log → other.lockId ≠ lockIds tid → other.InTime →
      world.clock ≤ lease.captured + deliveryLockTtlMs → other.finish ≤ start ∨ world.clock ≤ other.start := by
    intro other member foreign otherInTime inTime
    rcases fenced.behind tid lease other leased member foreign otherInTime with ended | began
    · left
      omega
    · right
      omega
  constructor
  · exact fenced.holder
  · exact fenced.last.cons (by simp)
  · intro step member
    rcases mem_cons.mp member with same | member
    · cases same
      exact Nat.le_refl _
    · exact fenced.past step member
  · intro one other member member' foreign inTime otherInTime
    rcases mem_cons.mp member with same | member
    · cases same
      rcases mem_cons.mp member' with same' | member'
      · cases same'
        exact absurd rfl foreign
      · exact (earlier other member' (Ne.symm foreign) otherInTime inTime).symm
    · rcases mem_cons.mp member' with same' | member'
      · cases same'
        exact earlier one member foreign inTime otherInTime
      · exact fenced.apart one other member member' foreign inTime otherInTime
  · exact fenced.granted
  · exact fenced.live
  · intro other held step leased' member foreign inTime
    rcases mem_cons.mp member with same | member
    · cases same
      have apart : tid ≠ other := fun same => foreign (congrArg lockIds same)
      change world.clock ≤ lease.captured + deliveryLockTtlMs at inTime
      change world.clock ≤ held.granted ∨ held.captured + deliveryLockTtlMs ≤ start
      rcases fenced.between tid other lease held apart leased leased' with passed | passed
      · left
        omega
      · right
        omega
    · exact fenced.behind other held step leased' member foreign inTime
  · exact fenced.between

end Steps

/-! ## Holders keep it -/

/-- Where a holder stands between its actions. -/
inductive Phase where
  | idle
  | read (now : ℕ)
  | valid (captured : ℕ)
  | stepping (captured start : ℕ)
  deriving DecidableEq

def phases (lockIds : ℕ → LockId) : Typestate (deliveryMachine lockIds) where
  Phase := Phase
  allowed
    | _, .now => True
    | .read now, .acquire captured => captured = now
    | _, .acquire _ => False
    | .read now, .revalidate captured => captured = now
    | _, .revalidate _ => False
    | _, .release => True
    | .stepping captured start, .guarded written began => written = captured ∧ began = start
    | _, .guarded _ _ => False
  next
    | .valid captured, .now, start => .stepping captured start
    | _, .now, now => .read now
    | _, .revalidate now, some true => .valid now
    | _, _, _ => .idle

/-- A holder knows the lease it was granted. -/
def Knows (tid : ℕ) : Phase → World → Prop
  | .idle, _ => True
  | .read now, world => now ≤ world.clock
  | .valid captured, world => ∃ lease, world.leases tid = some lease ∧ lease.captured = captured
  | .stepping captured start, world => ∃ lease, world.leases tid = some lease ∧ lease.captured = captured ∧
    lease.granted ≤ start

/-- Others leave the leases of a holder alone. -/
def fencing (lockIds : ℕ → LockId) (first : Option LockId) : Protocol (deliveryMachine lockIds) where
  Inv world := World.Fenced lockIds first world
  Guar tid world after := world.clock ≤ after.clock ∧ ∀ other, other ≠ tid → after.leases other = world.leases other

theorem knows_stable (lockIds : ℕ → LockId) (first : Option LockId) (tid : ℕ) (phase : Phase) :
    (fencing lockIds first).Stable tid (Knows tid phase) := by
  intro other world after distinct _ _ guar now
  obtain ⟨later, leases⟩ := guar
  have same := leases tid (Ne.symm distinct)
  cases phase with
  | idle => trivial
  | read captured => exact Nat.le_trans now later
  | valid captured => simpa only [Knows, same] using now
  | stepping captured start => simpa only [Knows, same] using now

variable {world : World}

/-- A store operation that throws has its effect or none. -/
theorem fault_keeps {inv : World → Prop} {A : Type} {fault : Fault} {operation : World → A × World} {after : World}
    {answer : Option A} (applied : fault.apply operation world = (answer, after)) (still : inv world)
    (done : inv (operation world).2) : inv after := by
  rcases Fault.apply_cases applied with ⟨-, rfl⟩ | ⟨rfl, -⟩
  · exact still
  · exact done

/-- What a holder's action leaves: the invariant, a clock that has not gone back, and the leases of the others. -/
def Leaves (lockIds : ℕ → LockId) (first : Option LockId) (tid : ℕ) (world after : World) : Prop :=
  World.Fenced lockIds first after ∧ world.clock ≤ after.clock ∧
    ∀ other, other ≠ tid → after.leases other = world.leases other

variable {lockIds : ℕ → LockId} {first : Option LockId}

theorem leaves_acquire (fenced : world.Fenced lockIds first) (tid : ℕ) {now : ℕ} (captured : now ≤ world.clock) :
    Leaves lockIds first tid world (World.acquire (lockIds tid) now world).2 := by
  constructor
  · exact fenced.acquire tid captured
  · rcases World.acquire_cases (lockIds tid) now world with same | ⟨-, same⟩
    · rw [same]
      exact ⟨Nat.le_refl _, fun _ _ => rfl⟩
    · rw [same]
      exact ⟨Nat.le_refl _, fun _ _ => rfl⟩

theorem leaves_revalidate (distinct : Injective lockIds) (fenced : world.Fenced lockIds first) (tid now : ℕ) :
    Leaves lockIds first tid world (World.revalidate tid (lockIds tid) now world).2 := by
  constructor
  · exact fenced.revalidate distinct tid now
  · rcases World.revalidate_cases tid (lockIds tid) now world with same | ⟨held, -, -, same⟩
    · rw [same]
      exact ⟨Nat.le_refl _, fun _ _ => rfl⟩
    · rw [same]
      exact ⟨Nat.le_refl _, fun other foreign => update_of_ne foreign ..⟩

theorem leaves_release (distinct : Injective lockIds) (fenced : world.Fenced lockIds first) (tid : ℕ) :
    Leaves lockIds first tid world (World.release tid (lockIds tid) world).2 := by
  constructor
  · exact fenced.release distinct tid
  · rcases World.release_cases tid (lockIds tid) world with ⟨held, -, -, same⟩ | ⟨-, same⟩
    · rw [same]
      exact ⟨Nat.le_refl _, fun other foreign => update_of_ne foreign ..⟩
    · rw [same]
      exact ⟨Nat.le_refl _, fun other foreign => update_of_ne foreign ..⟩

/-- A revalidation that is answered `true` has granted a lease. -/
theorem revalidate_true {tid : ℕ} {lockId : LockId} {now : ℕ} {fault : Fault} {after : World}
    (applied : fault.apply (World.revalidate tid lockId now) world = (some true, after)) :
    ∃ lease, after.leases tid = some lease ∧ lease.captured = now := by
  rcases Fault.apply_cases applied with ⟨none, -⟩ | ⟨rfl, answered⟩
  · cases none
  · have valid := answered true rfl
    unfold World.revalidate at valid ⊢
    dsimp only at valid ⊢
    split_ifs at valid ⊢ with granted
    exact ⟨_, update_self .., rfl⟩

theorem keeps (lockIds : ℕ → LockId) (distinct : Injective lockIds) (first : Option LockId) (tid : ℕ) :
    (phases lockIds).Keeps (fencing lockIds first) (unrestricted (deliveryMachine lockIds)) tid (Knows tid) where
  stable phase := knows_stable lockIds first tid phase
  step phase action allowed world inv knows choice answer after _ performed := by
    change (if choice.time < world.clock then none else
      some (act tid (lockIds tid) action choice.fault { world with clock := choice.time })) = some (answer, after) at performed
    split_ifs at performed with back
    have later : world.clock ≤ choice.time := Nat.le_of_not_lt back
    have fenced := inv.wait later
    have performed := some.inj performed
    cases action with
    | now =>
      obtain ⟨rfl, rfl⟩ := Prod.mk.inj performed
      refine ⟨fenced, ⟨later, fun _ _ => rfl⟩, ?_⟩
      cases phase with
      | valid captured =>
        obtain ⟨lease, leased, same⟩ := knows
        exact ⟨lease, leased, same, Nat.le_trans (inv.granted tid lease leased) later⟩
      | _ => exact Nat.le_refl _
    | acquire now =>
      cases phase with
      | read captured =>
        obtain rfl := allowed
        obtain ⟨kept, clock, leases⟩ := fault_keeps performed ⟨fenced, Nat.le_refl _, fun _ _ => rfl⟩
          (leaves_acquire fenced tid (Nat.le_trans knows later))
        exact ⟨kept, ⟨Nat.le_trans later clock, leases⟩, trivial⟩
      | _ => cases allowed
    | revalidate now =>
      obtain ⟨kept, clock, leases⟩ := fault_keeps performed ⟨fenced, Nat.le_refl _, fun _ _ => rfl⟩
        (leaves_revalidate distinct fenced tid now)
      refine ⟨kept, ⟨Nat.le_trans later clock, leases⟩, ?_⟩
      cases answer with
      | none => cases phase <;> trivial
      | some valid =>
        cases valid with
        | false => cases phase <;> trivial
        | true =>
          have granted := revalidate_true performed
          cases phase <;> exact granted
    | release =>
      obtain ⟨kept, clock, leases⟩ := fault_keeps performed ⟨fenced, Nat.le_refl _, fun _ _ => rfl⟩
        (leaves_release distinct fenced tid)
      refine ⟨kept, ⟨Nat.le_trans later clock, leases⟩, ?_⟩
      cases phase <;> trivial
    | guarded captured start =>
      cases phase with
      | stepping written began =>
        obtain ⟨rfl, rfl⟩ := allowed
        obtain ⟨lease, leased, rfl, granted⟩ := knows
        obtain ⟨-, rfl⟩ := Prod.mk.inj performed
        exact ⟨fenced.guarded leased granted, ⟨later, fun _ _ => rfl⟩, trivial⟩
      | _ => cases allowed

theorem Call.follows (lockIds : ℕ → LockId) (call : Call) :
    (phases lockIds).Follows call.serve (fun _ phase => phase = .idle) Phase.idle := by
  cases call with
  | acquire =>
    apply Follows.ask trivial
    intro now
    exact Follows.ask rfl fun _ => rfl
  | guarded =>
    apply Follows.ask trivial
    intro now
    apply Follows.ask rfl
    intro answer
    cases answer with
    | none => exact rfl
    | some valid =>
      cases valid with
      | false => exact rfl
      | true =>
        apply Follows.ask trivial
        intro start
        exact Follows.call ⟨rfl, rfl⟩ fun _ => rfl
  | release => exact Follows.ask trivial fun _ => rfl

theorem hold_follows (lockIds : ℕ → LockId) (calls : List Call) :
    (phases lockIds).Follows (hold calls) anyhow Phase.idle := by
  induction calls with
  | nil => trivial
  | cons call calls ih =>
    apply Follows.bind
    apply (call.follows lockIds).mono
    rintro _ _ rfl
    exact ih

theorem fenced (distinct : Injective lockIds) {clock : ℕ} {lock : Option DeliveryLock}
    {calls : ℕ → List Call} {config : (deliveryMachine lockIds).Config}
    (run : Run (unrestricted (deliveryMachine lockIds)) (holding lockIds clock lock calls) config) :
    World.Fenced lockIds (lock.map DeliveryLock.id) config.world := by
  have start : (fencing lockIds (lock.map DeliveryLock.id)).Inv (holding lockIds clock lock calls).world :=
    fenced_start lockIds clock lock
  exact sound (keeps lockIds distinct (lock.map DeliveryLock.id)) Phase.idle start (fun _ => trivial)
    (fun tid => hold_follows lockIds (calls tid)) run

/-- A revalidation succeeds only for the token that took the lock last; a release leaves the lock of another holder
where it is; and guarded steps of two holders that end in time, by what their revalidations captured, do not overlap. -/
theorem delivery_lock_fences {lockIds : ℕ → LockId} (distinct : Injective lockIds) {clock : ℕ}
    {lock : Option DeliveryLock} {calls : ℕ → List Call} {config : (deliveryMachine lockIds).Config}
    (run : Run (unrestricted (deliveryMachine lockIds)) (holding lockIds clock lock calls) config) :
    RevalidatedByLast (lock.map DeliveryLock.id) config.world.log ∧
    (∀ tid choice answer after, (deliveryMachine lockIds).perform tid .release choice config.world = some (answer, after) →
      ∀ held, config.world.lock = some held → held.id ≠ lockIds tid → after.lock = some held) ∧
    NoOverlap config.world.log := by
  have fenced := fenced distinct run
  refine ⟨fenced.last, ?_, fenced.apart⟩
  intro tid choice answer after performed held stored foreign
  change (if choice.time < config.world.clock then none else
    some (choice.fault.apply (World.release tid (lockIds tid)) { config.world with clock := choice.time })) =
      some (answer, after) at performed
  split_ifs at performed
  apply fault_keeps (some.inj performed) stored
  rcases World.release_cases tid (lockIds tid) { config.world with clock := choice.time } with
    ⟨other, found, mine, -⟩ | ⟨-, same⟩
  · obtain rfl := some.inj (stored.symm.trans found)
    exact absurd mine foreign
  · rw [same]
    exact stored

/-- One holder is superseded after its lease has expired, and releases late. -/
def takeover : ℕ → List Call
  | 0 => [.acquire, .guarded, .release]
  | 1 => [.acquire, .guarded]
  | _ => []

theorem takeover_fenced : ∃ config : (deliveryMachine fun tid => ⟨tid, 0⟩).Config,
    Run (unrestricted _) (holding (fun tid => ⟨tid, 0⟩) 0 none takeover) config ∧
    config.world.log.length = 6 ∧ NoOverlap config.world.log := by
  have distinct : Injective fun tid => LockId.mk tid 0 := fun _ _ same => (LockId.mk.inj same).1
  obtain ⟨config, run, logged⟩ := Config.exec_reaches (unrestricted _) (holding (fun tid => ⟨tid, 0⟩) 0 none takeover)
    [(0, ⟨0, .none⟩), (0, ⟨1, .none⟩), (0, ⟨10, .none⟩), (0, ⟨11, .none⟩), (0, ⟨12, .none⟩), (0, ⟨90, .none⟩),
      (1, ⟨300010, .none⟩), (1, ⟨300011, .none⟩), (1, ⟨300012, .none⟩), (1, ⟨300013, .none⟩), (0, ⟨300014, .none⟩),
      (1, ⟨300015, .none⟩), (1, ⟨300020, .none⟩)] (fun world => world.log.length = 6) (by decide +kernel)
  exact ⟨config, run, of_decide_eq_true logged, (delivery_lock_fences distinct run).2.2⟩

end MppRouter.Playground.Channel.Delivery
