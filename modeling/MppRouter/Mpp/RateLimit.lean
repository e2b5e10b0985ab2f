import Mathlib.Algebra.Order.Group.Nat
import Mathlib.Data.List.Count
import Mathlib.Data.List.Nodup
import Mathlib.Data.List.Perm.Subperm
import MppRouter.Core.Finish

/-! # Rate limits

One counter is stored under a key, of the bucket that was counted last. A call captures its clock, and its bucket with
it, before it reads the counter; it commits under the version it read, and starts a bucket of its own at one wherever it
finds the counter of another. As long as no call comes back to a bucket that the counter has left, the limit of the key
is a hard cap on each bucket.
-/

namespace MppRouter.Mpp.RateLimit

open Concurrent Machine

/-! ## The counter and its calls -/

/-- What a counter counts: a UTC day, or a bucket of a short window; nothing before it is first written. -/
inductive Bucket where
  | unset
  | utcDay (day : ℤ)
  | window (index : ℤ)
  deriving DecidableEq, Repr

structure CounterState where
  n : ℤ
  day : Bucket
  deriving DecidableEq, Repr

/-- A key of the store, its value read as the counter that its text is the JSON of. -/
structure Cell where
  value : Option CounterState := none
  version : ℕ := 0
  deriving DecidableEq, Repr

def parseCounter (raw : Option CounterState) : CounterState := raw.getD ⟨0, .unset⟩

/-- UTC day of a clock reading in milliseconds. -/
def utcDateKey (now : ℤ) : Bucket := .utcDay (now / 86400000)

def MAX_CAS_RETRIES : ℕ := 25

inductive CommitResponse where
  | ok
  | conflict (current : Cell)
  deriving DecidableEq, Repr

structure DailyLimitResult where
  ok : Bool
  used : ℤ
  limit : ℤ
  deriving DecidableEq, Repr

/-- A message to the store, or the return of a call to its caller. -/
inductive Action where
  | read (key : String)
  | commit (key : String) (expectedVersion : ℕ) (value : CounterState)
  | answer (key : String) (bucket : Bucket) (result : DailyLimitResult)
  deriving DecidableEq, Repr

@[reducible] def Action.Answer : Action → Type
  | .read _ => Cell
  | .commit .. => CommitResponse
  | .answer .. => Unit

/-- What a call of a thread counted, or returned. -/
structure Slot where
  tid : ℕ
  key : String
  bucket : Bucket
  deriving DecidableEq, Repr

structure World where
  cells : String → Cell := fun _ => {}
  /-- Every commit that was stored, newest first. -/
  counted : List Slot := []
  /-- Every call that returned, newest first, and whether with `ok`. -/
  returned : List (Slot × Bool) := []

def perform (tid : ℕ) : (action : Action) → World → action.Answer × World
  | .read key, world => (world.cells key, world)
  | .commit key expectedVersion value, world =>
    if (world.cells key).version ≠ expectedVersion then (.conflict (world.cells key), world)
    else (.ok, { world with
      cells := Function.update world.cells key ⟨some value, expectedVersion + 1⟩
      counted := ⟨tid, key, value.day⟩ :: world.counted })
  | .answer key bucket result, world => ((), { world with returned := (⟨tid, key, bucket⟩, result.ok) :: world.returned })

abbrev rateMachine : Machine where
  Action := Action
  Answer := Action.Answer
  Choice := Unit
  World := World
  perform tid action _ world := some (perform tid action world)

abbrev Client (α : Type) := Prog Action Action.Answer α

def ask (action : Action) : Client action.Answer := Prog.call action

/-- The calls of a bucket that a counter has counted. -/
def used (bucket : Bucket) (cell : Cell) : ℤ :=
  let c := parseCounter cell.value
  if c.day = bucket then c.n else 0

/-- The rounds that are left of a check, from the cell received last; nothing is returned where they run out. -/
def bumpLoop (key : String) (limit : ℤ) (bucket : Bucket) : ℕ → Cell → Client (Option DailyLimitResult)
  | 0, _ => pure none
  | attempts + 1, cell =>
    if used bucket cell ≥ limit then pure (some ⟨false, used bucket cell, limit⟩)
    else do
      match ← ask (.commit key cell.version ⟨used bucket cell + 1, bucket⟩) with
      | .ok => pure (some ⟨true, used bucket cell + 1, limit⟩)
      | .conflict current => bumpLoop key limit bucket attempts current

def checkAndBump (key : String) (limit : ℤ) (bucket : Bucket) : Client (Option DailyLimitResult) := do
  let cell ← ask (.read key)
  bumpLoop key limit bucket MAX_CAS_RETRIES cell

def checkAndBumpDailyLimit (key : String) (perDay now : ℤ) : Client (Option DailyLimitResult) :=
  checkAndBump key perDay (utcDateKey now)

def checkAndBumpWindowLimit (key : String) (limit windowMs now : ℤ) : Client (Option DailyLimitResult) :=
  checkAndBump key limit (.window (now / windowMs))

/-- The peek of the unpaid leg, which consumes nothing. -/
def peekDailyLimit (key : String) (perDay now : ℤ) : Client DailyLimitResult := do
  let cell ← ask (.read key)
  pure ⟨used (utcDateKey now) cell < perDay, used (utcDateKey now) cell, perDay⟩

/-- A call, with the clock that it captured. -/
inductive Party where
  | idle
  | daily (key : String) (perDay now : ℤ)
  | window (key : String) (limit windowMs now : ℤ)
  | peek (key : String) (perDay now : ℤ)
  deriving DecidableEq, Repr

/-- A check returns its result to its caller, unless it throws. -/
def returning (key : String) (bucket : Bucket) (check : Client (Option DailyLimitResult)) : Client Unit := do
  match ← check with
  | none => pure ()
  | some result => ask (.answer key bucket result)

def Party.program : Party → Client Unit
  | .idle => pure ()
  | .daily key perDay now => returning key (utcDateKey now) (checkAndBumpDailyLimit key perDay now)
  | .window key limit windowMs now => returning key (.window (now / windowMs)) (checkAndBumpWindowLimit key limit windowMs now)
  | .peek key perDay now => do
    let _ ← peekDailyLimit key perDay now
    pure ()

def rateLimits (parties : ℕ → Party) : rateMachine.Config := ⟨{}, fun tid => (parties tid).program⟩

/-- How many calls of a bucket were counted under a key. -/
def World.count (world : World) (key : String) (bucket : Bucket) : ℕ :=
  world.counted.countP fun slot => slot.key = key ∧ slot.bucket = bucket

/-- The calls of a bucket that returned with `ok`. -/
def World.admitted (world : World) (key : String) (bucket : Bucket) : List Slot :=
  (world.returned.filter fun entry => entry.2 ∧ entry.1.key = key ∧ entry.1.bucket = bucket).map Prod.fst

/-- No commit is stored over the counter of another bucket once a call of its own bucket was counted. -/
def NeverReturns : rateMachine.Admits := fun _ action _ world =>
  match action with
  | .commit key expectedVersion value => (world.cells key).version = expectedVersion →
      (parseCounter (world.cells key).value).day ≠ value.day → world.count key value.day = 0
  | _ => True

instance (tid : ℕ) (action : Action) (choice : Unit) (world : World) :
    Decidable (NeverReturns tid action choice world) :=
  match action with
  | .commit key expectedVersion value =>
    inferInstanceAs (Decidable ((world.cells key).version = expectedVersion →
      (parseCounter (world.cells key).value).day ≠ value.day → world.count key value.day = 0))
  | .read _ | .answer .. => inferInstanceAs (Decidable True)

end MppRouter.Mpp.RateLimit
