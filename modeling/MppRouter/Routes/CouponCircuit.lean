import MppRouter.Core.History
import MppRouter.Core.SlidingWindow
import MppRouter.Core.Typestate
import MppRouter.Mpp.Decision

/-! # The circuit breaker of coupon redemption

Every attempt to redeem is counted in two rolling windows. The one over ten minutes opens a circuit that only an
operator closes again, the one over a minute warns. An operator who closes the circuit also clears the windows.
-/

namespace MppRouter.Routes.CouponSecurity

open Concurrent Machine Mpp Function Typestate List

/-! ## Counters and circuit -/

def warnWindowMs : ℕ := 60000
def warnThreshold : ℕ := 20
def circuitWindowMs : ℕ := 600000
def circuitThreshold : ℕ := 100
def rollingHardCap : ℕ := 2000

inductive RollingKey where
  | tenMinutes | oneMinute
  deriving DecidableEq, Repr

def RollingKey.windowMs : RollingKey → ℕ
  | .tenMinutes => circuitWindowMs
  | .oneMinute => warnWindowMs

/-- Record one request, and return how many fall inside the window. -/
def bumpRolling (windowMs now : ℕ) (ts : List ℕ) : ℕ × List ℕ :=
  let ts := ts.filter (fun t => now < t + windowMs) ++ [now]
  let ts := if rollingHardCap < ts.length then ts.drop (ts.length - rollingHardCap) else ts
  (ts.length, ts)

structure CircuitState where
  opened : Bool := false
  openedAt : Option ℕ := none
  openedReason : Option String := none
  reopenedAt : Option ℕ := none
  deriving DecidableEq, Repr

def openCircuit (reason : String) (now : ℕ) (s : CircuitState) : Decision CircuitState Bool :=
  if s.opened then .noop false
  else .set { opened := true, openedAt := some now, openedReason := some reason } true

/-- The warning is sent once a window. -/
def markWarned (now last : ℕ) : Decision ℕ Bool :=
  if now < last + warnWindowMs then .noop false else .set now true

/-! ## The machine -/

inductive Event where
  /-- An attempt read the circuit. -/
  | looked (tid : ℕ)
  | bumped (tid : ℕ) (key : RollingKey) (now count : ℕ)
  | reset (key : RollingKey)
  | opened
  | reopened
  /-- An attempt goes on to payment work. -/
  | proceeded (tid : ℕ)
  deriving DecidableEq, Repr

structure World where
  rolling : RollingKey → List ℕ := fun _ => []
  circuit : CircuitState := {}
  warned : ℕ := 0
  /-- Newest first. -/
  log : List Event := []

inductive Action where
  | readCircuit
  | bumpRolling (key : RollingKey) (now : ℕ)
  | openCircuit (reason : String) (now : ℕ)
  | markWarned (now : ℕ)
  | reset (key : RollingKey)
  | reopen (now : ℕ)
  | proceed
  deriving DecidableEq

/-- An operation on the store may throw. -/
@[reducible] def Action.Answer : Action → Type
  | .readCircuit => Option CircuitState
  | .bumpRolling _ _ => Option ℕ
  | .openCircuit _ _ => Option Bool
  | .markWarned _ => Option Bool
  | .reset _ => Option Unit
  | .reopen _ => Option CircuitState
  | .proceed => Unit

def World.note (event : Event) (world : World) : World := { world with log := event :: world.log }

def World.look (tid : ℕ) (world : World) : CircuitState × World := (world.circuit, world.note (.looked tid))

def World.bump (tid : ℕ) (key : RollingKey) (now : ℕ) (world : World) : ℕ × World :=
  let (count, ts) := bumpRolling key.windowMs now (world.rolling key)
  (count, { world with
    rolling := update world.rolling key ts, log := .bumped tid key now count :: world.log })

def World.openCircuit (reason : String) (now : ℕ) (world : World) : Bool × World :=
  match CouponSecurity.openCircuit reason now world.circuit with
  | .noop result => (result, world)
  | .set circuit result => (result, { world with circuit, log := .opened :: world.log })

def World.markWarned (now : ℕ) (world : World) : Bool × World :=
  let decision := CouponSecurity.markWarned now world.warned
  (decision.result, { world with warned := (decision.after (some world.warned)).getD 0 })

def World.reset (key : RollingKey) (world : World) : Unit × World :=
  ((), { world with rolling := update world.rolling key [], log := .reset key :: world.log })

def World.reopen (now : ℕ) (world : World) : CircuitState × World :=
  (world.circuit, { world with circuit := { reopenedAt := some now }, log := .reopened :: world.log })

def perform (tid : ℕ) : (action : Action) → Fault → World → action.Answer × World
  | .readCircuit, fault, world => fault.apply (World.look tid) world
  | .bumpRolling key now, fault, world => fault.apply (World.bump tid key now) world
  | .openCircuit reason now, fault, world => fault.apply (World.openCircuit reason now) world
  | .markWarned now, fault, world => fault.apply (World.markWarned now) world
  | .reset key, fault, world => fault.apply (World.reset key) world
  | .reopen now, fault, world => fault.apply (World.reopen now) world
  | .proceed, _, world => ((), world.note (.proceeded tid))

abbrev couponMachine : Machine where
  Action := Action
  Answer := Action.Answer
  Choice := Fault
  World := World
  perform tid action fault world := some (perform tid action fault world)

abbrev Handler (α : Type) := Throwing Action Action.Answer α

inductive TrafficDecision where
  | proceed (warnFired : Bool)
  | circuitOpen (justOpened : Bool)
  deriving DecidableEq, Repr

/-- Count this request in both windows and decide; the circuit is checked first. -/
def evaluateTraffic (now : ℕ) : Handler TrafficDecision := do
  let circuit ← OptionT.mk (Prog.call Action.readCircuit)
  if circuit.opened then pure (.circuitOpen false)
  else do
    let tenMinCount ← OptionT.mk (Prog.call (Action.bumpRolling .tenMinutes now))
    if tenMinCount > circuitThreshold then do
      let justOpened ← OptionT.mk (Prog.call (Action.openCircuit ">100 redeem POSTs in 10 min" now))
      pure (.circuitOpen justOpened)
    else do
      let oneMinCount ← OptionT.mk (Prog.call (Action.bumpRolling .oneMinute now))
      if oneMinCount > warnThreshold then do
        let warnFired ← OptionT.mk (Prog.call (Action.markWarned now))
        pure (.proceed warnFired)
      else pure (.proceed false)

/-- The operator's reopening clears the windows before it closes the circuit. -/
def reopenCircuit (now : ℕ) : Handler CircuitState := do
  let _ ← OptionT.mk (Prog.call (Action.reset .tenMinutes))
  let _ ← OptionT.mk (Prog.call (Action.reset .oneMinute))
  OptionT.mk (Prog.call (Action.reopen now))

inductive Request where
  | redeem (now : ℕ)
  | reopen (now : ℕ)
  deriving DecidableEq, Repr

/-- An attempt whose gate throws is refused. -/
def Request.serve : Request → Prog Action Action.Answer Unit
  | .redeem now => do
    match ← (evaluateTraffic now).run with
    | some (.proceed _) => Prog.call Action.proceed
    | _ => pure ()
  | .reopen now => do
    let _ ← (reopenCircuit now).run
    pure ()

/-- Any requests at once, from an empty store. -/
def serving (requests : ℕ → Request) : couponMachine.Config := ⟨{}, fun tid => (requests tid).serve⟩

/-! ## What the breaker promises -/

/-- The calls that a window has counted since it was cleared, newest first: their times, and what they were answered. -/
def calls (key : RollingKey) : List Event → List (ℕ × ℕ)
  | [] => []
  | event :: log =>
    match event with
    | .bumped _ bumped now count => if bumped = key then (now, count) :: calls key log else calls key log
    | .reset cleared => if cleared = key then [] else calls key log
    | _ => calls key log

def times (key : RollingKey) (log : List Event) : List ℕ := (calls key log).map Prod.fst

/-- The attempts that the breaker has let through since it was cleared. -/
def letThrough (log : List Event) : List ℕ :=
  ((calls .tenMinutes log).filter (·.2 ≤ circuitThreshold)).map Prod.fst

def openIn : List Event → Bool
  | [] => false
  | event :: log =>
    match event with
    | .opened => true
    | .reopened => false
    | _ => openIn log

/-- A call returns the number of calls in its window, up to the cap. -/
def Exact : List Event → Prop := Throughout fun event earlier => match event with
  | .bumped _ key now count =>
    count = min rollingHardCap (SlidingWindow.count key.windowMs now (now :: times key earlier))
  | _ => True

/-- No window of ten minutes has more attempts that were let through than the limit. -/
def Limited : List Event → Prop := Throughout fun event earlier =>
  ∀ now, SlidingWindow.count circuitWindowMs now (letThrough (event :: earlier)) ≤ circuitThreshold

/-- Whenever an attempt read the circuit, it was closed. -/
def LookedClosed (tid : ℕ) (log : List Event) : Prop :=
  ∀ between before, log = between ++ .looked tid :: before → openIn before = false

/-- An attempt is counted only if it found the circuit closed. -/
def CountedWhileClosed : List Event → Prop := Throughout fun event earlier => match event with
  | .bumped tid .tenMinutes _ _ => .looked tid ∈ earlier ∧ LookedClosed tid earlier
  | _ => True

/-- An attempt proceeds only if it was counted within the limit. -/
def ProceedsWithin : List Event → Prop := Throughout fun event earlier => match event with
  | .proceeded tid => ∃ now count, count ≤ circuitThreshold ∧ .bumped tid .tenMinutes now count ∈ earlier
  | _ => True

/-- Calls on one key are committed in the order of their times. -/
def inOrder (action : Action) (world : World) : Bool :=
  match action with
  | .bumpRolling key now => (times key world.log).all (· ≤ now)
  | _ => true

abbrev InOrder : couponMachine.Admits := fun _ action _ world => inOrder action world = true

/-! ## The invariant -/

structure World.Sound (world : World) : Prop where
  tracked : ∀ key, SlidingWindow.Tracks key.windowMs rollingHardCap (world.rolling key) (times key world.log)
  limited : ∀ now, SlidingWindow.count circuitWindowMs now (letThrough world.log) ≤ circuitThreshold
  circuit : world.circuit.opened = openIn world.log
  exactly : Exact world.log
  within : Limited world.log
  counted : CountedWhileClosed world.log
  proceeds : ProceedsWithin world.log

theorem sound_start : World.Sound {} where
  tracked _ := .start
  limited _ := Nat.zero_le _
  circuit := rfl
  exactly := throughout_nil
  within := throughout_nil
  counted := throughout_nil
  proceeds := throughout_nil

theorem windowMs_pos (key : RollingKey) : 0 < key.windowMs := by
  cases key with
  | tenMinutes => decide
  | oneMinute => decide

theorem letThrough_sublist (log : List Event) : (letThrough log).Sublist (times .tenMinutes log) :=
  filter_sublist.map Prod.fst

section Steps

variable {world : World} {tid : ℕ}

theorem World.Sound.look (sound : world.Sound) (tid : ℕ) : (World.look tid world).2.Sound where
  tracked := sound.tracked
  limited := sound.limited
  circuit := sound.circuit
  exactly := sound.exactly.cons trivial
  within := sound.within.cons sound.limited
  counted := sound.counted.cons trivial
  proceeds := sound.proceeds.cons trivial

theorem World.Sound.proceed (sound : world.Sound) {now count : ℕ} (below : count ≤ circuitThreshold)
    (counted : .bumped tid .tenMinutes now count ∈ world.log) : (world.note (.proceeded tid)).Sound where
  tracked := sound.tracked
  limited := sound.limited
  circuit := sound.circuit
  exactly := sound.exactly.cons trivial
  within := sound.within.cons sound.limited
  counted := sound.counted.cons trivial
  proceeds := sound.proceeds.cons ⟨now, count, below, counted⟩

theorem times_bumped (key bumped : RollingKey) (now count : ℕ) (log : List Event) :
    times key (.bumped tid bumped now count :: log) = if bumped = key then now :: times key log else times key log := by
  unfold times
  rw [calls]
  split_ifs with own
  · rfl
  · rfl

theorem letThrough_bumped (key : RollingKey) (now count : ℕ) (log : List Event) :
    letThrough (.bumped tid key now count :: log) =
      if key = .tenMinutes ∧ count ≤ circuitThreshold then now :: letThrough log else letThrough log := by
  unfold letThrough
  rw [calls]
  by_cases own : key = .tenMinutes
  · by_cases below : count ≤ circuitThreshold
    · rw [if_pos own, if_pos ⟨own, below⟩, filter_cons_of_pos (by simpa using below), map_cons]
    · rw [if_pos own, if_neg (fun both => below both.2), filter_cons_of_neg (by simpa using below)]
  · rw [if_neg own, if_neg (fun both => own both.1)]

/-- A call is exact, and it is let through only when its window has room. -/
theorem World.Sound.bump (sound : world.Sound) {key : RollingKey} {now : ℕ}
    (later : ∀ time ∈ times key world.log, time ≤ now)
    (looked : key = .tenMinutes → .looked tid ∈ world.log ∧ LookedClosed tid world.log) :
    (World.bump tid key now world).2.Sound := by
  have tracked := (sound.tracked key).record (windowMs_pos key) later
  have counts := tracked.length
  have limited : ∀ time, SlidingWindow.count circuitWindowMs time
      (letThrough (.bumped tid key now (SlidingWindow.record key.windowMs rollingHardCap now (world.rolling key)).length ::
        world.log)) ≤ circuitThreshold := by
    intro time
    rw [letThrough_bumped]
    split_ifs with through
    · obtain ⟨rfl, below⟩ := through
      rw [counts] at below
      apply SlidingWindow.limited_cons (letThrough_sublist world.log) later sound.limited
      change min rollingHardCap (SlidingWindow.count circuitWindowMs now _) ≤ _ at below
      rw [rollingHardCap, circuitThreshold] at *
      omega
    · exact sound.limited time
  constructor
  · intro other
    change SlidingWindow.Tracks _ _ (update world.rolling key _ other) _
    rw [World.bump, times_bumped]
    by_cases own : key = other
    · subst own
      rw [update_self, if_pos rfl]
      exact tracked
    · rw [update_of_ne (Ne.symm own), if_neg own]
      exact sound.tracked other
  · exact limited
  · exact sound.circuit
  · exact sound.exactly.cons counts
  · exact sound.within.cons limited
  · apply sound.counted.cons
    cases key with
    | tenMinutes => exact looked rfl
    | oneMinute => trivial
  · exact sound.proceeds.cons trivial

theorem World.Sound.openCircuit (sound : world.Sound) (reason : String) (now : ℕ) :
    (World.openCircuit reason now world).2.Sound := by
  unfold World.openCircuit CouponSecurity.openCircuit
  split
  next noop => exact sound
  next circuit result set =>
    split_ifs at set with opened
    obtain ⟨rfl, rfl⟩ := Decision.set.inj set
    exact ⟨sound.tracked, sound.limited, rfl, sound.exactly.cons trivial, sound.within.cons sound.limited,
      sound.counted.cons trivial, sound.proceeds.cons trivial⟩

theorem World.Sound.markWarned (sound : world.Sound) (now : ℕ) : (World.markWarned now world).2.Sound :=
  ⟨sound.tracked, sound.limited, sound.circuit, sound.exactly, sound.within, sound.counted, sound.proceeds⟩

theorem World.Sound.reopen (sound : world.Sound) (now : ℕ) : (World.reopen now world).2.Sound :=
  ⟨sound.tracked, sound.limited, rfl, sound.exactly.cons trivial, sound.within.cons sound.limited,
    sound.counted.cons trivial, sound.proceeds.cons trivial⟩

theorem World.Sound.reset (sound : world.Sound) (key : RollingKey) : (World.reset key world).2.Sound := by
  have limited : ∀ time, SlidingWindow.count circuitWindowMs time (letThrough (.reset key :: world.log)) ≤ circuitThreshold := by
    intro time
    unfold letThrough
    rw [calls]
    split_ifs with own
    · exact Nat.zero_le _
    · exact sound.limited time
  constructor
  · intro other
    change SlidingWindow.Tracks _ _ (update world.rolling key [] other) (times other (.reset key :: world.log))
    unfold times
    rw [calls]
    by_cases own : key = other
    · subst own
      rw [update_self, if_pos rfl]
      exact .start
    · rw [update_of_ne (Ne.symm own), if_neg own]
      exact sound.tracked other
  · exact limited
  · exact sound.circuit
  · exact sound.exactly.cons trivial
  · exact sound.within.cons limited
  · exact sound.counted.cons trivial
  · exact sound.proceeds.cons trivial

end Steps

/-! ## Requests keep it -/

/-- How far an attempt has come through the gate. -/
inductive Phase where
  | fresh | looked | admitted | done
  deriving DecidableEq

def phases : Typestate couponMachine where
  Phase := Phase
  allowed
    | phase, .readCircuit => phase = .fresh
    | phase, .bumpRolling .tenMinutes _ => phase = .looked
    | phase, .proceed => phase = .admitted
    | _, _ => True
  next
    | _, .readCircuit, some circuit => if circuit.opened then .done else .looked
    | _, .readCircuit, none => .done
    | _, .bumpRolling .tenMinutes _, some count => if count ≤ circuitThreshold then .admitted else .done
    | _, .bumpRolling .tenMinutes _, none => .done
    | phase, _, _ => phase

def Knows (tid : ℕ) : Phase → World → Prop
  | .fresh, world => .looked tid ∉ world.log
  | .looked, world => .looked tid ∈ world.log ∧ LookedClosed tid world.log
  | .admitted, world => ∃ now count, count ≤ circuitThreshold ∧ .bumped tid .tenMinutes now count ∈ world.log
  | .done, _ => True

/-- The log grows by one event at most, and nobody looks for another. -/
def counting : Protocol couponMachine where
  Inv world := World.Sound world
  Guar tid world after := after.log = world.log ∨
    ∃ event, after.log = event :: world.log ∧ ∀ other, other ≠ tid → event ≠ .looked other

variable {tid : ℕ}

theorem LookedClosed.cons {log : List Event} (closed : LookedClosed tid log) {event : Event}
    (other : event ≠ .looked tid) : LookedClosed tid (event :: log) := by
  intro between before parts
  obtain ⟨rest, parts⟩ := split_cons parts other
  exact closed rest before parts

theorem knows_same {phase : Phase} {world after : World} (same : after.log = world.log)
    (knows : Knows tid phase world) : Knows tid phase after := by
  cases phase with
  | fresh => simpa only [Knows, same] using knows
  | looked => simpa only [Knows, same] using knows
  | admitted => simpa only [Knows, same] using knows
  | done => trivial

/-- An action that is none of the gate's leaves an attempt where it was. -/
theorem knows_cons {phase : Phase} {world after : World} {event : Event} (grown : after.log = event :: world.log)
    (other : event ≠ .looked tid) (knows : Knows tid phase world) : Knows tid phase after := by
  cases phase with
  | fresh =>
    simp only [Knows, grown, mem_cons, not_or]
    exact ⟨Ne.symm other, knows⟩
  | looked =>
    simp only [Knows, grown]
    exact ⟨mem_cons_of_mem event knows.1, knows.2.cons other⟩
  | admitted =>
    obtain ⟨time, count, below, counted⟩ := knows
    simp only [Knows, grown]
    exact ⟨time, count, below, mem_cons_of_mem event counted⟩
  | done => trivial

theorem knows_stable (tid : ℕ) (phase : Phase) : counting.Stable tid (Knows tid phase) := by
  intro other world after distinct _ _ guar now
  rcases guar with same | ⟨event, grown, others⟩
  · exact knows_same same now
  · exact knows_cons grown (others tid (Ne.symm distinct)) now

/-- What a store operation leaves, done or not. -/
def Leaves (tid : ℕ) (world after : World) : Prop :=
  World.Sound after ∧ (after.log = world.log ∨
    ∃ event, after.log = event :: world.log ∧ ∀ other, other ≠ tid → event ≠ .looked other)

variable {fault : Fault}

theorem fault_leaves (tid : ℕ) {A : Type} {operation : World → A × World} {world after : World}
    {answer : Option A} (applied : fault.apply operation world = (answer, after)) (sound : world.Sound)
    (done : Leaves tid world (operation world).2) : Leaves tid world after := by
  rcases Fault.apply_cases applied with ⟨-, rfl⟩ | ⟨rfl, -⟩
  · exact ⟨sound, .inl rfl⟩
  · exact done

/-- An operation that looks for nobody leaves an attempt where it was. -/
theorem quiet_step {phase : Phase} {A : Type} {operation : World → A × World}
    {world after : World} {answer : Option A} (applied : fault.apply operation world = (answer, after))
    (sound : world.Sound) (knows : Knows tid phase world) (done : (operation world).2.Sound)
    (grown : (operation world).2.log = world.log ∨
      ∃ event, (operation world).2.log = event :: world.log ∧ ∀ other, event ≠ .looked other) :
    Leaves tid world after ∧ Knows tid phase after := by
  rcases Fault.apply_cases applied with ⟨-, rfl⟩ | ⟨rfl, -⟩
  · exact ⟨⟨sound, .inl rfl⟩, knows⟩
  · rcases grown with same | ⟨event, grown, quiet⟩
    · exact ⟨⟨done, .inl same⟩, knows_same same knows⟩
    · exact ⟨⟨done, .inr ⟨event, grown, fun other _ => quiet other⟩⟩, knows_cons grown (quiet tid) knows⟩

theorem openCircuit_log (reason : String) (now : ℕ) (world : World) :
    (World.openCircuit reason now world).2.log = world.log ∨
      ∃ event, (World.openCircuit reason now world).2.log = event :: world.log ∧ ∀ other, event ≠ .looked other := by
  unfold World.openCircuit
  split
  · exact .inl rfl
  · exact .inr ⟨.opened, rfl, by simp⟩

theorem look_knows {world after : World} {answer : Option CircuitState} (sound : world.Sound)
    (fresh : .looked tid ∉ world.log) (applied : fault.apply (World.look tid) world = (answer, after)) :
    Knows tid (phases.next .fresh .readCircuit answer) after := by
  rcases Fault.apply_cases applied with ⟨rfl, -⟩ | ⟨rfl, answered⟩
  · trivial
  · cases answer with
    | none => trivial
    | some circuit =>
      have same : world.circuit = circuit := answered circuit rfl
      change Knows tid (if circuit.opened then .done else .looked) _
      split_ifs with opened
      · trivial
      · refine ⟨mem_cons_self, ?_⟩
        intro between before parts
        cases between with
        | nil =>
          obtain ⟨-, rfl⟩ := cons.inj parts
          rw [← sound.circuit, same]
          exact Bool.not_eq_true _ ▸ opened
        | cons head rest =>
          have member : .looked tid ∈ world.log := by
            rw [(cons.inj parts).2]
            simp
          exact absurd member fresh

theorem bump_knows {now : ℕ} {world after : World} {answer : Option ℕ}
    (applied : fault.apply (World.bump tid .tenMinutes now) world = (answer, after)) :
    Knows tid (phases.next .looked (.bumpRolling .tenMinutes now) answer) after := by
  rcases Fault.apply_cases applied with ⟨rfl, -⟩ | ⟨rfl, answered⟩
  · trivial
  · cases answer with
    | none => trivial
    | some count =>
      obtain rfl := answered count rfl
      change Knows tid (if _ ≤ circuitThreshold then .admitted else .done) _
      split_ifs with below
      · exact ⟨now, _, below, mem_cons_self⟩
      · trivial

theorem keeps (tid : ℕ) : phases.Keeps counting InOrder tid (Knows tid) where
  stable phase := knows_stable tid phase
  step phase action allowed world sound knows choice answer after admitted performed := by
    have performed := Option.some.inj performed
    cases action with
    | readCircuit =>
      obtain rfl := allowed
      obtain ⟨kept, guar⟩ := fault_leaves tid performed sound
        ⟨sound.look tid, .inr ⟨_, rfl, fun other foreign same => foreign (Event.looked.inj same).symm⟩⟩
      exact ⟨kept, guar, look_knows sound knows performed⟩
    | bumpRolling key now =>
      have later : ∀ time ∈ times key world.log, time ≤ now := by
        simpa [InOrder, inOrder] using admitted
      cases key with
      | tenMinutes =>
        obtain rfl := allowed
        obtain ⟨kept, guar⟩ := fault_leaves tid performed sound
          ⟨sound.bump later fun _ => knows, .inr ⟨_, rfl, by simp⟩⟩
        exact ⟨kept, guar, bump_knows performed⟩
      | oneMinute =>
        obtain ⟨⟨kept, guar⟩, knows⟩ := quiet_step performed sound knows (sound.bump later nofun) (.inr ⟨_, rfl, by simp⟩)
        exact ⟨kept, guar, knows⟩
    | openCircuit reason now =>
      obtain ⟨⟨kept, guar⟩, knows⟩ := quiet_step performed sound knows (sound.openCircuit reason now)
        (openCircuit_log reason now world)
      exact ⟨kept, guar, knows⟩
    | markWarned now =>
      obtain ⟨⟨kept, guar⟩, knows⟩ := quiet_step performed sound knows (sound.markWarned now) (.inl rfl)
      exact ⟨kept, guar, knows⟩
    | reset key =>
      obtain ⟨⟨kept, guar⟩, knows⟩ := quiet_step performed sound knows (sound.reset key) (.inr ⟨_, rfl, by simp⟩)
      exact ⟨kept, guar, knows⟩
    | reopen now =>
      obtain ⟨⟨kept, guar⟩, knows⟩ := quiet_step performed sound knows (sound.reopen now) (.inr ⟨_, rfl, by simp⟩)
      exact ⟨kept, guar, knows⟩
    | proceed =>
      obtain rfl := allowed
      obtain ⟨now, count, below, counted⟩ := knows
      obtain ⟨-, rfl⟩ := Prod.mk.inj performed
      have grown : Knows tid .admitted (world.note (.proceeded tid)) :=
        ⟨now, count, below, mem_cons_of_mem _ counted⟩
      exact ⟨sound.proceed below counted, .inr ⟨_, rfl, by simp⟩, grown⟩

theorem evaluateTraffic_follows (now : ℕ) : phases.Follows (evaluateTraffic now).run
    (fun result phase => ∀ warned, result = some (.proceed warned) → phase = .admitted) Phase.fresh := by
  apply Follows.seq
  apply Follows.call rfl
  intro circuit
  cases circuit with
  | none => exact nofun
  | some circuit =>
    cases opened : circuit.opened with
    | true =>
      simp only [opened, if_true]
      exact nofun
    | false =>
      simp only [opened, Bool.false_eq_true, if_false]
      apply Follows.seq
      apply Follows.call (by simp [phases, opened])
      intro count
      cases count with
      | none => exact nofun
      | some count =>
        by_cases exceeded : count > circuitThreshold
        · simp only [exceeded, if_true]
          apply Follows.seq
          apply Follows.call trivial
          intro justOpened
          cases justOpened with
          | none => exact nofun
          | some _ => exact nofun
        · have admitted : phases.next .looked (.bumpRolling .tenMinutes now) (some count) = .admitted :=
            if_pos (Nat.le_of_not_lt exceeded)
          have looked : phases.next .fresh .readCircuit (some circuit) = .looked := by simp [phases, opened]
          simp only [exceeded, if_false, looked, admitted]
          apply Follows.seq
          apply Follows.call trivial
          intro oneMinCount
          cases oneMinCount with
          | none => exact nofun
          | some oneMinCount =>
            simp only
            split_ifs
            · apply Follows.seq
              apply Follows.call trivial
              intro warnFired
              cases warnFired with
              | none => exact nofun
              | some warnFired => exact fun _ _ => rfl
            · exact fun _ _ => rfl

theorem Request.follows (request : Request) : phases.Follows request.serve anyhow Phase.fresh := by
  cases request with
  | redeem now =>
    apply Follows.bind
    apply (evaluateTraffic_follows now).mono
    intro result phase through
    split
    next warned => exact Follows.call (through warned rfl) fun _ => trivial
    next => trivial
  | reopen now =>
    apply Follows.ask trivial
    intro first
    cases first with
    | none => trivial
    | some _ =>
      apply Follows.ask trivial
      intro second
      cases second with
      | none => trivial
      | some _ => exact Follows.ask trivial fun _ => trivial

theorem serving_sound {requests : ℕ → Request} {config : couponMachine.Config} (run : Run InOrder (serving requests) config) :
    config.world.Sound := by
  have start : counting.Inv (serving requests).world := sound_start
  have fresh : ∀ tid, Knows tid Phase.fresh (serving requests).world := fun tid => not_mem_nil
  exact sound keeps Phase.fresh start fresh (fun tid => (requests tid).follows) run

/-- A call counts exactly the calls of its window since the window was cleared; between two clearings no ten minutes
let more attempts through than the limit; an attempt is counted only if it found the circuit closed, and proceeds only
if it was counted within the limit. -/
theorem breaker_holds {requests : ℕ → Request} {config : couponMachine.Config}
    (run : Run InOrder (serving requests) config) :
    Exact config.world.log ∧ Limited config.world.log ∧ CountedWhileClosed config.world.log ∧
      ProceedsWithin config.world.log := by
  have sound := serving_sound run
  exact ⟨sound.exactly, sound.within, sound.counted, sound.proceeds⟩

/-- Three attempts, the last one more than ten minutes after the first. -/
def spread : ℕ → Request
  | 0 => .redeem 5
  | 1 => .redeem 59000
  | _ => .redeem 600006

/-- All three proceed, and the last one counts itself and the second. -/
theorem breaker_holds_spread : ∃ config, Run InOrder (serving spread) config ∧
    (∀ tid < 3, .proceeded tid ∈ config.world.log) ∧ .bumped 2 .tenMinutes 600006 2 ∈ config.world.log ∧
      Exact config.world.log ∧ Limited config.world.log ∧ CountedWhileClosed config.world.log ∧
        ProceedsWithin config.world.log := by
  obtain ⟨config, run, logged⟩ := Config.exec_reaches InOrder (serving spread)
    ((List.range 3).flatMap fun tid => List.replicate 4 (tid, .none))
    (fun world => (∀ tid < 3, .proceeded tid ∈ world.log) ∧ .bumped 2 .tenMinutes 600006 2 ∈ world.log) (by decide +kernel)
  obtain ⟨proceeded, counted⟩ := of_decide_eq_true logged
  exact ⟨config, run, proceeded, counted, breaker_holds run⟩

/-! ## A clearing in between -/

/-- A hundred attempts and one more, an operator, and one attempt that is slow; all at one time. -/
def flooding : ℕ → Request
  | 102 => .reopen 0
  | _ => .redeem 0

/-- The slow attempt reads the circuit before the others open it, and is counted when the operator has cleared the
window but has not closed the circuit yet. -/
def flood : List (ℕ × Fault) :=
  (0, .none) :: (List.range 100).flatMap (fun index => List.replicate (if index < 20 then 4 else 5) (index + 1, .none)) ++
    [(101, .none), (101, .none), (101, .none), (102, .none), (0, .none), (0, .none), (0, .none), (0, .none)]

def Event.isProceeded : Event → Bool
  | .proceeded _ => true
  | _ => false

/-- A hundred and one attempts of one time proceed, the last of them while the circuit is open. -/
theorem cleared_window_overrun : ∃ config, Run InOrder (serving flooding) config ∧
    config.world.log.countP Event.isProceeded = 101 ∧
    config.world.log.head? = some (.proceeded 0) ∧ .opened ∈ config.world.log ∧ .reopened ∉ config.world.log := by
  obtain ⟨config, run, logged⟩ := Config.exec_reaches InOrder (serving flooding) flood
    (fun world => world.log.countP Event.isProceeded = 101 ∧ world.log.head? = some (.proceeded 0) ∧
      .opened ∈ world.log ∧ .reopened ∉ world.log) (by decide +kernel)
  exact ⟨config, run, of_decide_eq_true logged⟩

end MppRouter.Routes.CouponSecurity
