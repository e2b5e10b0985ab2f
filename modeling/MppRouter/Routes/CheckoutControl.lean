import MppRouter.Core.Throwing
import MppRouter.Mpp.Decision
import Mathlib.Data.Int.Notation
import Mathlib.Tactic.SplitIfs

/-! # The checkout switch

Operators stop and resume checkout delivery by one versioned key. A resume commits on the version its operator looked
at, so that a write in between makes it fail. A stop that finds the switch stopped writes nothing: the version stands
still, and a resume that was decided before the stop goes through after it.
-/

namespace MppRouter.Routes.CheckoutControl

open Concurrent Machine Mpp List

/-! ## The switch -/

structure ControlRequest where
  reason : String
  actor : String
  requestId : String
  deriving DecidableEq, Repr

structure CheckoutControlState where
  paused : Bool
  reason : Option String
  actor : Option String
  requestId : Option String
  at_ : Option ℕ
  deriving DecidableEq, Repr

/-- What `parseState` makes of a stored text that is not empty. -/
inductive Switch where
  | state (state : CheckoutControlState)
  | corrupt
  deriving DecidableEq, Repr

structure CheckoutControlRead where
  paused : Bool
  /-- Minus one where the switch could not be read. -/
  version : ℤ
  state : Option CheckoutControlState
  error : Option String
  deriving DecidableEq, Repr

/-- What a read of the switch shows; one that fails shows it paused. -/
def controlRead : Option (Option Switch × ℕ) → CheckoutControlRead
  | none => ⟨true, -1, none, some "switch unreadable"⟩
  | some (none, version) => ⟨false, version, none, none⟩
  | some (some .corrupt, version) => ⟨true, version, none, some "switch value unparseable"⟩
  | some (some (.state state), version) => ⟨state.paused, version, some state, none⟩

def ControlRequest.writes (req : ControlRequest) (paused : Bool) (now : ℕ) : CheckoutControlState :=
  ⟨paused, some req.reason, some req.actor, some req.requestId, some now⟩

/-- A switch that is paused by an earlier stop is left alone. -/
def pauseSwitch (state : CheckoutControlState) (current : Option Switch) : Decision Switch (Bool × CheckoutControlState) :=
  match current with
  | some (.state cur) => if cur.paused then .noop (false, cur) else .set (.state state) (true, state)
  | _ => .set (.state state) (true, state)

inductive AuditAction where
  | stop | resume
  deriving DecidableEq, Repr

structure AuditEntry where
  action : AuditAction
  request : ControlRequest
  before : CheckoutControlRead
  changed : Bool
  at_ : ℕ
  deriving DecidableEq, Repr

/-! ## The machine -/

/-- What happens to the switch, as far as operators rely on it. -/
inductive Event where
  /-- Somebody was shown the switch at this version. -/
  | shown (version : ℕ)
  /-- A stop was accepted; did it write? -/
  | stopped (changed : Bool)
  /-- A resume that carries this version committed. -/
  | resumed (version : ℕ)
  deriving DecidableEq, Repr

structure World where
  switch : Option Switch
  version : ℕ
  audit : List AuditEntry := []
  /-- Newest first. -/
  log : List Event := []

inductive Action where
  | casRead
  /-- The update of a stop. -/
  | casUpdate (state : CheckoutControlState)
  /-- The single commit of a resume. -/
  | casCommit (expectedVersion : ℕ) (state : CheckoutControlState)
  | appendAudit (entry : AuditEntry)
  deriving DecidableEq

/-- An operation on the store may throw. -/
@[reducible] def Action.Answer : Action → Type
  | .casRead => Option (Option Switch × ℕ)
  | .casUpdate _ => Option (Bool × CheckoutControlState)
  | .casCommit _ _ => Option Bool
  | .appendAudit _ => Option Unit

def World.shown (world : World) : (Option Switch × ℕ) × World :=
  ((world.switch, world.version), { world with log := .shown world.version :: world.log })

def World.stop (state : CheckoutControlState) (world : World) : (Bool × CheckoutControlState) × World :=
  let decision := pauseSwitch state world.switch
  let (changed, stored) := decision.result
  ((changed, stored), { world with
    switch := decision.after world.switch
    version := if changed then world.version + 1 else world.version
    log := .stopped changed :: world.log })

def World.commit (expectedVersion : ℕ) (state : CheckoutControlState) (world : World) : Bool × World :=
  if world.version ≠ expectedVersion then (false, world)
  else (true, { world with
    switch := some (.state state), version := expectedVersion + 1, log := .resumed expectedVersion :: world.log })

def World.appendAudit (entry : AuditEntry) (world : World) : Unit × World :=
  ((), { world with audit := entry :: world.audit })

def perform : (action : Action) → Fault → World → action.Answer × World
  | .casRead, fault, world => fault.apply World.shown world
  | .casUpdate state, fault, world => fault.apply (World.stop state) world
  | .casCommit expectedVersion state, fault, world => fault.apply (World.commit expectedVersion state) world
  | .appendAudit entry, fault, world => fault.apply (World.appendAudit entry) world

abbrev controlMachine : Machine where
  Action := Action
  Answer := Action.Answer
  Choice := Fault
  World := World
  perform _ action fault world := some (perform action fault world)

abbrev Handler (α : Type) := Throwing Action Action.Answer α

/-! ## Stop and resume -/

/-- Read the switch; never throws. -/
def readCheckoutControl : Handler CheckoutControlRead := OptionT.lift do
  let read ← Prog.call Action.casRead
  pure (controlRead read)

/-- An audit entry that cannot be written is only logged. -/
def appendAudit (action : AuditAction) (request : ControlRequest) (before : CheckoutControlRead) (changed : Bool)
    (now : ℕ) : Handler Unit := OptionT.lift do
  let _ ← Prog.call (Action.appendAudit ⟨action, request, before, changed, now⟩)
  pure ()

structure StopResult where
  changed : Bool
  previous : CheckoutControlRead
  state : CheckoutControlState
  deriving DecidableEq, Repr

/-- Pause delivery. -/
def stopCheckout (req : ControlRequest) (now : ℕ) : Handler StopResult := do
  let previous ← readCheckoutControl
  let (changed, state) ← OptionT.mk (Prog.call (Action.casUpdate (req.writes true now)))
  appendAudit .stop req previous changed now
  pure ⟨changed, previous, state⟩

inductive ResumeResult where
  | ok (changed : Bool) (state : Option CheckoutControlState)
  | conflict (current : CheckoutControlRead)
  deriving DecidableEq, Repr

/-- Resume delivery, only if the switch is still at the version the operator looked at. -/
def resumeCheckout (req : ControlRequest) (expectedVersion now : ℕ) : Handler ResumeResult := do
  let current ← readCheckoutControl
  if current.error.isSome then pure (.conflict current)
  else if !current.paused then do
    appendAudit .resume req current false now
    pure (.ok false current.state)
  else if current.version ≠ expectedVersion then pure (.conflict current)
  else do
    let state := req.writes false now
    let committed ← OptionT.mk (Prog.call (Action.casCommit expectedVersion state))
    if committed then do
      appendAudit .resume req current true now
      pure (.ok true (some state))
    else do
      let changed ← readCheckoutControl
      pure (.conflict changed)

/-- What reaches the switch: operators, and deliveries that look at it. -/
inductive Request where
  | status
  | stop (req : ControlRequest) (now : ℕ)
  | resume (req : ControlRequest) (expectedVersion now : ℕ)
  deriving DecidableEq

/-- An answer shows the switch as it is afterwards. -/
def Request.handler : Request → Handler Unit
  | .status => do
    let _ ← readCheckoutControl
    pure ()
  | .stop req now => do
    let _ ← stopCheckout req now
    let _ ← readCheckoutControl
    pure ()
  | .resume req expectedVersion now => do
    match ← resumeCheckout req expectedVersion now with
    | .conflict _ => pure ()
    | .ok _ _ => do
      let _ ← readCheckoutControl
      pure ()

def Request.serve (request : Request) : Prog Action Action.Answer Unit := do
  let _ ← request.handler.run
  pure ()

/-- Any requests at once, over a switch in any state. -/
def serving (switch : Option Switch) (version : ℕ) (requests : ℕ → Request) : controlMachine.Config :=
  ⟨{ switch, version }, fun tid => (requests tid).serve⟩

/-! ## Stops between -/

/-- No stop was accepted between a read of a version and the commit of a resume that carries it. -/
def NoStopUndone (log : List Event) : Prop :=
  ∀ later version between earlier changed,
    log = later ++ .resumed version :: (between ++ .shown version :: earlier) → Event.stopped changed ∉ between

/-- A stop finds the switch running, or unreadable. -/
def stopWrites (action : Action) (world : World) : Bool :=
  match action with
  | .casUpdate _ =>
    match world.switch with
    | some (.state state) => !state.paused
    | _ => true
  | _ => true

abbrev StopWrites : controlMachine.Admits := fun _ action _ world => stopWrites action world = true

/-- The versions that were shown are not ahead of the switch, and behind it where a stop came after. -/
structure World.Current (world : World) : Prop where
  kept : NoStopUndone world.log
  shown : ∀ between version earlier, world.log = between ++ .shown version :: earlier → version ≤ world.version
  passed : ∀ between version earlier changed, world.log = between ++ .shown version :: earlier →
    Event.stopped changed ∈ between → version < world.version

theorem current_start (switch : Option Switch) (version : ℕ) : World.Current { switch, version } where
  kept later version between earlier changed parts := by simp at parts
  shown between version earlier parts := by simp at parts
  passed between version earlier changed parts := by simp at parts

/-- An event of another kind undoes no stop. -/
theorem NoStopUndone.cons {log : List Event} (kept : NoStopUndone log) {event : Event}
    (other : ∀ version, event ≠ .resumed version) : NoStopUndone (event :: log) := by
  intro later version between earlier changed parts
  cases later with
  | nil => exact absurd (cons.inj parts).1 (other version)
  | cons head later => exact kept later version between earlier changed (cons.inj parts).2

variable {world : World}

theorem World.Current.read (current : world.Current) :
    World.Current { world with log := .shown world.version :: world.log } where
  kept := current.kept.cons (by simp)
  shown between version earlier parts := by
    cases between with
    | nil =>
      injection (cons.inj parts).1 with same
      exact Nat.le_of_eq same.symm
    | cons head between => exact current.shown between version earlier (cons.inj parts).2
  passed between version earlier changed parts member := by
    cases between with
    | nil => cases member
    | cons head between =>
      obtain ⟨rfl, rest⟩ := cons.inj parts
      have inside : Event.stopped changed ∈ between := by simpa using member
      exact current.passed between version earlier changed rest inside

/-- A write moves the version past all that was shown. -/
theorem World.Current.write (current : world.Current) {event : Event} (switch : Option Switch)
    (kept : NoStopUndone (event :: world.log)) (other : ∀ version, event ≠ .shown version) :
    World.Current { world with switch, version := world.version + 1, log := event :: world.log } where
  kept := kept
  shown between version earlier parts := by
    cases between with
    | nil => exact absurd (cons.inj parts).1 (other version)
    | cons head between => exact Nat.le_succ_of_le (current.shown between version earlier (cons.inj parts).2)
  passed between version earlier changed parts _ := by
    cases between with
    | nil => exact absurd (cons.inj parts).1 (other version)
    | cons head between => exact Nat.lt_succ_of_le (current.shown between version earlier (cons.inj parts).2)

theorem stop_eq {state : CheckoutControlState} (writes : stopWrites (.casUpdate state) world = true) :
    (World.stop state world).2 = { world with
      switch := some (.state state), version := world.version + 1, log := .stopped true :: world.log } := by
  unfold World.stop pauseSwitch
  unfold stopWrites at writes
  split
  next cur stored =>
    simp only [stored, Bool.not_eq_true'] at writes
    rw [if_neg (by rw [writes]; exact Bool.false_ne_true)]
    rfl
  next => rfl

theorem World.Current.stop (current : world.Current) {state : CheckoutControlState}
    (writes : stopWrites (.casUpdate state) world = true) : (World.stop state world).2.Current := by
  rw [stop_eq writes]
  exact current.write _ (current.kept.cons (by simp)) (by simp)

/-- A resume that commits carries a version that no stop has passed. -/
theorem World.Current.commit (current : world.Current) (expectedVersion : ℕ)
    (state : CheckoutControlState) : (World.commit expectedVersion state world).2.Current := by
  unfold World.commit
  split_ifs with moved
  · exact current
  · obtain rfl := not_not.mp moved
    apply current.write
    · intro later version between earlier changed parts inside
      cases later with
      | nil =>
        obtain ⟨same, rest⟩ := cons.inj parts
        obtain rfl := Event.resumed.inj same
        exact absurd (current.passed between _ earlier changed rest inside) (Nat.lt_irrefl _)
      | cons head later => exact current.kept later version between earlier changed (cons.inj parts).2 inside
    · simp

/-- Every step keeps the versions current. -/
theorem step_current {before after : controlMachine.Config} (step : Step StopWrites before after)
    (current : before.world.Current) : after.world.Current := by
  cases step with | @mk tid action fault rest answer world next writes performed => ?_
  have performed := Option.some.inj performed
  cases action with
  | casRead =>
    rcases Fault.apply_cases performed with ⟨_, rfl⟩ | ⟨rfl, _⟩
    · exact current
    · exact current.read
  | casUpdate state =>
    rcases Fault.apply_cases performed with ⟨_, rfl⟩ | ⟨rfl, _⟩
    · exact current
    · exact current.stop writes
  | casCommit expectedVersion state =>
    rcases Fault.apply_cases performed with ⟨_, rfl⟩ | ⟨rfl, _⟩
    · exact current
    · exact current.commit expectedVersion state
  | appendAudit entry =>
    rcases Fault.apply_cases performed with ⟨_, rfl⟩ | ⟨rfl, _⟩
    · exact current
    · exact ⟨current.kept, current.shown, current.passed⟩

/-- As long as every stop finds a switch that is not stopped already, no resume undoes a stop that came after the read
it was decided on. -/
theorem stop_not_undone {switch : Option Switch} {version : ℕ} {requests : ℕ → Request} {config : controlMachine.Config}
    (run : Run StopWrites (serving switch version requests) config) : NoStopUndone config.world.log := by
  have current : config.world.Current := by
    induction run with
    | refl => exact current_start switch version
    | tail _ step ih => exact step_current step ih
  exact current.kept

/-! ## A second stop -/

/-- An operator stops, another looks, a third stops again, and the second resumes. -/
def operators : ℕ → Request
  | 0 => .stop ⟨"incident", "ann", "r0"⟩ 0
  | 1 => .status
  | 2 => .stop ⟨"new incident", "bob", "r2"⟩ 2
  | _ => .resume ⟨"looks fine", "eve", "r3"⟩ 1 3

def stopAndLook : List (ℕ × Fault) := [(0, .none), (0, .none), (0, .none), (0, .none), (1, .none)]

/-- A stop finds the switch running, and a resume that was decided before it fails. -/
theorem stop_not_undone_once : ∃ config, Run StopWrites (serving none 0 operators) config ∧
    NoStopUndone config.world.log ∧ config.world.log.contains (.resumed 1) = true := by
  obtain ⟨config, run, resumed⟩ := Config.exec_reaches StopWrites (serving none 0 operators)
    (stopAndLook ++ [(3, .none), (3, .none)]) (fun world => world.log.contains (.resumed 1)) (by decide +kernel)
  exact ⟨config, run, stop_not_undone run, resumed⟩

/-- The second stop writes nothing, and the resume decided before it commits. -/
theorem second_stop_undone : ∃ config, Run (unrestricted controlMachine) (serving none 0 operators) config ∧
    ¬ NoStopUndone config.world.log := by
  obtain ⟨config, run, log⟩ := Config.exec_reaches (unrestricted controlMachine) (serving none 0 operators)
    (stopAndLook ++ [(2, .none), (2, .none), (3, .none), (3, .none)])
    (fun world => world.log = [.resumed 1, .shown 1, .stopped false, .shown 1, .shown 1, .shown 1, .stopped true, .shown 0])
    (by decide +kernel)
  refine ⟨config, run, fun kept => ?_⟩
  have log := of_decide_eq_true log
  exact kept [] 1 [.shown 1, .stopped false, .shown 1] [.shown 1, .stopped true, .shown 0] false log (by decide)

end MppRouter.Routes.CheckoutControl
