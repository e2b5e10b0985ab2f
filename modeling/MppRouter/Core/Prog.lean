import Mathlib.Data.Nat.Notation
import Mathlib.Logic.Function.Basic
import Mathlib.Logic.Relation

/-! # Interleaved programs over a shared world

A program is a tree of atomic actions: it performs an action, receives the answer and goes on. A
machine says what each action does to the shared world, given a choice of the environment. Threads
run such programs against one world in any order; a thread that is never scheduled again has
crashed or stalled where it stands.
-/

namespace Concurrent

open Function Option

/-- A sequential program: a result, or an action with one continuation for every answer. -/
inductive Prog (Action : Type) (Answer : Action → Type) (α : Type) : Type
  | pure (value : α)
  | act (action : Action) (rest : Answer action → Prog Action Answer α)

namespace Prog

variable {Action : Type} {Answer : Action → Type} {α β : Type}

/-- Run a program and continue with its result. -/
def bind : Prog Action Answer α → (α → Prog Action Answer β) → Prog Action Answer β
  | .pure value, next => next value
  | .act action rest, next => .act action fun answer => (rest answer).bind next

instance : Monad (Prog Action Answer) where
  pure := Prog.pure
  bind := Prog.bind

@[simp] theorem pure_bind (value : α) (next : α → Prog Action Answer β) :
    (Pure.pure value : Prog Action Answer α) >>= next = next value := rfl

@[simp] theorem act_bind (action : Action) (rest : Answer action → Prog Action Answer α)
    (next : α → Prog Action Answer β) :
    Prog.act action rest >>= next = Prog.act action fun answer => rest answer >>= next := rfl

/-- Perform one action and return its answer. -/
def call (action : Action) : Prog Action Answer (Answer action) := .act action .pure

@[simp] theorem call_bind (action : Action) (next : Answer action → Prog Action Answer β) :
    call action >>= next = .act action next := rfl

end Prog

/-- The actions of a machine and what a thread performing one does to the world. The environment's
choice settles what the code does not decide; a choice that cannot occur performs nothing. -/
structure Machine where
  Action : Type
  Answer : Action → Type
  Choice : Type
  World : Type
  perform : ℕ → (action : Action) → Choice → World → Option (Answer action × World)

namespace Machine

variable (S : Machine)

/-- The threads of a machine, with the world they share. -/
structure Config where
  world : S.World
  threads : ℕ → Prog S.Action S.Answer Unit

/-- A condition on single steps: the thread, its action, the environment's choice and the world. -/
abbrev Admits := ℕ → S.Action → S.Choice → S.World → Prop

/-- Every step is admitted. -/
def unrestricted : S.Admits := fun _ _ _ _ => True

variable {S}

/-- It is decidable what is admitted. -/
abbrev Admits.Decides (admits : S.Admits) := ∀ tid action choice world, Decidable (admits tid action choice world)

/-- One thread performs its next action. -/
inductive Step (admits : S.Admits) : S.Config → S.Config → Prop
  | mk {config : S.Config} {tid : ℕ} {action : S.Action} {choice : S.Choice}
      {rest : S.Answer action → Prog S.Action S.Answer Unit} {answer : S.Answer action} {world : S.World}
      (next : config.threads tid = .act action rest)
      (admitted : admits tid action choice config.world)
      (performed : S.perform tid action choice config.world = some (answer, world)) :
      Step admits config ⟨world, update config.threads tid (rest answer)⟩

/-- Any finite interleaving of admitted steps. -/
abbrev Run (admits : S.Admits) : S.Config → S.Config → Prop := Relation.ReflTransGen (Step admits)

/-- Execute one step of a schedule, when it is possible and admitted. -/
def Config.next (admits : S.Admits) [admits.Decides] (config : S.Config) (tid : ℕ) (choice : S.Choice) : Option S.Config :=
  match config.threads tid with
  | .pure _ => none
  | .act action rest =>
    if admits tid action choice config.world then
      match S.perform tid action choice config.world with
      | none => none
      | some (answer, world) => some ⟨world, update config.threads tid (rest answer)⟩
    else none

/-- Execute a schedule: which thread moves, and what the environment chooses. -/
def Config.exec (admits : S.Admits) [admits.Decides] : S.Config → List (ℕ × S.Choice) → Option S.Config
  | config, [] => some config
  | config, (tid, choice) :: schedule =>
    match config.next admits tid choice with
    | none => none
    | some after => after.exec admits schedule

instance (tid : ℕ) (action : S.Action) (choice : S.Choice) (world : S.World) :
    Decidable (unrestricted S tid action choice world) := inferInstanceAs (Decidable True)

section Exec

variable {admits : S.Admits} [admits.Decides]

theorem Config.next_step {config after : S.Config} {tid : ℕ} {choice : S.Choice}
    (executed : config.next admits tid choice = some after) : Step admits config after := by
  unfold Config.next at executed
  split at executed
  next => cases executed
  next action rest next =>
    split at executed
    next admitted =>
      split at executed
      next => cases executed
      next answer world performed =>
        cases executed
        exact .mk next admitted performed
    next => cases executed

/-- An executed schedule is a run. -/
theorem Config.exec_run {config after : S.Config} {schedule : List (ℕ × S.Choice)}
    (executed : config.exec admits schedule = some after) : Run admits config after := by
  induction schedule generalizing config with
  | nil =>
    cases executed
    exact .refl
  | cons move rest ih =>
    unfold Config.exec at executed
    split at executed
    next => cases executed
    next middle stepped => exact .head (Config.next_step stepped) (ih executed)

/-- A schedule whose last world passes a test shows that a run reaches such a world. -/
theorem Config.exec_reaches (admits : S.Admits) [admits.Decides] (config : S.Config)
    (schedule : List (ℕ × S.Choice)) (test : S.World → Bool)
    (executed : (config.exec admits schedule).any (fun after => test after.world) = true) :
    ∃ after, Run admits config after ∧ test after.world = true := by
  cases reached : config.exec admits schedule with
  | none =>
    rw [reached] at executed
    cases executed
  | some after =>
    rw [reached] at executed
    exact ⟨after, Config.exec_run reached, executed⟩

/-- Two schedules in a row whose last worlds pass a test together show two runs in a row. -/
theorem Config.exec_reaches_then (admits : S.Admits) [admits.Decides] (config : S.Config)
    (first second : List (ℕ × S.Choice)) (test : S.World → S.World → Bool)
    (executed : (config.exec admits first).any (fun middle =>
      (middle.exec admits second).any fun after => test middle.world after.world) = true) :
    ∃ middle after, Run admits config middle ∧ Run admits middle after ∧ test middle.world after.world = true := by
  obtain ⟨middle, reached, passed⟩ := (any_eq_true _ _).mp executed
  obtain ⟨after, reachedThen, passedThen⟩ := (any_eq_true _ _).mp passed
  exact ⟨middle, after, Config.exec_run reached, Config.exec_run reachedThen, passedThen⟩

/-- A schedule and one more step whose worlds pass a test show a run and a step from its end. -/
theorem Config.exec_steps (admits : S.Admits) [admits.Decides] (config : S.Config)
    (schedule : List (ℕ × S.Choice)) (tid : ℕ) (choice : S.Choice) (test : S.World → S.World → Bool)
    (executed : (config.exec admits schedule).any (fun before =>
      (before.next admits tid choice).any fun after => test before.world after.world) = true) :
    ∃ before after, Run admits config before ∧ Step admits before after ∧ test before.world after.world = true := by
  obtain ⟨before, reached, passed⟩ := (any_eq_true _ _).mp executed
  obtain ⟨after, stepped, passedThen⟩ := (any_eq_true _ _).mp passed
  exact ⟨before, after, Config.exec_run reached, Config.next_step stepped, passedThen⟩

end Exec

section Runs

variable {admits : S.Admits} {start after : S.Config}

/-- A run whose reachable moves meet a stronger condition is a run under that condition. -/
theorem Run.admitted {stronger : S.Admits} (run : Run admits start after)
    (meets : ∀ middle tid action choice, Run admits start middle → (∃ rest, middle.threads tid = .act action rest) →
      admits tid action choice middle.world → stronger tid action choice middle.world) :
    Run stronger start after := by
  induction run with
  | refl => exact .refl
  | tail earlier step ih =>
    refine ih.tail ?_
    cases step with
    | mk next admitted performed => exact .mk next (meets _ _ _ _ earlier ⟨_, next⟩ admitted) performed

/-- One thread performs its next action, or dies where it stands. -/
inductive CrashStep (admits : S.Admits) : S.Config → S.Config → Prop
  | step {config after : S.Config} (step : Step admits config after) : CrashStep admits config after
  | crash (config : S.Config) (tid : ℕ) :
      CrashStep admits config ⟨config.world, update config.threads tid (.pure ())⟩

/-- Any finite interleaving of admitted steps and crashes. -/
abbrev CrashRun (admits : S.Admits) : S.Config → S.Config → Prop := Relation.ReflTransGen (CrashStep admits)

/-- No thread has to die. -/
theorem Run.crashing (run : Run admits start after) : CrashRun admits start after :=
  Relation.ReflTransGen.mono (fun _ _ step => CrashStep.step step) _ _ run

/-- A run with crashes is a run in which the crashed threads stand still. -/
theorem CrashRun.survivors (run : CrashRun admits start after) : ∃ config, Run admits start config ∧
    config.world = after.world ∧ ∀ tid, after.threads tid = config.threads tid ∨ after.threads tid = .pure () := by
  induction run with
  | refl => exact ⟨start, .refl, rfl, fun _ => .inl rfl⟩
  | tail _ step ih =>
    obtain ⟨config, run, same, threads⟩ := ih
    cases step with
    | step step =>
      cases step with | @mk tid action choice rest answer world next admitted performed => ?_
      have standing : config.threads tid = .act action rest := by
        rcases threads tid with alive | dead
        · exact alive.symm.trans next
        · cases next.symm.trans dead
      rw [← same] at admitted performed
      refine ⟨_, run.tail (.mk standing admitted performed), rfl, fun other => ?_⟩
      by_cases moved : other = tid
      · subst moved
        left
        simp only [update_self]
      · simp only [update_of_ne moved]
        exact threads other
    | crash tid =>
      refine ⟨config, run, same, fun other => ?_⟩
      by_cases moved : other = tid
      · subst moved
        right
        simp only [update_self]
      · simp only [update_of_ne moved]
        exact threads other

end Runs

/-! ## One thread alone -/

variable (S)

/-- Let a program move alone, under these choices: what is left of it, and the world it leads to. -/
def alone (tid : ℕ) (program : Prog S.Action S.Answer Unit) (world : S.World) :
    List S.Choice → Option (Prog S.Action S.Answer Unit × S.World)
  | [] => some (program, world)
  | choice :: choices =>
    match program with
    | .pure _ => none
    | .act action rest =>
      match S.perform tid action choice world with
      | none => none
      | some (answer, after) => alone tid (rest answer) after choices

variable {S}

/-- What a thread does alone is a run that leaves the other threads where they are. -/
theorem alone_run {config : S.Config} {tid : ℕ} {choices : List S.Choice}
    {program : Prog S.Action S.Answer Unit} {world : S.World}
    (moved : alone S tid (config.threads tid) config.world choices = some (program, world)) :
    Run (unrestricted S) config ⟨world, update config.threads tid program⟩ := by
  induction choices generalizing config with
  | nil =>
    simp only [alone, some.injEq, Prod.mk.injEq] at moved
    obtain ⟨rfl, rfl⟩ := moved
    rw [update_eq_self]
  | cons choice choices ih =>
    cases next : config.threads tid with
    | pure value =>
      simp only [next, alone] at moved
      cases moved
    | act action rest =>
      simp only [next, alone] at moved
      cases performed : S.perform tid action choice config.world with
      | none =>
        rw [performed] at moved
        cases moved
      | some result =>
        obtain ⟨answer, after⟩ := result
        rw [performed] at moved
        let middle : S.Config := ⟨after, update config.threads tid (rest answer)⟩
        have step : Step (unrestricted S) config middle := .mk next trivial performed
        have later : Run (unrestricted S) middle ⟨world, update middle.threads tid program⟩ := by
          apply ih
          simpa only [middle, update_self] using moved
        simp only [middle, update_idem] at later
        exact .head step later

end Machine

end Concurrent
