import MppRouter.Core.History

/-! # A watch that says when it sees nothing

A watch reads one thing again and again, stores what it knows and speaks when something is due. What it stores is replaced
at once where nothing is due, and otherwise only when what it says was delivered. A watch that reports its own blindness
counts the failed readings in a row and notes that it spoke of them.
-/

namespace Watching

open Concurrent List

variable {State Reading Alert : Type}

structure Watch (State Reading Alert : Type) where
  initial : State
  /-- It is not yet time for the next sample. -/
  waits : State → Reading → Bool
  decide : State → Reading → List Alert × State

/-- One sample: what was read, what was due, and whether that was delivered. -/
structure Sample (Reading Alert : Type) where
  reading : Reading
  alerts : List Alert
  delivered : Bool
  deriving DecidableEq, Repr

/-- The samples of a sequence of ticks and what is stored after it. Both lists have the newest first. -/
def Watch.run (watch : Watch State Reading Alert) : List (Reading × Bool) → List (Sample Reading Alert) × State
  | [] => ([], watch.initial)
  | (reading, delivered) :: earlier =>
    let log := (watch.run earlier).1
    let state := (watch.run earlier).2
    let due := watch.decide state reading
    if watch.waits state reading then (log, state)
    else (⟨reading, due.1, delivered⟩ :: log, if due.1.isEmpty || delivered then due.2 else state)

theorem Watch.run_cons (watch : Watch State Reading Alert) (reading : Reading) (delivered : Bool)
    (earlier : List (Reading × Bool)) (ready : watch.waits (watch.run earlier).2 reading = false) :
    watch.run ((reading, delivered) :: earlier) =
      (⟨reading, (watch.decide (watch.run earlier).2 reading).1, delivered⟩ :: (watch.run earlier).1,
        if (watch.decide (watch.run earlier).2 reading).1.isEmpty || delivered then
          (watch.decide (watch.run earlier).2 reading).2 else (watch.run earlier).2) := by
  have now : ¬ watch.waits (watch.run earlier).2 reading = true := by rw [ready]; nofun
  rw [Watch.run, if_neg now]

/-- What is shown of every prefix of a run and of the sample that follows it holds of the run. -/
theorem Watch.run_induction (watch : Watch State Reading Alert) {P : List (Sample Reading Alert) → State → Prop}
    (start : P [] watch.initial)
    (step : ∀ log state reading delivered, P log state →
      P (⟨reading, (watch.decide state reading).1, delivered⟩ :: log)
        (if (watch.decide state reading).1.isEmpty || delivered then (watch.decide state reading).2 else state))
    (ticks : List (Reading × Bool)) : P (watch.run ticks).1 (watch.run ticks).2 := by
  induction ticks with
  | nil => exact start
  | cons tick earlier ih =>
    obtain ⟨reading, delivered⟩ := tick
    cases waits : watch.waits (watch.run earlier).2 reading with
    | true =>
      rw [Watch.run, if_pos waits]
      exact ih
    | false =>
      rw [watch.run_cons reading delivered earlier waits]
      exact step _ _ reading delivered ih

/-- How a watch reports failed readings: the streak it stores, and whether it spoke of it. -/
structure Blindness (watch : Watch State Reading Alert) where
  failed : Reading → Bool
  isReport : Alert → Bool
  streak : State → ℕ
  told : State → Bool
  /-- So many readings in a row must fail. -/
  least : ℕ
  positive : 0 < least
  initial : streak watch.initial = 0 ∧ told watch.initial = false
  blind : ∀ state reading, failed reading = true →
    ((watch.decide state reading).1 = [] ∨ (watch.decide state reading).1.any isReport = true) ∧
    ((watch.decide state reading).1.any isReport = true ↔ least ≤ streak state + 1 ∧ told state = false) ∧
    streak (watch.decide state reading).2 = streak state + 1 ∧
    told (watch.decide state reading).2 = (told state || (watch.decide state reading).1.any isReport)
  seeing : ∀ state reading, failed reading = false →
    (watch.decide state reading).1.any isReport = false ∧
    streak (watch.decide state reading).2 = 0 ∧ told (watch.decide state reading).2 = false

namespace Blindness

variable {watch : Watch State Reading Alert} (blindness : Blindness watch)

def fails (sample : Sample Reading Alert) : Bool := blindness.failed sample.reading

def raised (sample : Sample Reading Alert) : Bool := sample.alerts.any blindness.isReport

/-- The latest samples in a row that failed. -/
def current (log : List (Sample Reading Alert)) : List (Sample Reading Alert) := log.takeWhile blindness.fails

def reported (log : List (Sample Reading Alert)) : Bool :=
  (blindness.current log).any fun sample => blindness.raised sample && sample.delivered

/-- Blindness is reported only after so many failures in a row, delivered at most once in each run of failures, and
raised in every run that long until it is delivered. -/
structure SpeaksOnce (log : List (Sample Reading Alert)) : Prop where
  late : Throughout (fun sample older => blindness.raised sample = true →
    blindness.least ≤ (blindness.current (sample :: older)).length) log
  once : Throughout (fun sample older => blindness.raised sample = true → blindness.reported older = false) log
  persistent : Throughout (fun sample older => blindness.least ≤ (blindness.current (sample :: older)).length →
    blindness.reported older = false → blindness.raised sample = true) log

/-- What is due after a reading that follows failed ones is delivered. -/
def Relieved (log : List (Sample Reading Alert)) : Prop :=
  Throughout (fun sample older => blindness.fails sample = false → sample.alerts ≠ [] → sample.delivered = false →
    blindness.current older = []) log

theorem relieved_of_delivered {log : List (Sample Reading Alert)}
    (delivered : (log.all fun sample => blindness.fails sample || sample.delivered) = true) : blindness.Relieved log := by
  rintro later sample older rfl sees due lost
  have kept := List.all_eq_true.mp delivered sample (List.mem_append_right _ List.mem_cons_self)
  rw [sees, lost] at kept
  cases kept

/-- What is stored of the failures agrees with the samples: until the report is delivered, the streak is their number,
but for the failures whose report was lost. -/
structure Agrees (log : List (Sample Reading Alert)) (state : State) : Prop where
  told : blindness.told state = blindness.reported log
  streak : blindness.told state = false →
    blindness.streak state = min (blindness.current log).length (blindness.least - 1)

variable {blindness} {log : List (Sample Reading Alert)} {state : State} {reading : Reading}
  {alerts : List Alert} {delivered : Bool}

theorem current_fails (failed : blindness.failed reading = true) :
    blindness.current (⟨reading, alerts, delivered⟩ :: log) = ⟨reading, alerts, delivered⟩ :: blindness.current log :=
  takeWhile_cons_of_pos failed

theorem current_seeing (sees : blindness.failed reading = false) :
    blindness.current (⟨reading, alerts, delivered⟩ :: log) = [] :=
  takeWhile_cons_of_neg (by rw [fails, sees]; nofun)

theorem reported_fails (failed : blindness.failed reading = true) :
    blindness.reported (⟨reading, alerts, delivered⟩ :: log) =
      (alerts.any blindness.isReport && delivered || blindness.reported log) := by
  rw [reported, current_fails failed, any_cons, reported, raised]

theorem reported_seeing (sees : blindness.failed reading = false) :
    blindness.reported (⟨reading, alerts, delivered⟩ :: log) = false := by
  rw [reported, current_seeing sees]
  rfl

theorem reported_current (reported : blindness.current log = []) : blindness.reported log = false := by
  rw [Blindness.reported, reported]
  rfl

/-- The alert is raised exactly when the run of failures is long enough and was not reported yet. -/
theorem Agrees.raised_iff (agrees : blindness.Agrees log state) (reading : Reading) (delivered : Bool) :
    blindness.raised ⟨reading, (watch.decide state reading).1, delivered⟩ = true ↔
      blindness.least ≤ (blindness.current (⟨reading, (watch.decide state reading).1, delivered⟩ :: log)).length ∧
        blindness.reported log = false := by
  have positive := blindness.positive
  cases failed : blindness.failed reading with
  | false =>
    rw [current_seeing failed, length_nil]
    have silent := (blindness.seeing state reading failed).1
    constructor
    · intro raised
      exact absurd (raised.symm.trans silent) nofun
    · rintro ⟨long, -⟩
      omega
  | true =>
    rw [current_fails failed, length_cons, ← agrees.told]
    refine (blindness.blind state reading failed).2.1.trans (and_congr_left fun untold => ?_)
    rw [agrees.streak untold]
    omega

theorem Agrees.start : blindness.Agrees [] watch.initial where
  told := blindness.initial.2
  streak _ := by
    rw [blindness.initial.1]
    exact (Nat.zero_min _).symm

/-- A failed reading keeps the agreement. -/
theorem Agrees.fails (agrees : blindness.Agrees log state) (failed : blindness.failed reading = true)
    (delivered : Bool) :
    blindness.Agrees (⟨reading, (watch.decide state reading).1, delivered⟩ :: log)
      (if (watch.decide state reading).1.isEmpty || delivered then (watch.decide state reading).2 else state) := by
  have positive := blindness.positive
  obtain ⟨only, due, streak, told⟩ := blindness.blind state reading failed
  have reported : blindness.reported (⟨reading, (watch.decide state reading).1, delivered⟩ :: log) = _ := reported_fails failed
  rcases only with silent | raised
  · rw [silent] at told due reported ⊢
    have quiet := mt due.mpr nofun
    simp only [any_nil, Bool.false_and, Bool.false_or, Bool.or_false] at reported told
    constructor
    · exact told.trans (agrees.told.trans reported.symm)
    · intro untold
      have untold := told.symm.trans untold
      have short := agrees.streak untold
      rw [show (if List.isEmpty [] || delivered then (watch.decide state reading).2 else state) =
        (watch.decide state reading).2 from if_pos rfl, streak, current_fails failed, length_cons]
      have early : ¬ blindness.least ≤ blindness.streak state + 1 := fun long => quiet ⟨long, untold⟩
      omega
  · obtain ⟨long, untold⟩ := due.mp raised
    have some : (watch.decide state reading).1.isEmpty = false := by
      rw [isEmpty_eq_false_iff]
      intro silent
      rw [silent] at raised
      exact absurd raised nofun
    rw [raised, Bool.true_and] at reported
    rw [some, Bool.false_or]
    cases delivered with
    | true =>
      have spoke : blindness.told (watch.decide state reading).2 = true := by rw [told, raised, Bool.or_true]
      exact ⟨spoke.trans reported.symm, fun untold => absurd (spoke.symm.trans untold) nofun⟩
    | false =>
      have short := agrees.streak untold
      constructor
      · exact agrees.told.trans reported.symm
      · intro _
        rw [current_fails failed, length_cons]
        exact short.trans (by omega)

/-- A reading keeps the agreement, unless it follows failures and what it has to say is lost. -/
theorem Agrees.sees (agrees : blindness.Agrees log state) (sees : blindness.failed reading = false)
    (relieved : (watch.decide state reading).1 ≠ [] → delivered = false → blindness.current log = []) :
    blindness.Agrees (⟨reading, (watch.decide state reading).1, delivered⟩ :: log)
      (if (watch.decide state reading).1.isEmpty || delivered then (watch.decide state reading).2 else state) := by
  obtain ⟨-, streak, told⟩ := blindness.seeing state reading sees
  constructor
  · rw [reported_seeing sees]
    split
    next => exact told
    next lost =>
      simp only [Bool.or_eq_true, List.isEmpty_iff, not_or, Bool.not_eq_true] at lost
      exact agrees.told.trans (reported_current (relieved lost.1 lost.2))
  · rw [current_seeing sees]
    split
    next => exact fun _ => streak.trans (Nat.zero_min _).symm
    next lost =>
      simp only [Bool.or_eq_true, List.isEmpty_iff, not_or, Bool.not_eq_true] at lost
      intro untold
      rw [agrees.streak untold, relieved lost.1 lost.2]

/-- A watch whose words after an outage are delivered speaks of each outage as it should. -/
theorem speaks_once (blindness : Blindness watch) (ticks : List (Reading × Bool))
    (relieved : blindness.Relieved (watch.run ticks).1) : blindness.SpeaksOnce (watch.run ticks).1 := by
  refine (watch.run_induction (P := fun log state => blindness.Relieved log →
    blindness.Agrees log state ∧ blindness.SpeaksOnce log) ?_ ?_ ticks relieved).2
  · exact fun _ => ⟨.start, throughout_nil, throughout_nil, throughout_nil⟩
  · intro log state reading delivered ih relieved
    obtain ⟨agrees, speaks⟩ := ih relieved.tail
    have raised := agrees.raised_iff reading delivered
    refine ⟨?_, speaks.late.cons fun now => (raised.mp now).1, speaks.once.cons fun now => (raised.mp now).2,
      speaks.persistent.cons fun long unreported => raised.mpr ⟨long, unreported⟩⟩
    cases failed : blindness.failed reading with
    | true => exact agrees.fails failed delivered
    | false => exact agrees.sees failed (relieved.head failed)

end Blindness

end Watching
