import Mathlib.Data.List.Chain
import MppRouter.Core.Watch

/-! # When the balance monitors speak

The cron reads the native balance of the gas sponsor on every tick and the USDC balance of the funder every fifteen minutes.
Both monitors keep what they last knew apart from how long they have known nothing, but in one stored state, which is written
after a due alert only once that alert was delivered. An alert that is lost on a readable tick therefore leaves the streak of
the unreadable ticks before it, and the next unreadable tick goes on counting there.
-/

namespace MppRouter.Monitors

open Concurrent Watching List Option

/-! ## The gas sponsor -/

namespace Gas

def GAS_SPONSOR_LOW_THRESHOLD_STROOPS : ℕ := 100_000_000

def UNREADABLE_ALERT_AFTER : ℕ := 5

/-- One reading; without `stroops` the balance is unknown, and `reason` says why. -/
structure GasSponsorBalance where
  stroops : Option ℕ
  reason : String
  deriving DecidableEq, Repr

inductive Level where
  | ok
  | low
  deriving DecidableEq, Repr

def classify (stroops : ℕ) : Level := if stroops < GAS_SPONSOR_LOW_THRESHOLD_STROOPS then .low else .ok

structure PersistedState where
  substantive : Option Level
  unreadableStreak : ℕ
  unreadableAlerted : Bool
  deriving DecidableEq, Repr

def EMPTY_STATE : PersistedState := ⟨none, 0, false⟩

/-- The texts sent, by what they name. -/
inductive Message where
  | unreadable (streak : ℕ) (reason address : String)
  | low (stroops : ℕ) (address : String)
  | recovered (stroops : ℕ) (address : String)
  deriving DecidableEq, Repr

/-- The message is there when an alert is due. -/
structure TransitionDecision where
  message : Option Message
  nextState : PersistedState
  deriving DecidableEq, Repr

def decideTransition (previous : PersistedState) (balance : GasSponsorBalance) (address : String) : TransitionDecision :=
  match balance.stroops with
  | none =>
    let streak := previous.unreadableStreak + 1
    let shouldAlert := decide (UNREADABLE_ALERT_AFTER ≤ streak) && !previous.unreadableAlerted
    ⟨if shouldAlert then some (.unreadable streak balance.reason address) else none,
      { previous with unreadableStreak := streak, unreadableAlerted := previous.unreadableAlerted || shouldAlert }⟩
  | some stroops =>
    let observed := classify stroops
    let base := ⟨some observed, 0, false⟩
    if previous.substantive = some observed then ⟨none, base⟩
    -- The first observation of a healthy account is not news.
    else if previous.substantive = none ∧ observed = .ok then ⟨none, base⟩
    else if observed = .low then ⟨some (.low stroops address), base⟩
    else ⟨some (.recovered stroops address), base⟩

def checkGasSponsor (address : String) : Watch PersistedState GasSponsorBalance Message where
  initial := EMPTY_STATE
  waits _ _ := false
  decide previous balance :=
    ((decideTransition previous balance address).message.toList, (decideTransition previous balance address).nextState)

/-- Which of the two levels a message announces. -/
def Message.level : Message → Option Level
  | .unreadable .. => none
  | .low .. => some .low
  | .recovered .. => some .ok

def blindness (address : String) : Blindness (checkGasSponsor address) where
  failed balance := balance.stroops.isNone
  isReport message := message.level.isNone
  streak := PersistedState.unreadableStreak
  told := PersistedState.unreadableAlerted
  least := UNREADABLE_ALERT_AFTER
  positive := by decide
  initial := ⟨rfl, rfl⟩
  blind state balance failed := by
    have unread := isNone_iff_eq_none.mp failed
    simp only [checkGasSponsor, decideTransition, unread]
    cases due : decide (UNREADABLE_ALERT_AFTER ≤ state.unreadableStreak + 1) && !state.unreadableAlerted <;>
      simp_all [Message.level]
  seeing state balance sees := by
    obtain ⟨stroops, read⟩ := isSome_iff_exists.mp (isNone_eq_false_iff.mp sees)
    simp only [checkGasSponsor, decideTransition, read]
    split_ifs <;> simp [Message.level]

section Spoken

variable {address : String} {log : List (Sample GasSponsorBalance Message)} {state : PersistedState}

/-- The low and recovered alerts that were delivered, newest first. -/
def spoken (log : List (Sample GasSponsorBalance Message)) : List Message :=
  (log.filter Sample.delivered).flatMap fun sample => sample.alerts.filter fun message => message.level.isSome

/-- The level the latest of them announced; an account nothing was said of counts as healthy. -/
def announced (log : List (Sample GasSponsorBalance Message)) : Level := ((spoken log).head?.bind Message.level).getD .ok

/-- The news a readable balance is, from what was known. -/
def news (known : Option Level) (stroops : ℕ) (address : String) : Option Message :=
  match classify stroops, known with
  | .low, some .low => none
  | .low, _ => some (.low stroops address)
  | .ok, some .low => some (.recovered stroops address)
  | .ok, _ => none

variable {balance : GasSponsorBalance}

/-- What is due at a readable balance depends on what was known alone. -/
theorem decide_read {stroops : ℕ} (read : balance.stroops = some stroops) :
    (checkGasSponsor address).decide state balance =
      ((news state.substantive stroops address).toList, ⟨some (classify stroops), 0, false⟩) := by
  simp only [checkGasSponsor, decideTransition, read, news]
  cases classify stroops with
  | ok => rcases state.substantive with _ | _ | _ <;> rfl
  | low => rcases state.substantive with _ | _ | _ <;> rfl

theorem spoken_cons (sample : Sample GasSponsorBalance Message) : spoken (sample :: log) =
      (if sample.delivered then sample.alerts.filter fun message => message.level.isSome else []) ++ spoken log := by
  rw [spoken, filter_cons]
  split <;> rfl

theorem unread_same (unread : balance.stroops = none) (delivered : Bool) :
    spoken (⟨balance, ((checkGasSponsor address).decide state balance).1, delivered⟩ :: log) = spoken log ∧
      ((checkGasSponsor address).decide state balance).2.substantive = state.substantive := by
  constructor
  · rw [spoken_cons]
    have silent : (((checkGasSponsor address).decide state balance).1.filter fun message => message.level.isSome) = [] := by
      simp only [checkGasSponsor, decideTransition, unread]
      split <;> rfl
    rw [silent, ite_self, nil_append]
  · simp only [checkGasSponsor, decideTransition, unread]

theorem news_level {known : Option Level} {stroops : ℕ} {message : Message}
    (due : message ∈ news known stroops address) : message.level = some (classify stroops) := by
  unfold news at due
  split at due
  next => cases due
  next low _ => rw [← some.inj due, low]; rfl
  next ok => rw [← some.inj due, ok]; rfl
  next => cases due

theorem spoken_news {stroops : ℕ} (read : balance.stroops = some stroops) (delivered : Bool) :
    spoken (⟨balance, ((checkGasSponsor address).decide state balance).1, delivered⟩ :: log) =
      (if delivered then (news state.substantive stroops address).toList else []) ++ spoken log := by
  rw [spoken_cons, decide_read read]
  cases due : news state.substantive stroops address with
  | none => rfl
  | some message => simp [news_level due]

/-- What is known and what was said agree. -/
structure Agrees (log : List (Sample GasSponsorBalance Message)) (state : PersistedState) : Prop where
  level : state.substantive = some .low ↔ announced log = .low
  alternates : (spoken log).IsChain fun later earlier => later.level ≠ earlier.level

/-- An alert is due when what was said last is not what is read. -/
theorem Agrees.silent_iff (agrees : Agrees log state) (stroops : ℕ) :
    news state.substantive stroops address = none ↔ announced log = classify stroops := by
  have known := agrees.level
  unfold news
  cases classify stroops with
  | ok =>
    cases said : announced log with
    | ok =>
      have healthy : state.substantive ≠ some .low := fun low => nomatch said.symm.trans (known.mp low)
      split <;> simp_all
    | low => simp [known.mpr said]
  | low =>
    cases said : announced log with
    | ok =>
      have healthy : state.substantive ≠ some .low := fun low => nomatch said.symm.trans (known.mp low)
      split <;> simp_all
    | low => simp [known.mpr said]

theorem Agrees.step (agrees : Agrees log state) (balance : GasSponsorBalance) (delivered : Bool) :
    Agrees (⟨balance, ((checkGasSponsor address).decide state balance).1, delivered⟩ :: log)
      (if ((checkGasSponsor address).decide state balance).1.isEmpty || delivered then
        ((checkGasSponsor address).decide state balance).2 else state) := by
  cases read : balance.stroops with
  | none =>
    obtain ⟨same, known⟩ := @unread_same address log state _ read delivered
    refine ⟨?_, by rw [same]; exact agrees.alternates⟩
    rw [announced, same, ← announced]
    split
    next => rw [known]; exact agrees.level
    next => exact agrees.level
  | some stroops =>
    have said := @spoken_news address log state _ _ read delivered
    have silent := @Agrees.silent_iff address log state agrees stroops
    rw [decide_read read] at said ⊢
    cases due : news state.substantive stroops address with
    | none =>
      rw [due] at said
      have same := said.trans (by split <;> rfl : _ = spoken log)
      refine ⟨?_, by rw [same]; exact agrees.alternates⟩
      rw [announced, same, ← announced, silent.mp due]
      simp
    | some message =>
      rw [due] at said
      cases delivered with
      | false =>
        have same : _ = spoken log := said
        refine ⟨?_, by rw [same]; exact agrees.alternates⟩
        rw [announced, same]
        exact agrees.level
      | true =>
        have added : _ = message :: spoken log := said
        have level := news_level due
        constructor
        · rw [announced, added]
          simp [level]
        · rw [added]
          apply agrees.alternates.cons
          intro earlier head alike
          have before : announced log = classify stroops := by
            rw [announced, mem_def.mp head, bind_some, ← alike, level]
            rfl
          exact nomatch due.symm.trans (silent.mpr before)

/-- On a readable tick an alert is due exactly when what was said last is not what is read. -/
def Due (log : List (Sample GasSponsorBalance Message)) : Prop :=
  Throughout (fun sample older => ∀ stroops, sample.reading.stroops = some stroops →
    (sample.alerts ≠ [] ↔ announced older ≠ classify stroops)) log

/-- The low and recovered alerts alternate, are those of the readable ticks alone, and one is due on every readable tick
that does not find what was said last. -/
structure SpeaksOfLevels (address : String) (ticks : List (GasSponsorBalance × Bool)) : Prop where
  alternates : (spoken ((checkGasSponsor address).run ticks).1).IsChain fun later earlier => later.level ≠ earlier.level
  steady : spoken ((checkGasSponsor address).run ticks).1 =
    spoken ((checkGasSponsor address).run (ticks.filter fun tick => tick.1.stroops.isSome)).1
  due : Due ((checkGasSponsor address).run ticks).1

/-- Unreadable ticks change neither what is known nor what is said of the level. -/
theorem run_readable (address : String) (ticks : List (GasSponsorBalance × Bool)) :
    spoken ((checkGasSponsor address).run ticks).1 =
        spoken ((checkGasSponsor address).run (ticks.filter fun tick => tick.1.stroops.isSome)).1 ∧
      ((checkGasSponsor address).run ticks).2.substantive =
        ((checkGasSponsor address).run (ticks.filter fun tick => tick.1.stroops.isSome)).2.substantive := by
  induction ticks with
  | nil => exact ⟨rfl, rfl⟩
  | cons tick earlier ih =>
    obtain ⟨balance, delivered⟩ := tick
    rw [Watch.run_cons _ _ _ _ rfl]
    cases read : balance.stroops with
    | none =>
      obtain ⟨same, known⟩ := @unread_same address _ _ _ read delivered
      rw [filter_cons_of_neg (by simp [read])]
      refine ⟨same.trans ih.1, ?_⟩
      rw [← ih.2]
      dsimp only
      split
      next => exact known
      next => rfl
    | some stroops =>
      rw [filter_cons_of_pos (by simp [read]), Watch.run_cons _ _ _ _ rfl]
      dsimp only
      rw [spoken_news read, spoken_news read, decide_read read, decide_read read, ih.1, ih.2]
      refine ⟨rfl, ?_⟩
      dsimp only
      split
      next => rfl
      next => exact ih.2

theorem speaks_of_levels (address : String) (ticks : List (GasSponsorBalance × Bool)) : SpeaksOfLevels address ticks := by
  have run := (checkGasSponsor address).run_induction (P := fun log state => Agrees log state ∧ Due log) ?_ ?_ ticks
  · exact ⟨run.1.alternates, (run_readable address ticks).1, run.2⟩
  · exact ⟨⟨by constructor <;> nofun, .nil⟩, throughout_nil⟩
  · rintro log state balance delivered ⟨agrees, due⟩
    refine ⟨agrees.step balance delivered, due.cons fun stroops read => ?_⟩
    have silent := @Agrees.silent_iff address log state agrees stroops
    rw [ne_eq, decide_read read, toList_eq_nil_iff, silent]

end Spoken

end Gas

/-! ## The funder wallet -/

namespace Funder

def USDC : ℕ := 1_000_000

def FUNDER_P0_THRESHOLD : ℕ := 50 * USDC

def FUNDER_P1_THRESHOLD : ℕ := 200 * USDC

def DROP_MIN_RATIO_PCT : ℤ := 50

def DROP_MIN_ABS : ℤ := 20 * USDC

def SAMPLE_INTERVAL_MS : ℤ := 15 * 60 * 1000

def UNREADABLE_ALERT_AFTER : ℕ := 4

inductive Band where
  | ok
  | p1
  | p0
  deriving DecidableEq, Repr

structure FunderWatchState where
  band : Option Band
  lastBalance : Option ℕ
  lastSampleAt : ℤ
  unreadableStreak : ℕ
  unreadableAlerted : Bool
  deriving DecidableEq, Repr

def EMPTY_STATE : FunderWatchState := ⟨none, none, 0, 0, false⟩

def classifyBand (balance : ℕ) : Band :=
  if balance < FUNDER_P0_THRESHOLD then .p0 else if balance < FUNDER_P1_THRESHOLD then .p1 else .ok

/-- The texts sent, by what they name. -/
inductive Message where
  | unreadable (streak : ℕ) (address rpcSummary : String)
  | moved (worse : Bool) (band : Band) (balance : ℕ) (address : String)
  | dropped (prev balance : ℕ) (elapsed : ℤ) (address : String)
  deriving DecidableEq, Repr

structure WatchDecision where
  messages : List Message
  nextState : FunderWatchState
  deriving DecidableEq, Repr

/-- Is this a sharp drop from the last balance that leaves less than the upper threshold? -/
def droppedSharply (previous : FunderWatchState) (balance : ℕ) (prev elapsed : ℤ) : Bool :=
  previous.unreadableStreak = 0 && elapsed ≤ 2 * SAMPLE_INTERVAL_MS && balance < FUNDER_P1_THRESHOLD && 0 < prev &&
    DROP_MIN_ABS ≤ prev - balance && prev * DROP_MIN_RATIO_PCT < (prev - balance) * 100

def decide (previous : FunderWatchState) (balance : Option ℕ) (address : String) (now : ℤ) (rpcSummary : String) :
    WatchDecision :=
  match balance with
  | none =>
    let streak := previous.unreadableStreak + 1
    let alert := Decidable.decide (UNREADABLE_ALERT_AFTER ≤ streak) && !previous.unreadableAlerted
    ⟨if alert then [.unreadable streak address rpcSummary] else [],
      { previous with
        lastSampleAt := now
        unreadableStreak := streak
        unreadableAlerted := previous.unreadableAlerted || alert }⟩
  | some balance =>
    let band := classifyBand balance
    let worse := previous.band = none || previous.band = some .ok || band = .p0
    let moved := if band ≠ .ok ∧ some band ≠ previous.band then [.moved worse band balance address] else []
    let elapsed := now - previous.lastSampleAt
    let dropped := match previous.lastBalance with
      | none => []
      | some prev => if droppedSharply previous balance prev elapsed then [.dropped prev balance elapsed address] else []
    ⟨moved ++ dropped, ⟨some band, some balance, now, 0, false⟩⟩

structure Reading where
  balance : Option ℕ
  now : ℤ
  rpcSummary : String
  deriving DecidableEq, Repr

def checkFunderBalance (address : String) : Watch FunderWatchState Reading Message where
  initial := EMPTY_STATE
  waits previous reading := reading.now - previous.lastSampleAt < SAMPLE_INTERVAL_MS
  decide previous reading :=
    ((decide previous reading.balance address reading.now reading.rpcSummary).messages,
      (decide previous reading.balance address reading.now reading.rpcSummary).nextState)

def Message.isReport : Message → Bool
  | .unreadable .. => true
  | _ => false

def blindness (address : String) : Blindness (checkFunderBalance address) where
  failed reading := reading.balance.isNone
  isReport := Message.isReport
  streak := FunderWatchState.unreadableStreak
  told := FunderWatchState.unreadableAlerted
  least := UNREADABLE_ALERT_AFTER
  positive := by decide
  initial := ⟨rfl, rfl⟩
  blind state reading failed := by
    have unread := isNone_iff_eq_none.mp failed
    simp only [checkFunderBalance, decide, unread]
    cases due : Decidable.decide (UNREADABLE_ALERT_AFTER ≤ state.unreadableStreak + 1) && !state.unreadableAlerted <;>
      simp_all [Message.isReport]
  seeing state reading sees := by
    obtain ⟨balance, read⟩ := isSome_iff_exists.mp (isNone_eq_false_iff.mp sees)
    have next : (decide state reading.balance address reading.now reading.rpcSummary).nextState =
        ⟨some (classifyBand balance), some balance, reading.now, 0, false⟩ := by
      rw [read]
      rfl
    refine ⟨?_, congrArg FunderWatchState.unreadableStreak next, congrArg FunderWatchState.unreadableAlerted next⟩
    simp only [checkFunderBalance, decide, read, any_append, Bool.or_eq_false_iff]
    constructor
    · split <;> rfl
    · cases state.lastBalance with
      | none => rfl
      | some prev => dsimp only; split <;> rfl

end Funder

/-! ## Both monitors -/

/-- The sponsor's level is spoken of as it should be in every run, and unreadable balances are in every run in which a
readable tick after unreadable ones delivers what it has to say. -/
theorem monitors_speak (sponsor wallet : String) (ticks : List (Gas.GasSponsorBalance × Bool))
    (checks : List (Funder.Reading × Bool)) :
    Gas.SpeaksOfLevels sponsor ticks ∧
      ((Gas.blindness sponsor).Relieved ((Gas.checkGasSponsor sponsor).run ticks).1 →
        (Gas.blindness sponsor).SpeaksOnce ((Gas.checkGasSponsor sponsor).run ticks).1) ∧
      ((Funder.blindness wallet).Relieved ((Funder.checkFunderBalance wallet).run checks).1 →
        (Funder.blindness wallet).SpeaksOnce ((Funder.checkFunderBalance wallet).run checks).1) :=
  ⟨Gas.speaks_of_levels sponsor ticks, (Gas.blindness sponsor).speaks_once ticks,
    (Funder.blindness wallet).speaks_once checks⟩

/-- No alert gets through in an outage; then a low balance is read and told, before the next outage. -/
def outage : List (Gas.GasSponsorBalance × Bool) :=
  [(⟨none, "timeout"⟩, true), (⟨some 5, ""⟩, true)] ++ List.replicate 7 (⟨none, "timeout"⟩, false)

def funderOutage : List (Funder.Reading × Bool) :=
  (List.range 8).reverse.map fun count =>
    (⟨if count = 6 then some 5 else none, Funder.SAMPLE_INTERVAL_MS * (count + 1), "timeout"⟩, true)

theorem monitors_speak_outage : (Gas.blindness "GAS").SpeaksOnce ((Gas.checkGasSponsor "GAS").run outage).1 ∧
    (Funder.blindness "WALLET").SpeaksOnce ((Funder.checkFunderBalance "WALLET").run funderOutage).1 ∧
    ((Gas.checkGasSponsor "GAS").run outage).1.length = 9 ∧
    ((Funder.checkFunderBalance "WALLET").run funderOutage).1.length = 8 := by
  have speaks := (monitors_speak "GAS" "WALLET" outage funderOutage).2
  refine ⟨speaks.1 ?_, speaks.2 ?_, by decide, by decide⟩
  · exact (Gas.blindness "GAS").relieved_of_delivered (by decide)
  · exact (Funder.blindness "WALLET").relieved_of_delivered (by decide)

/-- Four ticks fail, the fifth reads a low balance and its alert is lost, the sixth fails, newest first. -/
def interrupted : List (Gas.GasSponsorBalance × Bool) :=
  [(⟨none, "timeout"⟩, true), (⟨some 5, ""⟩, false), (⟨none, "timeout"⟩, true), (⟨none, "timeout"⟩, true),
    (⟨none, "timeout"⟩, true), (⟨none, "timeout"⟩, true)]

/-- One failed tick is reported as five in a row. -/
theorem lost_alert_miscounts :
    ¬ (Gas.blindness "GAS").SpeaksOnce ((Gas.checkGasSponsor "GAS").run interrupted).1 := by
  intro speaks
  exact absurd (speaks.late [] _ _ rfl rfl) (by decide)

end MppRouter.Monitors
