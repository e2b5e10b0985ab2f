import MppRouter.Mpp.RateLimit

/-! # A limit is a hard cap

A stored counter is the number of calls of its bucket that were counted. A commit is stored only under the version of the
counter it was decided on, so a call that is counted was below the limit; and a call returns `ok` only where it was
counted.
-/

namespace MppRouter.Mpp.RateLimit

open Concurrent Machine List Function

/-! ## What a call does -/

/-- What a check is about. -/
structure Call where
  key : String
  limit : ℤ
  bucket : Bucket

def Party.call : Party → Call
  | .idle => ⟨"", 0, .unset⟩
  | .daily key perDay now => ⟨key, perDay, utcDateKey now⟩
  | .window key limit windowMs now => ⟨key, limit, .window (now / windowMs)⟩
  | .peek key _ now => ⟨key, 0, utcDateKey now⟩

/-- The cell that a call received last, whether it was counted, and whether it has returned. -/
structure BumpPhase where
  seen : Option Cell := none
  counted : Bool := false
  answered : Bool := false

def mayBump (call : Call) (phase : BumpPhase) : Action → Prop
  | .read key => key = call.key
  | .commit key expectedVersion value => key = call.key ∧ ∃ cell, phase.seen = some cell ∧
      expectedVersion = cell.version ∧ used call.bucket cell < call.limit ∧ value = ⟨used call.bucket cell + 1, call.bucket⟩
  | .answer key bucket result => key = call.key ∧ bucket = call.bucket ∧ phase.answered = false ∧
      (result.ok = true → phase.counted = true)

def bumpMove (phase : BumpPhase) : (action : Action) → action.Answer → BumpPhase
  | .read _, cell => { phase with seen := some cell }
  | .commit .., .ok => { phase with counted := true }
  | .commit .., .conflict cell => { phase with seen := some cell }
  | .answer .., _ => { phase with answered := true }

def bumpFlow (call : Call) : Typestate rateMachine := ⟨BumpPhase, mayBump call, bumpMove⟩

section Follows

variable {call : Call} {phase : BumpPhase}

/-- A check has not returned yet, and it ends with `ok` only where it was counted. -/
def Checked (result : Option DailyLimitResult) (after : BumpPhase) : Prop :=
  after.answered = false ∧ ∀ verdict ∈ result, verdict.ok = true → after.counted = true

theorem bumpLoop_follows (attempts : ℕ) {cell : Cell} (seen : phase.seen = some cell) (silent : phase.answered = false) :
    (bumpFlow call).Follows (bumpLoop call.key call.limit call.bucket attempts cell) Checked phase := by
  induction attempts generalizing phase cell with
  | zero => exact ⟨silent, by rintro verdict ⟨⟩⟩
  | succ attempts ih =>
    unfold bumpLoop
    split
    · exact ⟨silent, by rintro verdict ⟨⟩ ⟨⟩⟩
    next below =>
      simp only [ask, Prog.call_bind]
      refine ⟨⟨rfl, cell, seen, rfl, not_le.mp below, rfl⟩, fun response => ?_⟩
      cases response with
      | ok => exact ⟨silent, fun _ _ _ => rfl⟩
      | conflict current => exact ih rfl silent

theorem checkAndBump_follows (silent : phase.answered = false) :
    (bumpFlow call).Follows (checkAndBump call.key call.limit call.bucket) Checked phase := by
  simp only [checkAndBump, ask, Prog.call_bind]
  exact ⟨rfl, fun cell => bumpLoop_follows _ rfl silent⟩

theorem returning_follows {check : Client (Option DailyLimitResult)} (checked : (bumpFlow call).Follows check Checked phase) :
    (bumpFlow call).Follows (returning call.key call.bucket check) anyhow phase := by
  apply Typestate.Follows.bind
  apply checked.mono
  rintro result after ⟨silent, ok⟩
  cases result with
  | none => trivial
  | some verdict => exact ⟨⟨rfl, rfl, silent, ok verdict rfl⟩, fun _ => trivial⟩

theorem party_follows (party : Party) : (bumpFlow party.call).Follows party.program anyhow {} := by
  cases party with
  | idle => trivial
  | daily key perDay now =>
    have checked : (bumpFlow ⟨key, perDay, utcDateKey now⟩).Follows (checkAndBumpDailyLimit key perDay now) Checked {} :=
      checkAndBump_follows rfl
    exact returning_follows checked
  | window key limit windowMs now =>
    have checked : (bumpFlow ⟨key, limit, .window (now / windowMs)⟩).Follows
        (checkAndBumpWindowLimit key limit windowMs now) Checked {} := checkAndBump_follows rfl
    exact returning_follows checked
  | peek key perDay now => exact ⟨rfl, fun _ => trivial⟩

end Follows

/-! ## The protocol -/

/-- A cell may follow another: its version has not gone back, and it has moved if the value has. -/
def Cell.Precedes (old new : Cell) : Prop := old.version ≤ new.version ∧ (old.version = new.version → old = new)

theorem Cell.Precedes.refl (cell : Cell) : cell.Precedes cell := ⟨le_rfl, fun _ => rfl⟩

theorem Cell.Precedes.trans {first second third : Cell} (earlier : first.Precedes second) (later : second.Precedes third) :
    first.Precedes third := by
  refine ⟨earlier.1.trans later.1, fun same => ?_⟩
  have middle : first.version = second.version := le_antisymm earlier.1 (same ▸ later.1)
  exact (earlier.2 middle).trans (later.2 (middle ▸ same))

/-- The counters count what was counted, the key is within its limit, and every call returned once, with `ok` only where
it was counted. -/
structure Capped (key : String) (limit : ℕ) (world : World) : Prop where
  counts : ∀ key, (parseCounter (world.cells key).value).n = world.count key (parseCounter (world.cells key).value).day
  within : ∀ bucket, world.count key bucket ≤ limit
  once : (world.returned.map fun entry => entry.1.tid).Nodup
  counted : ∀ entry ∈ world.returned, entry.2 = true → entry.1 ∈ world.counted

/-- A step of a thread: cells move on, what is counted stays counted, and no other thread returns. -/
structure Moves (tid : ℕ) (before after : World) : Prop where
  cells : ∀ key, (before.cells key).Precedes (after.cells key)
  counted : ∀ slot ∈ before.counted, slot ∈ after.counted
  returned : ∀ entry ∈ after.returned, entry ∈ before.returned ∨ entry.1.tid = tid

def capProtocol (key : String) (limit : ℕ) : Protocol rateMachine where
  Inv := Capped key limit
  Guar := Moves

/-- What a thread knows of the world in its phase. -/
structure Knows (call : Call) (tid : ℕ) (phase : BumpPhase) (world : World) : Prop where
  seen : ∀ cell ∈ phase.seen, cell.Precedes (world.cells call.key)
  counted : phase.counted = true → ⟨tid, call.key, call.bucket⟩ ∈ world.counted
  silent : phase.answered = false → ∀ entry ∈ world.returned, entry.1.tid ≠ tid

section Steps

variable {key : String} {limit : ℕ} {call : Call} {tid : ℕ} {phase : BumpPhase} {world : World}

theorem knows_stable (phase : BumpPhase) : (capProtocol key limit).Stable tid (Knows call tid phase) := by
  rintro other world after distinct - - moves knows
  constructor
  · exact fun cell member => (knows.seen cell member).trans (moves.cells call.key)
  · exact fun counted => moves.counted _ (knows.counted counted)
  · intro silent entry member
    rcases moves.returned entry member with before | own
    · exact knows.silent silent entry before
    · rw [own]
      exact distinct

theorem count_cons (world : World) (cells : String → Cell) (slot : Slot) (key : String) (bucket : Bucket) :
    ({ world with cells, counted := slot :: world.counted } : World).count key bucket =
      world.count key bucket + if slot.key = key ∧ slot.bucket = bucket then 1 else 0 := by
  simp only [World.count, countP_cons, decide_eq_true_eq]

/-- A commit that is stored replaces the cell it was decided on, and takes the number of its bucket to the next. -/
theorem Capped.commit (capped : Capped key limit world) (bounded : call.key = key → call.limit ≤ limit)
    (knows : Knows call tid phase world) {cell : Cell} (seen : phase.seen = some cell)
    (below : used call.bucket cell < call.limit) (current : (world.cells call.key).version = cell.version)
    (fresh : (parseCounter (world.cells call.key).value).day ≠ call.bucket → world.count call.key call.bucket = 0) :
    Capped key limit { world with
      cells := Function.update world.cells call.key ⟨some ⟨used call.bucket cell + 1, call.bucket⟩, cell.version + 1⟩
      counted := ⟨tid, call.key, call.bucket⟩ :: world.counted } := by
  have same : cell = world.cells call.key := (knows.seen cell seen).2 current.symm
  have exact : used call.bucket cell = world.count call.key call.bucket := by
    rw [same]
    simp only [used]
    split_ifs with own
    · rw [← own]
      exact capped.counts call.key
    · rw [fresh own]
      rfl
  constructor
  · intro other
    by_cases written : other = call.key
    · subst written
      simp only [update_self, parseCounter, Option.getD_some]
      rw [count_cons, if_pos ⟨rfl, rfl⟩, exact]
      push_cast
      rfl
    · simp only [update_of_ne written]
      rw [count_cons, if_neg fun both => written both.1.symm, Nat.add_zero]
      exact capped.counts other
  · intro bucket
    rw [count_cons]
    have standing := capped.within bucket
    split_ifs with both
    · obtain ⟨onKey, ofBucket⟩ := both
      have most := bounded onKey
      subst onKey ofBucket
      dsimp only at *
      omega
    · exact standing
  · exact capped.once
  · intro entry member ok
    exact mem_cons_of_mem _ (capped.counted entry member ok)

theorem calls_keep (bounded : call.key = key → call.limit ≤ limit) :
    (bumpFlow call).Keeps (capProtocol key limit) NeverReturns tid (Knows call tid) := by
  refine ⟨knows_stable, ?_⟩
  intro phase action may world capped knows choice answer after admitted performed
  have performed : perform tid action world = (answer, after) := Option.some.inj performed
  cases action with
  | read other =>
    obtain rfl : other = call.key := may
    cases performed
    refine ⟨capped, ⟨fun _ => .refl _, fun _ member => member, fun _ member => .inl member⟩, ?_, knows.counted, knows.silent⟩
    intro cell member
    cases member
    exact .refl _
  | commit other expectedVersion value =>
    obtain ⟨rfl, cell, seen, rfl, below, rfl⟩ := may
    simp only [perform] at performed
    split at performed
    next stale =>
      cases performed
      refine ⟨capped, ⟨fun _ => .refl _, fun _ member => member, fun _ member => .inl member⟩, ?_, knows.counted,
        knows.silent⟩
      intro current member
      cases member
      exact .refl _
    next current =>
      rw [not_not] at current
      cases performed
      have grows : ∀ other, (world.cells other).Precedes (Function.update world.cells call.key
          ⟨some ⟨used call.bucket cell + 1, call.bucket⟩, cell.version + 1⟩ other) := by
        intro other
        by_cases written : other = call.key
        · subst written
          rw [update_self]
          exact ⟨by dsimp only; omega, fun same => by dsimp only at same; omega⟩
        · rw [update_of_ne written]
          exact .refl _
      refine ⟨capped.commit bounded knows seen below current (admitted current), ⟨grows, ?_, fun _ member => .inl member⟩,
        ?_, ?_, knows.silent⟩
      · exact fun slot member => mem_cons_of_mem _ member
      · exact fun current member => (knows.seen current member).trans (grows call.key)
      · exact fun _ => mem_cons_self
  | answer other bucket result =>
    obtain ⟨rfl, rfl, silent, ok⟩ := may
    cases performed
    refine ⟨⟨capped.counts, capped.within, ?_, ?_⟩, ⟨fun _ => .refl _, fun _ member => member, ?_⟩, knows.seen,
      knows.counted, fun silent => by cases silent⟩
    · rw [map_cons, nodup_cons]
      refine ⟨fun member => ?_, capped.once⟩
      obtain ⟨entry, returned, own⟩ := mem_map.mp member
      exact knows.silent silent entry returned own
    · intro entry member isOk
      rcases mem_cons.mp member with rfl | before
      · exact knows.counted (ok isOk)
      · exact capped.counted entry before isOk
    · intro entry member
      rcases mem_cons.mp member with rfl | before
      · exact .inr rfl
      · exact .inl before

end Steps

/-- The calls that returned `ok` are different calls, all of which were counted. -/
theorem Capped.admitted_le {key : String} {limit : ℕ} {world : World} (capped : Capped key limit world)
    (bucket : Bucket) : (world.admitted key bucket).length ≤ limit := by
  have once : (world.returned.map Prod.fst).Nodup := by
    apply List.Nodup.of_map Slot.tid
    rw [map_map]
    exact capped.once
  have distinct : (world.admitted key bucket).Nodup := once.sublist (filter_sublist.map Prod.fst)
  have counted : world.admitted key bucket ⊆ world.counted.filter fun slot => slot.key = key ∧ slot.bucket = bucket := by
    intro slot member
    obtain ⟨entry, listed, rfl⟩ := mem_map.mp member
    obtain ⟨returned, ok⟩ := mem_filter.mp listed
    obtain ⟨ok, own⟩ := of_decide_eq_true ok
    exact mem_filter.mpr ⟨capped.counted entry returned ok, decide_eq_true own⟩
  calc
    (world.admitted key bucket).length ≤ _ := (distinct.subperm counted).length_le
    _ = world.count key bucket := countP_eq_length_filter.symm
    _ ≤ limit := capped.within bucket

/-- A party that checks the key asks for no more than the limit. -/
def Party.LimitedTo (key : String) (limit : ℕ) (party : Party) : Prop := party.call.key = key → party.call.limit ≤ limit

/-- Where no call comes back to a bucket that the counter has left, at most so many calls of one bucket return `ok` as
the limit of the key allows. -/
theorem limits_are_hard {key : String} {limit : ℕ} {parties : ℕ → Party} (limited : ∀ tid, (parties tid).LimitedTo key limit)
    {after : rateMachine.Config} (run : Run NeverReturns (rateLimits parties) after) (bucket : Bucket) :
    (after.world.admitted key bucket).length ≤ limit := by
  have inv : (capProtocol key limit).Inv (rateLimits parties).world :=
    ⟨fun _ => rfl, fun _ => Nat.zero_le limit, nodup_nil, by rintro entry ⟨⟩⟩
  have knows : ∀ tid, Knows (parties tid).call tid {} (rateLimits parties).world := fun tid =>
    ⟨by rintro cell ⟨⟩, by rintro ⟨⟩, by rintro - entry ⟨⟩⟩
  obtain ⟨capped, -⟩ := Typestate.reached_each (fun tid => calls_keep (limited tid)) inv
    (fun tid => ⟨{}, knows tid, party_follows (parties tid)⟩) run
  exact capped.admitted_le bucket

/-- Two calls of one day, and one of the next. -/
def twoDays : ℕ → Party
  | 0 => .daily "ratelimit:mercury" 2 1000
  | 1 => .daily "ratelimit:mercury" 2 2000
  | 2 => .daily "ratelimit:mercury" 2 86400000
  | _ => .idle

/-- The two calls race for the counter, and both are within the limit before the day changes. -/
theorem limits_are_hard_two_days : ∃ after, Run NeverReturns (rateLimits twoDays) after ∧
    (after.world.admitted "ratelimit:mercury" (.utcDay 0)).length = 2 ∧
    (after.world.admitted "ratelimit:mercury" (.utcDay 1)).length = 1 ∧
    (after.world.admitted "ratelimit:mercury" (.utcDay 0)).length ≤ 2 := by
  obtain ⟨after, run, counts⟩ := Config.exec_reaches NeverReturns (rateLimits twoDays)
    [(0, ()), (1, ()), (0, ()), (1, ()), (1, ()), (0, ()), (1, ()), (2, ()), (2, ()), (2, ())]
    (fun world => (world.admitted "ratelimit:mercury" (.utcDay 0)).length = 2 ∧
      (world.admitted "ratelimit:mercury" (.utcDay 1)).length = 1) (by decide +kernel)
  obtain ⟨first, second⟩ := of_decide_eq_true counts
  refine ⟨after, run, first, second, ?_⟩
  apply limits_are_hard _ run
  intro tid
  match tid with
  | 0 | 1 | 2 => exact fun _ => by decide
  | _ + 3 =>
    have elsewhere : "" ≠ "ratelimit:mercury" := by decide
    exact fun same => absurd same elsewhere

/-- Two calls of one day around one of the next, under a limit of one. -/
def lateCall : ℕ → Party
  | 0 => .daily "ratelimit:mercury" 1 1000
  | 1 => .daily "ratelimit:mercury" 1 86400000
  | 2 => .daily "ratelimit:mercury" 1 2000
  | _ => .idle

/-- The call that captured its clock before midnight commits after one that captured it later: it finds the counter of
the other day, and starts its own day again at one. -/
theorem limit_exceeded : ∃ after, Run (unrestricted rateMachine) (rateLimits lateCall) after ∧
    1 < (after.world.admitted "ratelimit:mercury" (.utcDay 0)).length := by
  obtain ⟨after, run, exceeded⟩ := Config.exec_reaches (unrestricted rateMachine) (rateLimits lateCall)
    [(0, ()), (0, ()), (0, ()), (1, ()), (1, ()), (1, ()), (2, ()), (2, ()), (2, ())]
    (fun world => 1 < (world.admitted "ratelimit:mercury" (.utcDay 0)).length) (by decide +kernel)
  exact ⟨after, run, of_decide_eq_true exceeded⟩

end MppRouter.Mpp.RateLimit
