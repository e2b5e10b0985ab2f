import Mathlib.Algebra.Order.Group.Nat
import MppRouter.Core.RelyGuarantee
import MppRouter.Mpp.AtomicStore

/-! # The compare-and-set loops over all interleavings

A version counter that only grows, and grows with every change of the value, is what makes a
successful commit safe: the version a loop sends then names one value. Every message keeps the
counters that way except a seed of a key whose value was deleted, which starts its counter again.
-/

namespace MppRouter.Mpp

open Concurrent Machine Protocol

/-- An entry may follow another: its version has not gone back, and it has moved if the value has. -/
def Entry.Precedes (old new : Entry) : Prop :=
  old.version ≤ new.version ∧ (old.version = new.version → old.value = new.value)

theorem Entry.Precedes.refl (entry : Entry) : entry.Precedes entry := ⟨le_rfl, fun _ => rfl⟩

theorem Entry.Precedes.trans {first second third : Entry} (earlier : first.Precedes second)
    (later : second.Precedes third) : first.Precedes third := by
  refine ⟨earlier.1.trans later.1, fun same => ?_⟩
  have middle : first.version = second.version := le_antisymm earlier.1 (same ▸ later.1)
  exact (earlier.2 middle).trans (later.2 (middle ▸ same))

theorem Entry.Precedes.of_lt {old new : Entry} (moved : old.version < new.version) : old.Precedes new :=
  ⟨moved.le, fun same => absurd same moved.ne⟩

/-- Every key's entry may follow the one it had. -/
def Grows (before after : Storage) : Prop := ∀ key, (before key).Precedes (after key)

theorem Grows.refl (storage : Storage) : Grows storage storage := fun key => .refl (storage key)

theorem Grows.trans {first second third : Storage} (earlier : Grows first second)
    (later : Grows second third) : Grows first third := fun key => (earlier key).trans (later key)

theorem Grows.update {storage : Storage} {key : String} {entry : Entry}
    (moved : (storage key).version < entry.version) : Grows storage (Function.update storage key entry) := by
  intro other
  by_cases same : other = key
  · subst same
    rw [Function.update_self]
    exact .of_lt moved
  · rw [Function.update_of_ne same]
    exact .refl _

/-! ## What each message does -/

/-- A seed that writes finds a key that was never written: its version counter is still at zero. -/
def SeedsNeverWritten (codec : CounterCodec) : (storeMachine codec).Admits := fun _ message _ world =>
  match message with
  | .seed key _ => (world.storage key).value = none → (world.storage key).version = 0
  | _ => True

instance (codec : CounterCodec) (tid : ℕ) (message : Message) (choice : Unit) (world : World) :
    Decidable (SeedsNeverWritten codec tid message choice world) :=
  match message with
  | .seed key _ =>
    inferInstanceAs (Decidable ((world.storage key).value = none → (world.storage key).version = 0))
  | .read _ | .commit _ _ | .gate _ => inferInstanceAs (Decidable True)

theorem handleCommit_grows (storage : Storage) (body : CommitBody) : Grows storage (handleCommit storage body).2 := by
  simp only [handleCommit]
  by_cases stale : (storage body.key).version ≠ body.expectedVersion
  · rw [if_pos stale]
    exact .refl storage
  · rw [if_neg stale]
    exact .update (not_not.mp stale ▸ Nat.lt_succ_self _)

theorem handleSeed_grows {storage : Storage} {key : String} (value : String)
    (fresh : (storage key).value = none → (storage key).version = 0) :
    Grows storage (handleSeed storage key value).2 := by
  simp only [handleSeed]
  by_cases present : (storage key).value ≠ none
  · rw [if_pos present]
    exact .refl storage
  · rw [if_neg present]
    exact .update (fresh (not_not.mp present) ▸ Nat.zero_lt_one)

theorem bump_grows (codec : CounterCodec) (storage : Storage) (bucket key : String) :
    Grows storage (bump codec storage bucket key).2 := .update (Nat.lt_succ_self _)

theorem handleGate_grows (codec : CounterCodec) (storage : Storage) (body : GateBody) :
    Grows storage (handleGate codec storage body).2 := by
  have counted := bump_grows codec storage body.bucket body.globalKey
  simp only [handleGate]
  split_ifs
  · exact counted.trans (bump_grows codec _ body.bucket body.ipKey)
  · exact counted

theorem deliver_grows {codec : CounterCodec} {world : World} {message : Message} {tid : ℕ}
    (admitted : SeedsNeverWritten codec tid message () world) :
    Grows world.storage (deliver codec world message).2.storage := by
  cases message with
  | read key => exact .refl _
  | commit body seen =>
    have grows := handleCommit_grows world.storage body
    simp only [deliver]
    split
    next committed => simpa only [committed] using grows
    next response storage _ committed => simpa only [committed] using grows
  | seed key value => exact handleSeed_grows value admitted
  | gate body => exact handleGate_grows codec world.storage body

/-- Every successful commit replaced exactly the value its sender had seen. -/
def SawWhatItReplaced (world : World) : Prop :=
  ∀ overwrite ∈ world.overwrites, overwrite.seen = overwrite.replaced

/-- A commit whose sender saw the entry its version names replaces the value it saw. -/
theorem deliver_commit_sawWhatItReplaced (codec : CounterCodec) {world : World} {body : CommitBody}
    {seen : Option String} (inv : SawWhatItReplaced world)
    (current : Entry.Precedes ⟨seen, body.expectedVersion⟩ (world.storage body.key)) :
    SawWhatItReplaced (deliver codec world (.commit body seen)).2 := by
  simp only [deliver, handleCommit]
  by_cases stale : (world.storage body.key).version ≠ body.expectedVersion
  · rw [if_pos stale]
    exact inv
  · rw [if_neg stale]
    intro overwrite member
    rcases List.mem_cons.mp member with rfl | earlier
    · exact current.2 (not_not.mp stale).symm
    · exact inv overwrite earlier

/-- A conflict answers with the entry it found. -/
theorem deliver_commit_conflict {codec : CounterCodec} {world : World} {body : CommitBody}
    {seen value : Option String} {version : ℕ}
    (conflict : (deliver codec world (.commit body seen)).1 = .conflict value version) :
    (deliver codec world (.commit body seen)).2 = world ∧ ⟨value, version⟩ = world.storage body.key := by
  simp only [deliver, handleCommit] at conflict ⊢
  by_cases stale : (world.storage body.key).version ≠ body.expectedVersion
  · rw [if_pos stale] at conflict ⊢
    cases conflict
    exact ⟨rfl, rfl⟩
  · rw [if_neg stale] at conflict
    cases conflict

/-! ## The loops -/

/-- Commits replace what they saw, and every step lets the versions grow. -/
def casProtocol (codec : CounterCodec) : Protocol (storeMachine codec) where
  Inv := SawWhatItReplaced
  Guar _ world after := Grows world.storage after.storage

section Loops

variable {codec : CounterCodec} {tid : ℕ}

/-- A loop knows an entry the key has had. -/
abbrev Knows (key : String) (value : Option String) (version : ℕ) (world : World) : Prop :=
  Entry.Precedes ⟨value, version⟩ (world.storage key)

theorem knows_stable (key : String) (value : Option String) (version : ℕ) :
    (casProtocol codec).Stable tid (Knows key value version) :=
  fun _ _ _ _ _ _ grows known => known.trans (grows key)

/-- A client whose remaining messages keep the protocol. -/
abbrev Keeps (codec : CounterCodec) (tid : ℕ) {α : Type} (client : Client α) (world : World) : Prop :=
  (casProtocol codec).Holds (SeedsNeverWritten codec) tid client anyhow world

variable {world : World}

/-- The rule of `/read`: the client continues knowing the entry it received. -/
theorem keeps_read {α : Type} {key : String} {rest : ReadResponse → Client α}
    (next : ∀ current after, Knows key current.value current.version after →
      Keeps codec tid (rest current) after) : Keeps codec tid (read key >>= rest) world := by
  refine Holds.step (fun _ => True) (.const True) trivial ?_
  intro before inv _ choice answer after _ delivered
  cases delivered
  exact ⟨inv, .refl _, next _ _ (.refl _)⟩

/-- The rule of `/commit`: after a conflict the client continues knowing the fresh entry. -/
theorem keeps_commit {α : Type} {body : CommitBody} {seen : Option String}
    {rest : CommitResponse → Client α} (known : Knows body.key seen body.expectedVersion world)
    (committed : ∀ after, Keeps codec tid (rest .ok) after)
    (conflict : ∀ value version after, Knows body.key value version after →
      Keeps codec tid (rest (.conflict value version)) after) :
    Keeps codec tid (commit body seen >>= rest) world := by
  refine Holds.step _ (knows_stable body.key seen body.expectedVersion) known ?_
  intro before inv current choice answer after admitted delivered
  have grows := deliver_grows admitted
  have saw := deliver_commit_sawWhatItReplaced codec inv current
  have delivered : deliver codec before (.commit body seen) = (answer, after) := Option.some.inj delivered
  rw [delivered] at grows saw
  refine ⟨saw, grows, ?_⟩
  cases answer with
  | ok => exact committed _
  | conflict value version =>
    obtain ⟨same, fresh⟩ := deliver_commit_conflict (congrArg Prod.fst delivered)
    obtain rfl : after = before := (congrArg Prod.snd delivered).symm.trans same
    refine conflict value version _ ?_
    change Entry.Precedes _ _
    exact fresh ▸ .refl _

/-- The rule of a message that is no commit: it overwrites nothing a loop would have to see. -/
theorem keeps_call {message : Message}
    (quiet : ∀ before, (deliver codec before message).2.overwrites = before.overwrites) :
    Keeps codec tid (Client.run (Prog.call message)) world := by
  refine Holds.step (fun _ => True) (.const True) trivial ?_
  intro before inv _ choice answer after admitted delivered
  have grows := deliver_grows admitted
  have kept := quiet before
  have delivered : deliver codec before message = (answer, after) := Option.some.inj delivered
  rw [delivered] at grows kept
  exact ⟨fun overwrite member => inv overwrite (kept ▸ member), grows, trivial⟩

theorem keeps_run {α : Type} {client : Client α} (keeps : Keeps codec tid client world) :
    Keeps codec tid client.run world :=
  Holds.bind keeps.loose

/-- The rounds of `update` keep the protocol from any entry the key has had. -/
theorem keeps_updateLoop {R : Type} (key : String) (fn : Option String → Change R) (attempts : ℕ)
    {value : Option String} {version : ℕ} (known : Knows key value version world) :
    Keeps codec tid (updateLoop key fn attempts value version) world := by
  induction attempts generalizing value version world with
  | zero => exact trivial
  | succ attempts ih =>
    simp only [updateLoop]
    cases fn value with
    | noop result => exact trivial
    | set written result => exact keeps_commit known (fun _ => trivial) fun _ _ _ fresh => ih fresh
    | delete result => exact keeps_commit known (fun _ => trivial) fun _ _ _ fresh => ih fresh

theorem keeps_putLoop (key value : String) (attempts : ℕ) : Keeps codec tid (putLoop key value attempts) world := by
  induction attempts generalizing world with
  | zero => exact trivial
  | succ attempts ih =>
    refine keeps_read fun current after known => ?_
    exact keeps_commit known (fun _ => trivial) fun _ _ _ _ => ih

theorem keeps_deleteLoop (key : String) (attempts : ℕ) : Keeps codec tid (deleteLoop key attempts) world := by
  induction attempts generalizing world with
  | zero => exact trivial
  | succ attempts ih =>
    refine keeps_read fun current after known => ?_
    split_ifs
    · exact trivial
    · exact keeps_commit known (fun _ => trivial) fun _ _ _ _ => ih

/-- Every client of the store keeps the protocol. -/
theorem IsClient.keeps {client : Client Unit} (member : IsClient client) (world : World) :
    Keeps codec tid client world := by
  cases member with
  | idle => exact trivial
  | get key => exact keeps_run (keeps_read fun _ _ _ => trivial)
  | put key value => exact keeps_run (keeps_putLoop key value _)
  | delete key => exact keeps_run (keeps_deleteLoop key _)
  | update key fn => exact keeps_run (keeps_read fun _ _ known => keeps_updateLoop key fn _ known)
  | seed key value => exact keeps_call fun _ => rfl
  | gate body => exact keeps_call fun _ => rfl

end Loops

/-! ## Whole runs -/

/-- What a linearizable compare-and-set store promises between two moments of a run. -/
structure Linearized (middle after : World) : Prop where
  /-- A version never returns to an earlier number, and it moves with every change of the value. -/
  grows : Grows middle.storage after.storage
  /-- Every successful commit was decided on the value it replaced. -/
  saw : SawWhatItReplaced after

/-- If every seed that writes finds a key that was never written, the store is linearizable: for any
clients and any interleaving, versions only grow and no commit overwrites a value unseen. -/
theorem cas_linearizable (codec : CounterCodec) (storage : Storage) (clients : ℕ → Client Unit)
    (members : ∀ tid, IsClient (clients tid)) {middle after : (storeMachine codec).Config}
    (run : Run (SeedsNeverWritten codec) ⟨⟨storage, []⟩, clients⟩ middle)
    (later : Run (SeedsNeverWritten codec) middle after) : Linearized middle.world after.world := by
  have start : (casProtocol codec).Checked (SeedsNeverWritten codec) ⟨⟨storage, []⟩, clients⟩ :=
    ⟨fun _ member => (nomatch member), fun tid => (members tid).keeps _⟩
  have reached := sound start run
  refine ⟨?_, (sound reached later).1⟩
  have path := guaranteed reached later
  generalize after.world = final at path
  induction path with
  | refl => exact .refl _
  | tail _ step ih =>
    obtain ⟨_, grows⟩ := step
    exact ih.trans grows

/-- Clients that update one key while a migration seeds another that was never written. -/
private def seedingClients : ℕ → Client Unit
  | 0 => (update "channel" fun current => Change.set (current.getD "" ++ "a") ()).run
  | 1 => Client.run (Prog.call (Message.seed "charge" "b"))
  | _ => pure ()

/-- An update and a seed of a fresh key interleave: the update's commit is the one recorded. -/
theorem cas_linearizable_seeding :
    ∃ after, Run (SeedsNeverWritten plainCounter) ⟨⟨fun _ => {}, []⟩, seedingClients⟩ after ∧
      after.world.overwrites = [⟨"channel", none, none, some "a"⟩] ∧
      Linearized ⟨fun _ => {}, []⟩ after.world := by
  obtain ⟨after, run, overwrites⟩ := Config.exec_reaches (SeedsNeverWritten plainCounter)
    ⟨⟨fun _ => {}, []⟩, seedingClients⟩ [(0, ()), (1, ()), (0, ())]
    (fun world => world.overwrites = [⟨"channel", none, none, some "a"⟩]) (by rfl)
  refine ⟨after, run, of_decide_eq_true overwrites, ?_⟩
  refine cas_linearizable plainCounter (fun _ => {}) seedingClients (fun tid => ?_) .refl run
  match tid with
  | 0 => exact .update _ _
  | 1 => exact .seed _ _
  | _ + 2 => exact .idle

/-- A slow update, a put and a delete of the same key, and a migration that seeds the key again. -/
private def reseedingClients : ℕ → Client Unit
  | 0 => (update "channel" fun current => Change.set (current.getD "" ++ "a") ()).run
  | 1 => (put "channel" "old").run
  | 2 => (delete "channel").run
  | 3 => Client.run (Prog.call (Message.seed "channel" "migrated"))
  | _ => pure ()

/-- A seed of a deleted key brings a version back: the slow update read the old value at version 1,
and its commit overwrites the migrated value it never saw. -/
theorem cas_overwrites_reseeded_key : ¬ ∀ clients : ℕ → Client Unit, (∀ tid, IsClient (clients tid)) →
      ∀ after, Run (unrestricted (storeMachine plainCounter)) ⟨⟨fun _ => {}, []⟩, clients⟩ after →
        SawWhatItReplaced after.world := by
  intro linearizable
  obtain ⟨after, run, overwrites⟩ := Config.exec_reaches (unrestricted (storeMachine plainCounter))
    ⟨⟨fun _ => {}, []⟩, reseedingClients⟩
    [(1, ()), (1, ()), (0, ()), (2, ()), (2, ()), (3, ()), (0, ())]
    (fun world => ⟨"channel", some "old", some "migrated", some "olda"⟩ ∈ world.overwrites) (by rfl)
  have saw := linearizable reseedingClients (fun tid => ?_) after run _ (of_decide_eq_true overwrites)
  · exact absurd saw (by decide)
  · match tid with
    | 0 => exact .update _ _
    | 1 => exact .put _ _
    | 2 => exact .delete _
    | 3 => exact .seed _ _
    | _ + 4 => exact .idle

end MppRouter.Mpp
