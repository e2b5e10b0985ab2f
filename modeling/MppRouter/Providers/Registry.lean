import MppRouter.Core.Performs
import MppRouter.Providers.Record
import Mathlib.Data.List.Sort
import Mathlib.Data.String.Basic

/-! # Provider records and the index derived from them

A provider is stored under its own key, and every published provider once more in a shared index. A call that writes a
record splices it into the index it reads, from a cache of its isolate or from the store. A rebuild lists the records.
-/

namespace MppRouter.Providers.Registry

open Concurrent Function List

/-! ## The store -/

/-- The records under their keys, which are listed in order. -/
structure Records where
  ids : List String
  get : String → Option ProviderRecord
  sorted : ids.Pairwise (· < ·)
  listed : ∀ id, id ∈ ids ↔ (get id).isSome = true
  keyed : ∀ id record, get id = some record → record.id = id

namespace Records

def empty : Records where
  ids := []
  get _ := none
  sorted := .nil
  listed _ := ⟨fun member => absurd member not_mem_nil, fun some => absurd some Bool.false_ne_true⟩
  keyed _ _ found := absurd found.symm (Option.some_ne_none _)

/-- The keys with one more. -/
def insertId (id : String) : List String → List String
  | [] => [id]
  | first :: rest =>
    if id < first then id :: first :: rest
    else if id = first then first :: rest
    else first :: insertId id rest

theorem mem_insertId {id other : String} {ids : List String} :
    other ∈ insertId id ids ↔ other = id ∨ other ∈ ids := by
  induction ids with
  | nil => simp [insertId]
  | cons first rest ih =>
    unfold insertId
    split
    · simp
    split
    next same =>
      subst same
      simp
    · simp [ih, or_left_comm]

theorem insertId_sorted {id : String} {ids : List String} (sorted : ids.Pairwise (· < ·)) :
    (insertId id ids).Pairwise (· < ·) := by
  induction ids with
  | nil => simp [insertId]
  | cons first rest ih =>
    obtain ⟨below, sorted⟩ := pairwise_cons.mp sorted
    unfold insertId
    split
    next before =>
      refine pairwise_cons.mpr ⟨fun other member => ?_, pairwise_cons.mpr ⟨below, sorted⟩⟩
      rcases mem_cons.mp member with rfl | later
      · exact before
      · exact before.trans (below other later)
    next notBefore =>
      split
      · exact pairwise_cons.mpr ⟨below, sorted⟩
      next different =>
        refine pairwise_cons.mpr ⟨fun other member => ?_, ih sorted⟩
        rcases mem_insertId.mp member with rfl | later
        · exact lt_of_le_of_ne (not_lt.mp notBefore) (Ne.symm different)
        · exact below other later

/-- Store a record under its key. -/
def put (records : Records) (record : ProviderRecord) : Records where
  ids := insertId record.id records.ids
  get := update records.get record.id (some record)
  sorted := insertId_sorted records.sorted
  listed id := by
    rw [mem_insertId, records.listed]
    by_cases same : id = record.id
    · subst same
      simp
    · simp [same]
  keyed id other found := by
    by_cases same : id = record.id
    · subst same
      rw [update_self] at found
      rw [← Option.some.inj found]
    · rw [update_of_ne same] at found
      exact records.keyed id other found

/-- The keys that a listing has still to return. -/
def after (records : Records) (cursor : Option String) : List String :=
  match cursor with
  | none => records.ids
  | some last => records.ids.filter (last < ·)

end Records

/-- The published records, as the derived index holds them. -/
abbrev ProviderIndex := List ProviderRecord

def CACHE_MS : ℕ := 10000
def MAX_PROVIDERS : ℕ := 500

/-! ## The world -/

/-- How a read of the index begins. -/
inductive Entered where
  | cached (value : ProviderIndex)
  /-- Another call of the isolate is reading it. -/
  | joined (loader : ℕ)
  | loading
  deriving DecidableEq, Repr

structure Page where
  keys : List String
  /-- Where the next page begins; nothing, when the list is complete. -/
  cursor : Option String
  deriving DecidableEq, Repr

inductive Action where
  | putRecord (record : ProviderRecord)
  | enterRead
  | await (loader : ℕ)
  /-- Read the index in the store. -/
  | getIndex
  /-- The read of the index is over, and the isolate keeps its value. -/
  | loaded (value : ProviderIndex)
  | cacheIndex (index : ProviderIndex)
  | putIndex (index : ProviderIndex)
  /-- The registry is full; the call throws. -/
  | refuse
  | list (cursor : Option String)
  | getRecord (id : String)
  /-- A listing that takes more pages than this does not end. -/
  | goOn
  | tick (elapsed : ℕ)
  deriving DecidableEq, Repr

/-- Where a read may fail, nothing stands for that. -/
abbrev Action.Answer : Action → Type
  | .enterRead => Entered
  | .await _ => ProviderIndex
  | .getIndex => Option (Option ProviderIndex)
  | .list _ => Page
  | .getRecord _ => Option ProviderRecord
  | _ => Unit

/-- What the code does not decide. -/
structure Choice where
  /-- The read fails. -/
  fails : Bool := false
  /-- How many keys a page returns. -/
  pageSize : ℕ := 1000
  deriving DecidableEq, Repr

structure World where
  now : ℕ
  records : Records
  index : Option ProviderIndex
  /-- The cache of an isolate, and when it expires. -/
  cache : ℕ → Option (ProviderIndex × ℕ)
  /-- The call that reads the index for its isolate. -/
  inFlight : ℕ → Option ℕ
  /-- What the calls that read the index found. -/
  loads : ℕ → Option ProviderIndex
  /-- The record that a call has stored, and has not spliced into the index yet. -/
  splicing : ℕ → Option ProviderRecord
  /-- The records that a call has read for its index write. -/
  taken : ℕ → List ProviderRecord

variable (isolateOf : ℕ → ℕ)

/-- The records a call works on are these. -/
def World.take (world : World) (tid : ℕ) (taken : List ProviderRecord) : World :=
  { world with taken := update world.taken tid taken }

def enter (tid : ℕ) (world : World) : Entered × World :=
  let fresh := (world.cache (isolateOf tid)).filter fun entry => decide (world.now < entry.2)
  match fresh, world.inFlight (isolateOf tid) with
  | some entry, _ => (.cached entry.1, world.take tid entry.1)
  | none, some loader => (.joined loader, world)
  | none, none => (.loading, { world with inFlight := update world.inFlight (isolateOf tid) (some tid) })

def World.keep (world : World) (isolate : ℕ) (index : ProviderIndex) : World :=
  { world with cache := update world.cache isolate (some (index, world.now + CACHE_MS)) }

/-- The call is done with the index. -/
def World.release (world : World) (tid : ℕ) : World :=
  { world with
    splicing := update world.splicing tid none
    taken := update world.taken tid [] }

/-- A page of keys after a cursor. -/
def pageAfter (records : Records) (cursor : Option String) (size : ℕ) : Page :=
  let keys := (records.after cursor).take size
  { keys, cursor := if (records.after cursor).length ≤ size then none else keys.getLast? }

def perform (tid : ℕ) : (action : Action) → Choice → World → Option (action.Answer × World)
  | .putRecord record, _, world =>
    some ((), { world with
      records := world.records.put record
      splicing := update world.splicing tid (some record) })
  | .enterRead, _, world => some (enter isolateOf tid world)
  | .await loader, _, world => (world.loads loader).map fun value => (value, world.take tid value)
  | .getIndex, choice, world => some (if choice.fails then none else some world.index, world)
  | .loaded value, _, world =>
    some ((), { (world.keep (isolateOf tid) value).take tid value with
      inFlight := update world.inFlight (isolateOf tid) none
      loads := update world.loads tid (some value) })
  | .cacheIndex index, _, world => some ((), world.keep (isolateOf tid) index)
  | .putIndex index, _, world => some ((), { world.release tid with index := some index })
  | .refuse, _, world => some ((), world.release tid)
  | .list cursor, choice, world =>
    -- A page that is not the last one has a key.
    if choice.pageSize = 0 then none else some (pageAfter world.records cursor choice.pageSize, world)
  | .getRecord id, choice, world =>
    let found := if choice.fails then none else world.records.get id
    some (found, world.take tid (world.taken tid ++
      (found.filter fun record => record.status == .published).toList))
  | .goOn, _, _ => none
  | .tick elapsed, _, world => some ((), { world with now := world.now + elapsed })

abbrev registryMachine : Machine :=
  ⟨Action, Action.Answer, Choice, World, perform isolateOf⟩

abbrev Routine (α : Type) := Prog Action Action.Answer α

def ask (action : Action) : Routine action.Answer := Prog.call action

/-! ## The index -/

/-- The index from the cache of the isolate, from a read under way, or from the store. A failed read is an empty
index. -/
def readIndex : Routine ProviderIndex := do
  match ← ask .enterRead with
  | .cached value => pure value
  | .joined loader => ask (.await loader)
  | .loading =>
    let raw ← ask .getIndex
    let value := raw.join.getD []
    ask (.loaded value)
    pure value

def writeIndex (index : ProviderIndex) : Routine Unit := do
  ask (.cacheIndex index)
  ask (.putIndex index)

def splice (current : ProviderIndex) (changed : ProviderRecord) : ProviderIndex :=
  let others := current.filter fun p => p.id != changed.id
  if changed.status = .published then others ++ [changed] else others

/-- Splice one record into the index without a full rebuild. -/
def refreshIndex (changed : ProviderRecord) : Routine Unit := do
  let current ← readIndex
  let next := splice current changed
  if MAX_PROVIDERS < next.length then ask .refuse
  else writeIndex next

/-- Persist a record and refresh the derived index. -/
def putProviderRecord (record : ProviderRecord) : Routine Unit := do
  ask (.putRecord record)
  refreshIndex record

/-- The published records under these keys, after those already collected. -/
def collect : List String → List ProviderRecord → Routine (List ProviderRecord)
  | [], providers => pure providers
  | key :: keys, providers =>
    if MAX_PROVIDERS ≤ providers.length then pure providers
    else do
      let record ← ask (.getRecord key)
      match record.filter fun record => record.status == .published with
      | some record => collect keys (providers ++ [record])
      | none => collect keys providers

def collectPages : ℕ → Option String → List ProviderRecord → Routine (List ProviderRecord)
  | 0, _, providers => do
    ask .goOn
    pure providers
  | pages + 1, cursor, providers => do
    let page ← ask (.list cursor)
    let providers ← collect page.keys providers
    match page.cursor with
    | some last => if providers.length < MAX_PROVIDERS then collectPages pages (some last) providers else pure providers
    | none => pure providers

/-- Rebuild the index from the authoritative records, over at most so many pages. -/
def rebuildIndex (pages : ℕ) : Routine Unit := do
  let providers ← collectPages pages none []
  writeIndex providers

/-! ## The parties -/

inductive Party where
  | idle
  | put (record : ProviderRecord)
  | rebuild (pages : ℕ)
  | tick (elapsed : ℕ)
  deriving DecidableEq, Repr

def Party.program : Party → Routine Unit
  | .idle => pure ()
  | .put record => putProviderRecord record
  | .rebuild pages => rebuildIndex pages
  | .tick elapsed => ask (.tick elapsed)

/-- Every party is about to begin. -/
def registering (world : World) (parties : ℕ → Party) : (registryMachine isolateOf).Config :=
  ⟨world, fun tid => (parties tid).program⟩

/-- No provider is stored and nothing is cached. -/
def World.start : World where
  now := 0
  records := .empty
  index := none
  cache _ := none
  inFlight _ := none
  loads _ := none
  splicing _ := none
  taken _ := []

end MppRouter.Providers.Registry
