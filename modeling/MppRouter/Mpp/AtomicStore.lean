import Mathlib.Data.Int.Notation
import Mathlib.Data.List.Basic
import MppRouter.Core.Prog

/-! # The versioned store behind every money path

`AtomicStoreDO` keeps a value and a version counter under each key. Its messages are serialised, so
each is one atomic action. `doAtomicParams` builds compare-and-set loops from `/read` and `/commit`;
the loops run in the Worker and interleave freely between their messages.
-/

namespace MppRouter.Mpp

open Concurrent Function

/-- The rows `v:<key>` and `n:<key>`; a missing counter reads as zero. -/
structure Entry where
  value : Option String := none
  version : ℕ := 0
  deriving DecidableEq, Repr

/-- The JSON of a `{ count, bucket }` counter: what a text parses to, and the text of a counter. -/
structure CounterCodec where
  parse : String → Option (ℤ × String)
  stringify : ℤ → String → String

/-- The JSON text of a counter whose bucket needs no escapes, and the reading of such a text. -/
def plainCounter : CounterCodec where
  stringify count bucket := "\x7b\"count\":" ++ toString count ++ ",\"bucket\":\"" ++ bucket ++ "\"\x7d"
  parse text := do
    let digits ← text.toList.dropPrefix? "\x7b\"count\":".toList
    let bucket ← (digits.dropWhile Char.isDigit).dropPrefix? ",\"bucket\":\"".toList
    let plain ← bucket.dropSuffix? "\"\x7d".toList
    let count ← (String.ofList (digits.takeWhile Char.isDigit)).toNat?
    pure (count, String.ofList plain)

/-- Count of a stored counter; 0 when absent, malformed, or from another bucket. -/
def parseGateCount (codec : CounterCodec) (raw : Option String) (bucket : String) : ℤ :=
  match raw with
  | none => 0
  | some text =>
    if text = "" then 0
    else match codec.parse text with
      | some (count, stored) => if stored = bucket then count else 0
      | none => 0

inductive CommitOp where
  | set (value : String)
  | delete
  deriving DecidableEq, Repr

/-- The value a committed operation leaves. -/
def CommitOp.written : CommitOp → Option String
  | .set value => some value
  | .delete => none

structure CommitBody where
  key : String
  expectedVersion : ℕ
  op : CommitOp
  deriving DecidableEq, Repr

structure GateBody where
  globalKey : String
  ipKey : String
  bucket : String
  globalLimit : ℤ
  deriving DecidableEq, Repr

structure ReadResponse where
  value : Option String
  version : ℕ
  deriving DecidableEq, Repr

inductive CommitResponse where
  | ok
  | conflict (value : Option String) (version : ℕ)
  deriving DecidableEq, Repr

structure GateResponse where
  globalCount : ℤ
  ipCount : Option ℤ
  deriving DecidableEq, Repr

/-- The storage of the Durable Object. -/
abbrev Storage := String → Entry

def handleRead (storage : Storage) (key : String) : ReadResponse :=
  ⟨(storage key).value, (storage key).version⟩

/-- Write under the expected version, or answer with the fresh value and version. -/
def handleCommit (storage : Storage) (body : CommitBody) : CommitResponse × Storage :=
  let current := storage body.key
  if current.version ≠ body.expectedVersion then (.conflict current.value current.version, storage)
  else (.ok, update storage body.key ⟨body.op.written, body.expectedVersion + 1⟩)

/-- Write a migrated value at version 1 unless the key holds a value. -/
def handleSeed (storage : Storage) (key value : String) : Bool × Storage :=
  if (storage key).value ≠ none then (false, storage)
  else (true, update storage key ⟨some value, 1⟩)

/-- One counter of the gate: its next count, and its version moved on. -/
def bump (codec : CounterCodec) (storage : Storage) (bucket key : String) : ℤ × Storage :=
  let current := storage key
  let count := parseGateCount codec current.value bucket + 1
  (count, update storage key ⟨some (codec.stringify count bucket), current.version + 1⟩)

/-- Bump the global counter and, only while it is within its limit, the counter of the address. -/
def handleGate (codec : CounterCodec) (storage : Storage) (body : GateBody) : GateResponse × Storage :=
  let (globalCount, counted) := bump codec storage body.bucket body.globalKey
  if globalCount ≤ body.globalLimit then
    let (ipCount, bumped) := bump codec counted body.bucket body.ipKey
    (⟨globalCount, some ipCount⟩, bumped)
  else (⟨globalCount, none⟩, counted)

/-! ## The loops -/

/-- A message to the store. `seen` is auxiliary: the value the sender received together with the
version it sends. The store does not look at it. -/
inductive Message where
  | read (key : String)
  | commit (body : CommitBody) (seen : Option String)
  | seed (key value : String)
  | gate (body : GateBody)
  deriving DecidableEq

@[reducible] def Message.Response : Message → Type
  | .read _ => ReadResponse
  | .commit _ _ => CommitResponse
  | .seed _ _ => Bool
  | .gate _ => GateResponse

/-- Auxiliary record of a successful commit: what its sender had seen, and what it replaced. -/
structure Overwrite where
  key : String
  seen : Option String
  replaced : Option String
  written : Option String
  deriving DecidableEq, Repr

structure World where
  storage : Storage
  overwrites : List Overwrite

def deliver (codec : CounterCodec) (world : World) : (message : Message) → message.Response × World
  | .read key => (handleRead world.storage key, world)
  | .commit body seen =>
    match handleCommit world.storage body with
    | (.ok, storage) =>
      (.ok, ⟨storage, ⟨body.key, seen, (world.storage body.key).value, body.op.written⟩ :: world.overwrites⟩)
    | (response, storage) => (response, { world with storage })
  | .seed key value =>
    let (seeded, storage) := handleSeed world.storage key value
    (seeded, { world with storage })
  | .gate body =>
    let (response, storage) := handleGate codec world.storage body
    (response, { world with storage })

/-- The store as a machine: delivering a message leaves nothing to the environment. -/
abbrev storeMachine (codec : CounterCodec) : Machine where
  Action := Message
  Answer := Message.Response
  Choice := Unit
  World := World
  perform _ message _ world := some (deliver codec world message)

/-- A program against the store. -/
abbrev Client (α : Type) := Prog Message Message.Response α

def read (key : String) : Client ReadResponse := Prog.call (Message.read key)

def commit (body : CommitBody) (seen : Option String) : Client CommitResponse := Prog.call (Message.commit body seen)

/-- What an update function decides on a current value. -/
inductive Change (R : Type) where
  | noop (result : R)
  | set (value : String) (result : R)
  | delete (result : R)

def maxUpdateRetries : ℕ := 5

/-- The error of a loop that lost every round. -/
def exhausted (operation key trailer : String) : String :=
  "AtomicStoreDO " ++ operation ++ "(" ++ key ++ "): exhausted " ++ toString maxUpdateRetries ++ trailer

/-- The remaining rounds of `update`, from the value and version received last. -/
def updateLoop {R : Type} (key : String) (fn : Option String → Change R) :
    ℕ → Option String → ℕ → Client (Except String R)
  | 0, _, _ => pure (.error (exhausted "update" key
      " CAS retries — too much concurrent write contention on this key"))
  | attempts + 1, value, version =>
    let attempt (op : CommitOp) (result : R) : Client (Except String R) := do
      match ← commit ⟨key, version, op⟩ value with
      | .ok => pure (.ok result)
      -- The conflict answer carries the fresh value and version of the next round.
      | .conflict fresh freshVersion => updateLoop key fn attempts fresh freshVersion
    match fn value with
    | .noop result => pure (.ok result)
    | .set written result => attempt (.set written) result
    | .delete result => attempt .delete result

/-- Compare-and-set: apply `fn` to the current value and write its answer if nothing moved. -/
def update {R : Type} (key : String) (fn : Option String → Change R) : Client (Except String R) := do
  let current ← read key
  updateLoop key fn maxUpdateRetries current.value current.version

def putLoop (key value : String) : ℕ → Client (Except String Unit)
  | 0 => pure (.error (exhausted "put" key " retries — too much concurrent write contention"))
  | attempts + 1 => do
    let current ← read key
    match ← commit ⟨key, current.version, .set value⟩ current.value with
    | .ok => pure (.ok ())
    | .conflict _ _ => putLoop key value attempts

def put (key value : String) : Client (Except String Unit) := putLoop key value maxUpdateRetries

def deleteLoop (key : String) : ℕ → Client (Except String Unit)
  | 0 => pure (.error (exhausted "delete" key " retries — too much concurrent write contention"))
  | attempts + 1 => do
    let current ← read key
    if current.value = none then pure (.ok ())
    else match ← commit ⟨key, current.version, .delete⟩ current.value with
      | .ok => pure (.ok ())
      | .conflict _ _ => deleteLoop key attempts

def delete (key : String) : Client (Except String Unit) := deleteLoop key maxUpdateRetries

def get (key : String) : Client (Option String) := do
  let current ← read key
  pure current.value

/-- Forget a client's result. -/
def Client.run {α : Type} (client : Client α) : Client Unit := do
  let _ ← client
  pure ()

/-- Everything that talks to the store: the four operations, migrations and gates. -/
inductive IsClient : Client Unit → Prop
  | idle : IsClient (pure ())
  | get (key : String) : IsClient (get key).run
  | put (key value : String) : IsClient (put key value).run
  | delete (key : String) : IsClient (delete key).run
  | update {R : Type} (key : String) (fn : Option String → Change R) : IsClient (update key fn).run
  | seed (key value : String) : IsClient (Client.run (Prog.call (Message.seed key value)))
  | gate (body : GateBody) : IsClient (Client.run (Prog.call (Message.gate body)))

end MppRouter.Mpp
