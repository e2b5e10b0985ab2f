import Mathlib.Data.List.Nodup
import Mathlib.Data.Set.Function
import MppRouter.Core.Performs
import MppRouter.Routes.PartnerStore

/-! # Rotating a partner's API key

A rotation writes the reverse index of its new key, then the hash on the partner record, and last takes away the
index entry of the hash that it found on the record at its start. That hash was stored by one rotation only, so
once the record has moved on from it, no rotation brings it back, and the entry taken away is never the current one.
-/

namespace MppRouter.Routes.ApiKey

open Concurrent Machine List Function Option

/-- The id of a partner that has a record: a UUID, never empty. -/
abbrev PartnerId := { id : String // id ≠ "" }

section Digests

variable (Digest : Type)

/-- A partner record, as far as its API key goes. A digest is never empty, and equal bytes are equal hex. -/
structure KeyedRecord where
  apiKeyHash : Option Digest := none
  apiKeySetAt : Option ℕ := none
  rest : PartnerRecord

/-- An update of a partner record by anything but a rotation: it may create the record, and leaves its key alone. -/
structure OtherUpdate where
  fn : Option (KeyedRecord Digest) → Option (KeyedRecord Digest)
  keeps : ∀ current, (fn current).bind KeyedRecord.apiKeyHash = current.bind KeyedRecord.apiKeyHash

/-- What the environment decides: how a store operation goes wrong, the key drawn, and the clock. -/
structure Choice where
  fault : Fault := .none
  bytes : String := ""
  now : ℕ := 0

structure World where
  partners : String → Option (KeyedRecord Digest)
  /-- The reverse index, from the hash of a key to the partner; empty once the key is retired. -/
  partnerIds : Digest → Option String
  /-- The keys minted so far: by whom, and for which partner. -/
  minted : List (ℕ × String × String) := []
  /-- The hashes that rotations have stored on partner records, latest first. -/
  stored : List (String × Digest) := []

inductive Action where
  | getPartner (partnerId : String)
  | generatePartnerApiKey (partnerId : String)
  | setPartnerId (hash : Digest) (partnerId : String)
  | setApiKeyHash (partnerId : String) (hash : Digest)
  | updatePartner (partnerId : String) (update : OtherUpdate Digest)

variable {Digest}

/-- Without an answer the operation has thrown. -/
def Action.Answer : Action Digest → Type
  | .getPartner _ => Option (Option (KeyedRecord Digest))
  | .generatePartnerApiKey _ => String
  | .setPartnerId _ _ => Option Unit
  | .setApiKeyHash _ _ => Option Bool
  | .updatePartner _ _ => Option (Option (KeyedRecord Digest))

def apiKeyPrefix : String := "rzp_live_"

variable [DecidableEq Digest]

set_option linter.unusedSectionVars false

def World.setApiKeyHash (partnerId : String) (hash : Digest) (now : ℕ) (world : World Digest) : Bool × World Digest :=
  match world.partners partnerId with
  | none => (false, world)
  | some partner => (true, { world with
      partners := update world.partners partnerId (some { partner with apiKeyHash := some hash, apiKeySetAt := some now })
      stored := (partnerId, hash) :: world.stored })

def World.setPartnerId (hash : Digest) (partnerId : String) (world : World Digest) : Unit × World Digest :=
  ((), { world with partnerIds := update world.partnerIds hash (some partnerId) })

def World.updatePartner (partnerId : String) (change : OtherUpdate Digest) (world : World Digest) :
    Option (KeyedRecord Digest) × World Digest :=
  (world.partners partnerId,
    { world with partners := update world.partners partnerId (change.fn (world.partners partnerId)) })

def Action.perform (tid : ℕ) : (action : Action Digest) → Choice → World Digest → action.Answer × World Digest
  | .getPartner partnerId, choice, world => choice.fault.apply (fun world => (world.partners partnerId, world)) world
  | .generatePartnerApiKey partnerId, choice, world =>
    let key := apiKeyPrefix ++ choice.bytes
    (key, { world with minted := (tid, key, partnerId) :: world.minted })
  | .setPartnerId hash partnerId, choice, world => choice.fault.apply (World.setPartnerId hash partnerId) world
  | .setApiKeyHash partnerId hash, choice, world => choice.fault.apply (World.setApiKeyHash partnerId hash choice.now) world
  | .updatePartner partnerId change, choice, world => choice.fault.apply (World.updatePartner partnerId change) world

/-- Rotations, each store step of which is one atomic commit. -/
abbrev keyMachine (Digest : Type) [DecidableEq Digest] : Machine where
  Action := Action Digest
  Answer := Action.Answer
  Choice := Choice
  World := World Digest
  perform tid action choice world := some (action.perform tid choice world)

abbrev Route (Digest : Type) : Type → Type := Throwing (Action Digest) Action.Answer

/-! ## The source's functions -/

/-- Store operations, which may throw, and the random draw, which may not. -/
def perform (action : Action Digest) : Prog (Action Digest) Action.Answer action.Answer := Prog.call action

/-- The old index entry goes only once the new one is live. -/
def retire : Option Digest → Route Digest Unit
  | none => pure ()
  | some old => OptionT.mk (perform (.setPartnerId old ""))

variable (sha256Hex : String → Digest)

def setPartnerApiKey (partnerId : String) : Route Digest String := do
  let previous ← OptionT.mk (perform (.getPartner partnerId))
  match previous with
  | none => failure
  | some (previous : KeyedRecord Digest) =>
    let key ← OptionT.lift (perform (.generatePartnerApiKey partnerId))
    let _ ← OptionT.mk (perform (.setPartnerId (sha256Hex key) partnerId))
    let found ← OptionT.mk (perform (.setApiKeyHash partnerId (sha256Hex key)))
    if found = true then do
      retire (previous.apiKeyHash.filter fun old => old ≠ sha256Hex key)
      pure key
    else failure

/-- The index names a partner, and the partner's record is the authority on which key is current. -/
def resolvePartnerIdByApiKey (world : World Digest) (key : String) : Option String :=
  if apiKeyPrefix.toList.isPrefixOf key.toList then
    match world.partnerIds (sha256Hex key) with
    | none => none
    | some partnerId =>
      if partnerId = "" then none
      else match (world.partners partnerId).bind KeyedRecord.apiKeyHash with
        | none => none
        | some current => if current = sha256Hex key then some partnerId else none
  else none

/-! ## The phases of a rotation -/

/-- Where a rotation stands, with the hash that it found on the record and the key that it minted. -/
inductive Phase (Digest : Type) where
  | idle
  | read (partnerId : String) (previous : Option Digest)
  | minted (partnerId : String) (previous : Option Digest) (key : String)
  | linked (partnerId : String) (previous : Option Digest) (key : String)
  | stored (partnerId : String) (previous : Option Digest)

def Phase.allows : Phase Digest → Action Digest → Prop
  | .idle, .getPartner partnerId => partnerId ≠ ""
  | .read partnerId _, .generatePartnerApiKey other => other = partnerId
  | .minted partnerId _ key, .setPartnerId hash other => other = partnerId ∧ hash = sha256Hex key
  | .linked partnerId _ key, .setApiKeyHash other hash => other = partnerId ∧ hash = sha256Hex key
  | .stored _ previous, .setPartnerId hash other => previous = some hash ∧ other = ""
  | .idle, .updatePartner _ _ => True
  | _, _ => False

def Phase.next : Phase Digest → (action : Action Digest) → action.Answer → Phase Digest
  | .idle, .getPartner partnerId, some (some partner) => .read partnerId partner.apiKeyHash
  | .read partnerId previous, .generatePartnerApiKey _, key => .minted partnerId previous key
  | .minted partnerId previous key, .setPartnerId _ _, some _ => .linked partnerId previous key
  | .linked partnerId previous _, .setApiKeyHash _ _, some true => .stored partnerId previous
  | _, _, _ => .idle

def rotating : Typestate (keyMachine Digest) := ⟨Phase Digest, Phase.allows sha256Hex, Phase.next⟩

theorem setPartnerApiKey_follows (partnerId : PartnerId) :
    (rotating sha256Hex).Follows (setPartnerApiKey sha256Hex partnerId).run anyhow .idle := by
  refine ⟨partnerId.2, fun previous => ?_⟩
  rcases previous with _ | _ | previous
  · trivial
  · trivial
  refine ⟨rfl, fun key => ⟨⟨rfl, rfl⟩, fun linked => ?_⟩⟩
  cases linked with
  | none => trivial
  | some _ =>
    refine ⟨⟨rfl, rfl⟩, fun found => ?_⟩
    rcases found with _ | _ | _
    · trivial
    · trivial
    · show (rotating sha256Hex).Follows (OptionT.run (do
        retire (previous.apiKeyHash.filter fun old => old ≠ sha256Hex key)
        pure key)) anyhow (.stored partnerId previous.apiKeyHash)
      refine Typestate.Follows.seq ?_
      cases retired : previous.apiKeyHash.filter fun old => old ≠ sha256Hex key with
      | none => exact trivial
      | some old =>
        refine ⟨⟨eq_some_of_filter_eq_some retired, rfl⟩, fun answer => ?_⟩
        cases answer <;> trivial

/-- Rotations, and any programs that update partner records otherwise. -/
inductive IsKeyThread : Prog (Action Digest) Action.Answer Unit → Prop
  | idle : IsKeyThread (pure ())
  | rotate (partnerId : PartnerId) :
      IsKeyThread (do let _ ← (setPartnerApiKey sha256Hex partnerId).run)
  | other {program : Prog (Action Digest) Action.Answer Unit}
      (updates : program.Performs fun action => ∃ partnerId change, action = .updatePartner partnerId change) :
      IsKeyThread program

theorem IsKeyThread.follows {thread : Prog (Action Digest) Action.Answer Unit} (member : IsKeyThread sha256Hex thread) :
    (rotating sha256Hex).Follows thread anyhow .idle := by
  cases member with
  | idle => trivial
  | rotate partnerId =>
    exact Typestate.Follows.bind (setPartnerApiKey_follows sha256Hex partnerId).loose
  | other updates =>
    refine (Typestate.Follows.of_performs ?_ updates).loose
    rintro _ ⟨partnerId, change, rfl⟩
    exact ⟨trivial, fun _ => rfl⟩

/-! ## What every step keeps -/

/-- The hash that the partner's record accepts. -/
def World.current (world : World Digest) (partnerId : String) : Option Digest :=
  (world.partners partnerId).bind KeyedRecord.apiKeyHash

/-- The hash was on the partner's record, and is not there any more. -/
def World.Retired (world : World Digest) (partnerId : String) (hash : Digest) : Prop :=
  (partnerId, hash) ∈ world.stored ∧ world.current partnerId ≠ some hash

/-- No two keys drawn are the same. -/
def FreshKeys (keys : Set String) : (keyMachine Digest).Admits := fun _ action choice world =>
  match action with
  | .generatePartnerApiKey _ => apiKeyPrefix ++ choice.bytes ∈ keys ∧
      ∀ earlier ∈ world.minted, earlier.2.1 ≠ apiKeyPrefix ++ choice.bytes
  | _ => True

instance (keys : Set String) [DecidablePred (· ∈ keys)] (tid : ℕ) (action : Action Digest) (choice : Choice)
    (world : World Digest) : Decidable (FreshKeys keys tid action choice world) := by
  cases action <;> unfold FreshKeys <;> infer_instance

variable (keys : Set String)

structure Sound (world : World Digest) : Prop where
  drawn : ∀ tid key partnerId, (tid, key, partnerId) ∈ world.minted → key ∈ keys ∧ apiKeyPrefix.toList <+: key.toList
  distinct : ∀ left right key partnerId other, (left, key, partnerId) ∈ world.minted →
    (right, key, other) ∈ world.minted → left = right ∧ partnerId = other
  owned : ∀ partnerId hash, (partnerId, hash) ∈ world.stored →
    ∃ tid key, (tid, key, partnerId) ∈ world.minted ∧ sha256Hex key = hash
  named : ∀ hash partnerId, world.partnerIds hash = some partnerId → partnerId ≠ "" →
    ∃ tid key, (tid, key, partnerId) ∈ world.minted ∧ sha256Hex key = hash
  current : ∀ partnerId hash, world.current partnerId = some hash →
    (partnerId, hash) ∈ world.stored ∧ world.partnerIds hash = some partnerId ∧ partnerId ≠ ""

/-- What a thread guarantees of its own steps: index entries move only for keys of its own and for retired ones. -/
structure Moves (tid : ℕ) (before after : World Digest) : Prop where
  minted : before.minted ⊆ after.minted
  kept : before.stored ⊆ after.stored
  stored : ∀ partnerId hash, (partnerId, hash) ∈ after.stored → (partnerId, hash) ∈ before.stored ∨
    ∃ key, (tid, key, partnerId) ∈ before.minted ∧ sha256Hex key = hash
  retired : ∀ partnerId hash, before.Retired partnerId hash → after.Retired partnerId hash
  entries : ∀ hash, after.partnerIds hash = before.partnerIds hash ∨
    (∃ key partnerId, (tid, key, partnerId) ∈ before.minted ∧ sha256Hex key = hash) ∨
    ∃ partnerId, before.Retired partnerId hash
  keyed : ∀ partnerId, (before.current partnerId).isSome → (after.current partnerId).isSome

/-- The key is the thread's own, and its hash was never on a record. -/
structure Unstored (tid : ℕ) (partnerId key : String) (world : World Digest) : Prop where
  minted : (tid, key, partnerId) ∈ world.minted
  fresh : ∀ other, (other, sha256Hex key) ∉ world.stored

def RotationKnows (tid : ℕ) (phase : Phase Digest) (world : World Digest) : Prop :=
  match phase with
  | .idle => True
  | .read partnerId previous => partnerId ≠ "" ∧ ∀ hash, previous = some hash → (partnerId, hash) ∈ world.stored
  | .minted partnerId previous key => (partnerId ≠ "" ∧ ∀ hash, previous = some hash → (partnerId, hash) ∈ world.stored) ∧
      Unstored sha256Hex tid partnerId key world
  | .linked partnerId previous key => (partnerId ≠ "" ∧ ∀ hash, previous = some hash → (partnerId, hash) ∈ world.stored) ∧
      Unstored sha256Hex tid partnerId key world ∧ world.partnerIds (sha256Hex key) = some partnerId
  | .stored partnerId previous => ∀ hash, previous = some hash → world.Retired partnerId hash

variable {sha256Hex} {keys} {tid mover : ℕ} {world after : World Digest} {partnerId key : String}

theorem Moves.refl : Moves sha256Hex tid world world :=
  ⟨Subset.refl _, Subset.refl _, fun _ _ => .inl, fun _ _ => id, fun _ => .inl rfl, fun _ => id⟩

/-- One hash is minted once, by one thread and for one partner. -/
theorem Sound.one (sound : Sound sha256Hex keys world) (free : Set.InjOn sha256Hex keys) {left right : ℕ}
    {second other : String} (first : (left, key, partnerId) ∈ world.minted) (again : (right, second, other) ∈ world.minted)
    (same : sha256Hex second = sha256Hex key) : left = right ∧ second = key ∧ partnerId = other := by
  obtain rfl := free (sound.drawn _ _ _ again).1 (sound.drawn _ _ _ first).1 same
  obtain ⟨thread, partner⟩ := sound.distinct _ _ _ _ _ first again
  exact ⟨thread, rfl, partner⟩

theorem Unstored.keep (unstored : Unstored sha256Hex tid partnerId key world) (sound : Sound sha256Hex keys world)
    (free : Set.InjOn sha256Hex keys) (distinct : mover ≠ tid) (moves : Moves sha256Hex mover world after) :
    Unstored sha256Hex tid partnerId key after where
  minted := moves.minted unstored.minted
  fresh other stored := by
    rcases moves.stored other _ stored with old | ⟨second, minted, same⟩
    · exact unstored.fresh other old
    · exact distinct (sound.one free unstored.minted minted same).1.symm

/-- Setting the index entry of a hash that no record accepts. -/
theorem Sound.setPartnerId (sound : Sound sha256Hex keys world) {hash : Digest} {value : String}
    (named : value ≠ "" → ∃ tid key, (tid, key, value) ∈ world.minted ∧ sha256Hex key = hash)
    (unaccepted : ∀ other, world.current other ≠ some hash)
    (mine : (∃ key partnerId, (tid, key, partnerId) ∈ world.minted ∧ sha256Hex key = hash) ∨
      ∃ partnerId, world.Retired partnerId hash) :
    Sound sha256Hex keys (world.setPartnerId hash value).2 ∧
      Moves sha256Hex tid world (world.setPartnerId hash value).2 := by
  constructor
  · refine ⟨sound.drawn, sound.distinct, sound.owned, fun other partner entry proper => ?_, fun partner other accepts => ?_⟩
    · dsimp only [World.setPartnerId] at entry
      by_cases here : other = hash
      · subst here
        rw [update_self] at entry
        obtain rfl := some.inj entry
        exact named proper
      · rw [update_of_ne here] at entry
        exact sound.named other partner entry proper
    · have here : other ≠ hash := by
        rintro rfl
        exact unaccepted partner accepts
      obtain ⟨stored, entry, proper⟩ := sound.current partner other accepts
      exact ⟨stored, (update_of_ne here ..).trans entry, proper⟩
  · refine ⟨Subset.refl _, Subset.refl _, fun _ _ => .inl, fun _ _ => id, fun other => ?_, fun _ => id⟩
    by_cases here : other = hash
    · subst here
      exact .inr mine
    · exact .inl (update_of_ne here ..)

/-- The new hash goes onto the record, and whatever was there before is retired. -/
theorem Sound.setApiKeyHash (sound : Sound sha256Hex keys world) (proper : partnerId ≠ "")
    (unstored : Unstored sha256Hex tid partnerId key world)
    (linked : world.partnerIds (sha256Hex key) = some partnerId) (now : ℕ) :
    Sound sha256Hex keys (world.setApiKeyHash partnerId (sha256Hex key) now).2 ∧
      Moves sha256Hex tid world (world.setApiKeyHash partnerId (sha256Hex key) now).2 ∧
      ((world.setApiKeyHash partnerId (sha256Hex key) now).1 = true → ∀ hash, (partnerId, hash) ∈ world.stored →
        (world.setApiKeyHash partnerId (sha256Hex key) now).2.Retired partnerId hash) := by
  unfold World.setApiKeyHash
  cases found : world.partners partnerId with
  | none => exact ⟨sound, .refl, nofun⟩
  | some partner =>
    dsimp only
    generalize grown : ({ world with
      partners := update world.partners partnerId (some { partner with
        apiKeyHash := some (sha256Hex key), apiKeySetAt := some now })
      stored := (partnerId, sha256Hex key) :: world.stored } : World Digest) = after
    have here : after.current partnerId = some (sha256Hex key) := by
      subst grown
      simp [World.current]
    have there : ∀ other, other ≠ partnerId → after.current other = world.current other := by
      subst grown
      intro other foreign
      simp [World.current, update_of_ne foreign]
    have stored : after.stored = (partnerId, sha256Hex key) :: world.stored := by rw [← grown]
    have minted : after.minted = world.minted := by rw [← grown]
    have entries : after.partnerIds = world.partnerIds := by rw [← grown]
    have replaced : ∀ hash, (partnerId, hash) ∈ world.stored → after.Retired partnerId hash := by
      intro hash old
      refine ⟨stored ▸ mem_cons_of_mem _ old, fun same => unstored.fresh partnerId ?_⟩
      rw [some.inj (here.symm.trans same)]
      exact old
    refine ⟨⟨?_, ?_, ?_, ?_, ?_⟩, ⟨?_, ?_, ?_, ?_, ?_, ?_⟩, fun _ => replaced⟩
    · exact minted ▸ sound.drawn
    · exact minted ▸ sound.distinct
    · intro other hash member
      rw [minted]
      rcases mem_cons.mp (stored ▸ member) with same | old
      · obtain ⟨rfl, rfl⟩ := Prod.mk.inj same
        exact ⟨tid, key, unstored.minted, rfl⟩
      · exact sound.owned other hash old
    · rw [minted, entries]
      exact sound.named
    · intro other hash accepts
      rw [stored, entries]
      by_cases same : other = partnerId
      · subst same
        obtain rfl := some.inj (here.symm.trans accepts)
        exact ⟨mem_cons_self, linked, proper⟩
      · obtain ⟨old, entry, named⟩ := sound.current other hash ((there other same).symm.trans accepts)
        exact ⟨mem_cons_of_mem _ old, entry, named⟩
    · exact minted ▸ Subset.refl _
    · exact stored ▸ subset_cons_self _ _
    · intro other hash member
      rcases mem_cons.mp (stored ▸ member) with same | old
      · obtain ⟨rfl, rfl⟩ := Prod.mk.inj same
        exact .inr ⟨key, unstored.minted, rfl⟩
      · exact .inl old
    · intro other hash retired
      by_cases same : other = partnerId
      · subst same
        exact replaced hash retired.1
      · exact ⟨stored ▸ mem_cons_of_mem _ retired.1, there other same ▸ retired.2⟩
    · exact fun hash => .inl (congrFun entries hash)
    · intro other keyed
      by_cases same : other = partnerId
      · rw [same, here]
        rfl
      · rwa [there other same]

/-- A key drawn is the thread's own, and no record has its hash. -/
theorem Sound.generate (sound : Sound sha256Hex keys world) (free : Set.InjOn sha256Hex keys) (partnerId : String)
    {choice : Choice} (admitted : FreshKeys keys tid (.generatePartnerApiKey partnerId) choice world) :
    Sound sha256Hex keys { world with minted := (tid, apiKeyPrefix ++ choice.bytes, partnerId) :: world.minted } ∧
      Unstored sha256Hex tid partnerId (apiKeyPrefix ++ choice.bytes)
        { world with minted := (tid, apiKeyPrefix ++ choice.bytes, partnerId) :: world.minted } := by
  obtain ⟨drawn, fresh⟩ := admitted
  refine ⟨⟨?_, ?_, ?_, ?_, sound.current⟩, mem_cons_self, ?_⟩
  · intro thread key partner member
    rcases mem_cons.mp member with same | old
    · cases same
      exact ⟨drawn, String.toList_append ▸ prefix_append ..⟩
    · exact sound.drawn thread key partner old
  · intro left right key partner other first second
    rcases mem_cons.mp first with now | old <;> rcases mem_cons.mp second with again | earlier
    · cases now
      cases again
      exact ⟨rfl, rfl⟩
    · cases now
      exact absurd rfl (fresh _ earlier)
    · cases again
      exact absurd rfl (fresh _ old)
    · exact sound.distinct left right key partner other old earlier
  · intro partner hash member
    obtain ⟨thread, key, minted, same⟩ := sound.owned partner hash member
    exact ⟨thread, key, mem_cons_of_mem _ minted, same⟩
  · intro hash partner entry proper
    obtain ⟨thread, key, minted, same⟩ := sound.named hash partner entry proper
    exact ⟨thread, key, mem_cons_of_mem _ minted, same⟩
  · intro other stored
    obtain ⟨thread, key, minted, same⟩ := sound.owned other _ stored
    exact fresh _ minted (free (sound.drawn _ _ _ minted).1 drawn same)

/-- An update that leaves the key alone changes nothing that a rotation relies on. -/
theorem Sound.updatePartner (sound : Sound sha256Hex keys world) (partnerId : String) (change : OtherUpdate Digest) :
    Sound sha256Hex keys (world.updatePartner partnerId change).2 ∧
      Moves sha256Hex tid world (world.updatePartner partnerId change).2 := by
  unfold World.updatePartner
  generalize grown : ({ world with
    partners := update world.partners partnerId (change.fn (world.partners partnerId)) } : World Digest) = after
  have current : after.current = world.current := by
    subst grown
    funext other
    by_cases same : other = partnerId
    · subst same
      simp only [World.current, update_self, change.keeps]
    · simp only [World.current, update_of_ne same]
  have retired : after.Retired = world.Retired := by
    funext other hash
    rw [World.Retired, World.Retired, current, ← grown]
  constructor
  · refine ⟨?_, ?_, ?_, ?_, ?_⟩
    · exact grown ▸ sound.drawn
    · exact grown ▸ sound.distinct
    · exact grown ▸ sound.owned
    · exact grown ▸ sound.named
    · rw [current, ← grown]
      exact sound.current
  · refine ⟨?_, ?_, ?_, fun other hash => ?_, fun hash => .inl (grown ▸ rfl), fun other => ?_⟩
    · exact grown ▸ Subset.refl _
    · exact grown ▸ Subset.refl _
    · exact grown ▸ fun _ _ => .inl
    · rw [retired]
      exact id
    · rw [current]
      exact id

variable (sha256Hex) (keys)

/-- Sound keys, and the partners named have a key. -/
def keyProtocol (since : String → Prop) : Protocol (keyMachine Digest) where
  Inv world := Sound sha256Hex keys world ∧ ∀ partnerId, since partnerId → (world.current partnerId).isSome
  Guar := Moves sha256Hex

theorem rotating_keeps (free : Set.InjOn sha256Hex keys) (since : String → Prop) (tid : ℕ) :
    (rotating sha256Hex).Keeps (keyProtocol sha256Hex keys since) (FreshKeys keys) tid (RotationKnows sha256Hex tid) where
  stable phase other world after distinct before _ moves knows := by
    cases phase with
    | idle => trivial
    | read partnerId previous => exact ⟨knows.1, fun hash found => moves.kept (knows.2 hash found)⟩
    | minted partnerId previous key =>
      exact ⟨⟨knows.1.1, fun hash found => moves.kept (knows.1.2 hash found)⟩,
        knows.2.keep before.1 free distinct moves⟩
    | linked partnerId previous key =>
      obtain ⟨read, unstored, linked⟩ := knows
      refine ⟨⟨read.1, fun hash found => moves.kept (read.2 hash found)⟩, unstored.keep before.1 free distinct moves, ?_⟩
      rcases moves.entries (sha256Hex key) with same | ⟨second, partner, minted, same⟩ | ⟨partner, stored, -⟩
      · exact same.trans linked
      · exact absurd (before.1.one free unstored.minted minted same).1.symm distinct
      · exact absurd stored (unstored.fresh partner)
    | stored partnerId previous => exact fun hash found => moves.retired partnerId hash (knows hash found)
  step phase action allowed world inv knows choice answer after admitted performed := by
    obtain ⟨sound, keyed⟩ := inv
    have keep : ∀ {after}, Sound sha256Hex keys after → Moves sha256Hex tid world after →
        (keyProtocol sha256Hex keys since).Inv after ∧ Moves sha256Hex tid world after :=
      fun kept moves => ⟨⟨kept, fun partnerId listed => moves.keyed partnerId (keyed partnerId listed)⟩, moves⟩
    rw [← and_assoc]
    have performed := some.inj performed
    cases action with
    | getPartner partnerId =>
      cases phase <;> try exact False.elim allowed
      obtain ⟨rfl, rfl⟩ | ⟨rfl, answered⟩ := Fault.apply_cases performed
      · exact ⟨keep sound .refl, trivial⟩
      · refine ⟨keep sound .refl, ?_⟩
        rcases answer with _ | _ | partner
        · trivial
        · trivial
        · refine ⟨allowed, fun hash found => (sound.current partnerId hash ?_).1⟩
          exact (congrArg (bind · KeyedRecord.apiKeyHash) (answered _ rfl)).trans found
    | generatePartnerApiKey partnerId =>
      cases phase <;> try exact False.elim allowed
      obtain rfl := allowed
      cases performed
      obtain ⟨kept, unstored⟩ := sound.generate free partnerId admitted
      refine ⟨keep kept ⟨subset_cons_self _ _, Subset.refl _, fun _ _ => .inl, fun _ _ => id, fun _ => .inl rfl,
        fun _ => id⟩, knows, unstored⟩
    | setPartnerId hash value =>
      obtain ⟨rfl, rfl⟩ | ⟨rfl, -⟩ := Fault.apply_cases performed
      · exact ⟨keep sound .refl, by cases phase <;> trivial⟩
      cases phase <;> try exact False.elim allowed
      next partnerId previous key =>
        obtain ⟨rfl, rfl⟩ := allowed
        obtain ⟨kept, moves⟩ := sound.setPartnerId (fun _ => ⟨tid, key, knows.2.minted, rfl⟩)
          (fun other accepts => knows.2.fresh other (sound.current other _ accepts).1) (.inl ⟨key, value, knows.2.minted, rfl⟩)
        refine ⟨keep kept moves, ?_⟩
        cases answer with
        | none => trivial
        | some _ => exact ⟨knows.1, ⟨knows.2.minted, knows.2.fresh⟩, update_self ..⟩
      next partnerId previous =>
        obtain ⟨found, rfl⟩ := allowed
        have retired := knows hash found
        have unaccepted : ∀ other, world.current other ≠ some hash := by
          intro other accepts
          obtain ⟨first, second, minted, same⟩ := sound.owned partnerId hash retired.1
          obtain ⟨third, fourth, again, also⟩ := sound.owned other hash (sound.current other hash accepts).1
          obtain ⟨-, -, rfl⟩ := sound.one free minted again (also.trans same.symm)
          exact retired.2 accepts
        obtain ⟨kept, moves⟩ := sound.setPartnerId (fun proper => absurd rfl proper) unaccepted (.inr ⟨partnerId, retired⟩)
        exact ⟨keep kept moves, trivial⟩
    | setApiKeyHash partnerId hash =>
      obtain ⟨rfl, rfl⟩ | ⟨rfl, answered⟩ := Fault.apply_cases performed
      · exact ⟨keep sound .refl, by cases phase <;> trivial⟩
      cases phase <;> try exact False.elim allowed
      obtain ⟨rfl, rfl⟩ := allowed
      obtain ⟨read, unstored, linked⟩ := knows
      obtain ⟨kept, moves, retired⟩ := sound.setApiKeyHash read.1 unstored linked choice.now
      refine ⟨keep kept moves, ?_⟩
      rcases answer with _ | _ | _
      · trivial
      · trivial
      · exact fun hash found => retired (answered _ rfl) hash (read.2 hash found)
    | updatePartner partnerId change =>
      cases phase <;> try exact False.elim allowed
      obtain ⟨rfl, rfl⟩ | ⟨rfl, -⟩ := Fault.apply_cases performed
      · exact ⟨keep sound .refl, trivial⟩
      · obtain ⟨kept, moves⟩ := sound.updatePartner partnerId change
        exact ⟨keep kept moves, trivial⟩

/-! ## Every run -/

variable {sha256Hex keys}

theorem Sound.resolves (sound : Sound sha256Hex keys world) (accepts : world.current partnerId = some (sha256Hex key))
    (drawn : apiKeyPrefix.toList <+: key.toList) : resolvePartnerIdByApiKey sha256Hex world key = some partnerId := by
  obtain ⟨-, entry, proper⟩ := sound.current partnerId _ accepts
  rw [World.current] at accepts
  simp only [resolvePartnerIdByApiKey, isPrefixOf_iff_prefix.mpr drawn, if_true, entry, if_neg proper, accepts]

theorem resolves_current (resolved : resolvePartnerIdByApiKey sha256Hex world key = some partnerId) :
    partnerId ≠ "" ∧ world.partnerIds (sha256Hex key) = some partnerId ∧ world.current partnerId = some (sha256Hex key) := by
  unfold resolvePartnerIdByApiKey at resolved
  split_ifs at resolved
  split at resolved
  next => cases resolved
  next partner entry =>
    split_ifs at resolved with empty
    split at resolved
    next => cases resolved
    next current accepts =>
      split_ifs at resolved with same
      obtain rfl := some.inj resolved
      exact ⟨empty, entry, accepts.trans (congrArg some same)⟩

/-- Over any interleaving of rotations and other updates, each stalling anywhere: at every moment at most one key
resolves to a partner, a key resolves only to the partner it was minted for, and once a hash is on a record, the key
of the hash that is on it resolves from then on. -/
theorem rotation_keeps_one_key (sha256Hex : String → Digest) (keys : Set String) (free : Set.InjOn sha256Hex keys)
    (partners : String → Option (KeyedRecord Digest)) (unkeyed : ∀ partnerId, (partners partnerId).bind KeyedRecord.apiKeyHash = none)
    (threads : ℕ → Prog (Action Digest) Action.Answer Unit) (members : ∀ tid, IsKeyThread sha256Hex (threads tid))
    (middle after : (keyMachine Digest).Config)
    (run : Run (FreshKeys keys) ⟨{ partners, partnerIds := fun _ => none }, threads⟩ middle)
    (later : Run (FreshKeys keys) middle after) (partnerId : String) :
    (∀ first ∈ keys, ∀ second ∈ keys, resolvePartnerIdByApiKey sha256Hex middle.world first = some partnerId →
      resolvePartnerIdByApiKey sha256Hex middle.world second = some partnerId → first = second) ∧
    (∀ key ∈ keys, resolvePartnerIdByApiKey sha256Hex middle.world key = some partnerId →
      ∃ tid, (tid, key, partnerId) ∈ middle.world.minted) ∧
    ((middle.world.current partnerId).isSome → ∃ tid key, (tid, key, partnerId) ∈ after.world.minted ∧
      after.world.current partnerId = some (sha256Hex key) ∧
      resolvePartnerIdByApiKey sha256Hex after.world key = some partnerId) := by
  have start : (keyProtocol sha256Hex keys fun _ => False).Inv { partners, partnerIds := fun _ => none } := by
    refine ⟨⟨nofun, nofun, nofun, nofun, fun partner hash accepts => ?_⟩, fun _ => False.elim⟩
    cases (unkeyed partner).symm.trans accepts
  obtain ⟨⟨sound, -⟩, stands⟩ := Typestate.reached (rotating_keeps sha256Hex keys free _) start
    (fun tid => ⟨.idle, trivial, (members tid).follows⟩) run
  obtain ⟨⟨kept, keyed⟩, -⟩ := Typestate.reached
    (rotating_keeps sha256Hex keys free fun partner => (middle.world.current partner).isSome) ⟨sound, fun _ => id⟩ stands later
  refine ⟨fun first member second again resolved other => ?_, fun key member resolved => ?_, fun had => ?_⟩
  · obtain ⟨-, -, accepts⟩ := resolves_current resolved
    obtain ⟨-, -, also⟩ := resolves_current other
    exact free member again (some.inj (accepts.symm.trans also))
  · obtain ⟨proper, entry, -⟩ := resolves_current resolved
    obtain ⟨tid, second, minted, same⟩ := sound.named _ partnerId entry proper
    obtain rfl := free (sound.drawn _ _ _ minted).1 member same
    exact ⟨tid, minted⟩
  · obtain ⟨hash, accepts⟩ := isSome_iff_exists.mp (keyed partnerId had)
    obtain ⟨tid, key, minted, rfl⟩ := kept.owned partnerId hash (kept.current partnerId hash accepts).1
    exact ⟨tid, key, minted, accepts, kept.resolves accepts (kept.drawn _ _ _ minted).2⟩

end Digests

/-- Two keys with their digests. -/
private def digests : List (String × String) :=
  [("rzp_live_0000000000000000000000000000000000000000000000000000000000000000",
      "808376cdb3c6d9b8d4f23071f9fb1c54234b8db4d8458152e9131289694c3b35"),
    ("rzp_live_0101010101010101010101010101010101010101010101010101010101010101",
      "abdce0a0ffc95477d3f4f6b88edd0664d5d0b2ca1bcaa12fd7288effb5a86ac4")]

private def digest (key : String) : String := (digests.lookup key).getD ""

theorem rotation_keeps_one_key_overlapping : ∃ after : (keyMachine String).Config,
    (∃ tid key, (tid, key, "p") ∈ after.world.minted ∧ after.world.current "p" = some (digest key) ∧
      resolvePartnerIdByApiKey digest after.world key = some "p") ∧ after.world.minted.length = 2 := by
  let partners : String → Option (KeyedRecord String) := fun _ => some { rest := { id := "p", email := "partner", createdAt := 0 } }
  let threads : ℕ → Prog (Action String) Action.Answer Unit := fun _ => do
    let _ ← (setPartnerApiKey digest "p").run
  let draw (bytes : String) : Choice := { bytes }
  obtain ⟨after, run, keyed⟩ := Config.exec_reaches (FreshKeys {key | key ∈ digests.map Prod.fst})
    ⟨{ partners, partnerIds := fun _ => none }, threads⟩
    [(0, {}), (1, {}), (0, draw "0000000000000000000000000000000000000000000000000000000000000000"),
      (1, draw "0101010101010101010101010101010101010101010101010101010101010101"), (0, {}), (1, {}), (0, {}), (1, {})]
    (fun world => (world.current "p").isSome ∧ world.minted.length = 2) (by rfl)
  obtain ⟨keyed, two⟩ := of_decide_eq_true keyed
  have free : Set.InjOn digest {key | key ∈ digests.map Prod.fst} := by
    intro first member second again same
    simp only [digests, map_cons, map_nil, Set.mem_ofPred_eq, mem_cons, not_mem_nil, or_false] at member again
    rcases member with rfl | rfl <;> rcases again with rfl | rfl <;> revert same <;> decide
  exact ⟨after, (rotation_keeps_one_key digest _ free partners (fun _ => rfl) threads
    (fun _ => .rotate ⟨"p", by decide⟩) after after run .refl "p").2.2 keyed, two⟩

end MppRouter.Routes.ApiKey
