import MppRouter.X402.SettlementBooks

/-! # Ledger rows that tell the truth

The marker of an open settlement is written by two tries whose failure is swallowed, and a retry signs a second
envelope. When the marker keeps the first envelope only, the resolver takes the order for failed while the second
one lands. Where no such write is lost and nothing is signed late, every row tells the truth.
-/

namespace MppRouter.X402

open Concurrent Machine Protocol Typestate List Option Bool Function Prod

/-! ## The library -/

/-- What the library has had signed, has submitted, and has seen succeed. -/
structure LibraryPhase where
  signed : List Hash := []
  sent : List Hash := []
  found : List Hash := []

namespace LibraryPhase

/-- It names the network when it asks for a signature, submits only what it had signed, and waits only for what it
submitted. -/
def allowed (phase : LibraryPhase) : LibraryCall → Prop
  | .request _ => True
  | .signTransaction networkPassphrase => networkPassphrase.isSome = true
  | .sendTransaction hash => hash ∈ phase.signed
  | .pollForTransaction hash => hash ∈ phase.sent

def next (phase : LibraryPhase) : (call : LibraryCall) → call.Answer → LibraryPhase
  | .request _, _ => phase
  | .signTransaction _, .signed hash => { phase with signed := hash :: phase.signed }
  | .signTransaction _, _ => phase
  | .sendTransaction hash, _ => { phase with sent := hash :: phase.sent }
  | .pollForTransaction hash, true => { phase with found := hash :: phase.found }
  | .pollForTransaction _, false => phase

end LibraryPhase

def libraryFlow : Typestate libraryMachine := ⟨LibraryPhase, LibraryPhase.allowed, LibraryPhase.next⟩

/-- It reports success only with a transaction it saw succeed. -/
def SeenSuccess (ended : Except (Option String) SettleAttemptResult) (phase : LibraryPhase) : Prop :=
  match ended with
  | .ok result => result.success = true → ∃ hash ∈ phase.found, result.transaction = some hash
  | .error _ => True

/-- The library keeps to its documented use of the signer and the chain. -/
def Library.Proper (settle : Library) : Prop := libraryFlow.Follows settle SeenSuccess {}

/-! ## Rules -/

section Rules

variable {tid orderId startedAt : ℕ} {α : Type}

/-- One action of a thread, by the move it makes. -/
theorem holds_ask {action : Action} {next : action.Answer → Routine α} {post : α → World → Prop} {world : World}
    (known : World → Prop) (stable : settlementProtocol.Stable tid known) (now : known world)
    (step : ∀ before, Books before → known before → ∀ choice answer after, orderly tid action choice before →
      perform tid action choice before = some (answer, after) →
      Moves tid before after ∧ settlementProtocol.Holds orderly tid (next answer) post after) :
    settlementProtocol.Holds orderly tid (ask action >>= next) post world := by
  apply Holds.step known stable now
  intro before books knows choice answer after admitted performed
  obtain ⟨moves, later⟩ := step before books knows choice answer after admitted performed
  exact ⟨moves.books books, moves, later⟩

/-- An action that changes nothing. -/
def Action.reads : Action → Bool
  | .race _ | .readTrace _ | .getFacilitator | .request _ | .getTransaction _ | .now | .sleepUntil _ | .listMarkers
  | .getMarker _ => true
  | _ => false

theorem reads_still {action : Action} (reads : action.reads = true) {choice : Choice} {before after : World}
    {answer : action.Answer} (performed : perform tid action choice before = some (answer, after)) : after = before := by
  cases action with
  | race asked =>
    simp only [perform] at performed
    split at performed
    · split at performed
      · obtain ⟨_, -, same⟩ := map_eq_some_iff.mp performed
        exact (congrArg snd same).symm
      · split at performed
        · exact (congrArg snd (some.inj performed)).symm
        · cases performed
    · cases performed
  | readTrace asked =>
    simp only [perform] at performed
    split at performed
    · exact (congrArg snd (some.inj performed)).symm
    · cases performed
  | sleepUntil time =>
    simp only [perform] at performed
    split at performed
    · exact (congrArg snd (some.inj performed)).symm
    · cases performed
  | getFacilitator | request | getTransaction | now | listMarkers | getMarker =>
    exact (congrArg snd (some.inj performed)).symm
  | _ => cases reads

/-- One action that changes nothing. -/
theorem holds_look {action : Action} {next : action.Answer → Routine α} {post : α → World → Prop} {world : World}
    (reads : action.reads = true) (known : World → Prop) (stable : settlementProtocol.Stable tid known)
    (now : known world) (step : ∀ before, Books before → known before → ∀ choice answer,
      perform tid action choice before = some (answer, before) →
      settlementProtocol.Holds orderly tid (next answer) post before) :
    settlementProtocol.Holds orderly tid (ask action >>= next) post world := by
  apply holds_ask known stable now
  intro before books knows choice answer after _ performed
  obtain rfl := reads_still reads performed
  exact ⟨.still, step after books knows choice answer performed⟩

/-- A marker write ends with the marker written, or with both tries failed. -/
theorem writeOpen_holds {known done : World → Prop} {entry : OrderLedgerEntry} {world : World}
    (stable : settlementProtocol.Stable tid known)
    (markable : ∀ before, Books before → known before → before.Markable tid ⟨entry, startedAt⟩)
    (kept : ∀ before, known before → known (before.putMarker ⟨entry, startedAt⟩))
    (written : ∀ before, known before → done (before.putMarker ⟨entry, startedAt⟩))
    (left : ∀ before, known before → ((before.settlements entry.orderId).underway = true →
      before.Safe entry.orderId entry.settlementAttemptTxs) → done before) (now : known world) :
    settlementProtocol.Holds orderly tid (writeOpen startedAt entry) (fun _ => done) world := by
  have again : ∀ world, known world → settlementProtocol.Holds orderly tid
      (ask (.putMarker true ⟨entry, startedAt⟩) >>= fun _ => pure ()) (fun _ => done) world := by
    intro world now
    apply holds_ask known stable now
    intro before books knows choice answer after admitted performed
    cases fault : choice.fault with
    | failed =>
      simp only [perform, fault, Fault.apply, some.injEq, Prod.mk.injEq] at performed
      obtain ⟨-, rfl⟩ := performed
      exact ⟨.still, left before knows (admitted fault)⟩
    | none | lost =>
      simp only [perform, fault, Fault.apply, some.injEq, Prod.mk.injEq] at performed
      obtain ⟨-, rfl⟩ := performed
      exact ⟨.marked (markable before books knows), written before knows⟩
  unfold writeOpen
  apply holds_ask known stable now
  intro before books knows choice answer after _ performed
  rcases Fault.apply_cases (some.inj performed) with ⟨rfl, same⟩ | ⟨rfl, -⟩
  · subst same
    exact ⟨.still, again _ knows⟩
  · refine ⟨.marked (markable before books knows), ?_⟩
    cases answer with
    | none => exact again _ (kept before knows)
    | some _ => exact written before knows

end Rules

/-! ## The attempts -/

/-- A thread runs the attempts of an order, and what the library may still submit is in the trace and safe. -/
def World.Attempting (world : World) (tid orderId startedAt : ℕ) (phase : LibraryPhase) : Prop :=
  ∃ hashes, (world.Running tid orderId startedAt hashes ∧ world.SafeOrAbandoned orderId hashes) ∧
    (∀ hash ∈ phase.signed, hash ∈ hashes) ∧ (∀ hash ∈ phase.sent, hash ∈ hashes) ∧
    ∀ hash ∈ phase.found, world.Settles orderId (some hash)

section Attempts

variable {tid orderId startedAt : ℕ} {phase : LibraryPhase} {world after : World}

theorem stable_attempting : settlementProtocol.Stable tid fun world => world.Attempting tid orderId startedAt phase := by
  rintro other world after distinct before kept moves ⟨hashes, safe, signed, sent, found⟩
  exact ⟨hashes, stable_safe other world after distinct before kept moves safe, signed, sent,
    fun hash member => moves.settles (found hash member)⟩

/-- A move that leaves the trace and the marker of the order alone. -/
theorem World.Attempting.frame (attempting : world.Attempting tid orderId startedAt phase) (moves : Moves tid world after)
    (settlements : after.settlements orderId = world.settlements orderId)
    (markers : after.markers orderId = world.markers orderId) : after.Attempting tid orderId startedAt phase := by
  obtain ⟨hashes, ⟨⟨started, running⟩, safe⟩, signed, sent, found⟩ := attempting
  refine ⟨hashes, ⟨⟨moves.startedAt started, ?_⟩, ?_⟩, signed, sent, fun hash member => moves.settles (found hash member)⟩
  · rw [settlements]
    exact running
  · unfold World.SafeOrAbandoned World.Safe
    rw [settlements, markers]
    exact safe

/-- A note of the runner that leaves the envelopes and the end of the trace alone. -/
theorem World.Attempting.noted (attempting : world.Attempting tid orderId startedAt phase) {old new : SettleTrace}
    (moves : Moves tid world (world.setTrace orderId new)) (traced : world.settlements orderId = .traced old)
    (runner : new.runner = old.runner) (result : new.result = old.result) (hashes : new.hashes = old.hashes)
    (abandoned : new.abandoned = old.abandoned) :
    (world.setTrace orderId new).Attempting tid orderId startedAt phase := by
  obtain ⟨named, ⟨⟨started, trace, stood, runs, same⟩, safe⟩, signed, sent, found⟩ := attempting
  obtain rfl : trace = old := Settlement.traced.inj (stood.symm.trans traced)
  refine ⟨named, ⟨⟨moves.startedAt started, new, world.setTrace_same .., ?_, hashes.trans same⟩, ?_⟩, signed, sent,
    fun hash member => moves.settles (found hash member)⟩
  · exact ⟨runner.trans runs.1, result.trans runs.2⟩
  · rcases safe with ⟨trace', stood', was⟩ | safe
    · obtain rfl : trace' = trace := Settlement.traced.inj (stood'.symm.trans traced)
      exact .inl ⟨new, world.setTrace_same .., abandoned.trans was⟩
    · exact .inr safe

variable {hash : Hash}

/-- Once an envelope is noted in the trace and in the marker, it may be submitted. -/
theorem noteSigned_holds {hashes : List Hash} (signed : ∀ other ∈ phase.signed, other ∈ hashes)
    (sent : ∀ other ∈ phase.sent, other ∈ hashes)
    (noted : world.Running tid orderId startedAt (hashes ++ [hash]) ∧
      ∀ other ∈ phase.found, world.Settles orderId (some other)) :
    settlementProtocol.Holds orderly tid
      (writeOpen startedAt { orderId := orderId, settlementAttemptTxs := hashes ++ [hash] })
      (fun _ after => after.Attempting tid orderId startedAt { phase with signed := hash :: phase.signed }) world := by
  have becomes : ∀ world : World, (world.Running tid orderId startedAt (hashes ++ [hash]) ∧
      ∀ other ∈ phase.found, world.Settles orderId (some other)) → world.SafeOrAbandoned orderId (hashes ++ [hash]) →
      world.Attempting tid orderId startedAt { phase with signed := hash :: phase.signed } := by
    rintro world ⟨running, found⟩ safe
    refine ⟨hashes ++ [hash], ⟨running, safe⟩, fun other member => ?_,
      fun other member => mem_append_left _ (sent other member), found⟩
    rcases mem_cons.mp member with rfl | earlier
    · exact mem_append_right _ (mem_singleton_self _)
    · exact mem_append_left _ (signed other earlier)
  have stable : settlementProtocol.Stable tid fun world => world.Running tid orderId startedAt (hashes ++ [hash]) ∧
      ∀ other ∈ phase.found, world.Settles orderId (some other) :=
    stable_running.and (stable_of_lasting fun _ _ _ _ moves found other member => moves.settles (found other member))
  apply writeOpen_holds stable _ _ _ _ noted
  · rintro before books ⟨⟨started, trace, traced, runs, same⟩, -⟩
    refine ⟨started, fun other member => ?_, .running traced runs same.symm⟩
    apply (books.traces orderId trace traced).own
    rw [same]
    exact member
  · exact fun before knows => knows
  · intro before knows
    apply becomes (before.putMarker _) knows
    refine .inr fun marker stands => .inr ?_
    obtain rfl : _ = marker := some.inj ((before.putMarker_same _).symm.trans stands)
    exact fun other member => member
  · intro before knows left
    apply becomes before knows
    obtain ⟨⟨-, trace, traced, -, -⟩, -⟩ := knows
    cases abandoned : trace.abandoned with
    | true => exact .inl ⟨trace, traced, abandoned⟩
    | false =>
      right
      apply left
      simp only [traced, Settlement.underway, abandoned, Bool.not_false]

theorem signTransaction_holds {networkPassphrase : Option String} (named : networkPassphrase.isSome = true)
    (attempting : world.Attempting tid orderId startedAt phase) :
    settlementProtocol.Holds orderly tid (signTransaction orderId startedAt networkPassphrase) (fun signed after =>
      after.Attempting tid orderId startedAt (phase.next (.signTransaction networkPassphrase) signed)) world := by
  obtain ⟨network, rfl⟩ := isSome_iff_exists.mp named
  unfold signTransaction
  apply holds_look rfl _ stable_attempting attempting
  intro first _ attempting _ trace _
  split
  · exact attempting
  apply holds_ask _ stable_attempting attempting
  intro before _ attempting choice answer after early performed
  simp only [perform] at performed
  split at performed
  case h_2 signed notSigned =>
    obtain ⟨rfl, rfl⟩ := mk.inj (some.inj performed)
    refine ⟨.still, ?_⟩
    cases same : choice.signed with
    | threw => exact attempting
    | error => exact attempting
    | signed hash => exact absurd same (notSigned hash)
  case h_1 hash _ =>
    obtain ⟨envelope, signs, same⟩ := map_eq_some_iff.mp performed
    obtain ⟨rfl, rfl⟩ := mk.inj same
    obtain ⟨hashes, ⟨⟨started, trace, traced, runs, rfl⟩, safe⟩, rest⟩ := attempting
    have moves : Moves tid before (before.setEnvelope hash envelope) := .stamped (.signed traced runs early signs)
    have signedFor : (before.setEnvelope hash envelope).SignedFor orderId hash :=
      ⟨envelope, before.setEnvelope_same .., (signEnvelope_spec signs).1⟩
    have attempting : (before.setEnvelope hash envelope).Attempting tid orderId startedAt phase :=
      World.Attempting.frame ⟨trace.hashes, ⟨⟨started, trace, traced, runs, rfl⟩, safe⟩, rest⟩ moves rfl rfl
    refine ⟨moves, ?_⟩
    apply holds_ask (fun world => world.Attempting tid orderId startedAt phase ∧ world.SignedFor orderId hash)
      (stable_attempting.and (stable_of_lasting fun _ _ _ _ moves => moves.signedFor)) ⟨attempting, signedFor⟩
    rintro before _ ⟨⟨hashes, ⟨⟨started, trace, traced, runs, rfl⟩, -⟩, signed, sent, found⟩, signedFor⟩ choice answer after - performed
    simp only [perform, traced, some.injEq, Prod.mk.injEq] at performed
    obtain ⟨rfl, rfl⟩ := performed
    have moves : Moves tid before _ := .noted (.pushed traced runs signedFor)
    refine ⟨moves, Holds.bind ?_⟩
    apply noteSigned_holds signed sent
    exact ⟨⟨moves.startedAt started, _, before.setTrace_same .., runs, rfl⟩, fun other member => moves.settles (found other member)⟩

theorem sendTransaction_holds (had : hash ∈ phase.signed)
    (attempting : world.Attempting tid orderId startedAt phase) :
    settlementProtocol.Holds orderly tid (sendTransaction orderId hash) (fun sent after =>
      after.Attempting tid orderId startedAt (phase.next (.sendTransaction hash) sent)) world := by
  unfold sendTransaction
  apply holds_ask _ stable_attempting attempting
  intro before books attempting choice answer after _ performed
  obtain ⟨hashes, ⟨⟨started, trace, traced, runs, rfl⟩, safe⟩, signed, sent, found⟩ := attempting
  have listed : hash ∈ trace.hashes := signed hash had
  have sentToo : ∀ other ∈ hash :: phase.sent, other ∈ trace.hashes := by
    intro other member
    rcases mem_cons.mp member with rfl | earlier
    · exact listed
    · exact sent other earlier
  have attempting : before.Attempting tid orderId startedAt (phase.next (.sendTransaction hash) answer) :=
    ⟨trace.hashes, ⟨⟨started, trace, traced, runs, rfl⟩, safe⟩, signed, sentToo, found⟩
  obtain ⟨envelope, stands, order⟩ := (books.traces orderId trace traced).own hash listed
  simp only [perform, traced, stands] at performed
  have moved : Moves tid before after ∧ after.Attempting tid orderId startedAt (phase.next (.sendTransaction hash) answer) := by
    split at performed
    · obtain ⟨rfl, rfl⟩ := mk.inj (some.inj performed)
      exact ⟨.still, attempting⟩
    · rename_i underway
      obtain ⟨rfl, rfl⟩ := mk.inj (some.inj performed)
      have covered : before.Safe orderId trace.hashes := by
        rcases safe with ⟨trace', stood, abandoned⟩ | safe
        · obtain rfl : trace' = trace := Settlement.traced.inj (stood.symm.trans traced)
          exact absurd abandoned underway
        · exact safe
      rw [← order] at traced covered
      have moves : Moves tid before (before.setEnvelope hash { envelope with submitted := true }) :=
        .stamped (.sent stands traced runs listed (eq_false_iff.mpr underway) covered)
      exact ⟨moves, attempting.frame moves rfl rfl⟩
  refine ⟨moved.1, ?_⟩
  split
  · apply holds_ask _ stable_attempting moved.2
    intro before _ attempting choice noted after _ performed
    obtain ⟨hashes, ⟨⟨started, trace, traced, runs, rfl⟩, safe⟩, rest⟩ := attempting
    simp only [perform, traced, some.injEq, Prod.mk.injEq] at performed
    obtain ⟨-, rfl⟩ := performed
    have moves : Moves tid before _ := .noted (.accepted traced runs)
    exact ⟨moves, World.Attempting.noted ⟨trace.hashes, ⟨⟨started, trace, traced, runs, rfl⟩, safe⟩, rest⟩ moves traced
      rfl rfl rfl rfl⟩
  · exact moved.2

theorem statusOf_success (success : world.statusOf hash = .success) : world.OnChain hash := by
  unfold World.statusOf at success
  cases stands : world.envelopes hash with
  | none =>
    rw [stands] at success
    cases success
  | some envelope =>
    rw [stands] at success
    exact ⟨envelope, stands, success⟩

theorem pollForTransaction_holds (had : hash ∈ phase.sent) (rounds : ℕ)
    (attempting : world.Attempting tid orderId startedAt phase) :
    settlementProtocol.Holds orderly tid (pollForTransaction orderId hash rounds) (fun found after =>
      after.Attempting tid orderId startedAt (phase.next (.pollForTransaction hash) found)) world := by
  induction rounds generalizing world with
  | zero => exact attempting
  | succ rounds ih =>
    unfold pollForTransaction
    apply holds_look rfl _ stable_attempting attempting
    intro first _ attempting _ now _
    apply holds_look rfl _ stable_attempting attempting
    intro second _ attempting _ trace _
    split
    · apply holds_look rfl _ stable_attempting attempting
      intro before books attempting choice status performed
      have answered : choice.fault.answered (before.statusOf hash) = status := congrArg fst (some.inj performed)
      split
      · obtain ⟨hashes, ⟨⟨started, trace, traced, runs, rfl⟩, safe⟩, signed, sent, found⟩ := attempting
        refine ⟨trace.hashes, ⟨⟨started, trace, traced, runs, rfl⟩, safe⟩, signed, sent, fun other member => ?_⟩
        rcases mem_cons.mp member with rfl | earlier
        · exact ⟨other, rfl, (books.traces orderId trace traced).own other (sent other had),
            statusOf_success (Fault.answered_some answered)⟩
        · exact found other earlier
      · have failed := Fault.answered_some answered
        apply holds_ask (fun world => world.Attempting tid orderId startedAt phase ∧ world.statusOf hash = .failed)
          (stable_attempting.and (stable_of_lasting fun _ _ _ _ moves failed => ?_)) ⟨attempting, failed⟩
        · rintro before _ ⟨⟨hashes, ⟨⟨started, trace, traced, runs, rfl⟩, safe⟩, signed, sent, found⟩, failed⟩ choice noted after - performed
          simp only [perform, traced, some.injEq, Prod.mk.injEq] at performed
          obtain ⟨-, rfl⟩ := performed
          have moves : Moves tid before _ := .noted (.failed traced runs (sent hash had) failed)
          exact ⟨moves, World.Attempting.noted ⟨trace.hashes, ⟨⟨started, trace, traced, runs, rfl⟩, safe⟩, signed, sent,
            found⟩ moves traced rfl rfl rfl rfl⟩
        · refine (moves.statusOf ?_).trans failed
          rw [failed]
          decide
      · apply holds_look rfl _ stable_attempting attempting
        intro third _ attempting _ asleep _
        apply holds_look rfl _ stable_attempting attempting
        intro fourth _ attempting _ _ _
        exact ih attempting
    · exact attempting

theorem hook_holds (phase : LibraryPhase) (call : LibraryCall) (allowed : phase.allowed call) (world : World)
    (attempting : world.Attempting tid orderId startedAt phase) :
    settlementProtocol.Holds orderly tid (hook orderId startedAt call) (fun answer after =>
      after.Attempting tid orderId startedAt (phase.next call answer)) world := by
  cases call with
  | request method =>
    apply Holds.step _ stable_attempting attempting
    intro before books attempting choice answer after _ performed
    obtain rfl : after = before := reads_still (rfl : (Action.request method).reads = true) (show perform tid _ _ _ = _ from performed)
    exact ⟨books, .still, attempting⟩
  | signTransaction networkPassphrase => exact signTransaction_holds allowed attempting
  | sendTransaction hash => exact sendTransaction_holds allowed attempting
  | pollForTransaction hash => exact pollForTransaction_holds allowed _ attempting

theorem World.Attempting.start (attempting : world.Attempting tid orderId startedAt phase) :
    world.Attempting tid orderId startedAt {} := by
  obtain ⟨hashes, safe, -⟩ := attempting
  exact ⟨hashes, safe, nofun, nofun, nofun⟩

/-- What an attempt calls a success is on the chain. -/
theorem attempt_holds {settle : Library} (proper : settle.Proper)
    (attempting : world.Attempting tid orderId startedAt {}) :
    settlementProtocol.Holds orderly tid (attempt settle orderId startedAt) (fun result after =>
      after.Attempting tid orderId startedAt {} ∧
        (result.success = true → after.Settles orderId result.transaction)) world := by
  unfold attempt
  apply holds_look rfl _ stable_attempting attempting
  intro before _ attempting _ ready _
  split
  · apply Holds.bind
    apply Holds.mono _ (Follows.interpreted hook_holds proper attempting)
    rintro ended after ⟨phase, seen, attempting⟩
    cases ended with
    | ok result =>
      refine ⟨attempting.start, fun success => ?_⟩
      obtain ⟨hash, member, same⟩ := seen success
      obtain ⟨-, -, -, -, found⟩ := attempting
      rw [same]
      exact found hash member
    | error errorReason => exact ⟨attempting.start, nofun⟩
  · exact ⟨attempting, nofun⟩

theorem finish_holds {result : SettleAttemptResult} (attempting : world.Attempting tid orderId startedAt {})
    (settles : result.success = true → world.Settles orderId result.transaction) :
    settlementProtocol.Holds orderly tid (ask (.finish orderId result)) anyhow world := by
  have stable : settlementProtocol.Stable tid fun world => world.Attempting tid orderId startedAt {} ∧
      (result.success = true → world.Settles orderId result.transaction) :=
    stable_attempting.and (stable_of_lasting fun _ _ _ _ moves settles success => moves.settles (settles success))
  apply Holds.step _ stable ⟨attempting, settles⟩
  rintro before books ⟨⟨hashes, ⟨⟨-, trace, traced, runs, -⟩, -⟩, -⟩, settles⟩ choice answer after - performed
  simp only [perform, traced, some.injEq, Prod.mk.injEq] at performed
  obtain ⟨-, rfl⟩ := performed
  have moves : Moves tid before _ := .noted (.finished traced runs settles)
  exact ⟨moves.books books, moves, trivial⟩

theorem attempts_holds {settle : Library} (proper : settle.Proper) (world : World) :
    settlementProtocol.Holds orderly tid (attempts settle orderId) anyhow world := by
  unfold attempts
  apply holds_ask (fun _ => True) (Stable.const True) trivial
  intro before books _ choice answer after _ performed
  simp only [perform] at performed
  split at performed
  case h_2 => cases performed
  rename_i trace startedAt traced started
  split at performed
  case isFalse => cases performed
  rename_i free
  obtain ⟨rfl, rfl⟩ := mk.inj (some.inj performed)
  have moves : Moves tid before _ := .noted (.begun traced free)
  obtain ⟨none, ended⟩ := (books.traces orderId trace traced).fresh free
  have attempting : (before.setTrace orderId { trace with runner := some tid }).Attempting tid orderId startedAt {} := by
    refine ⟨[], ⟨⟨started, _, before.setTrace_same .., ⟨rfl, ended⟩, none⟩, ?_⟩, nofun, nofun, nofun⟩
    exact .inr fun marker _ => .inr nofun
  refine ⟨moves, Holds.bind (Holds.mono ?_ (attempt_holds proper attempting))⟩
  rintro result after ⟨attempting, settles⟩
  have stable : settlementProtocol.Stable tid fun world => world.Attempting tid orderId startedAt {} ∧
      (result.success = true → world.Settles orderId result.transaction) :=
    stable_attempting.and (stable_of_lasting fun _ _ _ _ moves settles success => moves.settles (settles success))
  apply Holds.bind
  apply holds_look rfl _ stable ⟨attempting, settles⟩
  intro first _ knows _ trace _
  apply holds_look rfl _ stable knows
  intro second _ knows _ now _
  show settlementProtocol.Holds orderly tid (if _ then _ else _) _ second
  split
  · apply holds_look rfl _ stable_attempting knows.1
    intro third _ attempting _ asleep _
    apply holds_look rfl _ stable_attempting attempting
    intro fourth _ attempting _ _ _
    apply Holds.bind
    apply Holds.mono _ (attempt_holds proper attempting)
    rintro result after ⟨attempting, settles⟩
    exact finish_holds attempting settles
  · exact finish_holds knows.1 knows.2

end Attempts

/-! ## The request -/

/-- What a settlement came to is so, and stays so. -/
structure World.Judged (world : World) (orderId : ℕ) (result : StellarX402SettleResult) : Prop where
  failed : result.outcome = .failed → world.Barren orderId
  settled : result.outcome = .settled → world.Settles orderId result.transaction
  own : ∀ hash ∈ result.attemptedTxs, world.SignedFor orderId hash
  open_ : result.outcome = .unknown → ∃ trace, world.settlements orderId = .traced trace ∧
    ((trace.abandoned = true ∧ ∀ hash, world.SignedFor orderId hash → world.Submitted hash →
      hash ∈ result.attemptedTxs) ∨ (trace.result.isSome = true ∧ result.attemptedTxs = trace.hashes))

section Request

variable {tid orderId startedAt : ℕ} {world after : World}

variable {result : StellarX402SettleResult}

theorem Moves.judged (books : Books world) (moves : Moves tid world after)
    (judged : world.Judged orderId result) : after.Judged orderId result := by
  obtain ⟨failed, settled, own, open_⟩ := judged
  refine ⟨fun is => moves.barren books (failed is), fun is => moves.settles (settled is),
    fun hash member => moves.signedFor (own hash member), fun is => ?_⟩
  obtain ⟨trace, traced, stays⟩ := open_ is
  obtain ⟨new, standing, grows⟩ := moves.traced traced
  refine ⟨new, standing, ?_⟩
  rcases stays with ⟨abandoned, all⟩ | ⟨finished, same⟩
  · refine .inl ⟨grows.abandoned abandoned, fun hash signed submitted => ?_⟩
    rcases moves.submitted signed submitted with ⟨before, was⟩ | ⟨trace', stood, -, -, underway, -⟩
    · exact all hash before was
    · obtain rfl : trace' = trace := Settlement.traced.inj (stood.symm.trans traced)
      exact absurd (underway.symm.trans abandoned) (by decide)
  · obtain ⟨hashes, result, -⟩ := grows.finished finished
    rw [result, hashes]
    exact .inr ⟨finished, same⟩

variable {trace : SettleTrace}

theorem Books.listed (books : Books world) (traced : world.settlements orderId = .traced trace)
    {hash : Hash} {envelope : Envelope} (stands : world.envelopes hash = some envelope)
    (order : envelope.orderId = orderId) (submitted : envelope.submitted = true) : hash ∈ trace.hashes := by
  obtain ⟨trace', stood, listed⟩ := (books.envelopes hash envelope stands).traced
  rw [order] at stood
  obtain rfl : trace' = trace := Settlement.traced.inj (stood.symm.trans traced)
  exact listed submitted

/-- The winner of the race fits the trace. -/
def SettleTrace.Fits (trace : SettleTrace) : Option SettleAttemptResult → Prop
  | none => trace.abandoned = true
  | some result => trace.result = some result

theorem verdict_judged (books : Books world) (traced : world.settlements orderId = .traced trace)
    {result : Option SettleAttemptResult} (fits : trace.Fits result) : world.Judged orderId (verdict result trace) := by
  obtain ⟨-, own, failedTruly, settledTruly⟩ := books.traces orderId trace traced
  unfold verdict
  cases result with
  | none =>
    refine ⟨by rintro ⟨⟩, by rintro ⟨⟩, own, fun _ => ⟨trace, traced, .inl ⟨fits, fun hash signed submitted => ?_⟩⟩⟩
    obtain ⟨envelope, stands, order⟩ := signed
    obtain ⟨envelope', stands', was⟩ := submitted
    obtain rfl : envelope = envelope' := some.inj (stands.symm.trans stands')
    exact books.listed traced stands order was
  | some result =>
    have ended : trace.result = some result := fits
    have finished : trace.result.isSome = true := by rw [ended, isSome_some]
    cases success : result.success with
    | true =>
      simp only [any_some, success, if_true, bind_some]
      exact ⟨by rintro ⟨⟩, fun _ => settledTruly result ended success, own, by rintro ⟨⟩⟩
    | false =>
      simp only [any_some, success, false_eq_true, if_false, isSome_some, Bool.true_and]
      split
      · rename_i definitely
        refine ⟨fun _ => .inl ⟨.inr ⟨trace, traced, finished⟩, fun hash envelope stands order submitted => ?_⟩, by rintro ⟨⟩, own,
          by rintro ⟨⟩⟩
        have listed := books.listed traced stands order submitted
        rcases or_eq_true_iff.mp definitely with empty | single
        · rw [isEmpty_iff.mp empty] at listed
          exact absurd listed not_mem_nil
        · obtain ⟨failed, one⟩ := and_eq_true_iff.mp single
          obtain ⟨only, same⟩ := length_eq_one_iff.mp (eq_of_beq one)
          obtain ⟨failedHash, member, status⟩ := failedTruly failed
          rw [same] at listed member
          obtain rfl := mem_singleton.mp listed
          obtain rfl := mem_singleton.mp member
          rw [World.statusOf, stands] at status
          exact status
      · exact ⟨by rintro ⟨⟩, by rintro ⟨⟩, own, fun _ => ⟨trace, traced, .inr ⟨finished, rfl⟩⟩⟩

theorem setTrace_self (traced : world.settlements orderId = .traced trace) :
    world.setTrace orderId trace = world := by
  unfold World.setTrace
  rw [← traced, update_eq_self]

/-- The race of a request and its verdict. -/
theorem runBoundedSettlement_holds (traced : ∃ trace, world.settlements orderId = .traced trace) :
    settlementProtocol.Holds orderly tid (runBoundedSettlement orderId)
      (fun result after => after.Judged orderId result) world := by
  have stable : ∀ result : Option SettleAttemptResult, settlementProtocol.Stable tid fun world =>
      ∃ trace, world.settlements orderId = .traced trace ∧ ∀ value, result = some value → trace.result = some value := by
    intro result
    apply stable_of_lasting
    rintro other world after - moves ⟨trace, traced, ended⟩
    obtain ⟨new, standing, grows⟩ := moves.traced traced
    refine ⟨new, standing, fun value same => ?_⟩
    have finished : trace.result.isSome = true := by rw [ended value same, isSome_some]
    exact (grows.finished finished).2.1.trans (ended value same)
  obtain ⟨trace, traced⟩ := traced
  unfold runBoundedSettlement
  apply holds_look rfl _ (stable none) ⟨trace, traced, nofun⟩
  rintro before - ⟨trace, traced, -⟩ choice result performed
  have ended : ∀ value, result = some value → trace.result = some value := by
    simp only [perform, traced] at performed
    split at performed
    · obtain ⟨value, ended, same⟩ := map_eq_some_iff.mp performed
      obtain rfl := congrArg fst same
      intro value' is
      rw [ended]
      exact is
    · split at performed
      · obtain rfl := congrArg fst (some.inj performed)
        exact nofun
      · cases performed
  apply holds_ask _ (stable result) ⟨trace, traced, ended⟩
  rintro before books ⟨trace, traced, ended⟩ choice answer after - performed
  simp only [perform, traced, some.injEq, Prod.mk.injEq] at performed
  obtain ⟨rfl, rfl⟩ := performed
  cases result with
  | none =>
    have moves : Moves tid before _ := .noted (.abandoned traced)
    exact ⟨moves, verdict_judged (moves.books books) (before.setTrace_same ..) rfl⟩
  | some result =>
    simp only [isNone_some, false_eq_true, if_false, setTrace_self traced]
    exact ⟨.still, verdict_judged books traced (ended result rfl)⟩

/-- A settlement that has not begun yet comes to what is so. -/
theorem settleStellarX402_holds (opened : world.Opened tid startedAt) :
    settlementProtocol.Holds orderly tid (settleStellarX402 tid) (fun result after => after.Judged tid result) world := by
  unfold settleStellarX402
  apply holds_ask _ stable_opened opened
  rintro before books ⟨started, waits⟩ choice answer after - performed
  obtain ⟨rfl, rfl⟩ := mk.inj (some.inj performed)
  have began : (before.startedAt tid).isSome = true := by rw [started, isSome_some]
  cases choice.flag with
  | true =>
    have moves : Moves tid before (before.setTrace tid _) := .noted (.made (before.now + SETTLE_WAIT_MS) rfl waits began)
    exact ⟨moves, runBoundedSettlement_holds ⟨_, before.setTrace_same ..⟩⟩
  | false =>
    have moves := Moves.refused waits began
    refine ⟨moves, fun _ => .inl ⟨.inl (update_self ..), fun hash envelope stands order submitted => ?_⟩, nofun,
      nofun, nofun⟩
    obtain ⟨trace, traced, -⟩ := (books.envelopes hash envelope stands).traced
    rw [order, waits] at traced
    cases traced

theorem World.Judged.grounded (judged : world.Judged orderId result) :
    world.Grounded (applyResult { orderId := orderId } result) := by
  constructor
  · intro failed
    apply judged.failed
    cases outcome : result.outcome with
    | failed => rfl
    | settled | unknown =>
      simp only [applyResult, outcome, Outcome.status] at failed
      cases failed
  · intro settled
    cases outcome : result.outcome with
    | settled =>
      simp only [applyResult, outcome, if_true]
      exact judged.settled outcome
    | failed | unknown =>
      simp only [applyResult, outcome, Outcome.status] at settled
      cases settled

theorem recordOrder_moves {before : World} {entry : OrderLedgerEntry} (grounded : before.Grounded entry) {choice : Choice}
    {written : Bool} (performed : perform tid (.recordOrder entry) choice before = some (written, after)) :
    Moves tid before after ∧ after.settlements = before.settlements ∧ after.startedAt = before.startedAt := by
  cases fault : choice.fault with
  | failed =>
    simp only [perform, fault, Fault.apply, some.injEq, Prod.mk.injEq] at performed
    obtain ⟨-, rfl⟩ := performed
    exact ⟨.still, rfl, rfl⟩
  | none | lost =>
    simp only [perform, fault, Fault.apply, some.injEq, Prod.mk.injEq] at performed
    obtain ⟨-, rfl⟩ := performed
    exact ⟨.recorded grounded, rfl, rfl⟩

theorem deleteMarker_moves {before : World} {choice : Choice} {answer : Option Unit}
    (performed : perform tid (.deleteMarker orderId) choice before = some (answer, after)) : Moves tid before after := by
  rcases Fault.apply_cases (some.inj performed) with ⟨-, rfl⟩ | ⟨rfl, -⟩
  · exact .still
  · exact .unmarked orderId

/-- The final row, and the marker that stays for an open outcome. -/
theorem recordFinal_holds (knows : world.Judged tid result ∧ world.startedAt tid = some startedAt) :
    settlementProtocol.Holds orderly tid (do
      let written ← ask (.recordOrder (applyResult { orderId := tid } result))
      if written ∧ result.outcome ≠ .unknown then
        let _ ← ask (.deleteMarker tid)
        pure ()
      else if result.outcome = .unknown then writeOpen startedAt (applyResult { orderId := tid } result)
      else pure ()) anyhow world := by
  have lasts : ∀ other world after, Books world → Moves other world after →
      (world.Judged tid result ∧ world.startedAt tid = some startedAt) →
      after.Judged tid result ∧ after.startedAt tid = some startedAt :=
    fun _ _ _ books moves knows => ⟨moves.judged books knows.1, moves.startedAt knows.2⟩
  have stable : settlementProtocol.Stable tid fun world =>
      world.Judged tid result ∧ world.startedAt tid = some startedAt := stable_of_lasting lasts
  apply holds_ask _ stable knows
  intro before books knows choice written after _ performed
  obtain ⟨moves, -⟩ := recordOrder_moves knows.1.grounded performed
  refine ⟨moves, ?_⟩
  have knows := lasts tid before after books moves knows
  split
  · apply holds_ask _ stable knows
    intro before _ _ choice answer after _ performed
    exact ⟨deleteMarker_moves performed, trivial⟩
  · split
    · rename_i unknown
      apply writeOpen_holds stable _ _ (fun _ _ => trivial) (fun _ _ _ => trivial) knows
      · rintro before books ⟨judged, started⟩
        refine ⟨started, judged.own, ?_⟩
        obtain ⟨trace, traced, ⟨abandoned, all⟩ | ⟨finished, same⟩⟩ := judged.open_ unknown
        · exact .abandoned traced abandoned all
        · exact .finished traced finished same
      · rintro before ⟨judged, started⟩
        exact ⟨⟨judged.failed, judged.settled, judged.own, judged.open_⟩, started⟩
    · trivial

/-- A settling request keeps the books. -/
theorem settleAndRecordX402_holds (world : World) :
    settlementProtocol.Holds orderly tid settleAndRecordX402 anyhow world := by
  unfold settleAndRecordX402
  apply holds_ask (fun _ => True) (Stable.const True) trivial
  intro before books _ choice answer after _ performed
  simp only [perform] at performed
  split at performed
  · cases performed
  rename_i new
  obtain ⟨rfl, rfl⟩ := mk.inj (some.inj performed)
  refine ⟨.opened new, ?_⟩
  have opened : World.Opened { before with startedAt := update before.startedAt tid (some before.now) } tid
      before.now := by
    refine ⟨update_self .., ?_⟩
    by_contra began
    have started := books.started tid began
    rw [new] at started
    cases started
  apply holds_ask _ stable_opened opened
  intro before books opened choice written after _ performed
  have pending : before.Grounded { orderId := tid } := ⟨nofun, nofun⟩
  obtain ⟨moves, settlements, startedAt⟩ := recordOrder_moves pending performed
  have opened : after.Opened tid _ := ⟨(congrFun startedAt tid).trans opened.1, (congrFun settlements tid).trans opened.2⟩
  refine ⟨moves, Holds.bind ?_⟩
  apply Holds.mono _ (writeOpen_holds stable_opened _ (fun _ opened => opened) (fun _ opened => opened)
    (fun _ opened _ => opened) opened)
  · intro _ world opened
    apply Holds.bind
    apply Holds.mono _ (Holds.frame (fun world : World => world.startedAt tid = some _)
      (fun _ _ _ moves started => Moves.startedAt moves started) opened.1 (settleStellarX402_holds opened))
    intro result after knows
    exact recordFinal_holds knows
  · intro before _ opened
    exact ⟨opened.1, fun hash member => absurd member not_mem_nil, .waiting opened.2 rfl⟩

end Request

/-! ## The resolver -/

section Resolver

variable {tid orderId : ℕ} {world : World}

/-- What a lookup established; what it says when it found nothing counts only for an expired order. -/
def Lookup.Truly (expired : Prop) (world : World) (orderId : ℕ) : Lookup → Prop
  | .found hash => world.Settles orderId (some hash)
  | .absent readAll => readAll = true → expired → world.Spent orderId []

theorem lookUp_holds {expired : Prop} {hashes : List Hash} {readAll : Bool}
    (own : ∀ hash ∈ hashes, world.SignedFor orderId hash)
    (spent : readAll = true → expired → world.Spent orderId hashes) :
    settlementProtocol.Holds orderly tid (lookUp hashes readAll)
      (fun lookup after => lookup.Truly expired after orderId) world := by
  induction hashes generalizing readAll world with
  | nil => exact spent
  | cons hash hashes ih =>
    have stable : settlementProtocol.Stable tid fun world => (∀ other ∈ hash :: hashes, world.SignedFor orderId other) ∧
        (readAll = true → expired → world.Spent orderId (hash :: hashes)) :=
      stable_of_lasting fun _ _ _ books moves knows => ⟨fun other member => moves.signedFor (knows.1 other member),
        fun all is => moves.spent books (knows.2 all is)⟩
    unfold lookUp
    apply holds_look rfl _ stable ⟨own, spent⟩
    rintro before - ⟨own, spent⟩ choice status performed
    have answered : choice.fault.answered (before.statusOf hash) = status := congrArg fst (some.inj performed)
    have rest : ∀ other ∈ hashes, before.SignedFor orderId other :=
      fun other member => own other (mem_cons_of_mem _ member)
    split
    · exact ⟨hash, rfl, own hash mem_cons_self, statusOf_success (Fault.answered_some answered)⟩
    · rename_i found notSuccess
      apply ih rest
      intro all is
      obtain ⟨closed, lacks⟩ := spent all is
      refine ⟨closed, fun other envelope stands order outside success => ?_⟩
      have same : before.statusOf hash = found := Fault.answered_some answered
      by_cases this : other = hash
      · subst this
        rw [World.statusOf, stands, elim_some, success] at same
        exact notSuccess same.symm
      · exact lacks other envelope stands order (not_mem_cons_of_ne_of_not_mem this outside) success
    · exact ih rest (by rintro ⟨⟩)

/-- The row that closes an open settlement says what is so. -/
theorem conclusion_grounded {entry final : OrderLedgerEntry} {age : ℕ} {lookup : Lookup}
    (truly : lookup.Truly (TX_EXPIRED_AFTER_MS ≤ age ∧ entry.settlementAttemptTxs ≠ []) world entry.orderId)
    (concluded : conclusion entry age lookup = some final) : world.Grounded final := by
  cases lookup with
  | found hash =>
    cases concluded
    exact ⟨nofun, fun _ => truly⟩
  | absent readAll =>
    simp only [conclusion] at concluded
    split at concluded
    · cases concluded
    rename_i old
    split at concluded
    · cases concluded
      exact ⟨nofun, nofun⟩
    rename_i some
    split at concluded
    · rename_i all
      cases concluded
      exact ⟨fun _ => .inr (truly all ⟨Nat.not_lt.mp old, some⟩), nofun⟩
    · split at concluded
      · cases concluded
        exact ⟨nofun, nofun⟩
      · cases concluded

/-- What a pass reads in a marker it may take for the whole of an expired order. -/
theorem World.Marked.spent (books : Books world) {marker : OpenSettlement} (marked : world.Marked orderId marker)
    {now : ℕ} (passed : now ≤ world.now) (expired : TX_EXPIRED_AFTER_MS ≤ now - marker.createdAt)
    (some : marker.hashes ≠ []) : world.Spent orderId marker.hashes := by
  have positive : 0 < TX_EXPIRED_AFTER_MS := by decide
  refine ⟨⟨marker.createdAt, marked.created, by omega⟩, fun hash envelope stands order outside success => outside ?_⟩
  have settled : envelope.status ≠ .notFound := by
    rw [success]
    decide
  have submitted := (books.envelopes hash envelope stands).applied settled
  exact marked.all some hash ⟨envelope, stands, order⟩ ⟨envelope, stands, submitted⟩

theorem resolveOne_holds (books : Books world) {marker : OpenSettlement} (marked : world.Marked orderId marker) {now : ℕ}
    (passed : now ≤ world.now) :
    settlementProtocol.Holds orderly tid (resolveOne marker.entry (now - marker.createdAt)) (fun concluded after =>
      ∀ final, concluded = some final → after.Grounded final) world := by
  unfold resolveOne
  apply Holds.bind
  have spent : true = true → (TX_EXPIRED_AFTER_MS ≤ now - marker.createdAt ∧ marker.hashes ≠ []) →
      world.Spent orderId marker.hashes := fun _ is => marked.spent books passed is.1 is.2
  apply Holds.mono _ (lookUp_holds marked.own spent)
  intro lookup after truly final concluded
  rw [← marked.order] at truly
  exact conclusion_grounded truly concluded

theorem resolveEach_holds {now : ℕ} (names : List ℕ) (passed : now ≤ world.now) :
    settlementProtocol.Holds orderly tid (resolveEach now names).run anyhow world := by
  induction names generalizing world with
  | nil => trivial
  | cons name names ih =>
    have later : ∀ other world after, Books world → Moves other world after → now ≤ world.now → now ≤ after.now :=
      fun _ _ _ _ moves passed => Nat.le_trans passed moves.now
    unfold resolveEach
    apply Holds.seq
    apply @holds_look _ _ (.getMarker name) pure _ _ rfl _ (stable_of_lasting later) passed
    intro before books passed choice answer performed
    have answered : choice.fault.answered (before.markers name) = answer := congrArg fst (some.inj performed)
    rcases answer with _ | _ | marker
    · trivial
    · exact ih passed
    have marked : before.Marked name marker := books.markers name marker (Fault.answered_some answered)
    show settlementProtocol.Holds orderly tid
      (if _ then resolveEach now names else _ : Throwing Action Action.Answer Unit).run _ before
    split
    · exact ih passed
    apply Holds.seq
    apply Holds.bind
    apply Holds.mono _ (Holds.frame (fun world : World => now ≤ world.now)
      (fun _ _ _ moves passed => Nat.le_trans passed (Moves.now moves)) passed (resolveOne_holds books marked passed))
    rintro concluded world ⟨grounded, passed⟩
    cases concluded with
    | none => exact ih passed
    | some final =>
      have stable : settlementProtocol.Stable tid fun world => world.Grounded final ∧ now ≤ world.now :=
        stable_of_lasting fun other world after books moves knows =>
          ⟨moves.grounded books knows.1, later other world after books moves knows.2⟩
      show settlementProtocol.Holds orderly tid (_ >>= _ : Throwing Action Action.Answer Unit).run _ world
      apply Holds.seq
      apply @holds_ask _ _ (.recordOrder final) (fun written => pure (some written)) _ _ _ stable ⟨grounded final rfl, passed⟩
      rintro before books ⟨grounded, passed⟩ choice written after - performed
      obtain ⟨moves, -⟩ := recordOrder_moves grounded performed
      have passed := later tid before after books moves passed
      refine ⟨moves, ?_⟩
      show settlementProtocol.Holds orderly tid
        (if _ then _ else resolveEach now names : Throwing Action Action.Answer Unit).run _ after
      split
      · apply Holds.seq
        apply @holds_ask _ _ (.deleteMarker name) pure _ _ _ (stable_of_lasting later) passed
        intro before books passed choice answer after _ performed
        have moves := deleteMarker_moves performed
        refine ⟨moves, ?_⟩
        cases answer with
        | none => trivial
        | some done => exact ih (later tid before after books moves passed)
      · exact ih passed

/-- A pass of the resolver keeps the books. -/
theorem resolveOpenX402Settlements_holds (world : World) :
    settlementProtocol.Holds orderly tid resolveOpenX402Settlements anyhow world := by
  unfold resolveOpenX402Settlements
  apply Holds.bind
  apply Holds.seq
  apply @holds_look _ _ .listMarkers pure _ _ rfl (fun _ => True) (Stable.const True) trivial
  intro before _ _ choice listed _
  cases listed with
  | none => trivial
  | some listed =>
    show settlementProtocol.Holds orderly tid (if _ then pure () else _ : Throwing Action Action.Answer Unit).run _ before
    split
    · trivial
    · apply Holds.seq
      apply @holds_look _ _ .now (fun now => pure (some now)) _ _ rfl (fun _ => True) (Stable.const True) trivial
      intro before _ _ choice now performed
      have same : before.now = now := congrArg fst (some.inj performed)
      exact Holds.mono (fun _ _ _ => trivial) (resolveEach_holds listed (Nat.le_of_eq same.symm))

/-- The clock and the chain keep the books. -/
theorem surroundings_holds (events : List Event) (world : World) :
    settlementProtocol.Holds orderly tid (surroundings events) anyhow world := by
  induction events generalizing world with
  | nil => trivial
  | cons event events ih =>
    cases event with
    | tick elapsed =>
      unfold surroundings
      apply holds_ask (fun _ => True) (Stable.const True) trivial
      intro before _ _ choice answer after _ performed
      obtain ⟨-, rfl⟩ := mk.inj (some.inj performed)
      exact ⟨.passed elapsed, ih _⟩
    | applyTransaction hash successful =>
      unfold surroundings
      apply holds_ask (fun _ => True) (Stable.const True) trivial
      intro before _ _ choice answer after _ performed
      obtain ⟨envelope, applied, same⟩ := map_eq_some_iff.mp performed
      obtain ⟨old, stands, applies⟩ := bind_eq_some_iff.mp applied
      obtain ⟨-, rfl⟩ := mk.inj same
      exact ⟨.stamped (.applied stands applies), ih _⟩

end Resolver

/-! ## Every run -/

theorem settling_checked {settle : ℕ → Library} (proper : ∀ orderId, (settle orderId).Proper) (parties : ℕ → Party) :
    settlementProtocol.Checked orderly (settling settle parties) := by
  refine ⟨Books.start, fun tid => ?_⟩
  show settlementProtocol.Holds orderly tid ((parties tid).program settle) _ _
  cases parties tid with
  | idle => trivial
  | request => exact settleAndRecordX402_holds _
  | attempts orderId => exact attempts_holds (proper orderId) _
  | resolver => exact resolveOpenX402Settlements_holds _
  | surroundings events => exact surroundings_holds events _

/-- In every run without a lost marker write and without a late signature, each ledger row tells the truth. -/
theorem settlement_rows_truthful {settle : ℕ → Library} (proper : ∀ orderId, (settle orderId).Proper)
    {parties : ℕ → Party} {after : settlementMachine.Config}
    (run : Run orderly (settling settle parties) after) : after.world.Truthful :=
  (sound (settling_checked proper parties) run).1.truthful

/-- What the payment library does once its simulation has passed. -/
def exactSettle : Library := do
  let signed : Signed ← Prog.call (LibraryCall.signTransaction (some "Public Global Stellar Network ; September 2015"))
  match signed with
  | .signed hash =>
    let sent : Option SendStatus ← Prog.call (LibraryCall.sendTransaction hash)
    match sent with
    | some .pending =>
      let found : Bool ← Prog.call (LibraryCall.pollForTransaction hash)
      if found then pure (.ok { success := true, transaction := some hash })
      else pure (.ok { success := false, transaction := some hash,
                       errorReason := some "settle_exact_stellar_transaction_failed" })
    | some (.other _) =>
      pure (.ok { success := false, errorReason := some "settle_exact_stellar_transaction_submission_failed" })
    | none => pure (.ok { success := false, errorReason := some "unexpected_settle_error" })
  | .threw | .error => pure (.ok { success := false, errorReason := some "unexpected_settle_error" })

theorem exactSettle_proper : exactSettle.Proper := by
  refine Follows.ask rfl fun signed => ?_
  cases signed with
  | threw | error => exact nofun
  | signed hash =>
    refine Follows.ask (mem_singleton_self hash) fun sent => ?_
    rcases sent with _ | _ | status
    · exact nofun
    · refine Follows.ask (mem_singleton_self hash) fun found => ?_
      cases found with
      | false => exact nofun
      | true => exact fun _ => ⟨hash, mem_singleton_self hash, rfl⟩
    · exact nofun

/-- A request with its attempts, the chain, and a pass of the resolver much later. -/
def oneRequest : ℕ → Party
  | 0 => .request
  | 1 => .attempts 0
  | 2 => .surroundings [.applyTransaction "first" true]
  | 3 => .surroundings [.tick SETTLE_RETRY_DELAY_MS, .applyTransaction "second" true, .tick TX_EXPIRED_AFTER_MS]
  | 4 => .resolver
  | _ => .idle

/-- The only envelope is noted, submitted and included. -/
def settledAtOnce : List (ℕ × Choice) :=
  [(0, {}), (0, {}), (0, {}), (0, {}), (1, {}), (1, {}), (1, {}), (1, { signed := .signed "first" }), (1, {}), (1, {}),
    (1, { sent := some .pending }), (1, {}), (2, {}), (1, {}), (1, {}), (1, {}), (1, {}), (1, {}), (1, {}), (0, {}),
    (0, {}), (0, {}), (0, {})]

theorem settled_row_truthful : ∃ after, Run orderly (settling (fun _ => exactSettle) oneRequest) after ∧
      after.world.rows.map OrderLedgerEntry.settlementStatus = [.settled, .pending] ∧ after.world.Truthful := by
  obtain ⟨after, run, passed⟩ := Config.exec_reaches orderly (settling (fun _ => exactSettle) oneRequest)
    settledAtOnce (fun world => world.rows.map OrderLedgerEntry.settlementStatus = [.settled, .pending]) (by decide +kernel)
  exact ⟨after, run, of_decide_eq_true passed, settlement_rows_truthful (fun _ => exactSettle_proper) run⟩

/-- The submission of the first envelope fails, the retry signs a second one, and the marker keeps the first only. -/
def lostHash : List (ℕ × Choice) :=
  [(0, {}), (0, {}), (0, {}), (0, {}), (1, {}), (1, {}), (1, {}), (1, { signed := .signed "first" }), (1, {}), (1, {}),
    (1, {}), (1, {}), (1, {}), (1, {}), (3, {}), (1, {}), (1, {}), (1, {}), (1, { signed := .signed "second" }), (1, {}),
    (1, { fault := .failed }), (1, { fault := .failed }), (1, { sent := some .pending }), (3, {}), (3, {}),
    (4, { listed := [0] }), (4, {}), (4, {}), (4, {}), (4, {})]

theorem lost_hash_lies : ¬∀ (settle : ℕ → Library), (∀ orderId, (settle orderId).Proper) →
    ∀ (parties : ℕ → Party) (after : settlementMachine.Config),
      Run (unrestricted settlementMachine) (settling settle parties) after → after.world.Truthful := by
  intro truthful
  obtain ⟨after, run, passed⟩ := Config.exec_reaches (unrestricted settlementMachine)
    (settling (fun _ => exactSettle) oneRequest) lostHash
    (fun world => world.rows.any (fun row => row.settlementStatus = .failed && row.orderId = 0) &&
      world.envelopes "second" = some ⟨0, SETTLE_RETRY_DELAY_MS, true, .success⟩) (by decide +kernel)
  simp only [and_eq_true, decide_eq_true_eq] at passed
  obtain ⟨row, member, said⟩ := any_eq_true.mp passed.1
  simp only [and_eq_true, decide_eq_true_eq] at said
  obtain ⟨lies, -⟩ := truthful _ (fun _ => exactSettle_proper) oneRequest after run row member
  rw [said.2] at lies
  exact lies said.1 "second" ⟨_, passed.2, rfl⟩ ⟨_, passed.2, rfl⟩ ⟨_, passed.2, rfl⟩

end MppRouter.X402
