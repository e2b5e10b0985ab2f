import MppRouter.X402Payer.Sign

/-! # Only committed credentials are released

A request answers with what the ledger last told it of the row, never with its own candidate. The row, once it is
there, keeps the credential and the hash it was committed with, so all answers carry one credential. Only a refund can
come between the ledger's answer and the response.
-/

namespace MppRouter.X402Payer

open Concurrent Json TextEncoding Typestate Option Machine

/-! ## What a request may do -/

/-- What the ledger last told a thread: a row, and the hash that the thread knows it to be bound to. -/
abbrev Told := Option (LedgerPayment × String)

/-- The row can be handed out. -/
structure Live (p : LedgerPayment) (credential : Credential) : Prop where
  on : p.on = true
  stored : p.credential = some credential
  unrefunded : isRefunded p = false

/-- A commit asks for the requirement of the request, with a credential that pays it. -/
structure Proposes (d : Deployment) (req : ValidatedRequirement) (args : CommitArgs) : Prop where
  hash : args.acceptsHash = requirementHash d.lib.sha256Hex req
  amount : args.amount = req.amount
  credential : args.on = true → ∃ credential, args.credential = some credential ∧
    credential.Pays d.lib d.funderWallet req

/-- A request commits what it signed for its own requirement, and answers with a live row of its own hash. -/
def mayDo (d : Deployment) (asks : ValidatedRequirement → Prop) (told : Told) : Action → Prop
  | .commitPayment args => ∃ req, asks req ∧ Proposes d req args
  | .respond response => ∀ credential, response.credential = some credential → ∃ p req,
      told = some (p, requirementHash d.lib.sha256Hex req) ∧ asks req ∧ Live p credential
  | _ => True

/-- What the thread has been told after an action. -/
def learn (told : Told) : (action : Action) → action.Answer → Told
  | .getAccount, some (.ok read) =>
    match read.payment with
    | .row p => some (p, p.acceptsHash)
    | _ => none
  | .commitPayment args, some (.ok committed) => some (committed.payment, args.acceptsHash)
  | .getAccount, _ => none
  | .commitPayment _, _ => none
  | _, _ => told

def signFlow (d : Deployment) (asks : ValidatedRequirement → Prop) : Typestate payerMachine :=
  ⟨Told, mayDo d asks, learn⟩

/-! ## The handler follows -/

section Follows

variable {d : Deployment} {asks : ValidatedRequirement → Prop} {told : Told} {request : SignRequest}
  {req : ValidatedRequirement} {hash : String}

/-- An action that no rule is about. -/
def Action.plain : Action → Prop
  | .commitPayment _ | .respond _ | .getAccount => False
  | _ => True

theorem learn_plain {action : Action} (plain : action.plain) (answer : action.Answer) :
    learn told action answer = told := by
  cases action with
  | commitPayment | respond | getAccount => exact plain.elim
  | _ => rfl

theorem mayDo_plain {action : Action} (plain : action.plain) : mayDo d asks told action := by
  cases action with
  | commitPayment | respond | getAccount => exact plain.elim
  | _ => trivial

/-- A program of plain actions changes nothing of what the thread was told. -/
theorem plain_follows {α : Type} {program : Routine α} (performs : program.Performs Action.plain) :
    (signFlow d asks).Follows program (fun _ after => after = told) told :=
  Follows.of_performs (fun _ plain => ⟨mayDo_plain plain, learn_plain plain⟩) performs

theorem loadOrCreateAttempt_plain (maxTimeoutSeconds : ℕ) :
    (loadOrCreateAttempt hash maxTimeoutSeconds).Performs Action.plain := by
  simp only [loadOrCreateAttempt, ask, Prog.call_bind]
  refine ⟨trivial, fun now => ⟨trivial, fun cached => ?_⟩⟩
  dsimp only
  cases cached.filter (Attempt.reusable hash now) with
  | some prev => trivial
  | none =>
    refine ⟨trivial, fun nonce => ⟨trivial, fun written => ?_⟩⟩
    cases written with
    | none => trivial
    | some => trivial

/-- What a candidate has to be before it is committed. -/
def Sound (d : Deployment) (req : ValidatedRequirement) (on : Bool) (made : Except Response Candidate) : Prop :=
  match made with
  | .error response => response.credential = none
  | .ok signed => on = true → ∃ credential, signed.credential = some credential ∧
      credential.Pays d.lib d.funderWallet req

theorem evmCandidate_follows :
    (signFlow d asks).Follows (evmCandidate d request req hash) (fun made after => after = told ∧ Sound d req true made)
      told := by
  unfold evmCandidate
  split
  · exact ⟨rfl, rfl⟩
  apply Follows.bind
  apply (plain_follows (loadOrCreateAttempt_plain req.maxTimeoutSeconds)).mono
  rintro attempt _ rfl
  cases attempt with
  | none => exact ⟨rfl, rfl⟩
  | some attempt =>
    simp only [ask, Prog.call_bind]
    refine ⟨trivial, fun answer => ?_⟩
    dsimp only
    split
    · exact ⟨rfl, rfl⟩
    next signed accepted =>
      refine ⟨trivial, fun now => ?_⟩
      dsimp only
      split
      · exact ⟨rfl, rfl⟩
      · exact ⟨rfl, fun _ => ⟨_, rfl, fun _ => ⟨_, _, rfl, remoteSign_exact accepted⟩⟩⟩

theorem svmCandidate_follows (solana : req.network = .solana) :
    (signFlow d asks).Follows (svmCandidate request req) (fun made after => after = told ∧ Sound d req true made)
      told := by
  simp only [svmCandidate, ask, Prog.call_bind]
  refine ⟨trivial, fun signer => ?_⟩
  cases signer with
  | none => exact ⟨rfl, rfl⟩
  | some funder =>
    dsimp only
    split
    · refine ⟨trivial, fun tx => ?_⟩
      cases tx with
      | none => exact ⟨rfl, rfl⟩
      | some tx =>
        dsimp only
        split
        · exact ⟨rfl, rfl⟩
        · exact ⟨rfl, fun _ => ⟨_, rfl, fun base => nomatch solana.symm.trans base⟩⟩
    · exact ⟨rfl, rfl⟩

theorem shadowCandidate_plain : (shadowCandidate d req).Performs Action.plain := by
  unfold shadowCandidate
  cases req.network with
  | base => exact ⟨trivial, fun _ => ⟨trivial, fun _ => trivial⟩⟩
  | solana => exact ⟨trivial, fun _ => ⟨trivial, fun _ => trivial⟩⟩

theorem candidate_follows (on : Bool) :
    (signFlow d asks).Follows (candidate d request req hash on) (fun made after => after = told ∧ Sound d req on made)
      told := by
  unfold candidate
  cases on with
  | true =>
    simp only [↓reduceIte]
    split
    · exact evmCandidate_follows
    next solana => exact svmCandidate_follows solana
  | false =>
    apply Follows.bind
    apply (plain_follows shadowCandidate_plain).mono
    rintro placeholder _ rfl
    exact ⟨rfl, nofun⟩

/-- What a response may be, as far as the thread was told. -/
def Answers (d : Deployment) (asks : ValidatedRequirement → Prop) (response : Response) (told : Told) : Prop :=
  ∀ credential, response.credential = some credential → ∃ p req,
    told = some (p, requirementHash d.lib.sha256Hex req) ∧ asks req ∧ Live p credential

theorem Answers.without {response : Response} (none : response.credential = none) : Answers d asks response told := by
  intro credential some
  cases none.symm.trans some

theorem refusal_without (refusal : Refusal) : (outcomeResponse refusal).credential = none := by
  cases refusal <;> rfl

/-- The stored answer carries the stored credential, and only while it is live. -/
theorem storedPaymentResponse_answers {p : LedgerPayment} {replay : Bool} {balance : ℕ} (asked : asks req)
    (knows : told = some (p, requirementHash d.lib.sha256Hex req)) :
    Answers d asks (storedPaymentResponse p replay balance) told := by
  intro credential carried
  unfold storedPaymentResponse at carried
  split at carried
  · cases carried
  next unrefunded =>
    split at carried
    next stored on found =>
      cases carried
      exact ⟨p, req, knows, asked, on, found, Bool.eq_false_iff.mpr unrefunded⟩
    · cases carried

theorem commitAndAnswer_follows {args : CommitArgs} (asked : asks req) (proposes : Proposes d req args) :
    (signFlow d asks).Follows (commitAndAnswer args) (Answers d asks) told := by
  simp only [commitAndAnswer, ask, Prog.call_bind]
  refine ⟨⟨req, asked, proposes⟩, fun answer => ?_⟩
  match answer with
  | none => exact Answers.without rfl
  | some (.error refusal) => exact Answers.without (refusal_without refusal)
  | some (.ok committed) =>
    dsimp only
    split
    · exact Answers.without rfl
    · apply storedPaymentResponse_answers asked
      rw [← proposes.hash]
      rfl

theorem signRequirement_follows (asked : asks req) :
    (signFlow d asks).Follows (signRequirement d request req) (Answers d asks) told := by
  simp only [signRequirement, ask, Prog.call_bind]
  refine ⟨trivial, fun answer => ?_⟩
  match answer with
  | none => exact Answers.without rfl
  | some (.error refusal) => exact Answers.without (refusal_without refusal)
  | some (.ok acct) =>
    dsimp only
    split
    · exact Answers.without rfl
    split
    · exact Answers.without rfl
    split
    · exact Answers.without rfl
    next payment row =>
      split
      · exact Answers.without rfl
      next same =>
        split
        · exact Answers.without rfl
        · apply storedPaymentResponse_answers asked
          rw [not_ne_iff] at same
          simp only [signFlow, learn, row, same]
    · split
      · exact Answers.without rfl
      split
      · exact Answers.without rfl
      apply Follows.bind
      apply (candidate_follows _).mono
      rintro made _ ⟨rfl, sound⟩
      cases made with
      | error response => exact Answers.without sound
      | ok signed => exact commitAndAnswer_follows asked ⟨rfl, rfl, sound⟩

end Follows

theorem handleSign_follows (d : Deployment) (request : SignRequest) (asks : ValidatedRequirement → Prop)
    (own : ∀ req, selectRequirement request.accepts = .ok req → asks req) :
    (signFlow d asks).Follows (handleSign d request) anyhow none := by
  apply Follows.bind
  have answers : (signFlow d asks).Follows (sign d request) (Answers d asks) none := by
    unfold sign
    split
    · exact Answers.without rfl
    split
    · exact Answers.without rfl
    next req selected =>
      split
      · exact Answers.without rfl
      · exact signRequirement_follows (own req selected)
  apply answers.mono
  intro response told may
  exact ⟨may, fun _ => trivial⟩

theorem party_follows (d : Deployment) (party : Party) :
    (signFlow d party.asks).Follows (party.program d) anyhow none := by
  cases party with
  | idle => trivial
  | request request => exact handleSign_follows d request _ fun req selected => ⟨request, rfl, selected⟩
  | event event => cases event <;> exact ⟨trivial, fun _ => trivial⟩

/-! ## What the ledger keeps -/

section Ledger

variable {d : Deployment} {parties : ℕ → Party} {tid : ℕ}

/-- The same committed row, whatever became of it since. -/
structure Same (p q : LedgerPayment) : Prop where
  args : p.toCommitArgs = q.toCommitArgs
  id : p.id = q.id

theorem Same.refl (p : LedgerPayment) : Same p p := ⟨rfl, rfl⟩

theorem Same.trans {p q r : LedgerPayment} (first : Same p q) (second : Same q r) : Same p r :=
  ⟨first.args.trans second.args, first.id.trans second.id⟩

/-- A row that the payer signed was committed for a requirement somebody asked for, with one debit of its amount. -/
structure Backed (d : Deployment) (parties : ℕ → Party) (debits : List ℕ) (p : LedgerPayment) : Prop where
  debited : p.on = true → debits = [Decimal.digitsValue p.amount.toList]
  proposed : ∃ tid req, (parties tid).asks req ∧ Proposes d req p.toCommitArgs

theorem Backed.same {debits : List ℕ} {p q : LedgerPayment} (backed : Backed d parties debits p) (same : Same p q) :
    Backed d parties debits q := by
  obtain ⟨debited, proposed⟩ := backed
  rw [same.args] at debited proposed
  exact ⟨debited, proposed⟩

/-- A response with a credential was built from a live row of the request's own hash, and the row is still there. -/
def Truthful (d : Deployment) (parties : ℕ → Party) (row : Option LedgerPayment) (answer : Answered) : Prop :=
  ∀ credential, answer.response.credential = some credential → ∃ seen stored req,
    answer.ledgerHeld = some seen ∧ Live seen credential ∧ (parties answer.tid).asks req ∧
      seen.acceptsHash = requirementHash d.lib.sha256Hex req ∧ row = some stored ∧ Same seen stored

/-- The row of the key stays the committed one. -/
def Persists (before after : World) : Prop := ∀ p, before.row = some p → ∃ q, after.row = some q ∧ Same p q

theorem Persists.of_eq {before after : World} (same : after.row = before.row) : Persists before after := by
  intro p row
  exact ⟨p, same.trans row, Same.refl p⟩

structure Books (d : Deployment) (parties : ℕ → Party) (world : World) : Prop where
  unbound : world.row = none → world.debits = []
  backed : ∀ p, world.row = some p → Backed d parties world.debits p
  truthful : ∀ answer ∈ world.answers, Truthful d parties world.row answer

/-- What a step may change. -/
structure Moves (tid : ℕ) (before after : World) : Prop where
  persists : Persists before after
  held : ∀ other, other ≠ tid → after.held other = before.held other

def payerProtocol (d : Deployment) (parties : ℕ → Party) : Protocol payerMachine := ⟨Books d parties, Moves⟩

/-- What a thread was told is the row as the ledger then held it, bound to the hash. -/
def Knows (tid : ℕ) (told : Told) (world : World) : Prop :=
  ∀ p hash, told = some (p, hash) → world.held tid = some p ∧ p.acceptsHash = hash ∧
    ∃ q, world.row = some q ∧ Same p q

theorem Knows.nothing (world : World) : Knows tid none world := by
  intro p hash told
  cases told

variable {told : Told} {world : World}

/-- What others may do, or a plain action, leaves a thread's knowledge true. -/
theorem Knows.kept {after : World} (knows : Knows tid told world) (persists : Persists world after)
    (held : after.held tid = world.held tid) : Knows tid told after := by
  intro p hash was
  obtain ⟨same, bound, q, row, kept⟩ := knows p hash was
  obtain ⟨r, later, still⟩ := persists q row
  exact ⟨held.trans same, bound, r, later, kept.trans still⟩

/-- A row that persists keeps what the answers say of it. -/
theorem Books.persist {before after : World} (books : Books d parties before) (persists : Persists before after)
    (debits : after.debits = before.debits) (answers : after.answers = before.answers)
    (absent : before.row = none → after.row = none) : Books d parties after := by
  constructor
  · intro none
    rw [debits]
    cases row : before.row with
    | none => exact books.unbound row
    | some p =>
      obtain ⟨q, found, -⟩ := persists p row
      cases none.symm.trans found
  · intro q found
    cases row : before.row with
    | none => cases (absent row).symm.trans found
    | some p =>
      obtain ⟨r, foundToo, same⟩ := persists p row
      obtain rfl : q = r := some.inj (found.symm.trans foundToo)
      rw [debits]
      exact (books.backed p row).same same
  · intro answer member credential carried
    rw [answers] at member
    obtain ⟨seen, stored, req, held, live, asked, hash, row, same⟩ := books.truthful answer member credential carried
    obtain ⟨q, found, later⟩ := persists stored row
    exact ⟨seen, q, req, held, live, asked, hash, found, same.trans later⟩

theorem changeRow_persists {change : LedgerPayment → LedgerPayment} (same : ∀ p, Same p (change p)) :
    Persists world (world.changeRow change) := by
  intro p row
  exact ⟨change p, by rw [World.changeRow, row]; rfl, same p⟩

/-! ## One step -/

/-- What a commit did: it found the row of the key or refused, or it made the row together with the debit. -/
inductive CommitStep (args : CommitArgs) (world : World) : Except Refusal Committed → World → Prop
  | refused (refusal : Refusal) : CommitStep args world (.error refusal) world
  | found {committed : Committed} (row : world.row = some committed.payment)
      (hash : committed.payment.acceptsHash = args.acceptsHash) : CommitStep args world (.ok committed) world
  | created {committed : Committed} {after : World} (free : world.row = none)
      (row : after.row = some committed.payment) (same : committed.payment.toCommitArgs = args)
      (debits : after.debits =
        if args.on then Decimal.digitsValue args.amount.toList :: world.debits else world.debits)
      (answers : after.answers = world.answers) (held : after.held = world.held) :
      CommitStep args world (.ok committed) after

theorem commit_step (tid : ℕ) (args : CommitArgs) (choice : Choice) (world : World) :
    CommitStep args world (commit tid args choice world).1 (commit tid args choice world).2 := by
  unfold commit
  split
  · exact .refused _
  split
  next payment row =>
    split
    next same => exact .found row same
    · exact .refused _
  next free =>
    split
    next signs =>
      split
      · exact .created free rfl rfl (by rw [signs.1]; rfl) rfl rfl
      · exact .refused _
    · split
      next shadows => exact .created free rfl rfl (by rw [shadows.1]; rfl) rfl rfl
      · exact .refused _

/-- An action that no rule is about changes at most what became of the row. -/
theorem plain_step {action : Action} {choice : Choice} {after : World} {answer : action.Answer}
    (performed : perform tid action choice world = some (answer, after)) (plain : action.plain) :
    Persists world after ∧ after.debits = world.debits ∧ after.answers = world.answers ∧ after.held = world.held ∧
      (world.row = none → after.row = none) := by
  have still : ∀ next : World, next.row = world.row → next.debits = world.debits → next.answers = world.answers →
      next.held = world.held → Persists world next ∧ next.debits = world.debits ∧ next.answers = world.answers ∧
        next.held = world.held ∧ (world.row = none → next.row = none) :=
    fun next row debits answers held => ⟨.of_eq row, debits, answers, held, fun free => row.trans free⟩
  have changed : ∀ change : LedgerPayment → LedgerPayment, (∀ p, Same p (change p)) →
      world.row = none → (world.changeRow change).row = none := by
    intro change _ free
    rw [World.changeRow, free]
    rfl
  cases action with
  | getAccount | commitPayment | respond => exact plain.elim
  | now | getAttempt | randomNonce | fetchSignature | svmSigner | svmBuild | setMode | setStatus | setLimit | credit =>
    cases performed
    exact still _ rfl rfl rfl rfl
  | putAttempt attempt =>
    obtain ⟨-, rfl⟩ | ⟨rfl, -⟩ := Fault.apply_cases (some.inj performed)
    · exact still _ rfl rfl rfl rfl
    · exact still _ rfl rfl rfl rfl
  | settle =>
    cases performed
    exact ⟨changeRow_persists fun p => ⟨rfl, rfl⟩, rfl, rfl, rfl, changed _ fun p => ⟨rfl, rfl⟩⟩
  | expire =>
    cases performed
    exact ⟨changeRow_persists fun p => ⟨rfl, rfl⟩, rfl, rfl, rfl, changed _ fun p => ⟨rfl, rfl⟩⟩
  | refund time =>
    simp only [perform] at performed
    split at performed
    next p row =>
      split at performed
      · cases performed
        have persists : Persists world (world.changeRow fun p => { p with refundedAt := some time }) :=
          changeRow_persists fun p => ⟨rfl, rfl⟩
        exact ⟨persists, rfl, rfl, rfl, changed _ fun p => ⟨rfl, rfl⟩⟩
      · cases performed
    · cases performed

/-- The ledger answered a thread about the row it holds. -/
theorem holding_knows {p : LedgerPayment} (row : world.row = some p) :
    Knows tid (some (p, p.acceptsHash)) (world.holding tid) := by
  intro q hash told
  cases told
  exact ⟨(Function.update_self ..).trans row, rfl, p, row, Same.refl p⟩

theorem holding_moves (world : World) : Moves tid world (world.holding tid) where
  persists := .of_eq rfl
  held _ distinct := Function.update_of_ne distinct ..

theorem still_moves (world : World) : Moves tid world world := ⟨.of_eq rfl, fun _ _ => rfl⟩

theorem Books.holding (books : Books d parties world) : Books d parties (world.holding tid) :=
  books.persist (.of_eq rfl) rfl rfl id

theorem getAccount_step {after : World} (books : Books d parties world) {choice : Choice}
    {answer : Action.getAccount.Answer} (performed : perform tid .getAccount choice world = some (answer, after)) :
    Books d parties after ∧ Moves tid world after ∧ Knows tid (learn told .getAccount answer) after := by
  obtain ⟨rfl, rfl⟩ | ⟨rfl, answered⟩ := Fault.apply_cases (some.inj performed)
  · exact ⟨books, still_moves _, .nothing _⟩
  refine ⟨books.holding, holding_moves world, ?_⟩
  match answer with
  | none => exact .nothing _
  | some (.error refusal) => exact .nothing _
  | some (.ok read) =>
    have was := answered _ rfl
    simp only [accountRead] at was
    split at was
    · cases was
    cases was
    cases row : world.row with
    | some p =>
      exact holding_knows row
    | none =>
      have nothing : learn told .getAccount (some (.ok
          { mode := world.mode, account := world.account, payment := if choice.foreign then .foreign else .absent })) =
          none := by
        cases choice.foreign <;> rfl
      rw [nothing]
      exact .nothing _

theorem commitPayment_step {after : World} {args : CommitArgs} {req : ValidatedRequirement}
    (books : Books d parties world) (asked : (parties tid).asks req) (proposes : Proposes d req args) {choice : Choice}
    {answer : (Action.commitPayment args).Answer}
    (performed : perform tid (.commitPayment args) choice world = some (answer, after)) :
    Books d parties after ∧ Moves tid world after ∧ Knows tid (learn told (.commitPayment args) answer) after := by
  obtain ⟨rfl, rfl⟩ | ⟨same, answered⟩ := Fault.apply_cases (some.inj performed)
  · exact ⟨books, still_moves _, .nothing _⟩
  obtain rfl : after = (commit tid args choice world).2.holding tid := same
  have answered : ∀ value, answer = some value → (commit tid args choice world).1 = value := answered
  have step := commit_step tid args choice world
  generalize (commit tid args choice world).1 = made at step answered
  generalize (commit tid args choice world).2 = next at step
  cases step with
  | refused refusal =>
    refine ⟨books.holding, holding_moves world, ?_⟩
    match answer with
    | none => exact .nothing _
    | some (.error _) => exact .nothing _
    | some (.ok committed) => cases answered _ rfl
  | @found committed row hash =>
    refine ⟨books.holding, holding_moves world, ?_⟩
    match answer with
    | none => exact .nothing _
    | some (.error _) => exact .nothing _
    | some (.ok other) =>
      cases answered _ rfl
      simp only [learn]
      rw [← hash]
      exact holding_knows row
  | @created committed next free row same debits answers held =>
    have made : Books d parties next := by
      constructor
      · intro none
        cases row.symm.trans none
      · intro p found
        obtain rfl : committed.payment = p := some.inj (row.symm.trans found)
        refine ⟨fun on => ?_, tid, req, asked, same ▸ proposes⟩
        rw [same] at on
        rw [debits, on, books.unbound free, same]
        rfl
      · intro answer member credential carried
        rw [answers] at member
        obtain ⟨_, _, _, -, -, -, -, bound, -⟩ := books.truthful answer member credential carried
        cases free.symm.trans bound
    refine ⟨made.holding, ?_, ?_⟩
    · constructor
      · intro p bound
        cases free.symm.trans bound
      · intro other distinct
        exact (Function.update_of_ne distinct ..).trans (congrFun held other)
    · match answer with
      | none => exact .nothing _
      | some (.error _) => exact .nothing _
      | some (.ok other) =>
        cases answered _ rfl
        simp only [learn]
        rw [show args.acceptsHash = committed.payment.acceptsHash by rw [same]]
        exact holding_knows row

theorem respond_step {after : World} {response : Response} (books : Books d parties world)
    (knows : Knows tid told world) (may : Answers d (parties tid).asks response told) (choice : Choice) {answer : Unit}
    (performed : perform tid (.respond response) choice world = some (answer, after)) :
    Books d parties after ∧ Moves tid world after ∧ Knows tid told after := by
  cases performed
  refine ⟨⟨books.unbound, books.backed, ?_⟩, ⟨.of_eq rfl, fun _ _ => rfl⟩, knows⟩
  intro answer member
  rcases List.mem_cons.mp member with rfl | earlier
  · intro credential carried
    obtain ⟨p, req, was, asked, live⟩ := may credential carried
    obtain ⟨held, hash, q, row, same⟩ := knows p _ was
    exact ⟨p, q, req, held, live, asked, hash, row, same⟩
  · exact books.truthful answer earlier

theorem payer_keeps (d : Deployment) (parties : ℕ → Party) (tid : ℕ) :
    (signFlow d (parties tid).asks).Keeps (payerProtocol d parties) (unrestricted payerMachine) tid
      (Knows tid) where
  stable := by
    intro told other world after distinct _ _ moves knows
    exact Knows.kept knows moves.persists (moves.held tid (Ne.symm distinct))
  step := by
    intro told action may world books knows choice answer after _ performed
    by_cases plain : action.plain
    · obtain ⟨persists, debits, answers, held, absent⟩ := plain_step performed plain
      have unchanged : learn told action answer = told := learn_plain plain answer
      have kept : Knows tid told after := Knows.kept knows persists (congrFun held tid)
      refine ⟨books.persist persists debits answers absent, ⟨persists, fun _ _ => by rw [held]⟩, ?_⟩
      exact (congrArg (fun told => Knows tid told after) unchanged).mpr kept
    · cases action with
      | getAccount => exact getAccount_step books performed
      | commitPayment args =>
        obtain ⟨req, asked, proposes⟩ := may
        exact commitPayment_step books asked proposes performed
      | respond response => exact respond_step books knows may choice performed
      | _ => exact absurd trivial plain

theorem books_true {mode : PayerMode} {account : LedgerAccount} {after : payerMachine.Config}
    (run : Run (unrestricted payerMachine) (paying d mode account parties) after) :
    Books d parties after.world := by
  have empty : Books d parties (World.start mode account) :=
    ⟨fun _ => rfl, fun _ row => (by cases row), fun _ member => absurd member List.not_mem_nil⟩
  have checked : (payerProtocol d parties).Checked (unrestricted payerMachine)
      (paying d mode account parties) := by
    refine ⟨empty, fun tid => ?_⟩
    have follows := party_follows d (parties tid)
    exact (follows.holds (payer_keeps d parties tid) (Knows.nothing _)).loose
  exact (Protocol.sound checked run).1

end Ledger

/-! ## What the answers carry -/

/-- Requirements that are asked for under the key have different hashes where their bound fields differ. -/
def CollisionFree (d : Deployment) (parties : ℕ → Party) : Prop :=
  ∀ tid other req also, (parties tid).asks req → (parties other).asks also →
    requirementHash d.lib.sha256Hex req = requirementHash d.lib.sha256Hex also →
    canonicalJson (requirementHashInput req) = canonicalJson (requirementHashInput also)

/-- A credential is released for a requirement out of the stored row. -/
structure Released (d : Deployment) (world : World) (answer : Answered) (req : ValidatedRequirement)
    (credential : Credential) (stored : LedgerPayment) : Prop where
  row : world.row = some stored
  carried : stored.credential = some credential
  signed : stored.on = true
  debited : world.debits = [Decimal.digitsValue stored.amount.toList]
  hash : stored.acceptsHash = requirementHash d.lib.sha256Hex req
  /-- The debit had not been returned when the ledger gave the answer that the response is built from. -/
  unrefunded : ∃ seen, answer.ledgerHeld = some seen ∧ Same seen stored ∧ isRefunded seen = false
  exact : req.network = .base → ∃ authorization signature, credential.payload = .evm authorization signature ∧
    authorization.toAddress = d.lib.getAddress req.payTo ∧ authorization.value = req.amount

/-- Every response with a credential carries the one that the ledger stores and has debited under the request's own
hash. On Base it pays what the request asked for. -/
theorem released_committed (d : Deployment) {parties : ℕ → Party} {mode : PayerMode} {account : LedgerAccount}
    {after : payerMachine.Config} (apart : CollisionFree d parties)
    (run : CrashRun (unrestricted payerMachine) (paying d mode account parties) after)
    {answer : Answered} (answered : answer ∈ after.world.answers) {credential : Credential}
    (carried : answer.response.credential = some credential) :
    ∃ req stored, (parties answer.tid).asks req ∧ Released d after.world answer req credential stored := by
  obtain ⟨config, survived, same, -⟩ := run.survivors
  have books : Books d parties after.world := same ▸ books_true survived
  obtain ⟨seen, stored, req, held, live, asked, hash, row, kept⟩ := books.truthful answer answered credential carried
  obtain ⟨debited, other, proposer, proposed, proposes⟩ := books.backed stored row
  have on : stored.on = true := by
    rw [← kept.args]
    exact live.on
  have bound : stored.acceptsHash = requirementHash d.lib.sha256Hex req := by
    rw [← kept.args]
    exact hash
  have found : stored.credential = some credential := by
    rw [← kept.args]
    exact live.stored
  refine ⟨req, stored, asked, ⟨row, found, on, debited on, bound, ⟨seen, held, kept, live.unrefunded⟩, fun base => ?_⟩⟩
  obtain ⟨committed, was, pays⟩ := proposes.credential on
  obtain rfl : committed = credential := some.inj (was.symm.trans found)
  exact pays.bound (apart other answer.tid proposer req proposed asked (proposes.hash.symm.trans bound)) base

/-! ## One payment -/

def funderAddress : String := "0x7E5F4552091A69125d5DfCb7b8C2659029395Bdf"

def shopAddress : String := "0x1111111111111111111111111111111111111111"

/-- One dollar on Base. -/
def oneDollar : Value :=
  .object [(word "scheme", text "exact"), (word "network", text "eip155:8453"), (word "amount", text "1000000"),
    (word "asset", text "0x833589fCD6eDb6E08f4c7C32D4f71b54bdA02913"), (word "payTo", text shopAddress),
    (word "maxTimeoutSeconds", .number (.ofNat 100)),
    (word "extra", .object [(word "name", text "USD Coin"), (word "version", text "2")])]

def oneNonce : String := "0x2222222222222222222222222222222222222222222222222222222222222222"

def oneSignature : String :=
  "0x3645ed7fb222ca30b55725da3c885651dd913af59705f78b4fa79ff93d678c2c3fa4ce66c9ed1dad71549262686bc4d546b61f585ca6fd3bb1d3f0403779d12f1c"

def oneAuthorization : EvmAuthorization where
  fromAddress := funderAddress
  toAddress := shopAddress
  value := "1000000"
  validAfter := "0"
  validBefore := "1100"
  nonce := oneNonce

def oneText : String :=
  "\x7b\"amount\":\"1000000\",\"asset\":\"0x833589fcd6edb6e08f4c7c32d4f71b54bda02913\",\"extra\":\x7b\"name\":\"USD Coin\",\"version\":\"2\"\x7d,\"maxTimeoutSeconds\":100,\"network\":\"eip155:8453\",\"payTo\":\"0x1111111111111111111111111111111111111111\",\"scheme\":\"exact\"\x7d"

/-- The libraries, on what this payment asks of them. -/
def oneLibraries : Libraries where
  sha256Hex input :=
    if input = word oneText then "26e8d85361484f04c80d58bab6e34cd700bbb7e6488c0937beba9bc4b1695266"
    else if input = word ("x402:acc-1:challenge-1:" ++ oneNonce) then
      "0570a4f835b31c3788f94d9987b1fe1daf74daa8c3a7c310488e7a1cec09373e"
    else String.ofList (scalars input)
  checksum chars :=
    if chars = lower funderAddress then funderAddress
    else if chars = BASE_USDC.toList then "0x833589fCD6eDb6E08f4c7C32D4f71b54bdA02913"
    else String.ofList chars
  recoverTypedDataAddress data signature :=
    if data = ⟨"USD Coin", "2", 8453, "0x833589fCD6eDb6E08f4c7C32D4f71b54bdA02913", oneAuthorization⟩ ∧
      signature = oneSignature then some funderAddress
    else none

def oneDeployment : Deployment where
  lib := oneLibraries
  funderWallet := funderAddress
  remoteKey := "x402:acc-1:challenge-1"

/-- Two requests for one payment, and the refund of its expired authorization. -/
def oneShop : ℕ → Party
  | 0 | 1 => .request { accepts := oneDollar }
  | 2 => .event .expire
  | 3 => .event (.refund 1200)
  | _ => .idle

def oneShopping : payerMachine.Config :=
  paying oneDeployment .on { status := .active, balance := 5000000, perTxLimit := 2000000 } oneShop

def oneReply : RemoteAnswer :=
  .answered 200 (some
    { ok := true, code := none, funder := funderAddress, signature := some oneSignature
      authorization :=
        { fromAddress := some funderAddress, toAddress := some shopAddress, value := "1000000", validAfter := "0"
          validBefore := "1100", nonce := some oneNonce } })

/-- One request up to its response: the account, the time, the cache, the nonce, the signature, the time, the commit. -/
def signingMoves (tid : ℕ) : List (ℕ × Choice) :=
  [(tid, {}), (tid, { seconds := 1000 }), (tid, {}), (tid, { nonce := oneNonce }), (tid, {}),
    (tid, { remote := oneReply }), (tid, { seconds := 1001 }), (tid, {})]

/-- Somebody was answered with a credential. -/
def World.releases (world : World) : Bool := world.answers.any fun answer => answer.response.credential.isSome

theorem releases_iff {world : World} : world.releases = true ↔
    ∃ answer ∈ world.answers, ∃ credential, answer.response.credential = some credential := by
  simp only [World.releases, List.any_eq_true, isSome_iff_exists]

theorem oneShop_collisionFree : CollisionFree oneDeployment oneShop := by
  have dollar : ∀ tid req, (oneShop tid).asks req → selectRequirement oneDollar = .ok req := by
    rintro tid req ⟨request, party, selected⟩
    unfold oneShop at party
    split at party
    · cases party
      exact selected
    · cases party
      exact selected
    all_goals cases party
  intro tid other req also asked askedToo _
  obtain rfl : req = also := Except.ok.inj ((dollar tid req asked).symm.trans (dollar other also askedToo))
  rfl

/-- One request is answered after the refund of its own payment. -/
theorem oneShop_runs : ∃ before after, Run (unrestricted payerMachine) oneShopping before ∧
    Step (unrestricted payerMachine) before after ∧
      (before.world.answers.isEmpty && before.world.row.any (fun stored => stored.refundedAt == some 1200) &&
        after.world.releases) = true :=
  Config.exec_steps (unrestricted payerMachine) oneShopping
    (signingMoves 0 ++ [(2, ({} : Choice)), (3, {})]) 0 {}
    (fun before after => before.answers.isEmpty && before.row.any (fun stored => stored.refundedAt == some 1200) &&
      after.releases) (by decide +kernel)

theorem oneShop_released : ∃ after answer credential req stored,
    CrashRun (unrestricted payerMachine) oneShopping after ∧ answer ∈ after.world.answers ∧
      answer.response.credential = some credential ∧ (oneShop answer.tid).asks req ∧
      Released oneDeployment after.world answer req credential stored := by
  obtain ⟨before, after, run, step, passed⟩ := oneShop_runs
  obtain ⟨answer, answered, credential, carried⟩ := releases_iff.mp (Bool.and_eq_true_iff.mp passed).2
  have crashing := Run.crashing (run.tail step)
  obtain ⟨req, stored, asked, released⟩ :=
    released_committed oneDeployment oneShop_collisionFree crashing answered carried
  exact ⟨after, answer, credential, req, stored, crashing, answered, carried, asked, released⟩

/-- A debit that is returned between the commit and the response leaves a response with a dead credential. -/
theorem refunded_before_response : ∃ before after, Run (unrestricted payerMachine) oneShopping before ∧
    Step (unrestricted payerMachine) before after ∧ before.world.answers = [] ∧
      (∃ stored, before.world.row = some stored ∧ stored.refundedAt = some 1200) ∧
      ∃ answer ∈ after.world.answers, ∃ credential, answer.response.credential = some credential := by
  obtain ⟨before, after, run, step, passed⟩ := oneShop_runs
  simp only [Bool.and_eq_true, List.isEmpty_iff, any_eq_true, beq_iff_eq] at passed
  exact ⟨before, after, run, step, passed.1.1, passed.1.2, releases_iff.mp passed.2⟩

end MppRouter.X402Payer
