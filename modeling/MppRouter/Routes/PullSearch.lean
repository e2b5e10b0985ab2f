import MppRouter.Routes.ReviewSteps

/-! # What a search of the chain finds

A search reads the chain in chunks while it grows. What it finds fits the payout, and it finds the only transaction
that does: one that fits and was there when the search began is among the pulls it collects.
-/

namespace MppRouter.Routes.Stripe.Onchain

open Concurrent Mpp Machine Protocol List Option

variable {sessionOf : String → String} {world : World} {tid : ℕ}

/-! ## Reading while others write -/

/-- Knowledge that no step on the books takes away. -/
def Lasts (sessionOf : String → String) (known : World → Prop) : Prop :=
  ∀ world after, Books sessionOf world → Books sessionOf after → Grows world after → known world → known after

theorem Lasts.and {left right : World → Prop} (first : Lasts sessionOf left) (second : Lasts sessionOf right) :
    Lasts sessionOf fun world => left world ∧ right world :=
  fun world after inv kept grows now => ⟨first world after inv kept grows now.1, second world after inv kept grows now.2⟩

theorem Lasts.const (fact : Prop) : Lasts sessionOf fun _ => fact := fun _ _ _ _ _ now => now

theorem Lasts.mined (mined : Transaction → Prop) : Lasts sessionOf fun world => ∃ tx ∈ world.chain, mined tx :=
  fun _ _ _ _ grows ⟨tx, listed, now⟩ => ⟨tx, grows.chain tx listed, now⟩

theorem Lasts.forall {ι : Type} {known : ι → World → Prop} (each : ∀ i, Lasts sessionOf (known i)) :
    Lasts sessionOf fun world => ∀ i, known i world :=
  fun world after inv kept grows now i => each i world after inv kept grows (now i)

variable {known : World → Prop}

theorem Lasts.imp {condition : Prop} (later : condition → Lasts sessionOf known) :
    Lasts sessionOf fun world => condition → known world :=
  fun world after inv kept grows now given => later given world after inv kept grows (now given)

theorem Lasts.stable (lasts : Lasts sessionOf known) : (books sessionOf).Stable tid known :=
  fun _ world after _ inv kept grows => lasts world after inv kept grows

theorem call_holds {action : Action} {post : action.Answer → World → Prop}
    (plain : action.resolves = false) (lasts : Lasts sessionOf known) (now : known world)
    (learns : ∀ before choice answer after, Books sessionOf before → known before →
      perform tid action choice before = some (answer, after) → Books sessionOf after → known after → post answer after) :
    (books sessionOf).Holds (Careful sessionOf) tid (Prog.call action) post world := by
  apply Holds.step known lasts.stable now
  intro before inv knows choice answer after careful performed
  obtain ⟨kept, grows⟩ := step_keeps plain inv careful performed
  refine ⟨kept, grows, ?_⟩
  exact learns before choice answer after inv knows performed kept (lasts before after inv kept grows knows)

/-- Programs that resolve nothing keep the books. -/
theorem plain_holds {α : Type} {program : Prog Action Action.Answer α}
    (performs : program.Performs fun action => action.resolves = false) :
    (books sessionOf).Holds (Careful sessionOf) tid program anyhow world := by
  induction program generalizing world with
  | pure value => trivial
  | act action rest ih =>
    intro before _ inv choice answer after careful performed
    obtain ⟨kept, grows⟩ := step_keeps performs.1 inv careful performed
    exact ⟨kept, grows, ih answer (performs.2 answer)⟩

theorem framed {α : Type} {program : Prog Action Action.Answer α} {post : α → World → Prop}
    (lasts : Lasts sessionOf known) (now : known world)
    (holds : (books sessionOf).Holds (Careful sessionOf) tid program post world) :
    (books sessionOf).Holds (Careful sessionOf) tid program (fun value after => post value after ∧ known after) world :=
  holds.frame_inv known (fun _ world after inv kept grows => lasts world after inv kept grows) now

theorem plain_known {α : Type} {program : Prog Action Action.Answer α}
    (performs : program.Performs fun action => action.resolves = false) (lasts : Lasts sessionOf known) (now : known world) :
    (books sessionOf).Holds (Careful sessionOf) tid program (fun _ => known) world :=
  (framed lasts now (plain_holds performs)).mono fun _ _ known => known.2

theorem found_lasts (hash : String) (tx : Transaction) : Lasts sessionOf fun world => world.find hash = some tx :=
  fun _ _ inv kept grows found => grows.found inv.chained kept.chained found

/-! ## Collecting the pulls -/

/-- The pulls collected so far are pulls. -/
def Collected (payout : Payout) (amount : ℕ) (pulls : List String) (world : World) : Prop :=
  ∀ pull ∈ pulls, ∃ tx, world.find pull = some tx ∧ Pulls payout amount tx

/-- The logs are transfers from the funder in the window. -/
def Logged (payout : Payout) (logs : List Log) (world : World) : Prop :=
  ∀ log ∈ logs, ∃ tx ∈ world.chain, log ∈ tx.logs ∧ payout.start ≤ tx.block ∧
    tx.block ≤ payout.start + STRIPE_PULL_WINDOW_BLOCKS ∧ log.transfer.sender = payout.funder

def Mined (old : List Transaction) (world : World) : Prop := ∀ tx ∈ old, tx ∈ world.chain

theorem collected_lasts (payout : Payout) (amount : ℕ) (pulls : List String) :
    Lasts sessionOf (Collected payout amount pulls) := by
  intro world after inv kept grows collected pull listed
  obtain ⟨tx, found, pulling⟩ := collected pull listed
  exact ⟨tx, found_lasts pull tx world after inv kept grows found, pulling⟩

theorem logged_lasts (payout : Payout) (logs : List Log) : Lasts sessionOf (Logged payout logs) :=
  .forall fun _ => .imp fun _ => .mined _

theorem mined_lasts (old : List Transaction) : Lasts sessionOf (Mined old) :=
  fun _ _ _ _ grows now tx listed => grows.chain tx (now tx listed)

theorem mem_logs {tx : Transaction} {log : Log} (listed : log ∈ tx.logs) : log.hash = tx.hash ∧ log.block = tx.block := by
  obtain ⟨transfer, _, rfl⟩ := mem_map.mp listed
  exact ⟨rfl, rfl⟩

/-- What was collected before stays, and every old transaction of the relayer that one of the logs shows joins it. -/
structure Gathers (old : List Transaction) (payout : Payout) (amount : ℕ) (logs : List Log) (pulls gathered : List String) :
    Prop where
  kept : ∀ pull ∈ pulls, pull ∈ gathered
  gathered : ∀ tx ∈ old, tx.relayed = true → ∀ log ∈ tx.logs, log ∈ logs → payout.shows amount log = true →
    tx.hash ∈ gathered

variable {old : List Transaction} {amount : ℕ}

variable {payout : Payout}

theorem Gathers.skip {log : Log} {logs : List Log}
    {pulls gathered : List String} (gathers : Gathers old payout amount logs pulls gathered)
    (none : ∀ tx ∈ old, tx.relayed = true → log ∈ tx.logs → payout.shows amount log = true → tx.hash ∈ pulls) :
    Gathers old payout amount (log :: logs) pulls gathered := by
  constructor
  · exact gathers.kept
  · intro tx mined relayed shown listed among shows
    rcases mem_cons.mp among with rfl | later
    · exact gathers.kept _ (none tx mined relayed listed shows)
    · exact gathers.gathered tx mined relayed shown listed later shows

/-- A read answers what the chain has, where it answers. -/
theorem look_holds {A : Type} {action : Action} {post : action.Answer → World → Prop} (look : World → A)
    (given : Option A → action.Answer)
    (looks : ∀ choice world, perform tid action choice world = some (given (choice.fault.answered (look world)), world))
    (plain : action.resolves = false) (lasts : Lasts sessionOf known) (now : known world)
    (threw : ∀ after, post (given none) after)
    (read : ∀ after, Books sessionOf after → known after → post (given (some (look after))) after) :
    (books sessionOf).Holds (Careful sessionOf) tid (Prog.call action) post world := by
  apply call_holds plain lasts now
  intro before choice answer after _ _ performed kept knows
  rw [looks] at performed
  cases performed
  cases answered : choice.fault.answered (look before) with
  | none => exact threw before
  | some found =>
    cases Fault.answered_some answered
    exact read before kept knows

theorem collectLogs_holds {logs : List Log} {pulls : List String}
    (mined : Mined old world) (collected : Collected payout amount pulls world) (logged : Logged payout logs world) :
    (books sessionOf).Holds (Careful sessionOf) tid (collectLogs payout amount logs pulls).run (fun result after =>
      ∀ gathered, result = some gathered → Mined old after ∧ Collected payout amount gathered after ∧
        Gathers old payout amount logs pulls gathered) world := by
  induction logs generalizing world pulls with
  | nil =>
    rintro gathered same
    cases same
    exact ⟨mined, collected, fun _ listed => listed, fun _ _ _ _ _ listed => absurd listed not_mem_nil⟩
  | cons log logs ih =>
    have rest : Logged payout logs world := fun other listed => logged other (mem_cons_of_mem log listed)
    unfold collectLogs
    split_ifs with skipped
    · -- Collected already, or not of this amount.
      apply Holds.mono _ (ih mined collected rest)
      intro result after found gathered same
      obtain ⟨mined, collected, gathers⟩ := found gathered same
      refine ⟨mined, collected, gathers.skip fun tx _ _ listed shows => ?_⟩
      rcases skipped with known | other
      · rwa [(mem_logs listed).1] at known
      · exact absurd shows other
    · have shows : payout.shows amount log = true := by
        by_contra hidden
        exact skipped (.inr hidden)
      apply Holds.seq
      apply look_holds (fun world => world.find log.hash) (fun found => found) (fun _ _ => rfl) rfl
        (((mined_lasts old).and (collected_lasts payout amount pulls)).and (logged_lasts payout (log :: logs)))
        ⟨⟨mined, collected⟩, logged⟩
      · exact fun after gathered same => nomatch same
      · rintro after kept ⟨⟨mined, collected⟩, logged⟩
        have rest : Logged payout logs after := fun other listed => logged other (mem_cons_of_mem log listed)
        obtain ⟨tx, listed, own, later, window, sender⟩ := logged log mem_cons_self
        have found : after.find log.hash = some tx := by
          rw [(mem_logs own).1]
          exact kept.chained tx listed
        show (books sessionOf).Holds _ _ (OptionT.run (if (after.find log.hash).any Transaction.relayed = true then _ else _)) _ _
        rw [found, any_some]
        split_ifs with relayed
        · -- One more pull.
          have collected : Collected payout amount (pulls ++ [log.hash]) after := by
            intro pull among
            rcases mem_append.mp among with before | new
            · exact collected pull before
            · rw [mem_singleton.mp new]
              exact ⟨tx, found, relayed, later, window, log, own, sender, shows⟩
          apply Holds.mono _ (ih mined collected rest)
          intro result final found gathered same
          obtain ⟨mined, collected, gathers⟩ := found gathered same
          refine ⟨mined, collected, fun pull before => gathers.kept pull (mem_append_left _ before), ?_⟩
          intro other among relayed' shown listed' place shows'
          rcases mem_cons.mp place with rfl | later
          · apply gathers.kept
            rw [← (mem_logs listed').1]
            exact mem_append_right _ (mem_singleton_self _)
          · exact gathers.gathered other among relayed' shown listed' later shows'
        · -- The relayer did not send it.
          apply Holds.mono _ (ih mined collected rest)
          intro result final done gathered same
          obtain ⟨mined', collected, gathers⟩ := done gathered same
          refine ⟨mined', collected, gathers.skip fun other among relayed' listed' _ => ?_⟩
          have same := kept.chained other (mined other among)
          rw [← (mem_logs listed').1, found] at same
          cases same
          exact absurd relayed' relayed

theorem mem_logsBetween {first last : ℕ} {keep : Transfer → Bool} {log : Log} : log ∈ world.logsBetween first last keep ↔
    ∃ tx ∈ world.chain, (first ≤ tx.block ∧ tx.block ≤ last) ∧ log ∈ tx.logs ∧ keep log.transfer = true := by
  simp only [World.logsBetween, mem_filter, mem_flatMap, Bool.and_eq_true, decide_eq_true_eq]
  constructor
  · rintro ⟨⟨tx, ⟨mined, within⟩, listed⟩, kept⟩
    exact ⟨tx, mined, within, listed, kept⟩
  · rintro ⟨tx, mined, within, listed, kept⟩
    exact ⟨⟨tx, ⟨mined, within⟩, listed⟩, kept⟩

/-- Every old transaction in one of the ranges that pulls is collected. -/
def Covers (old : List Transaction) (payout : Payout) (amount : ℕ) (ranges : List (ℕ × ℕ)) (gathered : List String) : Prop :=
  ∀ tx ∈ old, Pulls payout amount tx → ∀ range ∈ ranges, range.1 ≤ tx.block → tx.block ≤ range.2 → tx.hash ∈ gathered

theorem collectPulls_holds {ranges : List (ℕ × ℕ)}
    {pulls : List String} (within : ∀ range ∈ ranges, payout.start ≤ range.1 ∧
      range.2 ≤ payout.start + STRIPE_PULL_WINDOW_BLOCKS)
    (mined : Mined old world) (collected : Collected payout amount pulls world) :
    (books sessionOf).Holds (Careful sessionOf) tid (collectPulls payout amount ranges pulls).run (fun result after =>
      ∀ gathered, result = some gathered → Collected payout amount gathered after ∧
        (∀ pull ∈ pulls, pull ∈ gathered) ∧ Covers old payout amount ranges gathered) world := by
  induction ranges generalizing world pulls with
  | nil =>
    rintro gathered same
    cases same
    exact ⟨collected, fun _ listed => listed, fun _ _ _ _ listed => absurd listed not_mem_nil⟩
  | cons range ranges ih =>
    obtain ⟨first, last⟩ := range
    unfold collectPulls
    apply Holds.seq
    apply look_holds (fun world => world.logsBetween first last _) (fun found => found) (fun _ _ => rfl) rfl
      ((mined_lasts old).and (collected_lasts payout amount pulls)) ⟨mined, collected⟩
    · exact fun after gathered same => nomatch same
    · rintro before _ ⟨mined, collected⟩
      have placed := within (first, last) mem_cons_self
      have logged : Logged payout (before.logsBetween first last fun transfer =>
          decide ((if false = true then transfer.receiver else transfer.sender) = payout.funder)) before := by
        intro log listed
        obtain ⟨tx, mined, ⟨low, high⟩, own, sender⟩ := mem_logsBetween.mp listed
        exact ⟨tx, mined, own, placed.1.trans low, high.trans placed.2, by simpa using sender⟩
      apply Holds.seq
      apply Holds.mono _ (collectLogs_holds mined collected logged)
      intro result after found
      cases result with
      | none => exact fun gathered same => nomatch same
      | some pulls' =>
        obtain ⟨mined', collected, gathers⟩ := found pulls' rfl
        apply Holds.mono _ (ih (fun range listed => within range (mem_cons_of_mem _ listed)) mined' collected)
        intro result final done gathered same
        obtain ⟨collected, kept, covers⟩ := done gathered same
        refine ⟨collected, fun pull listed => kept pull (gathers.kept pull listed), ?_⟩
        intro tx among pulling range listed low high
        rcases mem_cons.mp listed with rfl | later
        · obtain ⟨log, own, sender, shows⟩ := pulling.moved
          apply kept
          apply gathers.gathered tx among pulling.relayed log own _ shows
          exact mem_logsBetween.mpr ⟨tx, mined tx among, ⟨low, high⟩, own, by simpa using sender⟩
        · exact covers tx among pulling range later low high

theorem chunks_cover {first last block : ℕ} (low : first ≤ block) (high : block ≤ last) :
    ∃ range ∈ chunks first last, range.1 ≤ block ∧ block ≤ range.2 := by
  have quotient : (block - first) / STRIPE_PULL_CHUNK_BLOCKS ≤ (last - first) / STRIPE_PULL_CHUNK_BLOCKS := by
    apply Nat.div_le_div_right
    omega
  refine ⟨_, mem_map.mpr ⟨(block - first) / STRIPE_PULL_CHUNK_BLOCKS, mem_range.mpr (by omega), rfl⟩, ?_, ?_⟩
  · show first + (block - first) / 50 * 50 ≤ block
    omega
  · show block ≤ min (first + (block - first) / 50 * 50 + 50 - 1) last
    omega

theorem chunks_within {first last : ℕ} {range : ℕ × ℕ} (listed : range ∈ chunks first last) :
    first ≤ range.1 ∧ range.2 ≤ last := by
  obtain ⟨i, _, rfl⟩ := mem_map.mp listed
  exact ⟨Nat.le_add_right _ _, min_le_right _ _⟩

/-! ## The search -/

/-- The pull fits the payout, and is the only old transaction that does. -/
def Found (old : List Transaction) (payoutTxHash : String) (amount : ℕ) (pull : String) (world : World) : Prop :=
  ∃ payoutTx pullTx, world.find payoutTxHash = some payoutTx ∧ world.find pull = some pullTx ∧
    Fits payoutTx pullTx amount ∧ ∀ tx ∈ old, Fits payoutTx tx amount → tx.hash = pull

/-- A part that resolves nothing. -/
abbrev Plain {α : Type} (program : Sweep α) : Prop := Throwing.Performs (fun action => action.resolves = false) program

theorem crowded_plain (payoutTxHash : String) (payout : Payout) (ranges : List (ℕ × ℕ)) :
    Plain (crowded payoutTxHash payout ranges) := by
  induction ranges with
  | nil => exact .pure false
  | cons range ranges ih =>
    unfold crowded
    apply Throwing.Performs.bind
    · exact ⟨rfl, fun _ => trivial⟩
    · intro logs
      split_ifs
      · exact .pure true
      · exact ih

theorem searchPull_holds {payoutTxHash : String} (mined : Mined old world) :
    (books sessionOf).Holds (Careful sessionOf) tid (searchPull payoutTxHash amount).run (fun result after =>
      ∀ pull, result = some (some pull) → Found old payoutTxHash amount pull after) world := by
  unfold searchPull
  split_ifs with senseless
  · exact fun pull same => nomatch same
  · apply Holds.seq
    apply look_holds (fun world => world.find payoutTxHash) (fun found => found) (fun _ _ => rfl) rfl
      (mined_lasts old) mined
    · exact fun after pull same => nomatch same
    · intro before _ mined
      cases receipt : (before.find payoutTxHash).bind payoutOf with
      | none =>
        simp only [receipt]
        exact fun pull same => nomatch same
      | some payout =>
        simp only [receipt]
        obtain ⟨payoutTx, found, paid⟩ := bind_eq_some_iff.mp receipt
        apply Holds.seq
        apply Holds.mono _ (plain_known (crowded_plain ..)
          ((mined_lasts old).and (found_lasts payoutTxHash payoutTx)) ⟨mined, found⟩)
        rintro answer between ⟨mined, found⟩
        cases answer with
        | none => exact fun pull same => nomatch same
        | some busy =>
          cases busy with
          | true => exact fun pull same => nomatch same
          | false =>
            apply Holds.seq
            have placed : ∀ range ∈ chunks payout.start (payout.start + STRIPE_PULL_WINDOW_BLOCKS), payout.start ≤ range.1 ∧
                range.2 ≤ payout.start + STRIPE_PULL_WINDOW_BLOCKS := fun range listed => chunks_within listed
            have nothing : Collected payout amount [] between := fun pull listed => absurd listed not_mem_nil
            apply Holds.mono _ (framed (found_lasts payoutTxHash payoutTx) found
              (collectPulls_holds placed mined nothing))
            rintro result after ⟨gathers, found⟩
            cases result with
            | none => exact fun pull same => nomatch same
            | some gathered =>
              obtain ⟨collected, _, covers⟩ := gathers gathered rfl
              rintro pull same
              have only : theOnly gathered = some pull := some.inj same
              have alone : gathered = [pull] := by
                unfold theOnly at only
                split at only
                · cases only
                  rfl
                · cases only
              subst alone
              obtain ⟨pullTx, there, pulling⟩ := collected pull (mem_singleton_self pull)
              refine ⟨payoutTx, pullTx, found, there, ⟨payout, paid, pulling⟩, ?_⟩
              rintro tx among ⟨payout', paid', fits⟩
              cases some.inj (paid.symm.trans paid')
              obtain ⟨range, listed, low, high⟩ := chunks_cover fits.later fits.window
              exact mem_singleton.mp (covers tx among fits range listed low high)

theorem findStripeRelayerPull_holds {payoutTxHash : String} (mined : Mined old world) :
    (books sessionOf).Holds (Careful sessionOf) tid (findStripeRelayerPull payoutTxHash amount).run (fun result after =>
      ∀ pull, result = some (some pull) → Found old payoutTxHash amount pull after) world := by
  apply Holds.seq
  apply Holds.attempt
  apply Holds.mono _ (searchPull_holds mined)
  intro result after found pull same
  apply found pull
  cases result with
  | none => cases same
  | some answer => exact congrArg some (some.inj same)

/-! ## Accounting for the other records -/

theorem checkPull_plain (pullTxHash payoutTxHash : String) (amount : ℕ) : Plain (checkPull pullTxHash payoutTxHash amount) := by
  unfold checkPull
  split_ifs
  · exact .pure false
  · exact .pure false
  · apply Throwing.Performs.bind
    · exact ⟨rfl, fun _ => trivial⟩
    · intro receipt
      cases receipt.bind payoutOf with
      | none => exact .pure false
      | some payout =>
        apply Throwing.Performs.bind
        · exact ⟨rfl, fun _ => trivial⟩
        · intro tx
          split_ifs
          · exact .pure false
          · apply Throwing.Performs.bind
            · exact ⟨rfl, fun _ => trivial⟩
            · exact fun pull => .pure _

theorem verifyStripeRelayerPull_plain (pullTxHash payoutTxHash : String) (amount : ℕ) :
    Plain (verifyStripeRelayerPull pullTxHash payoutTxHash amount) := by
  apply Throwing.Performs.bind
  · exact .attempt (checkPull_plain ..)
  · exact fun verified => .pure _

theorem rememberVerifiedPull_plain (key txHash : String) : Plain (rememberVerifiedPull key txHash) := by
  apply Throwing.Performs.bind
  · apply Throwing.Performs.attempt
    exact ⟨rfl, fun _ => trivial⟩
  · exact fun _ => .pure ()

/-- A record that nothing is reported for is searched for. -/
theorem pullOf_holds {bound : Option String} {payoutTx : String} (mined : Mined old world) :
    (books sessionOf).Holds (Careful sessionOf) tid (pullOf bound payoutTx amount).run (fun result after =>
      ∀ pull, result = some (some pull) → bound = none → Found old payoutTx amount pull after) world := by
  unfold pullOf
  cases bound with
  | none =>
    apply Holds.mono _ (findStripeRelayerPull_holds mined)
    exact fun result after found pull same _ => found pull same
  | some tx =>
    apply Holds.seq
    apply Holds.mono _ (plain_known (verifyStripeRelayerPull_plain ..) (mined_lasts old) mined)
    intro result after mined
    cases result with
    | none => exact fun _ _ => nofun
    | some verified =>
      cases verified with
      | true => exact fun _ _ => nofun
      | false =>
        apply Holds.mono _ (findStripeRelayerPull_holds mined)
        exact fun _ _ _ _ _ => nofun

theorem payoutOf_start {receipt : Transaction} (paid : payoutOf receipt = some payout) :
    payout.start = receipt.block := by
  unfold payoutOf at paid
  split_ifs at paid
  split at paid
  · cases paid
    rfl
  · cases paid

/-- A payout after the pull is not the one it follows. -/
theorem not_fits_of_later {payoutTx pullTx : Transaction} (later : pullTx.block < payoutTx.block) :
    ¬Fits payoutTx pullTx amount := by
  rintro ⟨payout, paid, pulls⟩
  have start := payoutOf_start paid
  have after := pulls.later
  omega

theorem accounted_lasts (amount : ℕ) (pull : String) (other : Scanned) :
    Lasts sessionOf fun world => Accounted world amount pull other :=
  fun _ _ inv kept grows accounted => grows.accounted inv.chained kept.chained accounted

theorem paid_lasts (rozoId hash : String) : Lasts sessionOf fun world => world.payouts rozoId = some hash :=
  fun _ _ _ _ grows paid => grows.payouts rozoId hash paid

/-- The payout transaction of a payment stays what it is. -/
theorem fetchPayment_holds {rozoId : String} {post : Option (Option String) → World → Prop}
    (lasts : Lasts sessionOf known) (now : known world) (unpaid : ∀ after, post (some none) after)
    (read : ∀ hash after, after.payouts rozoId = some hash → known after → post (some (some hash)) after) :
    (books sessionOf).Holds (Careful sessionOf) tid (fetchRozoPaymentForSettle rozoId).run post world := by
  apply call_holds rfl lasts now
  intro before choice answer after _ _ performed kept knows
  cases performed
  by_cases answered : choice.fault = .none
  · rw [if_pos answered]
    cases paid : before.payouts rozoId with
    | none => exact unpaid before
    | some hash => exact read hash before paid knows
  · rw [if_neg answered]
    exact unpaid before

theorem accountFor_holds {pull : String} {pullTx : Transaction} {reads : ℕ} {others : List Scanned}
    (lower : toLowerCase pullTx.hash = toLowerCase pull) (found : world.find pull = some pullTx) :
    (books sessionOf).Holds (Careful sessionOf) tid (accountFor pull pullTx.block amount others reads).run
      (fun result after => result = some true → ∀ other ∈ others, Accounted after amount pull other) world := by
  induction others generalizing world reads with
  | nil => exact fun _ other listed => absurd listed not_mem_nil
  | cons other others ih =>
    -- Once this record is accounted for, the rest decides.
    have rest {world : World} {reads : ℕ} (found : world.find pull = some pullTx) (accounted : Accounted world amount pull other) :
        (books sessionOf).Holds (Careful sessionOf) tid (accountFor pull pullTx.block amount others reads).run
          (fun result after => result = some true → ∀ each ∈ other :: others, Accounted after amount pull each) world := by
      apply Holds.mono _ (framed (accounted_lasts amount pull other) accounted (ih found))
      rintro result after ⟨later, now⟩ same each listed
      rcases mem_cons.mp listed with rfl | among
      · exact now
      · exact later same each among
    unfold accountFor
    split_ifs with marked equal many reported unpaid
    · exact nofun
    · apply rest found
      unfold Accounted
      rw [if_pos marked]
      exact equal
    · exact nofun
    · exact nofun
    · exact nofun
    · have accounted {world : World} (missing : boundSettlementTx other.record = none →
          world.Excludes (other.record.rozoPaymentId.getD "") amount pull) : Accounted world amount pull other := by
        unfold Accounted
        rw [if_neg marked]
        exact ⟨reported, missing⟩
      apply Holds.seq
      apply fetchPayment_holds (found_lasts pull pullTx) found
      · exact fun after => nofun
      · intro payoutTx before paid found
        apply Holds.seq
        apply look_holds (fun world => world.find payoutTx) (fun found => found) (fun _ _ => rfl) rfl
          ((paid_lasts _ payoutTx).and (found_lasts pull pullTx)) ⟨paid, found⟩
        · exact fun after => nofun
        · rintro before kept ⟨paid, found⟩
          cases receipt : before.find payoutTx with
          | none => exact nofun
          | some payout =>
            simp only
            split_ifs with later
            · apply rest found
              apply accounted
              intro _
              exact ⟨payoutTx, payout, pullTx, paid, receipt, found, not_fits_of_later later⟩
            · apply Holds.seq
              have mined : Mined [pullTx] before := by
                intro tx listed
                rw [mem_singleton.mp listed]
                exact mem_of_find?_eq_some found
              apply Holds.mono _ (framed (((paid_lasts _ payoutTx).and (found_lasts pull pullTx)).and
                (found_lasts payoutTx payout)) ⟨⟨paid, found⟩, receipt⟩ (pullOf_holds mined))
              rintro result after ⟨own, known⟩
              cases result with
              | none => exact nofun
              | some answer =>
                cases answer with
                | none => exact nofun
                | some theirs =>
                  simp only
                  split_ifs with equal
                  · exact nofun
                  · -- The only pull of the other payment is another one.
                    have misfits (unbound : boundSettlementTx other.record = none) : ¬Fits payout pullTx amount := by
                      obtain ⟨payout', _, receipt', _, _, only⟩ := own theirs rfl unbound
                      cases some.inj (known.2.symm.trans receipt')
                      intro fits
                      apply equal
                      rw [← only pullTx (mem_singleton_self pullTx) fits]
                      exact lower
                    apply Holds.seq
                    apply Holds.mono _ (plain_known (rememberVerifiedPull_plain ..) (((paid_lasts _ payoutTx).and
                      (found_lasts pull pullTx)).and (found_lasts payoutTx payout)) known)
                    rintro result after ⟨⟨paid, found⟩, receipt⟩
                    cases result with
                    | none => exact nofun
                    | some done =>
                      apply rest found
                      apply accounted
                      intro unbound
                      exact ⟨payoutTx, payout, pullTx, paid, receipt, found, misfits unbound⟩

end MppRouter.Routes.Stripe.Onchain
