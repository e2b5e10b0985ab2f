import MppRouter.Core.Finish
import MppRouter.Core.Solo
import MppRouter.Providers.Registry

/-! # An index that tells the truth

The index is written from an earlier read: from a cache of ten seconds, from the store, or record by record. Where no
such write carries a record that has changed since, unless the call that changed it has its own index write ahead, the
index holds published records only once every call has ended. An index that is rebuilt alone holds all of them.
-/

namespace MppRouter.Providers.Registry

open Concurrent Function Typestate List Machine

variable {isolateOf : ℕ → ℕ}

/-! ## The condition -/

/-- The record is the authoritative one, and published. -/
def World.Current (world : World) (record : ProviderRecord) : Prop :=
  world.records.get record.id = some record ∧ record.status = .published

/-- The record is current, or another call has stored one under its id and not spliced it into the index yet. -/
def World.Fresh (world : World) (tid : ℕ) (record : ProviderRecord) : Prop :=
  world.Current record ∨ ∃ other, other ≠ tid ∧ ∃ stored, world.splicing other = some stored ∧ stored.id = record.id

/-- What an index write carries is fresh: what the call read for it, and the record it stored. A call that finds the
registry full leaves nothing behind that is not. -/
def tidy (tid : ℕ) (action : Action) (_ : Choice) (world : World) : Prop :=
  match action with
  | .putIndex _ =>
    (∀ record ∈ world.taken tid, (∀ stored, world.splicing tid = some stored → record.id ≠ stored.id) →
      world.Fresh tid record) ∧
      ∀ stored, world.splicing tid = some stored → stored.status = .published → world.Fresh tid stored
  | .refuse => ∀ stored, world.splicing tid = some stored → ∀ record ∈ world.index.getD [], record.id = stored.id →
      world.Fresh tid record
  | _ => True

/-- The stored index holds nothing but current records. -/
def World.Truthful (world : World) : Prop := ∀ record ∈ world.index.getD [], world.Current record

/-! ## What a call does -/

/-- What a call has stored and not spliced yet, and what it has read for its index write. -/
structure Phase where
  splicing : Option ProviderRecord := none
  taken : List ProviderRecord := []

/-- The index that a call writes. -/
def Phase.index (phase : Phase) : ProviderIndex :=
  match phase.splicing with
  | some stored => splice phase.taken stored
  | none => phase.taken

def mayDo (phase : Phase) : Action → Prop
  | .putRecord _ => phase.splicing = none
  | .putIndex index => index = phase.index
  | _ => True

def published (found : Option ProviderRecord) : Option ProviderRecord :=
  found.filter fun record => record.status == .published

def move (phase : Phase) : (action : Action) → action.Answer → Phase
  | .putRecord record, _ => { phase with splicing := some record }
  | .enterRead, .cached value => { phase with taken := value }
  | .await _, value => { phase with taken := value }
  | .loaded value, _ => { phase with taken := value }
  | .getRecord _, found => { phase with taken := phase.taken ++ (published found).toList }
  | .putIndex _, _ => {}
  | .refuse, _ => {}
  | _, _ => phase

def registryFlow (isolateOf : ℕ → ℕ) : Typestate (registryMachine isolateOf) := ⟨Phase, mayDo, move⟩

section Follows

variable {phase : Phase}

theorem readIndex_follows (stored : ProviderRecord) :
    (registryFlow isolateOf).Follows readIndex (fun value after => after = ⟨some stored, value⟩) ⟨some stored, []⟩ := by
  simp only [readIndex, ask, Prog.call_bind]
  refine ⟨trivial, fun entered => ?_⟩
  cases entered with
  | cached value => rfl
  | joined loader => exact ⟨trivial, fun value => rfl⟩
  | loading => exact ⟨trivial, fun raw => ⟨trivial, fun _ => rfl⟩⟩

theorem writeIndex_follows {index : ProviderIndex} (own : index = phase.index) :
    (registryFlow isolateOf).Follows (writeIndex index) (fun _ after => after = {}) phase :=
  ⟨trivial, fun _ => ⟨own, fun _ => rfl⟩⟩

theorem putProviderRecord_follows (record : ProviderRecord) :
    (registryFlow isolateOf).Follows (putProviderRecord record) (fun _ after => after = {}) {} := by
  simp only [putProviderRecord, ask, Prog.call_bind]
  refine ⟨rfl, fun _ => ?_⟩
  apply Follows.bind
  apply (readIndex_follows record).mono
  rintro current _ rfl
  dsimp only
  split
  · exact ⟨trivial, fun _ => rfl⟩
  · exact writeIndex_follows rfl

theorem collect_follows (keys : List String) (providers : List ProviderRecord) :
    (registryFlow isolateOf).Follows (collect keys providers) (fun result after => after = ⟨none, result⟩)
      ⟨none, providers⟩ := by
  induction keys generalizing providers with
  | nil => rfl
  | cons key keys ih =>
    unfold collect
    split
    · rfl
    · refine ⟨trivial, fun found => ?_⟩
      change (registryFlow isolateOf).Follows (match published found with
        | some record => collect keys (providers ++ [record])
        | none => collect keys providers) _ ⟨none, providers ++ (published found).toList⟩
      cases published found with
      | some record => exact ih _
      | none =>
        rw [Option.toList_none, append_nil]
        exact ih _

theorem collectPages_follows (pages : ℕ) (cursor : Option String) (providers : List ProviderRecord) :
    (registryFlow isolateOf).Follows (collectPages pages cursor providers) (fun result after => after = ⟨none, result⟩)
      ⟨none, providers⟩ := by
  induction pages generalizing cursor providers with
  | zero => exact ⟨trivial, fun _ => rfl⟩
  | succ pages ih =>
    simp only [collectPages, ask, Prog.call_bind]
    refine ⟨trivial, fun page => ?_⟩
    apply Follows.bind
    apply (collect_follows page.keys providers).mono
    rintro result _ rfl
    split
    · split
      · exact ih _ _
      · rfl
    · rfl

theorem party_follows (party : Party) :
    (registryFlow isolateOf).Follows party.program (fun _ after => after.splicing = none) {} := by
  cases party with
  | idle => rfl
  | put record =>
    apply (putProviderRecord_follows record).mono
    rintro _ _ rfl
    rfl
  | rebuild pages =>
    apply Follows.bind
    apply (collectPages_follows pages none []).mono
    rintro providers _ rfl
    apply (writeIndex_follows rfl).mono
    rintro _ _ rfl
    rfl
  | tick elapsed => exact ⟨trivial, fun _ => rfl⟩

end Follows

/-! ## The protocol -/

/-- A record of the index is current, or a call that stored another has its index write ahead. -/
def World.Covered (world : World) (record : ProviderRecord) : Prop :=
  world.Current record ∨ ∃ tid stored, world.splicing tid = some stored ∧ stored.id = record.id

def Books (world : World) : Prop := ∀ record ∈ world.index.getD [], world.Covered record

/-- A call notes what it works on, and nobody else's work. -/
def Own (tid : ℕ) (before after : World) : Prop :=
  ∀ other, other ≠ tid → after.splicing other = before.splicing other ∧ after.taken other = before.taken other

def indexProtocol (isolateOf : ℕ → ℕ) : Protocol (registryMachine isolateOf) := ⟨Books, Own⟩

def Knows (tid : ℕ) (phase : Phase) (world : World) : Prop :=
  world.splicing tid = phase.splicing ∧ world.taken tid = phase.taken

section Steps

variable {tid : ℕ} {phase : Phase} {world after : World}

theorem Own.refl (tid : ℕ) (world : World) : Own tid world world := fun _ _ => ⟨rfl, rfl⟩

/-- The stored records and the index are untouched, and so is what every call has yet to splice. -/
structure Still (before after : World) : Prop where
  records : after.records = before.records
  index : after.index = before.index
  splicing : after.splicing = before.splicing

theorem Still.books (still : Still world after) (books : Books world) : Books after := by
  intro record member
  rw [still.index] at member
  unfold World.Covered World.Current
  rw [still.records, still.splicing]
  exact books record member

theorem own_of_eq (splicing : after.splicing = world.splicing) (taken : after.taken = world.taken) :
    Own tid world after := fun _ _ => ⟨congrFun splicing _, congrFun taken _⟩

theorem own_take (splicing : after.splicing = world.splicing) {records : List ProviderRecord}
    (taken : after.taken = update world.taken tid records) : Own tid world after := by
  intro other distinct
  exact ⟨congrFun splicing other, by rw [taken, update_of_ne distinct]⟩

theorem Knows.of_eq (knows : Knows tid phase world) (splicing : after.splicing = world.splicing)
    (taken : after.taken = world.taken) : Knows tid phase after :=
  ⟨(congrFun splicing tid).trans knows.1, (congrFun taken tid).trans knows.2⟩

/-- What another call is about to splice, it is still about to splice after this one let go. -/
theorem Fresh.released {record : ProviderRecord} (fresh : world.Fresh tid record) (records : after.records = world.records)
    (splicing : after.splicing = update world.splicing tid none) : after.Covered record := by
  rcases fresh with ⟨stored, status⟩ | ⟨other, distinct, stored, ahead, same⟩
  · left
    exact ⟨by rw [records]; exact stored, status⟩
  · right
    exact ⟨other, stored, by rw [splicing, update_of_ne distinct]; exact ahead, same⟩

theorem putRecord_books {record : ProviderRecord} (books : Books world) (free : world.splicing tid = none)
    (records : after.records = world.records.put record) (index : after.index = world.index)
    (splicing : after.splicing = update world.splicing tid (some record)) : Books after := by
  intro entry member
  rw [index] at member
  by_cases same : record.id = entry.id
  · right
    exact ⟨tid, record, by rw [splicing, update_self], same⟩
  rcases books entry member with ⟨stored, status⟩ | ⟨other, stored, ahead, id⟩
  · left
    refine ⟨?_, status⟩
    rw [records]
    exact (update_of_ne (Ne.symm same) ..).trans stored
  · right
    have distinct : other ≠ tid := by
      rintro rfl
      cases free.symm.trans ahead
    exact ⟨other, stored, by rw [splicing, update_of_ne distinct]; exact ahead, id⟩

theorem mem_splice {current : ProviderIndex} {changed entry : ProviderRecord} (member : entry ∈ splice current changed) :
    (entry ∈ current ∧ entry.id ≠ changed.id) ∨ (entry = changed ∧ changed.status = .published) := by
  unfold splice at member
  dsimp only at member
  split at member
  next status =>
    rcases mem_append.mp member with other | own
    · obtain ⟨stands, different⟩ := mem_filter.mp other
      exact .inl ⟨stands, bne_iff_ne.mp different⟩
    · exact .inr ⟨mem_singleton.mp own, status⟩
  next =>
    obtain ⟨stands, different⟩ := mem_filter.mp member
    exact .inl ⟨stands, bne_iff_ne.mp different⟩

theorem putIndex_books (knows : Knows tid phase world)
    (admitted : tidy tid (.putIndex phase.index) choice world) (records : after.records = world.records)
    (index : after.index = some phase.index) (splicing : after.splicing = update world.splicing tid none) :
    Books after := by
  obtain ⟨taken, own⟩ := admitted
  intro entry member
  rw [index, Option.getD_some] at member
  have fresh : world.Fresh tid entry := by
    unfold Phase.index at member
    cases ahead : phase.splicing with
    | none =>
      rw [ahead] at member
      have free := knows.1.trans ahead
      exact taken entry (knows.2 ▸ member) fun stored some => by cases free.symm.trans some
    | some changed =>
      rw [ahead] at member
      have stored := knows.1.trans ahead
      rcases mem_splice member with ⟨stands, different⟩ | ⟨rfl, status⟩
      · refine taken entry (knows.2 ▸ stands) fun other some => ?_
        rw [Option.some.inj (some.symm.trans stored)]
        exact different
      · exact own entry stored status
  exact Fresh.released fresh records splicing

theorem refuse_books (books : Books world) (admitted : tidy tid .refuse choice world)
    (records : after.records = world.records) (index : after.index = world.index)
    (splicing : after.splicing = update world.splicing tid none) : Books after := by
  intro entry member
  rw [index] at member
  rcases books entry member with ⟨stored, status⟩ | ⟨other, stored, ahead, same⟩
  · left
    exact ⟨by rw [records]; exact stored, status⟩
  by_cases distinct : other = tid
  · subst distinct
    exact Fresh.released (admitted stored ahead entry member same.symm) records splicing
  · right
    exact ⟨other, stored, by rw [splicing, update_of_ne distinct]; exact ahead, same⟩

theorem release_knows (splicing : after.splicing = update world.splicing tid none)
    (taken : after.taken = update world.taken tid []) : Knows tid {} after :=
  ⟨by rw [splicing, update_self], by rw [taken, update_self]⟩

theorem release_own (splicing : after.splicing = update world.splicing tid none)
    (taken : after.taken = update world.taken tid []) : Own tid world after :=
  fun other distinct => ⟨by rw [splicing, update_of_ne distinct], by rw [taken, update_of_ne distinct]⟩

theorem registry_keeps (isolateOf : ℕ → ℕ) (tid : ℕ) :
    (registryFlow isolateOf).Keeps (indexProtocol isolateOf) tidy tid (Knows tid) where
  stable := by
    intro phase other world after distinct _ _ own knows
    obtain ⟨splicing, taken⟩ := own tid (Ne.symm distinct)
    exact ⟨splicing.trans knows.1, taken.trans knows.2⟩
  step := by
    intro phase action may world books knows choice answer after admitted performed
    cases action with
    | putRecord record =>
      cases performed
      refine ⟨putRecord_books books (knows.1.trans may) rfl rfl rfl, fun other distinct => ?_, ?_⟩
      · exact ⟨update_of_ne distinct .., rfl⟩
      · exact ⟨update_self .., knows.2⟩
    | enterRead =>
      have entered := Option.some.inj performed
      unfold enter at entered
      dsimp only at entered
      split at entered
      · cases entered
        exact ⟨Still.books ⟨rfl, rfl, rfl⟩ books, own_take rfl rfl, ⟨knows.1, update_self ..⟩⟩
      · cases entered
        exact ⟨books, .refl _ _, knows⟩
      · cases entered
        exact ⟨Still.books ⟨rfl, rfl, rfl⟩ books, own_of_eq rfl rfl, Knows.of_eq knows rfl rfl⟩
    | await loader =>
      obtain ⟨value, -, same⟩ := Option.map_eq_some_iff.mp performed
      cases same
      exact ⟨Still.books ⟨rfl, rfl, rfl⟩ books, own_take rfl rfl, ⟨knows.1, update_self ..⟩⟩
    | loaded value =>
      cases performed
      exact ⟨Still.books ⟨rfl, rfl, rfl⟩ books, own_take rfl rfl, ⟨knows.1, update_self ..⟩⟩
    | getRecord id =>
      cases performed
      refine ⟨Still.books ⟨rfl, rfl, rfl⟩ books, own_take rfl rfl, knows.1, ?_⟩
      exact (update_self ..).trans (congrArg (· ++ _) knows.2)
    | putIndex index =>
      obtain rfl : index = phase.index := may
      cases performed
      exact ⟨putIndex_books knows admitted rfl rfl rfl, release_own rfl rfl, release_knows rfl rfl⟩
    | refuse =>
      cases performed
      exact ⟨refuse_books books admitted rfl rfl rfl, release_own rfl rfl, release_knows rfl rfl⟩
    | getIndex | cacheIndex | tick =>
      cases performed
      exact ⟨Still.books ⟨rfl, rfl, rfl⟩ books, own_of_eq rfl rfl, Knows.of_eq knows rfl rfl⟩
    | list cursor =>
      simp only [perform] at performed
      split at performed
      · cases performed
      · cases performed
        exact ⟨books, .refl _ _, knows⟩
    | goOn => cases performed

end Steps

/-- Every call is about to begin, and what the index holds is current. -/
structure Standing (world : World) : Prop where
  truthful : world.Truthful
  splicing : ∀ tid, world.splicing tid = none
  taken : ∀ tid, world.taken tid = []

theorem Standing.start : Standing World.start where
  truthful _ member := absurd member not_mem_nil
  splicing _ := rfl
  taken _ := rfl

/-- Once every call of a tidy run has ended, nothing is left to splice, so that every entry is current. -/
theorem finished_truthful {world : World} (standing : Standing world) {parties : ℕ → Party}
    {after : (registryMachine isolateOf).Config} (run : Run tidy (registering isolateOf world parties) after)
    (finished : after.Finished) : after.world.Truthful := by
  have inv : (indexProtocol isolateOf).Inv (registering isolateOf world parties).world :=
    fun record member => .inl (standing.truthful record member)
  have knows : ∀ tid, Knows tid {} world := fun tid => ⟨standing.splicing tid, standing.taken tid⟩
  obtain ⟨books, phases⟩ := Typestate.finished (registry_keeps isolateOf) (fun _ => {}) inv knows
    (fun tid => party_follows (parties tid)) run finished
  intro record member
  rcases books record member with current | ⟨tid, stored, ahead, -⟩
  · exact current
  obtain ⟨phase, nothing, known, -⟩ := phases tid
  cases ahead.symm.trans (known.trans nothing)

/-! ## A rebuild -/

/-- No read fails. -/
def readable (_ : ℕ) (_ : Action) (choice : Choice) (_ : World) : Prop := choice.fails = false

/-- The published ones of the records under these keys. -/
def Records.publishedOf (records : Records) (keys : List String) : List ProviderRecord :=
  keys.filterMap fun id => published (records.get id)

section Rebuild

open Machine

variable {tid : ℕ} {world after : World}

theorem mem_publishedOf {records : Records} {record : ProviderRecord} :
    record ∈ records.publishedOf records.ids ↔ records.get record.id = some record ∧ record.status = .published := by
  unfold Records.publishedOf published
  rw [mem_filterMap]
  constructor
  · rintro ⟨id, -, found⟩
    obtain ⟨found, status⟩ := Option.filter_eq_some_iff.mp found
    rw [← records.keyed id record found] at found
    exact ⟨found, eq_of_beq status⟩
  · rintro ⟨found, status⟩
    refine ⟨record.id, (records.listed _).mpr (by rw [found]; rfl), ?_⟩
    rw [found]
    exact Option.filter_eq_some_iff.mpr ⟨rfl, beq_iff_eq.mpr status⟩

/-- What follows the last key of a page, in a sorted listing, is what the page left out. -/
theorem filter_last {keys rest : List String} {last : String} (sorted : (keys ++ rest).Pairwise (· < ·))
    (ends : keys.getLast? = some last) : (keys ++ rest).filter (last < ·) = rest := by
  obtain ⟨-, -, below⟩ := pairwise_append.mp sorted
  obtain ⟨front, rfl⟩ := getLast?_eq_some_iff.mp ends
  have earlier : ∀ key ∈ front ++ [last], ¬ decide (last < key) = true := by
    intro key member
    rw [decide_eq_true_eq, not_lt]
    rcases mem_append.mp member with inFront | own
    · have ordered := (pairwise_append.mp (pairwise_append.mp sorted).1).2.2
      exact (ordered key inFront last (mem_singleton_self last)).le
    · exact (mem_singleton.mp own).le
  rw [filter_append, filter_eq_nil_iff.mpr earlier, nil_append, filter_eq_self]
  intro key member
  exact decide_eq_true (below last (mem_append_right _ (mem_singleton_self last)) key member)

theorem after_sorted (records : Records) (cursor : Option String) : (records.after cursor).Pairwise (· < ·) := by
  cases cursor with
  | none => exact records.sorted
  | some last => exact records.sorted.filter _

/-- The page after this one holds the keys that it left out. -/
theorem after_last {records : Records} {cursor : Option String} {last : String} {size : ℕ}
    (ends : ((records.after cursor).take size).getLast? = some last) :
    records.after (some last) = (records.after cursor).drop size := by
  have sorted := after_sorted records cursor
  have whole := take_append_drop size (records.after cursor)
  have listed : last ∈ records.after cursor := mem_of_mem_take (mem_of_getLast? ends)
  have narrowed : records.after (some last) = (records.after cursor).filter (last < ·) := by
    cases cursor with
    | none => rfl
    | some before =>
      have later : before < last := of_decide_eq_true (mem_filter.mp listed).2
      simp only [Records.after, filter_filter]
      apply filter_congr
      intro key member
      rw [Bool.eq_iff_iff, Bool.and_eq_true, decide_eq_true_eq, decide_eq_true_eq]
      exact ⟨fun above => ⟨above, later.trans above⟩, And.left⟩
  rw [narrowed]
  conv_lhs => rw [← whole]
  exact filter_last (by rwa [whole]) ends

/-- Every key is read, and the published records are collected in the order of the keys. -/
theorem collect_solo {keys : List String} {providers result : List ProviderRecord}
    (solo : Solo (S := registryMachine isolateOf) readable tid (collect keys providers) world result after)
    (few : (providers ++ world.records.publishedOf keys).length ≤ MAX_PROVIDERS) :
    result = providers ++ world.records.publishedOf keys ∧ after.records = world.records := by
  induction keys generalizing providers world with
  | nil =>
    obtain ⟨rfl, rfl⟩ := solo.of_pure
    exact ⟨(append_nil _).symm, rfl⟩
  | cons key keys ih =>
    unfold collect at solo
    split at solo
    next full =>
      obtain ⟨rfl, same⟩ := solo.of_pure
      have nothing : world.records.publishedOf (key :: keys) = [] := by
        rw [← length_eq_zero_iff]
        rw [length_append] at few
        omega
      exact ⟨by rw [nothing, append_nil], congrArg World.records same⟩
    next =>
      obtain ⟨choice, found, middle, reads, performed, solo⟩ := solo.of_call
      cases performed
      rw [reads] at solo
      change Solo (S := registryMachine isolateOf) readable tid (match published (world.records.get key) with
        | some record => collect keys (providers ++ [record])
        | none => collect keys providers) _ result after at solo
      unfold Records.publishedOf at few ⊢
      rw [filterMap_cons] at few ⊢
      cases collected : published (world.records.get key) with
      | none =>
        rw [collected] at solo few
        have later := ih solo few
        exact later
      | some record =>
        rw [collected] at solo few
        rw [append_cons] at few ⊢
        have later := ih solo few
        exact later

theorem publishedOf_append (records : Records) (keys rest : List String) :
    records.publishedOf (keys ++ rest) = records.publishedOf keys ++ records.publishedOf rest :=
  filterMap_append

/-- Page after page, all that is published is collected. -/
theorem collectPages_solo {pages : ℕ} {cursor : Option String} {providers result : List ProviderRecord}
    (solo : Solo (S := registryMachine isolateOf) readable tid (collectPages pages cursor providers) world result after)
    (few : (providers ++ world.records.publishedOf (world.records.after cursor)).length ≤ MAX_PROVIDERS) :
    result = providers ++ world.records.publishedOf (world.records.after cursor) ∧ after.records = world.records := by
  induction pages generalizing cursor providers world with
  | zero =>
    obtain ⟨_, _, _, _, performed, _⟩ := solo.of_call
    cases performed
  | succ pages ih =>
    unfold collectPages at solo
    obtain ⟨choice, page, middle, -, performed, solo⟩ := solo.of_call
    simp only [perform] at performed
    split at performed
    · cases performed
    cases performed
    obtain ⟨collected, later, collects, solo⟩ := solo.of_bind
    have parts := publishedOf_append world.records ((world.records.after cursor).take choice.pageSize)
      ((world.records.after cursor).drop choice.pageSize)
    rw [take_append_drop] at parts
    rw [parts, ← append_assoc] at few ⊢
    have fits := (length_append ▸ few : _ + _ ≤ MAX_PROVIDERS)
    obtain ⟨rfl, same⟩ := collect_solo collects ((Nat.le_add_right _ _).trans fits)
    rw [← same] at few fits ⊢
    simp only [pageAfter, ← same] at solo
    split at solo
    next last ends =>
      rw [← after_last (Option.ite_none_left_eq_some.mp ends).2] at few fits ⊢
      split at solo
      next room =>
        exact ih solo few
      next full =>
        obtain ⟨rfl, stands⟩ := solo.of_pure
        have nothing : later.records.publishedOf (later.records.after (some last)) = [] := by
          rw [← length_eq_zero_iff]
          omega
        exact ⟨by rw [nothing, append_nil], congrArg World.records stands⟩
    next ends =>
      obtain ⟨rfl, stands⟩ := solo.of_pure
      have complete : (later.records.after cursor).length ≤ choice.pageSize := by
        by_contra more
        rw [if_neg more, getLast?_eq_none_iff, take_eq_nil_iff] at ends
        rcases ends with empty | nothing
        · contradiction
        · exact more (by rw [nothing]; exact Nat.zero_le _)
      rw [drop_eq_nil_of_le complete]
      exact ⟨(append_nil _).symm, congrArg World.records stands⟩

/-- A rebuild that is alone, whose reads do not fail, writes the published records and no others. -/
theorem rebuildIndex_solo {pages : ℕ}
    (solo : Solo (S := registryMachine isolateOf) readable tid (rebuildIndex pages) world () after)
    (few : (world.records.publishedOf world.records.ids).length ≤ MAX_PROVIDERS) (record : ProviderRecord) :
    record ∈ after.index.getD [] ↔ after.Current record := by
  obtain ⟨providers, middle, collects, solo⟩ := solo.of_bind
  obtain ⟨rfl, same⟩ := collectPages_solo collects few
  obtain ⟨_, _, _, -, performed, solo⟩ := solo.of_call
  cases performed
  obtain ⟨_, _, _, -, performed, solo⟩ := solo.of_call
  cases performed
  obtain ⟨-, rfl⟩ := solo.of_pure
  have listed : record ∈ world.records.publishedOf world.records.ids ↔
      world.records.get record.id = some record ∧ record.status = .published := mem_publishedOf
  unfold World.Current
  exact listed.trans (by rw [← same]; rfl)

end Rebuild

/-! ## The calls together -/

/-- Where every index write carries fresh records, the index holds current records only once every call has ended, and
a rebuild that is then alone restores exactly the published ones. -/
theorem index_truthful {world : World} (standing : Standing world) (parties : ℕ → Party)
    {after : (registryMachine isolateOf).Config} (run : Run tidy (registering isolateOf world parties) after)
    (finished : after.Finished) : after.world.Truthful ∧
      ((after.world.records.publishedOf after.world.records.ids).length ≤ MAX_PROVIDERS →
        ∀ tid pages restored, Solo (S := registryMachine isolateOf) readable tid (rebuildIndex pages)
          after.world () restored → ∀ record, record ∈ restored.index.getD [] ↔ restored.Current record) := by
  constructor
  · exact finished_truthful standing run finished
  · intro few tid pages restored solo record
    exact rebuildIndex_solo solo few record

instance (world : World) (record : ProviderRecord) : Decidable (world.Current record) :=
  inferInstanceAs (Decidable (_ ∧ _))

instance (world : World) : Decidable world.Truthful := inferInstanceAs (Decidable (∀ record ∈ _, _))

/-- What an index write carries is current. -/
def settled (tid : ℕ) (action : Action) (_ : Choice) (world : World) : Prop :=
  match action with
  | .putIndex _ => (∀ record ∈ world.taken tid, world.Current record) ∧
      ∀ stored ∈ world.splicing tid, world.Current stored
  | .refuse => False
  | _ => True

instance (tid : ℕ) (action : Action) (choice : Choice) (world : World) : Decidable (settled tid action choice world) := by
  unfold settled
  split <;> infer_instance

theorem settled_tidy {tid : ℕ} {action : Action} {choice : Choice} {world : World}
    (admitted : settled tid action choice world) : tidy tid action choice world := by
  cases action with
  | putIndex index =>
    obtain ⟨taken, own⟩ := admitted
    constructor
    · intro record member _
      exact .inl (taken record member)
    · intro stored ahead _
      exact .inl (own stored ahead)
  | refuse => exact admitted.elim
  | _ => trivial

instance (tid : ℕ) (action : Action) (choice : Choice) (world : World) : Decidable (readable tid action choice world) :=
  inferInstanceAs (Decidable (_ = _))

/-- Two publications on two isolates. -/
def twoShops : ℕ → Party
  | 0 => .put { id := "p", status := .published }
  | 1 => .put { id := "q", status := .published }
  | _ => .idle

/-- One call after the other, each with its reads of the index. -/
def inTurn (calls : List (ℕ × ℕ)) : List (ℕ × Choice) :=
  calls.flatMap fun call => List.replicate call.2 (call.1, {})

theorem twoShops_truthful : ∃ after, Run tidy (registering id World.start twoShops) after ∧ after.Finished ∧
    after.world.Truthful ∧ ∃ restored,
      Solo (S := registryMachine id) readable 2 (rebuildIndex 1) after.world () restored ∧
        ∀ record, record ∈ restored.index.getD [] ↔ restored.Current record := by
  obtain ⟨after, run, finished, passed⟩ := Config.exec_finishes settled (registering id World.start twoShops)
    (inTurn [(0, 6), (1, 6)]) [0, 1]
    (by
      intro tid others
      simp only [mem_cons, not_mem_nil, or_false, not_or] at others
      simp only [registering]
      unfold twoShops
      split
      · exact absurd rfl others.1
      · exact absurd rfl others.2
      · rfl)
    (fun world => decide ((world.records.publishedOf world.records.ids).length ≤ MAX_PROVIDERS) &&
      (soloExec (S := registryMachine id) readable 2 (List.replicate 5 {}) (rebuildIndex 1) world).isSome)
    (by decide +kernel)
  rw [Bool.and_eq_true, decide_eq_true_eq, Option.isSome_iff_exists] at passed
  obtain ⟨few, ⟨_, restored⟩, executed⟩ := passed
  have tidied : Run tidy (registering id World.start twoShops) after :=
    run.admitted fun _ _ _ _ _ _ admitted => settled_tidy admitted
  have rebuilt := soloExec_solo executed
  obtain ⟨truthful, restores⟩ := index_truthful .start twoShops tidied finished
  exact ⟨after, tidied, finished, truthful, restored, rebuilt, restores few 2 1 restored rebuilt⟩

/-- A provider is published on one isolate and suspended on another; the first publishes one more from its cache. -/
def suspendedShop : ℕ → Party
  | 0 => .put { id := "p", status := .published }
  | 1 => .put { id := "p", status := .suspended }
  | 2 => .put { id := "q", status := .published }
  | _ => .idle

def suspendedIsolate (tid : ℕ) : ℕ := if tid = 1 then 1 else 0

/-- The suspended provider is in the index again. -/
theorem suspended_reappears : ∃ after,
    Run (unrestricted (registryMachine suspendedIsolate))
      (registering suspendedIsolate World.start suspendedShop) after ∧ after.Finished ∧
      ∃ record ∈ after.world.index.getD [], ∃ stored, after.world.records.get record.id = some stored ∧
        record.status = .published ∧ stored.status = .suspended := by
  obtain ⟨after, run, finished, passed⟩ := Config.exec_finishes
    (unrestricted (registryMachine suspendedIsolate)) (registering suspendedIsolate World.start suspendedShop)
    (inTurn [(0, 6), (1, 6), (2, 4)]) [0, 1, 2]
    (by
      intro tid others
      simp only [mem_cons, not_mem_nil, or_false, not_or] at others
      simp only [registering]
      unfold suspendedShop
      split
      · exact absurd rfl others.1
      · exact absurd rfl others.2.1
      · exact absurd rfl others.2.2
      · rfl)
    (fun world => (world.index.getD []).any fun record => record.status == .published &&
      (world.records.get record.id).any fun stored => stored.status == .suspended)
    (by decide +kernel)
  simp only [any_eq_true, Bool.and_eq_true, beq_iff_eq, Option.any_eq_true] at passed
  obtain ⟨record, member, shown, stored, found, suspended⟩ := passed
  exact ⟨after, run, finished, record, member, stored, found, shown, suspended⟩

end MppRouter.Providers.Registry
