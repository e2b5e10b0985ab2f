import Mathlib
import MppRouter.Core.StableSort
import MppRouter.Providers.Record

/-! # Provider selection

Of the published routes that declare one capability the router recommends one: providers that are offline are excluded,
healthy ones with fresh data rank by it, those without by price, degraded ones come last. A provider that the buyer
names is returned or refused.
-/

namespace MppRouter.Providers.Selection

open List

/-! ## Metrics -/

/-- Attributable calls needed before a rate counts. -/
def MIN_SAMPLES : ℕ := 5

/-- Metrics whose newest call is older describe the past. -/
def STALE_AFTER_MS : ℤ := 48 * 60 * 60 * 1000

inductive MetricsWindow where
  | day | week | month | quarter | all
  deriving DecidableEq, Repr

inductive SampleStatus where
  | sufficient | insufficient | stale | none | unavailable
  deriving DecidableEq, Repr

inductive QualityAvailability where
  | ok | notProvisioned | readFailed
  deriving DecidableEq, Repr

structure RouteQualityStats where
  calls : ℕ
  ok : ℕ
  providerFault : ℕ
  providerSuccessRate : Option ℚ
  latencyP50Ms : Option ℚ
  lastCallAt : Option ℤ
  deriving DecidableEq, Repr

structure CandidateMetrics where
  window : MetricsWindow
  calls : ℕ
  attributable : ℕ
  providerSuccessRate : Option ℚ
  latencyP50Ms : Option ℚ
  lastCallAt : Option ℤ
  sampleStatus : SampleStatus
  deriving DecidableEq, Repr

def sampleStatus (m : RouteQualityStats) (availability : QualityAvailability) (now : ℤ) : SampleStatus :=
  if availability ≠ .ok then .unavailable
  else if m.calls = 0 then .none
  else if m.lastCallAt.any fun last => now - last > STALE_AFTER_MS then .stale
  else if m.ok + m.providerFault < MIN_SAMPLES then .insufficient
  else .sufficient

/-! ## Candidates -/

structure PayTo where
  network : String
  address : String
  deriving DecidableEq, Repr

structure Candidate where
  providerId : String
  providerName : String
  routeId : String
  operation : String
  publicPath : String
  method : String
  priceUsd : String
  healthStatus : HealthStatus
  dialect : Option ChallengeDialect
  payTo : Option PayTo
  metrics : CandidateMetrics
  eligible : Bool
  /-- Lower is better. -/
  tier : ℕ
  deriving DecidableEq, Repr

def publicPathFor (providerId operation : String) : String := "/v1/services/" ++ providerId ++ "/" ++ operation

def candidateFor (record : ProviderRecord) (spec : ProviderRouteSpec) (metrics : CandidateMetrics) : Candidate :=
  let health := record.verification.healthStatus.getD .pending
  let stellar := (record.payouts.find? fun p => "stellar:".isPrefixOf p.network).or record.payouts.head?
  let base := fun eligible tier =>
    { providerId := record.id, providerName := record.name
      routeId := record.id ++ "_" ++ spec.operation.map fun c => if c = '-' then '_' else c
      operation := spec.operation, publicPath := publicPathFor record.id spec.operation, method := spec.method
      priceUsd := spec.priceUsd, healthStatus := health, dialect := record.verification.challengeDialect
      payTo := stellar.map fun p => ⟨p.network, p.payTo⟩, metrics, eligible, tier : Candidate }
  if health = .offline then base false 3
  else if health = .degraded then base true 2
  else if metrics.sampleStatus = .sufficient then base true 0
  else base true 1

/-! ## Ranking -/

def MAX_SAFE_INTEGER : ℚ := 2 ^ 53 - 1

def Candidate.rate (c : Candidate) : ℚ := c.metrics.providerSuccessRate.getD (-1)
def Candidate.latency (c : Candidate) : ℚ := c.metrics.latencyP50Ms.getD MAX_SAFE_INTEGER

section Ranking

-- how prices are read: a registered price is a decimal, and one of too many digits is read as infinite
variable (toNumber : String → WithTop ℚ)

/-- How one candidate compares with another. -/
def compare (a b : Candidate) : Ordering :=
  let measured := a.tier = 0 ∨ a.tier = 2
  if a.tier ≠ b.tier then cmp a.tier b.tier
  else if measured ∧ a.rate ≠ b.rate then cmp b.rate a.rate
  else if measured ∧ a.latency ≠ b.latency then cmp a.latency b.latency
  else if toNumber a.priceUsd ≠ toNumber b.priceUsd then cmp (toNumber a.priceUsd) (toNumber b.priceUsd)
  else cmp a.providerId b.providerId

/-- What the sort asks. -/
def upTo (a b : Candidate) : Prop := compare toNumber a b ≠ .gt

instance : DecidableRel (upTo toNumber) := fun _ _ => inferInstanceAs (Decidable (_ ≠ _))

/-- The sort is stable. -/
def rankCandidates (candidates : List Candidate) : List Candidate := candidates.insertionSort (upTo toNumber)

/-! ## Selection -/

structure Args where
  capability : String
  provider : Option String := none
  /-- The window asked for, if it is one. -/
  window : Option MetricsWindow := none

/-- What the metrics store says of a provider. -/
structure Quality where
  stats : MetricsWindow → RouteQualityStats
  availability : QualityAvailability

inductive SelectionError where
  | unknownCapability | pinnedProviderNotFound | pinnedProviderOffline | noEligibleProvider
  deriving DecidableEq, Repr

structure SelectionResult where
  capability : String
  window : MetricsWindow
  metricsAvailability : QualityAvailability
  pinnedProvider : Option String
  selected : Option Candidate := none
  candidates : List Candidate
  error : Option SelectionError := none
  deriving DecidableEq, Repr

-- how a named provider is read, `trim` and `toLowerCase`
variable (canonical : String → String)

def pinnedBy (args : Args) : Option String := (args.provider.filter (· ≠ "")).map canonical

variable (quality : String → Quality) (now : ℤ)

def candidatesOf (contract : String) (window : MetricsWindow) (record : ProviderRecord) : List Candidate :=
  (record.routes.filter fun spec => spec.capability = some contract).map fun spec =>
    let quality := quality record.id
    let stats := quality.stats window
    candidateFor record spec
      { window, calls := stats.calls, attributable := stats.ok + stats.providerFault
        providerSuccessRate := stats.providerSuccessRate, latencyP50Ms := stats.latencyP50Ms
        lastCallAt := stats.lastCallAt, sampleStatus := sampleStatus stats quality.availability now }

/-- The last reading that failed is reported. -/
def availabilityOf (contract : String) (providers : List ProviderRecord) : QualityAvailability :=
  let asked := providers.filter fun record => record.routes.any fun spec => spec.capability = some contract
  ((asked.map fun record => (quality record.id).availability).filter (· ≠ .ok)).getLast?.getD .ok

/-- The recommendation, or why there is none; a blank name names nobody. -/
def pick (pinned : Option String) (ranked : List Candidate) : Except SelectionError Candidate :=
  match pinned.filter (· ≠ "") with
  | some pinned =>
    match ranked.find? fun c => c.providerId = pinned with
    | none => .error .pinnedProviderNotFound
    | some mine => if mine.eligible then .ok mine else .error .pinnedProviderOffline
  | none =>
    match ranked.find? Candidate.eligible with
    | some first => .ok first
    | none => .error .noEligibleProvider

def selectProvider (contracts : List String) (index : List ProviderRecord) (args : Args) :
    Except SelectionError SelectionResult :=
  if args.capability ∉ contracts then .error .unknownCapability
  else
    let window := args.window.getD .week
    let pinned := pinnedBy canonical args
    let providers := index.filter fun p => p.status = .published
    let ranked := rankCandidates toNumber (providers.flatMap (candidatesOf quality now args.capability window))
    let picked := pick pinned ranked
    .ok { capability := args.capability, window, metricsAvailability := availabilityOf quality args.capability providers
          pinnedProvider := pinned, selected := picked.toOption, candidates := ranked
          error := match picked with | .ok _ => none | .error code => some code }

/-! ## The documented order -/

/-- Where a candidate stands: by its tier, with data by success rate and latency, then by price, then by id. -/
def standing (c : Candidate) : ℕ ×ₗ ℚᵒᵈ ×ₗ ℚ ×ₗ WithTop ℚ ×ₗ String :=
  let measured := c.tier = 0 ∨ c.tier = 2
  toLex (c.tier, toLex (.toDual (if measured then c.rate else 0), toLex (if measured then c.latency else 0,
    toLex (toNumber c.priceUsd, c.providerId))))

theorem cmp_toLex {A B : Type} [LinearOrder A] [LinearOrder B] (a c : A) (b d : B) :
    cmp (toLex (a, b)) (toLex (c, d)) = if a ≠ c then cmp a c else cmp b d := by
  by_cases same : a = c
  · subst same
    simp [cmp, cmpUsing, Prod.Lex.toLex_lt_toLex]
  · simp [cmp, cmpUsing, Prod.Lex.toLex_lt_toLex, same, Ne.symm same]

theorem cmp_toDual {A : Type} [LinearOrder A] (a b : A) : cmp (OrderDual.toDual a) (OrderDual.toDual b) = cmp b a := rfl

variable {toNumber}

/-- The comparison follows the documented order. -/
theorem compare_eq (a b : Candidate) : compare toNumber a b = cmp (standing toNumber a) (standing toNumber b) := by
  unfold compare standing
  simp only [cmp_toLex, cmp_toDual]
  by_cases tier : a.tier = b.tier
  · by_cases measured : b.tier = 0 ∨ b.tier = 2
    · simp [tier, measured]
    · simp [tier, measured]
  · simp [tier]

theorem upTo_iff {a b : Candidate} : upTo toNumber a b ↔ standing toNumber a ≤ standing toNumber b := by
  rw [upTo, compare_eq, Ne, cmp_eq_gt_iff, not_lt]

instance : IsTrans Candidate (upTo toNumber) :=
  ⟨fun _ _ _ first second => upTo_iff.mpr ((upTo_iff.mp first).trans (upTo_iff.mp second))⟩

instance : Std.Total (upTo toNumber) := ⟨fun a b => by simpa only [upTo_iff] using le_total _ _⟩

theorem tied_provider {a b : Candidate} (tied : compare toNumber a b = .eq) : a.providerId = b.providerId := by
  rw [compare_eq, cmp_eq_eq_iff] at tied
  exact congrArg (fun standing => (ofLex (ofLex (ofLex (ofLex standing).2).2).2).2) tied

/-! ## What is selected -/

theorem candidateFor_eligible (record : ProviderRecord) (spec : ProviderRouteSpec) (metrics : CandidateMetrics) :
    (candidateFor record spec metrics).eligible = true ↔ (candidateFor record spec metrics).healthStatus ≠ .offline := by
  unfold candidateFor
  dsimp only
  split_ifs with offline <;> simp [offline]

variable {quality : String → Quality} {now : ℤ} {contract : String} {window : MetricsWindow} {record : ProviderRecord}
  {index other : List ProviderRecord} {c chosen : Candidate}

theorem mem_candidatesOf (member : c ∈ candidatesOf quality now contract window record) :
    c.providerId = record.id ∧ (c.eligible = true ↔ c.healthStatus ≠ .offline) := by
  obtain ⟨spec, -, rfl⟩ := mem_map.mp member
  refine ⟨?_, candidateFor_eligible record spec _⟩
  unfold candidateFor
  dsimp only
  split_ifs <;> rfl

theorem rankCandidates_ordered (candidates : List Candidate) : (rankCandidates toNumber candidates).Pairwise (upTo toNumber) :=
  pairwise_insertionSort _ candidates

theorem ranked_online (member : c ∈ rankCandidates toNumber (index.flatMap (candidatesOf quality now contract window))) :
    c.eligible = true ↔ c.healthStatus ≠ .offline := by
  have listed : c ∈ index.flatMap (candidatesOf quality now contract window) := (mem_insertionSort _).mp member
  obtain ⟨record, -, of⟩ := mem_flatMap.mp listed
  exact (mem_candidatesOf of).2

/-- The ranking does not depend on the order of the index. -/
theorem ranking_perm (ids : (index.map ProviderRecord.id).Nodup) (same : index.Perm other) :
    rankCandidates toNumber (index.flatMap (candidatesOf quality now contract window)) =
      rankCandidates toNumber (other.flatMap (candidatesOf quality now contract window)) := by
  refine insertionSort_flatMap_perm same fun left leftIn right rightIn distinct a aOf b bOf ⟨first, second⟩ => ?_
  have tied : compare toNumber a b = .eq := by
    rw [compare_eq, cmp_eq_eq_iff]
    exact le_antisymm (upTo_iff.mp first) (upTo_iff.mp second)
  have ids_ : left.id = right.id := by
    rw [← (mem_candidatesOf aOf).1, ← (mem_candidatesOf bOf).1, tied_provider tied]
  exact distinct (inj_on_of_nodup_map ids leftIn rightIn ids_)

/-- The first of a sorted list with a property is preceded by none that has it. -/
theorem find?_first {sorted : List Candidate} {p : Candidate → Bool} (ordered : sorted.Pairwise (upTo toNumber))
    (found : sorted.find? p = some chosen) (member : c ∈ sorted) (holds : p c = true) :
    ¬ standing toNumber c < standing toNumber chosen := by
  obtain ⟨-, before, after, rfl, earlier⟩ := find?_eq_some_iff_append.mp found
  rcases mem_append.mp member with early | late
  · exact absurd holds (by simpa using earlier c early)
  · rcases mem_cons.mp late with rfl | late
    · exact lt_irrefl _
    · have ordered := (pairwise_append.mp ordered).2.1
      exact not_lt.mpr (upTo_iff.mp (rel_of_pairwise_cons ordered late))

/-- The buyer names this provider: a text that is blank, as it was sent or once it is read, names nobody. -/
def Names (canonical : String → String) (args : Args) (name : String) : Prop :=
  name ≠ "" ∧ ∃ text, args.provider = some text ∧ text ≠ "" ∧ canonical text = name

variable (toNumber) in
/-- What a selection promises the buyer: who names nobody gets the first eligible candidate in the documented order, and who
names a provider gets that one or is told that it was not found or is offline. -/
structure Promised (canonical : String → String) (args : Args) (result : SelectionResult) : Prop where
  online : ∀ chosen, result.selected = some chosen → chosen ∈ result.candidates ∧ chosen.healthStatus ≠ .offline
  first : (∀ name, ¬ Names canonical args name) → ∀ chosen, result.selected = some chosen →
    ∀ c ∈ result.candidates, c.eligible = true → ¬ standing toNumber c < standing toNumber chosen
  pinned : ∀ name, Names canonical args name →
    (∀ chosen, result.selected = some chosen → chosen.providerId = name ∧
      ∀ c ∈ result.candidates, c.providerId = name → ¬ standing toNumber c < standing toNumber chosen) ∧
    (result.selected = none → result.error = some .pinnedProviderNotFound ∧ (∀ c ∈ result.candidates, c.providerId ≠ name) ∨
      result.error = some .pinnedProviderOffline ∧ ∃ c ∈ result.candidates, c.providerId = name ∧ c.healthStatus = .offline)
  refused : result.selected = none ↔ result.error ≠ none

theorem names_iff {canonical : String → String} {args : Args} {name : String} :
    Names canonical args name ↔ (pinnedBy canonical args).filter (· ≠ "") = some name := by
  unfold Names pinnedBy
  cases args.provider with
  | none => simp
  | some text =>
    by_cases blank : text = ""
    · simp [blank]
    · simp only [Option.some.injEq, exists_eq_left', ne_eq, blank, not_false_eq_true, true_and, Option.filter_some,
        decide_not, Bool.not_eq_true', decide_eq_false_iff_not, if_true, Option.map_some]
      by_cases empty : canonical text = ""
      · simp [empty, eq_comm]
      · simp only [empty, not_false_eq_true, if_true, Option.some.injEq]
        exact ⟨And.right, fun same => ⟨same ▸ empty, same⟩⟩

/-- Who is named and not returned was not found or is offline. -/
theorem pick_refused {pinned : Option String} {ranked : List Candidate} {code : SelectionError} {name : String}
    (named : pinned.filter (· ≠ "") = some name) (picked : pick pinned ranked = .error code) :
    code = .pinnedProviderNotFound ∧ (∀ c ∈ ranked, c.providerId ≠ name) ∨
      code = .pinnedProviderOffline ∧ ∃ c ∈ ranked, c.providerId = name ∧ c.eligible = false := by
  unfold pick at picked
  rw [named] at picked
  dsimp only at picked
  split at picked
  next absent =>
    cases picked
    exact .inl ⟨rfl, by simpa using find?_eq_none.mp absent⟩
  next mine found =>
    split_ifs at picked with eligible
    cases picked
    exact .inr ⟨rfl, mine, mem_of_find?_eq_some found, by simpa using find?_some found, by simpa using eligible⟩

theorem pick_first {pinned : Option String} {ranked : List Candidate} (ordered : ranked.Pairwise (upTo toNumber))
    (picked : pick pinned ranked = .ok chosen) :
    chosen ∈ ranked ∧ chosen.eligible = true ∧ match pinned.filter (· ≠ "") with
      | none => ∀ c ∈ ranked, c.eligible = true → ¬ standing toNumber c < standing toNumber chosen
      | some name => chosen.providerId = name ∧
          ∀ c ∈ ranked, c.providerId = name → ¬ standing toNumber c < standing toNumber chosen := by
  unfold pick at picked
  generalize pinned.filter (· ≠ "") = name at picked ⊢
  cases name with
  | none =>
    dsimp only at picked ⊢
    split at picked
    next found =>
      cases picked
      exact ⟨mem_of_find?_eq_some found, find?_some found, fun c listed eligible =>
        find?_first ordered found listed eligible⟩
    next => cases picked
  | some name =>
    dsimp only at picked ⊢
    split at picked
    next => cases picked
    next mine found =>
      split_ifs at picked with eligible
      cases picked
      refine ⟨mem_of_find?_eq_some found, eligible, by simpa using find?_some found, fun c listed own => ?_⟩
      exact find?_first ordered found listed (by simpa using own)

theorem selectProvider_promised {canonical : String → String} {contracts : List String} {args : Args}
    {result : SelectionResult} (selected : selectProvider toNumber canonical quality now contracts index args = .ok result) :
    Promised toNumber canonical args result := by
  unfold selectProvider at selected
  split_ifs at selected with known
  cases selected
  generalize listed : rankCandidates toNumber _ = ranked
  have ordered : ranked.Pairwise (upTo toNumber) := listed ▸ rankCandidates_ordered _
  cases picked : pick (pinnedBy canonical args) ranked with
  | error code =>
    refine ⟨fun _ chosen => (nomatch chosen), fun _ _ chosen => (nomatch chosen),
      fun name named => ⟨fun _ chosen => (nomatch chosen), fun _ => ?_⟩, fun _ none_ => (nomatch none_), fun _ => rfl⟩
    rcases pick_refused (names_iff.mp named) picked with ⟨rfl, absent⟩ | ⟨rfl, c, member, own, barred⟩
    · exact .inl ⟨rfl, absent⟩
    · have online := ranked_online (listed ▸ member)
      rw [barred] at online
      exact .inr ⟨rfl, c, member, own, by simpa using online⟩
  | ok chosen =>
    obtain ⟨member, eligible, first⟩ := pick_first ordered picked
    refine ⟨?_, fun unnamed => ?_, fun name named => ⟨?_, fun none_ => (nomatch none_)⟩, fun none_ => (nomatch none_),
      fun absent => absurd rfl absent⟩
    · rintro _ ⟨⟩
      exact ⟨member, (ranked_online (listed ▸ member)).mp eligible⟩
    · rintro _ ⟨⟩
      have nobody : (pinnedBy canonical args).filter (· ≠ "") = none :=
        Option.eq_none_iff_forall_ne_some.mpr fun name named => unnamed name (names_iff.mpr named)
      rwa [nobody] at first
    · rintro _ ⟨⟩
      rwa [names_iff.mp named] at first

/-- What the buyer is told. -/
def SelectionResult.verdict (result : SelectionResult) : Option Candidate × List Candidate × Option SelectionError :=
  (result.selected, result.candidates, result.error)

end Ranking

/-- Two prices, read as numbers. -/
def cents (price : String) : WithTop ℚ := if price = "0.01" then ((1 / 100 : ℚ) : WithTop ℚ) else ((2 / 100 : ℚ) : WithTop ℚ)

/-- A published provider of a search, without data. -/
def searcher (id price : String) : ProviderRecord :=
  { id, status := .published
    routes := [{ operation := "search", method := "GET", upstreamPath := "/", priceUsd := price, capability := some "search" }] }

def noData : Quality := ⟨fun _ => ⟨0, 0, 0, none, none, none⟩, .ok⟩

/-- What is recommended of two providers, one of which is cheaper. -/
def ofTwo (provider : Option String) : Except SelectionError SelectionResult :=
  selectProvider cents id (fun _ => noData) 0 ["search"] [searcher "dear" "0.02", searcher "cheap" "0.01"]
    { capability := "search", provider }

end MppRouter.Providers.Selection
