import MppRouter.X402Payer.Requirements

/-! # What the hash of a requirement binds

Two requirements have one canonical text exactly if they agree in every bound field, but for the order of keys, the case of a
Base address and numbers that JSON cannot write: an infinite number in `extra` has the text of null.
-/

namespace MppRouter.X402Payer

open Json TextEncoding Option

/-- The receivers are the same, on Base up to the case of the address. -/
def SamePayTo (req other : ValidatedRequirement) : Prop :=
  match req.network with
  | .base => lower req.payTo = lower other.payTo
  | .solana => req.payTo = other.payTo

/-- The requirements agree in all bound fields but `extra`. -/
structure SameTerms (req other : ValidatedRequirement) : Prop where
  network : req.network = other.network
  asset : req.asset = other.asset
  amount : req.amount = other.amount
  payTo : SamePayTo req other
  maxTimeoutSeconds : req.maxTimeoutSeconds = other.maxTimeoutSeconds

/-- The requirements differ in `extra`, but only where one has an infinite number and the other null or another infinite
number. -/
structure Masked (req other : ValidatedRequirement) : Prop where
  terms : SameTerms req other
  distinct : ¬ SameValue req.extra other.extra
  written : SameValue req.extra.written other.extra.written

/-! ## Validation -/

/-- What a valid entry's fields hold. -/
structure Reads (entry : Value) (req : ValidatedRequirement) : Prop where
  network : ∃ text, stringField entry "network" = some text ∧ networkOf text = .ok req.network
  amount : stringField entry "amount" = some req.amount
  payTo : stringField entry "payTo" = some req.payTo
  maxTimeoutSeconds : integerOf (entry.field (word "maxTimeoutSeconds")) = some req.maxTimeoutSeconds
  extra : extraOf (entry.field (word "extra")) = some req.extra

variable {entry : Value} {req : ValidatedRequirement}

theorem validateRequirement_reads (valid : validateRequirement entry = .ok req) : Reads entry req := by
  unfold validateRequirement at valid
  split at valid
  next fields =>
    split at valid
    next => cases valid
    next text network =>
      split at valid
      next => cases valid
      next known accepted =>
        split at valid
        next => cases valid
        split at valid
        next => cases valid
        split at valid
        next => cases valid
        split at valid
        next amount payTo timeout extra =>
          split at valid
          next =>
            cases valid
            exact ⟨⟨text, network, accepted⟩, amount, payTo, timeout, extra⟩
          next => cases valid
        next => cases valid
  next => cases valid

theorem field_keysOnce {value : Value} {key : Units} (keys : entry.Everywhere Value.KeysOnce)
    (found : entry.field key = some value) : value.Everywhere Value.KeysOnce := by
  cases entry with
  | object fields =>
    have nodup : (fields.map Prod.fst).Nodup := keys.self
    exact keys.field ((mem_iff_lookup nodup).mpr found)
  | _ => cases found

theorem Reads.extra_keysOnce (reads : Reads entry req)
    (keys : entry.Everywhere Value.KeysOnce) : req.extra.Everywhere Value.KeysOnce := by
  have extra := reads.extra
  cases found : entry.field (word "extra") with
  | none =>
    rw [found] at extra
    rw [← some.inj extra]
    exact .object List.nodup_nil (List.forall_mem_nil _)
  | some value =>
    have own := field_keysOnce keys found
    rw [found] at extra
    cases value with
    | object fields =>
      rw [← some.inj extra]
      exact own
    | _ => cases extra

/-! ## The order of keys -/

theorem stringField_same {other : Value} (same : SameValue entry other) (key : String) :
    stringField entry key = stringField other key := by
  unfold stringField
  rcases same.field (word key) with ⟨missing, missingOther⟩ | ⟨value, also, found, foundOther, within⟩
  · rw [missing, missingOther]
  · rw [found, foundOther]
    cases within <;> rfl

theorem integerOf_same {other : Value} (same : SameValue entry other) (key : Units) :
    integerOf (entry.field key) = integerOf (other.field key) := by
  rcases same.field key with ⟨missing, missingOther⟩ | ⟨value, also, found, foundOther, within⟩
  · rw [missing, missingOther]
  · rw [found, foundOther]
    cases within <;> rfl

theorem extraOf_same {other extra also : Value} (same : SameValue entry other) (key : Units)
    (found : extraOf (entry.field key) = some extra) (foundOther : extraOf (other.field key) = some also) :
    SameValue extra also := by
  rcases same.field key with ⟨missing, missingOther⟩ | ⟨value, second, holds, holdsOther, within⟩
  · rw [missing] at found
    rw [missingOther] at foundOther
    rw [← some.inj found, ← some.inj foundOther]
    exact .object (fun _ => Iff.rfl) fun _ _ _ none => nomatch none
  · rw [holds] at found
    rw [holdsOther] at foundOther
    cases within with
    | object keys each =>
      rw [← some.inj found, ← some.inj foundOther]
      exact .object keys each
    | _ => cases found

theorem samePayTo_iff {other : ValidatedRequirement} (network : req.network = other.network) :
    SamePayTo req other ↔ boundPayTo req = boundPayTo other := by
  unfold SamePayTo boundPayTo
  rw [← network]
  cases req.network with
  | base => exact String.ofList_inj.symm
  | solana => exact Iff.rfl

/-- Entries that agree but for the order of keys make requirements that do. -/
theorem Reads.same {other : Value} {also : ValidatedRequirement} (reads : Reads entry req) (readsOther : Reads other also)
    (same : SameValue entry other) : SameTerms req also ∧ SameValue req.extra also.extra := by
  obtain ⟨text, network, accepted⟩ := reads.network
  obtain ⟨again, networkOther, acceptedOther⟩ := readsOther.network
  have texts : text = again := by
    rw [stringField_same same, networkOther] at network
    exact (some.inj network).symm
  have networks : req.network = also.network := by
    rw [← texts, accepted] at acceptedOther
    exact Except.ok.inj acceptedOther
  have amounts : req.amount = also.amount := by
    have amount := reads.amount
    rw [stringField_same same, readsOther.amount] at amount
    exact (some.inj amount).symm
  have receivers : req.payTo = also.payTo := by
    have payTo := reads.payTo
    rw [stringField_same same, readsOther.payTo] at payTo
    exact (some.inj payTo).symm
  have timeouts : req.maxTimeoutSeconds = also.maxTimeoutSeconds := by
    have timeout := reads.maxTimeoutSeconds
    rw [integerOf_same same, readsOther.maxTimeoutSeconds] at timeout
    exact (some.inj timeout).symm
  have bound : boundPayTo req = boundPayTo also := by rw [boundPayTo, boundPayTo, networks, receivers]
  exact ⟨⟨networks, congrArg SupportedNetwork.usdc networks, amounts, (samePayTo_iff networks).mpr bound, timeouts⟩,
    extraOf_same same _ reads.extra readsOther.extra⟩

/-! ## The canonical text -/

/-- The canonical text is made of the bound fields. -/
theorem hashInput_congr {other : ValidatedRequirement} (terms : SameTerms req other)
    (extra : canonicalJson req.extra = canonicalJson other.extra) :
    canonicalJson (requirementHashInput req) = canonicalJson (requirementHashInput other) := by
  have payTo := (samePayTo_iff terms.network).mp terms.payTo
  simp only [requirementHashInput, canonicalJson, canonicalFields, terms.network, terms.asset, terms.amount, payTo,
    terms.maxTimeoutSeconds, extra]

theorem written_ofNat (value : ℕ) : (Value.number (.ofNat value)).written = .number (.ofNat value) := by
  by_cases positive : value = 0
  · rw [positive]
    rfl
  · obtain ⟨decimal, shape, -⟩ := ofNat_eq positive
    rw [shape]
    rfl

/-- The text tells apart all bound fields, and of `extra` what JSON can write. -/
theorem hashInput_iff {other : ValidatedRequirement} (keys : req.extra.Everywhere Value.KeysOnce)
    (also : other.extra.Everywhere Value.KeysOnce) :
    canonicalJson (requirementHashInput req) = canonicalJson (requirementHashInput other) ↔
      SameTerms req other ∧ SameValue req.extra.written other.extra.written := by
  have extras : SameValue req.extra.written other.extra.written ↔ canonicalJson req.extra = canonicalJson other.extra := by
    rw [sameValue_iff (Value.written_keysOnce keys) (Value.written_keysOnce also), canonicalJson_eq_iff]
  rw [extras]
  constructor
  · intro same
    obtain ⟨networks, amounts, receivers⟩ := hashInput_binds same
    obtain ⟨-, -, -, timeouts, extra⟩ := hashInput_fields same
    rw [canonicalJson_eq_iff, written_ofNat, written_ofNat] at timeouts
    have timeout : req.maxTimeoutSeconds = other.maxTimeoutSeconds := ofNat_injective (Value.number.inj timeouts)
    exact ⟨⟨networks, congrArg SupportedNetwork.usdc networks, amounts, (samePayTo_iff networks).mpr receivers, timeout⟩, extra⟩
  · rintro ⟨terms, extra⟩
    exact hashInput_congr terms extra

/-! ## Entries that were parsed -/

variable {nearest : Decimal → Number} {first second : Units} {entry other : Value} {req also : ValidatedRequirement}

/-- The canonical texts of two valid entries that JSON gave are the same only for the same bound fields, exactly unless an
infinite number of one `extra` stands against null or another infinite number in the other. Of finite numbers this
is never so, and the order of keys does not matter. -/
theorem canonicalText_binds_iff (parsed : parse (double nearest) first = some entry)
    (parsedOther : parse (double nearest) second = some other) (valid : validateRequirement entry = .ok req)
    (validOther : validateRequirement other = .ok also) :
    ((canonicalJson (requirementHashInput req) = canonicalJson (requirementHashInput also) →
        SameTerms req also ∧ SameValue req.extra also.extra) ↔ ¬ Masked req also) ∧
      (req.extra.Everywhere Value.Finite → also.extra.Everywhere Value.Finite → ¬ Masked req also) ∧
      (SameValue entry other → canonicalJson (requirementHashInput req) = canonicalJson (requirementHashInput also)) := by
  have reads := validateRequirement_reads valid
  have readsOther := validateRequirement_reads validOther
  have keys := reads.extra_keysOnce (parse_keysOnce parsed)
  have keysOther := readsOther.extra_keysOnce (parse_keysOnce parsedOther)
  have bound := hashInput_iff keys keysOther
  refine ⟨⟨?_, ?_⟩, ?_, ?_⟩
  · intro binds masked
    exact masked.distinct (binds (bound.mpr ⟨masked.terms, masked.written⟩)).2
  · intro unmasked same
    obtain ⟨terms, written⟩ := bound.mp same
    refine ⟨terms, ?_⟩
    by_contra distinct
    exact unmasked ⟨terms, distinct, written⟩
  · intro finite finiteOther masked
    have written := masked.written
    rw [Value.written_eq finite, Value.written_eq finiteOther] at written
    exact masked.distinct written
  · intro same
    obtain ⟨terms, extra⟩ := reads.same readsOther same
    apply hashInput_congr terms
    rw [canonicalJson_eq, canonicalJson_eq, SameValue.sortKeys_eq keys keysOther extra]

/-- One dollar on Base with a limit in its `extra`, as a shop may write it. -/
def dollarText (limit : String) : Units :=
  word "\x7b\"scheme\":\"exact\",\"network\":\"eip155:8453\",\"amount\":\"1000000\"," ++
    (word "\"asset\":\"0x833589fCD6eDb6E08f4c7C32D4f71b54bdA02913\"," ++
    (word "\"payTo\":\"0x1111111111111111111111111111111111111111\",\"maxTimeoutSeconds\":100," ++
    (word "\"extra\":\x7b\"name\":\"USD Coin\",\"version\":\"2\",\"limit\":" ++ (word limit ++ word "\x7d\x7d"))))

/-- Both entries are valid and have one canonical text, but the limit is null in the first and a number in the second. -/
def clash (entry other : Value) : Bool :=
  match validateRequirement entry, validateRequirement other with
  | .ok req, .ok also =>
    (canonicalJson (requirementHashInput req) == canonicalJson (requirementHashInput also)) &&
      match req.extra.field (word "limit"), also.extra.field (word "limit") with
      | some .null, some (.number _) => true
      | _, _ => false
  | _, _ => false

theorem dollarText_clash : (parse (double .finite) (dollarText "null")).any (fun entry =>
    (parse (double .finite) (dollarText "1e400")).any fun other => clash entry other) = true := by decide +kernel

theorem dollarText_entries : ∃ entry other req also,
    parse (double .finite) (dollarText "null") = some entry ∧ parse (double .finite) (dollarText "1e400") = some other ∧
      validateRequirement entry = .ok req ∧ validateRequirement other = .ok also ∧ clash entry other = true := by
  obtain ⟨entry, parsed, clashes⟩ := any_eq_true _ _ |>.mp dollarText_clash
  obtain ⟨other, parsedOther, clashes⟩ := any_eq_true _ _ |>.mp clashes
  have valid := clashes
  unfold clash at valid
  split at valid
  next req also accepted acceptedOther =>
    exact ⟨entry, other, req, also, parsed, parsedOther, accepted, acceptedOther, clashes⟩
  next => cases valid

theorem canonicalText_binds_dollar : ∃ entry other req also,
    parse (double .finite) (dollarText "null") = some entry ∧ parse (double .finite) (dollarText "1e400") = some other ∧
      ((canonicalJson (requirementHashInput req) = canonicalJson (requirementHashInput also) →
        SameTerms req also ∧ SameValue req.extra also.extra) ↔ ¬ Masked req also) := by
  obtain ⟨entry, other, req, also, parsed, parsedOther, accepted, acceptedOther, -⟩ := dollarText_entries
  exact ⟨entry, other, req, also, parsed, parsedOther, (canonicalText_binds_iff parsed parsedOther accepted acceptedOther).1⟩

/-- A limit of `1e400` and no limit at all have one canonical text. -/
theorem infinite_limit_unbound : ∃ entry other req also,
    parse (double .finite) (dollarText "null") = some entry ∧ parse (double .finite) (dollarText "1e400") = some other ∧
      validateRequirement entry = .ok req ∧ validateRequirement other = .ok also ∧
      canonicalJson (requirementHashInput req) = canonicalJson (requirementHashInput also) ∧
      ¬ SameValue req.extra also.extra := by
  obtain ⟨entry, other, req, also, parsed, parsedOther, accepted, acceptedOther, clashes⟩ := dollarText_entries
  simp only [clash, accepted, acceptedOther, Bool.and_eq_true, beq_iff_eq] at clashes
  obtain ⟨same, limits⟩ := clashes
  refine ⟨entry, other, req, also, parsed, parsedOther, accepted, acceptedOther, same, fun equal => ?_⟩
  split at limits
  next value null number =>
    rcases equal.field (word "limit") with ⟨missing, -⟩ | ⟨limit, limitOther, found, foundOther, within⟩
    · rw [null] at missing
      cases missing
    · rw [null] at found
      rw [number] at foundOther
      cases found
      cases foundOther
      cases within
  next => cases limits

end MppRouter.X402Payer
