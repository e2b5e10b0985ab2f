import MppRouter.Core.DecimalFraction

/-! # Refund reservations

The signer reserves an amount against the payment before it signs a refund of it. The rows of one payment stand under
the refunds that asked for them, so what is reserved is summed again on every call, and a refund that is known is only
compared with its own row. The cap holds because a new row is the one whose paid amount its own sum was checked against.
-/

namespace MppRouter.Refund.Reservations

open List Decimal

/-! ## The coordinator's table -/

inductive ReservationState where
  | reserved | confirmed
  deriving DecidableEq, Repr

/-- A row of `refund_reservations`. -/
structure Reservation where
  refundId : String
  paymentTx : String
  amountAtomic : String
  paidAtomic : String
  state : ReservationState
  createdAt : ℕ
  deriving DecidableEq, Repr

/-- What a reservation reads of a refund job. -/
structure RefundJob where
  refundId : String
  paymentTx : String
  refundAmountAtomic : String
  deriving DecidableEq, Repr

/-- The rows in the order they were inserted. -/
abbrev Table := List Reservation

/-- `BigInt(text)`, which throws where the text is no integer. -/
def readBigInt (text : String) : Except String ℤ :=
  match bigInt text with
  | some value => .ok value
  | none => .error ("Cannot convert " ++ text ++ " to a BigInt")

def assertRefundWithinPaid (reserved amount paid : ℤ) : Except String Unit :=
  if reserved < 0 ∨ amount ≤ 0 ∨ paid ≤ 0 ∨ reserved + amount > paid then
    .error "cumulative refunds exceed original payment"
  else .ok ()

/-- The rows that a payment's refunds hold. -/
def Table.ofPayment (table : Table) (paymentTx : String) : Table := table.filter fun row => row.paymentTx = paymentTx

/-- The amounts of some rows added up, as one call does it. -/
def sumAmounts (rows : Table) : Except String ℤ :=
  rows.foldlM (fun total row => (readBigInt row.amountAtomic).map (total + ·)) 0

/-- The table after a reservation, or the error that leaves it as it was. -/
def reserve (job : RefundJob) (paidAtomic : ℤ) (now : ℕ) (table : Table) : Except String Table :=
  match table.find? fun row => row.refundId = job.refundId with
  | some existing =>
    if existing.paymentTx ≠ job.paymentTx ∨ existing.amountAtomic ≠ job.refundAmountAtomic ∨
        existing.paidAtomic ≠ toString paidAtomic then
      .error "refund reservation proof changed"
    else .ok table
  | none => do
    let reserved ← sumAmounts (table.ofPayment job.paymentTx)
    let amount ← readBigInt job.refundAmountAtomic
    assertRefundWithinPaid reserved amount paidAtomic
    pure (table ++
      [⟨job.refundId, job.paymentTx, job.refundAmountAtomic, toString paidAtomic, .reserved, now⟩])

def Reservation.confirm (refundId : String) (row : Reservation) : Reservation :=
  if row.refundId = refundId then { row with state := .confirmed } else row

def markConfirmed (refundId : String) (table : Table) : Table := table.map (Reservation.confirm refundId)

/-- A call to the coordinator. -/
inductive Call where
  | reserve (job : RefundJob) (paidAtomic : ℤ) (now : ℕ)
  | markConfirmed (refundId : String)

/-- The table after a call; one that throws leaves it alone. -/
def Call.after (table : Table) : Call → Table
  | .reserve job paidAtomic now => ((Reservations.reserve job paidAtomic now table).toOption).getD table
  | .markConfirmed refundId => Reservations.markConfirmed refundId table

/-- The table after some calls on a new coordinator. -/
def tableAfter (calls : List Call) : Table := calls.foldl Call.after []

/-! ## What the rows say -/

def Reservation.proof (row : Reservation) : String × String × String × String :=
  (row.refundId, row.paymentTx, row.amountAtomic, row.paidAtomic)

/-- The row of a payment that was inserted last. -/
def Table.latest (table : Table) (paymentTx : String) : Option Reservation := (table.ofPayment paymentTx).getLast?

/-- The amount of a row, which is a number in every row that was ever inserted. -/
def Reservation.amount (row : Reservation) : ℤ := (bigInt row.amountAtomic).getD 0

/-- What a payment's rows reserve in all. -/
def Table.reservedFor (table : Table) (paymentTx : String) : ℤ :=
  ((table.ofPayment paymentTx).map Reservation.amount).sum

/-- The amounts are positive numbers, and no payment has more reserved than its latest row says was paid. -/
structure Table.Covered (table : Table) : Prop where
  readable : ∀ row ∈ table, ∃ amount, bigInt row.amountAtomic = some amount ∧ 0 < amount
  within : ∀ paymentTx row, table.latest paymentTx = some row →
    ∃ paid, bigInt row.paidAtomic = some paid ∧ table.reservedFor paymentTx ≤ paid

theorem sumAmounts_eq {rows : Table}
    (readable : ∀ row ∈ rows, ∃ amount, bigInt row.amountAtomic = some amount ∧ 0 < amount) (start : ℤ) :
    rows.foldlM (fun total row => (readBigInt row.amountAtomic).map (total + ·)) start =
      .ok (start + (rows.map Reservation.amount).sum) := by
  induction rows generalizing start with
  | nil => simp [pure, Except.pure]
  | cons row rest ih =>
    obtain ⟨amount, read, -⟩ := readable row mem_cons_self
    have later := ih (fun other member => readable other (mem_cons_of_mem row member)) (start + amount)
    have here : row.amount = amount := by simp [Reservation.amount, read]
    simp only [foldlM_cons, readBigInt, read, map_cons, sum_cons, here, ← add_assoc]
    exact later

/-! ## One call -/

theorem readBigInt_of_some {text : String} {value : ℤ} (read : bigInt text = some value) :
    readBigInt text = .ok value := by
  simp only [readBigInt, read]

theorem assertRefundWithinPaid_ok {reserved amount paid : ℤ} {done : Unit}
    (checked : assertRefundWithinPaid reserved amount paid = .ok done) :
    0 < amount ∧ 0 < paid ∧ reserved + amount ≤ paid := by
  unfold assertRefundWithinPaid at checked
  split at checked
  · cases checked
  · omega

variable {table : Table}

variable {job : RefundJob} {paidAtomic : ℤ}

/-- All that a reservation does: it finds the refund's row, or inserts one that fits in what was paid. -/
theorem reserve_cases {now : ℕ} {after : Table} (covered : table.Covered)
    (done : reserve job paidAtomic now table = .ok after) :
    (after = table ∧ ∃ row ∈ table, row.refundId = job.refundId) ∨
      ∃ amount, bigInt job.refundAmountAtomic = some amount ∧ 0 < amount ∧ 0 < paidAtomic ∧
        table.reservedFor job.paymentTx + amount ≤ paidAtomic ∧ (∀ row ∈ table, row.refundId ≠ job.refundId) ∧
        after = table ++ [⟨job.refundId, job.paymentTx, job.refundAmountAtomic, toString paidAtomic, .reserved, now⟩] := by
  unfold reserve at done
  split at done
  next existing found =>
    split at done
    · cases done
    · left
      refine ⟨(Except.ok.inj done).symm, existing, mem_of_find?_eq_some found, ?_⟩
      simpa using find?_some found
  next absent =>
    right
    have sum : sumAmounts (table.ofPayment job.paymentTx) = .ok (table.reservedFor job.paymentTx) := by
      have readable : ∀ row ∈ table.ofPayment job.paymentTx,
          ∃ amount, bigInt row.amountAtomic = some amount ∧ 0 < amount :=
        fun row member => covered.readable row (mem_of_mem_filter member)
      have summed := sumAmounts_eq readable 0
      rwa [zero_add] at summed
    cases read : bigInt job.refundAmountAtomic with
    | none =>
      rw [sum, readBigInt, read] at done
      cases done
    | some amount =>
      rw [sum, readBigInt_of_some read] at done
      cases checked : assertRefundWithinPaid (table.reservedFor job.paymentTx) amount paidAtomic with
      | error message =>
        change (assertRefundWithinPaid _ amount paidAtomic >>= fun _ => _) = _ at done
        rw [checked] at done
        cases done
      | ok =>
        change (assertRefundWithinPaid _ amount paidAtomic >>= fun _ => _) = _ at done
        rw [checked] at done
        obtain ⟨positive, paid, fits⟩ := assertRefundWithinPaid_ok checked
        refine ⟨amount, rfl, positive, paid, fits, ?_, (Except.ok.inj done).symm⟩
        intro row member same
        have distinct := find?_eq_none.mp absent row member
        simp only [same, decide_true, not_true_eq_false] at distinct

theorem after_of_ok {now : ℕ} {after : Table}
    (done : reserve job paidAtomic now table = .ok after) : (Call.reserve job paidAtomic now).after table = after := by
  simp only [Call.after, done]
  rfl

theorem after_of_error {now : ℕ} {message : String} (threw : reserve job paidAtomic now table = .error message) :
    (Call.reserve job paidAtomic now).after table = table := by
  simp only [Call.after, threw]
  rfl

/-- A known refund is compared and never inserted again. -/
theorem reserve_known {now : ℕ} (known : ∃ row ∈ table, row.refundId = job.refundId) :
    (Call.reserve job paidAtomic now).after table = table := by
  obtain ⟨row, member, same⟩ := known
  have found : (table.find? fun row => row.refundId = job.refundId).isSome = true := by
    rw [find?_isSome]
    exact ⟨row, member, decide_eq_true same⟩
  obtain ⟨existing, found⟩ := Option.isSome_iff_exists.mp found
  by_cases changed : existing.paymentTx ≠ job.paymentTx ∨ existing.amountAtomic ≠ job.refundAmountAtomic ∨
      existing.paidAtomic ≠ toString paidAtomic
  · have threw : reserve job paidAtomic now table = .error "refund reservation proof changed" := by
      simp only [reserve, found, if_pos changed]
    exact after_of_error threw
  · apply after_of_ok
    simp only [reserve, found, if_neg changed]

/-! ## Confirming -/

section Confirm

variable (refundId : String) (row : Reservation)

@[simp] theorem confirm_proof : (row.confirm refundId).proof = row.proof := by
  unfold Reservation.confirm
  split <;> rfl

@[simp] theorem confirm_paymentTx : (row.confirm refundId).paymentTx = row.paymentTx := by
  unfold Reservation.confirm
  split <;> rfl

@[simp] theorem confirm_paidAtomic : (row.confirm refundId).paidAtomic = row.paidAtomic := by
  unfold Reservation.confirm
  split <;> rfl

@[simp] theorem confirm_amountAtomic : (row.confirm refundId).amountAtomic = row.amountAtomic := by
  unfold Reservation.confirm
  split <;> rfl

@[simp] theorem confirm_amount : (row.confirm refundId).amount = row.amount := by
  simp only [Reservation.amount, confirm_amountAtomic]

end Confirm

theorem markConfirmed_ofPayment (refundId paymentTx : String) (table : Table) :
    (markConfirmed refundId table).ofPayment paymentTx = markConfirmed refundId (table.ofPayment paymentTx) := by
  simp only [markConfirmed, Table.ofPayment, filter_map]
  congr 1
  apply filter_congr
  intro row _
  simp only [Function.comp_apply, confirm_paymentTx]

theorem markConfirmed_reservedFor (refundId paymentTx : String) (table : Table) :
    (markConfirmed refundId table).reservedFor paymentTx = table.reservedFor paymentTx := by
  unfold Table.reservedFor
  rw [markConfirmed_ofPayment]
  simp only [markConfirmed, map_map]
  congr 1
  apply map_congr_left
  intro row _
  exact confirm_amount refundId row

theorem markConfirmed_latest {refundId paymentTx : String} {row : Reservation}
    (latest : (markConfirmed refundId table).latest paymentTx = some row) :
    ∃ found, table.latest paymentTx = some found ∧ found.paidAtomic = row.paidAtomic := by
  unfold Table.latest at latest ⊢
  rw [markConfirmed_ofPayment, markConfirmed, getLast?_map, Option.map_eq_some_iff] at latest
  obtain ⟨found, last, rfl⟩ := latest
  exact ⟨found, last, (confirm_paidAtomic refundId found).symm⟩

/-! ## Every sequence of calls -/

theorem covered_append (covered : table.Covered) {row : Reservation} {amount paid : ℤ}
    (read : bigInt row.amountAtomic = some amount) (positive : 0 < amount)
    (readPaid : bigInt row.paidAtomic = some paid)
    (fits : table.reservedFor row.paymentTx + amount ≤ paid) : Table.Covered (table ++ [row]) where
  readable other member := by
    rcases mem_append.mp member with old | new
    · exact covered.readable other old
    · obtain rfl := mem_singleton.mp new
      exact ⟨amount, read, positive⟩
  within paymentTx latest last := by
    by_cases same : row.paymentTx = paymentTx
    · have rows : Table.ofPayment (table ++ [row]) paymentTx = table.ofPayment paymentTx ++ [row] := by
        simp only [Table.ofPayment, filter_append, filter_cons, same, decide_true, if_true, filter_nil]
      have amountRead : row.amount = amount := by simp only [Reservation.amount, read, Option.getD_some]
      rw [Table.latest, rows, getLast?_concat, Option.some.injEq] at last
      subst last
      refine ⟨paid, readPaid, ?_⟩
      rw [Table.reservedFor, rows, map_append, sum_append, map_singleton, sum_singleton, amountRead]
      rw [same] at fits
      exact fits
    · have rows : Table.ofPayment (table ++ [row]) paymentTx = table.ofPayment paymentTx := by
        simp only [Table.ofPayment, filter_append, filter_cons, same, decide_false, Bool.false_eq_true, if_false,
          filter_nil, append_nil]
      rw [Table.latest, rows] at last
      rw [Table.reservedFor, rows]
      exact covered.within paymentTx latest last

/-- A call keeps the table covered, and only ever adds rows to it. -/
theorem after_covered (covered : table.Covered) (call : Call) :
    (call.after table).Covered ∧ table.map Reservation.proof <+: (call.after table).map Reservation.proof := by
  cases call with
  | reserve job paidAtomic now =>
    cases done : reserve job paidAtomic now table with
    | error message =>
      rw [after_of_error done]
      exact ⟨covered, prefix_refl _⟩
    | ok after =>
      rw [after_of_ok done]
      rcases reserve_cases covered done with ⟨rfl, _⟩ | ⟨amount, read, positive, paid, fits, _, rfl⟩
      · exact ⟨covered, prefix_refl _⟩
      · constructor
        · exact covered_append covered read positive (bigInt_toString paid.le) fits
        · rw [map_append]
          exact prefix_append _ _
  | markConfirmed refundId =>
    constructor
    · constructor
      · intro row member
        obtain ⟨old, stored, rfl⟩ := mem_map.mp member
        rw [confirm_amountAtomic]
        exact covered.readable old stored
      · intro paymentTx row latest
        obtain ⟨found, last, same⟩ := markConfirmed_latest latest
        obtain ⟨paid, read, fits⟩ := covered.within paymentTx found last
        rw [← same]
        exact ⟨paid, read, (markConfirmed_reservedFor refundId paymentTx table).trans_le fits⟩
    · have same : (markConfirmed refundId table).map Reservation.proof = table.map Reservation.proof := by
        rw [markConfirmed, map_map]
        apply map_congr_left
        intro row _
        exact confirm_proof refundId row
      rw [Call.after, same]

theorem covered_nil : Table.Covered [] where
  readable row member := absurd member not_mem_nil
  within paymentTx row latest := by cases latest

/-- Any calls after a table keep it covered, and its rows as they are. -/
theorem calls_covered (covered : table.Covered) (calls : List Call) : (calls.foldl Call.after table).Covered ∧
      table.map Reservation.proof <+: (calls.foldl Call.after table).map Reservation.proof := by
  induction calls generalizing table with
  | nil => exact ⟨covered, prefix_refl _⟩
  | cons call rest ih =>
    obtain ⟨next, kept⟩ := after_covered covered call
    obtain ⟨last, keptThen⟩ := ih next
    exact ⟨last, kept.trans keptThen⟩

theorem tableAfter_covered (calls : List Call) : (tableAfter calls).Covered := (calls_covered covered_nil calls).1

/-- Whatever was called before: no payment has more reserved than its latest row says was paid, the amounts summed are
positive numbers, later calls only add rows, and a refund that has a row adds none. -/
theorem refunds_within_payment (calls : List Call) :
    (∀ paymentTx row, (tableAfter calls).latest paymentTx = some row →
      ∃ paid, bigInt row.paidAtomic = some paid ∧ (tableAfter calls).reservedFor paymentTx ≤ paid) ∧
    (∀ row ∈ tableAfter calls, ∃ amount, bigInt row.amountAtomic = some amount ∧ 0 < amount) ∧
    (∀ later, (tableAfter calls).map Reservation.proof <+: (tableAfter (calls ++ later)).map Reservation.proof) ∧
    (∀ job paidAtomic now, (∃ row ∈ tableAfter calls, row.refundId = job.refundId) →
      tableAfter (calls ++ [.reserve job paidAtomic now]) = tableAfter calls) := by
  have covered := tableAfter_covered calls
  refine ⟨covered.within, covered.readable, ?_, ?_⟩
  · intro later
    rw [tableAfter, tableAfter, foldl_append]
    exact (calls_covered covered later).2
  · intro job paidAtomic now known
    rw [tableAfter, tableAfter, foldl_append]
    exact reserve_known known

/-- Two refunds of one payment, the first confirmed and reserved again, and a third that no longer fits. -/
example :
    let pay (refundId amount : String) : Call := .reserve ⟨refundId, "tx", amount⟩ 100 0
    (tableAfter [pay "a" "60", .markConfirmed "a", pay "b" "40", pay "a" "60", pay "c" "1"]).map Reservation.proof =
      [("a", "tx", "60", "100"), ("b", "tx", "40", "100")] := by decide

end MppRouter.Refund.Reservations
