import MppRouter.Core.Prog

/-! # Rely-guarantee reasoning about interleaved programs

A protocol names a world invariant and what a step of a thread guarantees. A thread may rely on the
steps of all others keeping the invariant and their guarantees. `Holds` checks a single program
against the protocol, one action at a time; `Protocol.sound` concludes for every interleaving of
threads that were checked alone.
-/

namespace Concurrent

open Machine

/-- However a program ends. -/
@[simp] abbrev anyhow {α β : Type} (_ : α) (_ : β) : Prop := True

/-- A world invariant, and what each thread guarantees of its own steps. -/
structure Protocol (S : Machine) where
  Inv : S.World → Prop
  Guar : ℕ → S.World → S.World → Prop

namespace Protocol

variable {S : Machine} (P : Protocol S)

/-- One step of another thread, as far as `tid` may rely on it. -/
inductive Interferes (tid : ℕ) : S.World → S.World → Prop
  | mk {other : ℕ} {world after : S.World} (distinct : other ≠ tid) (before : P.Inv world)
      (kept : P.Inv after) (guar : P.Guar other world after) : Interferes tid world after

/-- Any number of steps of other threads. -/
abbrev Rely (tid : ℕ) : S.World → S.World → Prop := Relation.ReflTransGen (P.Interferes tid)

/-- An assertion the other threads cannot invalidate. -/
def Stable (tid : ℕ) (assertion : S.World → Prop) : Prop :=
  ∀ other world after, other ≠ tid → P.Inv world → P.Inv after → P.Guar other world after →
    assertion world → assertion after

variable {P}

theorem Stable.rely {tid : ℕ} {assertion : S.World → Prop} (stable : P.Stable tid assertion)
    {world after : S.World} (rely : P.Rely tid world after) (now : assertion world) : assertion after := by
  induction rely with
  | refl => exact now
  | tail _ step ih =>
    obtain ⟨distinct, before, kept, guar⟩ := step
    exact stable _ _ _ distinct before kept guar ih

theorem Stable.and {tid : ℕ} {left right : S.World → Prop} (first : P.Stable tid left)
    (second : P.Stable tid right) : P.Stable tid fun world => left world ∧ right world :=
  fun other world after distinct before kept guar now =>
    ⟨first other world after distinct before kept guar now.1,
      second other world after distinct before kept guar now.2⟩

theorem Stable.const {tid : ℕ} (fact : Prop) : P.Stable tid fun _ => fact :=
  fun _ _ _ _ _ _ _ now => now

variable (P)

/-- A program keeps the protocol from a world on, and ends only with its postcondition. -/
def Holds (admits : S.Admits) (tid : ℕ) {α : Type} :
    Prog S.Action S.Answer α → (α → S.World → Prop) → S.World → Prop
  | .pure value, post, world => post value world
  | .act action rest, post, world => ∀ before, P.Rely tid world before → P.Inv before →
      ∀ choice answer after, admits tid action choice before →
        S.perform tid action choice before = some (answer, after) →
        P.Inv after ∧ P.Guar tid before after ∧ Holds admits tid (rest answer) post after

variable {P} {admits : S.Admits} {tid : ℕ} {α β : Type}

@[simp] theorem holds_pure {value : α} {post : α → S.World → Prop} {world : S.World} :
    P.Holds admits tid (Pure.pure value) post world ↔ post value world := Iff.rfl

theorem Holds.bind {program : Prog S.Action S.Answer α} {next : α → Prog S.Action S.Answer β}
    {post : β → S.World → Prop} {world : S.World}
    (first : P.Holds admits tid program (fun value => P.Holds admits tid (next value) post) world) :
    P.Holds admits tid (program >>= next) post world := by
  induction program generalizing world with
  | pure value => exact first
  | act action rest ih =>
    intro before rely inv choice answer after admitted performed
    obtain ⟨kept, guar, later⟩ := first before rely inv choice answer after admitted performed
    exact ⟨kept, guar, ih answer later⟩

theorem Holds.mono {program : Prog S.Action S.Answer α} {post weaker : α → S.World → Prop}
    (weaken : ∀ value world, post value world → weaker value world) {world : S.World}
    (holds : P.Holds admits tid program post world) : P.Holds admits tid program weaker world := by
  induction program generalizing world with
  | pure value => exact weaken _ _ holds
  | act action rest ih =>
    intro before rely inv choice answer after admitted performed
    obtain ⟨kept, guar, later⟩ := holds before rely inv choice answer after admitted performed
    exact ⟨kept, guar, ih answer later⟩

theorem Holds.loose {program : Prog S.Action S.Answer α} {post : α → S.World → Prop} {world : S.World}
    (holds : P.Holds admits tid program post world) : P.Holds admits tid program anyhow world :=
  holds.mono fun _ _ _ => trivial

/-- The rule of one action: what the thread knows is stable, the action keeps the protocol from
there, and the rest of the program holds from what the action establishes. -/
theorem Holds.step {action : S.Action} {rest : S.Answer action → Prog S.Action S.Answer α}
    {post : α → S.World → Prop} {world : S.World} (known : S.World → Prop)
    (stable : P.Stable tid known) (now : known world)
    (next : ∀ before, P.Inv before → known before → ∀ choice answer after,
      admits tid action choice before → S.perform tid action choice before = some (answer, after) →
      P.Inv after ∧ P.Guar tid before after ∧ P.Holds admits tid (rest answer) post after) :
    P.Holds admits tid (.act action rest) post world :=
  fun before rely inv choice answer after admitted performed =>
    next before inv (stable.rely rely now) choice answer after admitted performed

/-- What every guaranteed step keeps under the invariant, one's own steps included, survives a whole program. -/
theorem Holds.frame_inv {program : Prog S.Action S.Answer α} {post : α → S.World → Prop} {world : S.World}
    (assertion : S.World → Prop) (kept : ∀ other world after, P.Inv world → P.Inv after → P.Guar other world after →
      assertion world → assertion after) (now : assertion world) (holds : P.Holds admits tid program post world) :
    P.Holds admits tid program (fun value after => post value after ∧ assertion after) world := by
  induction program generalizing world with
  | pure value => exact ⟨holds, now⟩
  | act action rest ih =>
    intro before rely inv choice answer after admitted performed
    obtain ⟨safe, guar, later⟩ := holds before rely inv choice answer after admitted performed
    have stable : P.Stable tid assertion := fun other world after _ => kept other world after
    exact ⟨safe, guar, ih answer (kept tid before after inv safe guar (stable.rely rely now)) later⟩

/-- What every guaranteed step keeps, one's own steps included, survives a whole program. -/
theorem Holds.frame {program : Prog S.Action S.Answer α} {post : α → S.World → Prop} {world : S.World}
    (assertion : S.World → Prop) (kept : ∀ other world after, P.Guar other world after → assertion world →
      assertion after) (now : assertion world) (holds : P.Holds admits tid program post world) :
    P.Holds admits tid program (fun value after => post value after ∧ assertion after) world :=
  Holds.frame_inv assertion (fun other world after _ _ => kept other world after) now holds

/-- What other threads do in between does not invalidate the check of a program. -/
theorem Holds.rely {program : Prog S.Action S.Answer α} {world after : S.World}
    (rely : P.Rely tid world after)
    (holds : P.Holds admits tid program anyhow world) :
    P.Holds admits tid program anyhow after := by
  cases program with
  | pure value => trivial
  | act action rest =>
    intro before later inv choice answer final admitted performed
    exact holds before (rely.trans later) inv choice answer final admitted performed

/-- Every thread of the configuration has been checked from its current world. -/
def Checked (P : Protocol S) (admits : S.Admits) (config : S.Config) : Prop :=
  P.Inv config.world ∧ ∀ tid, P.Holds admits tid (config.threads tid) anyhow config.world

theorem Checked.step {config after : S.Config} (checked : P.Checked admits config)
    (step : Step admits config after) :
    P.Checked admits after ∧ ∃ tid, P.Guar tid config.world after.world := by
  cases step with | @mk tid action choice rest answer world next admitted performed => ?_
  obtain ⟨inv, holds⟩ := checked
  have moving := holds tid
  rw [next] at moving
  obtain ⟨kept, guar, later⟩ := moving config.world .refl inv choice answer world admitted performed
  refine ⟨⟨kept, fun other => ?_⟩, tid, guar⟩
  by_cases same : other = tid
  · subst same
    simpa only [Function.update_self] using later
  · simp only [Function.update_of_ne same]
    exact (holds other).rely (.single (.mk (Ne.symm same) inv kept guar))

/-- Threads checked alone keep the protocol together. -/
theorem sound {config after : S.Config} (checked : P.Checked admits config)
    (run : Run admits config after) : P.Checked admits after := by
  induction run with
  | refl => exact checked
  | tail _ step ih => exact (ih.step step).1

/-- Along a run the world moves only by guaranteed steps. -/
theorem guaranteed {config after : S.Config} (checked : P.Checked admits config)
    (run : Run admits config after) :
    Relation.ReflTransGen (fun world next => ∃ tid, P.Guar tid world next) config.world after.world := by
  induction run with
  | refl => exact .refl
  | tail earlier step ih => exact ih.tail ((sound checked earlier).step step).2

end Protocol

end Concurrent
