import MppRouter.Core.Throwing

/-! # Typestates of interleaved programs

A typestate says in which phase of its work a thread may perform an action, and how the answer moves
the phase. A program is walked once, action by action, to see that it follows the typestate. What a
phase lets a thread know about the world is a matter of the protocol: a protocol that keeps the
knowledge of every phase holds of every program that follows, with no second walk.
-/

namespace Concurrent

open Machine

/-- The phases of a thread, the actions each allows, and where their answers lead. -/
structure Typestate (S : Machine) where
  Phase : Type
  allowed : Phase → S.Action → Prop
  next : Phase → (action : S.Action) → S.Answer action → Phase

namespace Typestate

variable {S : Machine} (T : Typestate S)

/-- A program performs only what its phase allows, and ends only with its postcondition. -/
def Follows {α : Type} : Prog S.Action S.Answer α → (α → T.Phase → Prop) → T.Phase → Prop
  | .pure value, post, phase => post value phase
  | .act action rest, post, phase =>
    T.allowed phase action ∧ ∀ answer, Follows (rest answer) post (T.next phase action answer)

variable {T} {α β : Type} {phase : T.Phase}

variable {post : α → T.Phase → Prop}

theorem Follows.pure {value : α} (now : post value phase) : T.Follows (Pure.pure value) post phase := now

/-- A program whose rest is to be kept folded: the rest is followed from where each answer leads. -/
theorem Follows.act {action : S.Action} {rest : S.Answer action → Prog S.Action S.Answer α}
    (allowed : T.allowed phase action) (later : ∀ answer, T.Follows (rest answer) post (T.next phase action answer)) :
    T.Follows (.act action rest) post phase := ⟨allowed, later⟩

theorem Follows.call {action : S.Action} {post : S.Answer action → T.Phase → Prop} (allowed : T.allowed phase action)
    (later : ∀ answer, post answer (T.next phase action answer)) :
    T.Follows (Prog.call action) post phase := ⟨allowed, later⟩

variable {program : Prog S.Action S.Answer α}

theorem Follows.bind {next : α → Prog S.Action S.Answer β}
    {post : β → T.Phase → Prop} (first : T.Follows program (fun value => T.Follows (next value) post) phase) :
    T.Follows (program >>= next) post phase := by
  induction program generalizing phase with
  | pure value => exact first
  | act action rest ih =>
    obtain ⟨allowed, later⟩ := first
    exact ⟨allowed, fun answer => ih answer (later answer)⟩

/-- A program that performs an action and goes on with its answer. -/
theorem Follows.ask {action : S.Action} {next : S.Answer action → Prog S.Action S.Answer α}
    (allowed : T.allowed phase action) (later : ∀ answer, T.Follows (next answer) post (T.next phase action answer)) :
    T.Follows (Prog.call action >>= next) post phase := ⟨allowed, later⟩

theorem Follows.mono {weaker : α → T.Phase → Prop}
    (follows : T.Follows program post phase) (weaken : ∀ value phase, post value phase → weaker value phase) :
    T.Follows program weaker phase := by
  induction program generalizing phase with
  | pure value => exact weaken _ _ follows
  | act action rest ih =>
    obtain ⟨allowed, later⟩ := follows
    exact ⟨allowed, fun answer => ih answer (later answer)⟩

theorem Follows.loose (follows : T.Follows program post phase) : T.Follows program anyhow phase :=
  follows.mono fun _ _ _ => trivial

/-- A typestate that allows more. -/
def relax (T : Typestate S) (allowed : T.Phase → S.Action → Prop) : Typestate S := ⟨T.Phase, allowed, T.next⟩

theorem Follows.relax
    {allowed : T.Phase → S.Action → Prop} (more : ∀ phase action, T.allowed phase action → allowed phase action)
    (follows : T.Follows program post phase) : (T.relax allowed).Follows program post phase := by
  induction program generalizing phase with
  | pure value => exact follows
  | act action rest ih =>
    obtain ⟨now, later⟩ := follows
    exact ⟨more phase action now, fun answer => ih answer (later answer)⟩

/-- What follows one typestate follows another one whose phases keep in step with it. -/
theorem Follows.simulate {T' : Typestate S} (agree : T.Phase → T'.Phase → Prop)
    (steps : ∀ phase other action, agree phase other → T.allowed phase action → T'.allowed other action ∧
      ∀ answer, agree (T.next phase action answer) (T'.next other action answer))
    {other : T'.Phase} (now : agree phase other) (follows : T.Follows program post phase) :
    T'.Follows program (fun value after => ∃ last, post value last ∧ agree last after) other := by
  induction program generalizing phase other with
  | pure value => exact ⟨phase, follows, now⟩
  | act action rest ih =>
    obtain ⟨allowed, later⟩ := follows
    obtain ⟨may, next⟩ := steps phase other action now allowed
    exact ⟨may, fun answer => ih answer (next answer) (later answer)⟩

/-- What every move of the phase keeps, a whole program keeps. -/
theorem Follows.frame {kept : T.Phase → T.Phase → Prop} (refl : ∀ phase, kept phase phase)
    (trans : ∀ first second third, kept first second → kept second third → kept first third)
    (moves : ∀ phase action answer, kept phase (T.next phase action answer))
    (follows : T.Follows program post phase) :
    T.Follows program (fun value after => post value after ∧ kept phase after) phase := by
  induction program generalizing phase with
  | pure value => exact ⟨follows, refl phase⟩
  | act action rest ih =>
    obtain ⟨allowed, later⟩ := follows
    refine ⟨allowed, fun answer => (ih answer (later answer)).mono fun value after now => ?_⟩
    exact ⟨now.1, trans _ _ _ (moves phase action answer) now.2⟩

/-- A throwing program goes on with its result; an exception ends it. -/
theorem Follows.seq {program : Throwing S.Action S.Answer α} {next : α → Throwing S.Action S.Answer β}
    {post : Option β → T.Phase → Prop}
    (first : T.Follows program.run (fun result phase => match result with
      | some value => T.Follows (next value).run post phase
      | none => post none phase) phase) :
    T.Follows (program >>= next).run post phase := by
  refine Follows.bind (first.mono fun result phase follows => ?_)
  cases result with
  | none => exact follows
  | some value => exact follows

theorem Follows.attempt {program : Throwing S.Action S.Answer α} {post : Option (Option α) → T.Phase → Prop}
    (follows : T.Follows program.run (fun result => post (some result)) phase) :
    T.Follows (Throwing.attempt program).run post phase :=
  Follows.bind (follows.mono fun _ _ now => now)

/-- What a thread knows in each phase is kept by others, and by its own steps in the phase they lead to. -/
structure Keeps (T : Typestate S) (P : Protocol S) (admits : S.Admits) (tid : ℕ) (Knows : T.Phase → S.World → Prop) :
    Prop where
  stable : ∀ phase, P.Stable tid (Knows phase)
  step : ∀ phase action, T.allowed phase action → ∀ world, P.Inv world → Knows phase world →
    ∀ choice answer after, admits tid action choice world →
      S.perform tid action choice world = some (answer, after) →
      P.Inv after ∧ P.Guar tid world after ∧ Knows (T.next phase action answer) after

variable {admits : S.Admits}

/-- A protocol that keeps the knowledge of the phases holds of every program that follows them. -/
theorem Follows.holds {P : Protocol S} {tid : ℕ} {Knows : T.Phase → S.World → Prop}
    (keeps : T.Keeps P admits tid Knows)
    (follows : T.Follows program post phase) {world : S.World} (knows : Knows phase world) :
    P.Holds admits tid program (fun value after => ∃ phase, post value phase ∧ Knows phase after) world := by
  induction program generalizing phase world with
  | pure value => exact ⟨phase, follows, knows⟩
  | act action rest ih =>
    obtain ⟨allowed, later⟩ := follows
    intro before rely inv choice answer after admitted performed
    have known := (keeps.stable phase).rely rely knows
    obtain ⟨kept, guar, moved⟩ := keeps.step phase action allowed before inv known choice answer after admitted performed
    exact ⟨kept, guar, ih answer (later answer) moved⟩

/-- Along a run the invariant holds, and every thread goes on from some phase of its typestate that it knows. -/
theorem reached_each {T : ℕ → Typestate S} {P : Protocol S} {Knows : (tid : ℕ) → (T tid).Phase → S.World → Prop}
    (keeps : ∀ tid, (T tid).Keeps P admits tid (Knows tid)) {config after : S.Config} (inv : P.Inv config.world)
    {post : (tid : ℕ) → Unit → (T tid).Phase → Prop}
    (stands : ∀ tid, ∃ phase, Knows tid phase config.world ∧ (T tid).Follows (config.threads tid) (post tid) phase)
    (run : Run admits config after) : P.Inv after.world ∧
      ∀ tid, ∃ phase, Knows tid phase after.world ∧ (T tid).Follows (after.threads tid) (post tid) phase := by
  induction run with
  | refl => exact ⟨inv, stands⟩
  | tail _ step ih =>
    cases step with | @mk tid action choice rest answer world next admitted performed => ?_
    obtain ⟨inv, stands⟩ := ih
    obtain ⟨phase, knows, follows⟩ := stands tid
    rw [next] at follows
    obtain ⟨kept, guar, moved⟩ := (keeps tid).step phase action follows.1 _ inv knows choice answer world admitted performed
    refine ⟨kept, fun other => ?_⟩
    by_cases same : other = tid
    · subst same
      simp only [Function.update_self]
      exact ⟨_, moved, follows.2 answer⟩
    · obtain ⟨phase, knows, follows⟩ := stands other
      simp only [Function.update_of_ne same]
      exact ⟨phase, (keeps other).stable phase tid _ _ (Ne.symm same) inv kept guar knows, follows⟩

variable {Knows : ℕ → T.Phase → S.World → Prop} {P : Protocol S} (keeps : ∀ tid, T.Keeps P admits tid (Knows tid))
  {config after : S.Config} {post : Unit → T.Phase → Prop}

include keeps

/-- The same, where all threads have one typestate. -/
theorem reached (inv : P.Inv config.world)
    (stands : ∀ tid, ∃ phase, Knows tid phase config.world ∧ T.Follows (config.threads tid) post phase)
    (run : Run admits config after) : P.Inv after.world ∧
      ∀ tid, ∃ phase, Knows tid phase after.world ∧ T.Follows (after.threads tid) post phase :=
  @reached_each S admits (fun _ => T) P Knows keeps config after inv (fun _ => post) stands run

/-- Threads that follow a typestate, each from a phase of its own, keep every protocol that keeps the knowledge of
the phases. -/
theorem sound_each (start : ℕ → T.Phase) (inv : P.Inv config.world)
    (knows : ∀ tid, Knows tid (start tid) config.world)
    (follows : ∀ tid, T.Follows (config.threads tid) post (start tid)) (run : Run admits config after) :
    P.Inv after.world :=
  (reached keeps inv (fun tid => ⟨start tid, knows tid, follows tid⟩) run).1

/-- Threads that stand in phases they know are checked. -/
theorem checked_each (inv : P.Inv config.world)
    (stands : ∀ tid, ∃ phase, Knows tid phase config.world ∧ T.Follows (config.threads tid) post phase) :
    P.Checked admits config := by
  refine ⟨inv, fun tid => ?_⟩
  obtain ⟨phase, knows, follows⟩ := stands tid
  exact (follows.holds (keeps tid) knows).loose

/-- Threads that follow a typestate keep every protocol that keeps the knowledge of its phases. -/
theorem sound (start : T.Phase) (inv : P.Inv config.world) (knows : ∀ tid, Knows tid start config.world)
    (follows : ∀ tid, T.Follows (config.threads tid) post start) (run : Run admits config after) :
    P.Inv after.world :=
  sound_each keeps (fun _ => start) inv knows follows run

end Typestate

end Concurrent
