import MppRouter.Core.Embed

/-! # The kinds of actions a program performs

A program whose actions are all of one kind leaves alone whatever that kind leaves alone, in any interleaving
and in any phase of its thread.
-/

namespace Concurrent

namespace Prog

variable {Action : Type} {Answer : Action → Type} {α β : Type}

/-- Every action that a program may ever perform is of this kind. -/
def Performs (kind : Action → Prop) : Prog Action Answer α → Prop
  | .pure _ => True
  | .act action rest => kind action ∧ ∀ answer, (rest answer).Performs kind

variable {kind : Action → Prop}

variable {program : Prog Action Answer α}

theorem Performs.bind {next : α → Prog Action Answer β}
    (first : program.Performs kind) (later : ∀ value, (next value).Performs kind) :
    (program >>= next).Performs kind := by
  induction program with
  | pure value => exact later value
  | act action rest ih => exact ⟨first.1, fun answer => ih answer (first.2 answer)⟩

/-- One action, and the rest with its answer. -/
theorem Performs.ask {action : Action} {next : Answer action → Prog Action Answer α} (now : kind action)
    (later : ∀ answer, (next answer).Performs kind) : (Prog.call action >>= next).Performs kind := ⟨now, later⟩

/-- Whatever a program performs, it is an action. -/
theorem Performs.always (program : Prog Action Answer α) : program.Performs fun _ => True := by
  induction program with
  | pure value => trivial
  | act action rest ih => exact ⟨trivial, fun answer => ih answer⟩

theorem Performs.mono {wider : Action → Prop} (more : ∀ action, kind action → wider action)
    (performs : program.Performs kind) : program.Performs wider := by
  induction program with
  | pure value => trivial
  | act action rest ih => exact ⟨more action performs.1, fun answer => ih answer (performs.2 answer)⟩

/-- What a program performs inside a larger machine. -/
theorem Performs.embed {Action' : Type} {Answer' : Action' → Type} {wider : Action' → Prop} {into : Action → Action'}
    {back : ∀ action, Answer' (into action) → Answer action} (more : ∀ action, kind action → wider (into action))
    (performs : program.Performs kind) : (program.embed into back).Performs wider := by
  induction program with
  | pure value => trivial
  | act action rest ih =>
    constructor
    · exact more action performs.1
    · intro answer
      exact ih _ (performs.2 _)

end Prog

namespace Throwing

variable {Action : Type} {Answer : Action → Type} {α β : Type} {kind : Action → Prop}

/-- What a throwing program may perform, cleanups included. -/
def Performs (kind : Action → Prop) (program : Throwing Action Answer α) : Prop := Prog.Performs kind program.run

theorem Performs.pure (value : α) : Performs kind (Pure.pure value : Throwing Action Answer α) := trivial

theorem Performs.bind {program : Throwing Action Answer α} {next : α → Throwing Action Answer β}
    (first : Performs kind program) (later : ∀ value, Performs kind (next value)) :
    Performs kind (program >>= next) := by
  refine Prog.Performs.bind first fun result => ?_
  cases result with
  | none => exact trivial
  | some value => exact later value

theorem Performs.attempt {program : Throwing Action Answer α} (performs : Performs kind program) :
    Performs kind (attempt program) :=
  Prog.Performs.bind performs fun _ => trivial

end Throwing

/-- The actions of one kind, in a single phase. -/
def Typestate.only {S : Machine} (kind : S.Action → Prop) : Typestate S := ⟨Unit, fun _ => kind, fun _ _ _ => ()⟩

/-- A program of a kind that every action of a phase allows, and none leaves, stays in the phase. -/
theorem Typestate.Follows.of_only {S : Machine} {T : Typestate S} {α : Type} {kind : S.Action → Prop}
    {phase : T.Phase} (stays : ∀ action, kind action → T.allowed phase action ∧
      ∀ answer, T.next phase action answer = phase)
    {program : Prog S.Action S.Answer α} {post : α → Prop} {aside : Unit}
    (follows : (only kind).Follows program (fun value _ => post value) aside) :
    T.Follows program (fun value after => after = phase ∧ post value) phase := by
  refine (follows.simulate (fun _ after => after = phase) ?_ rfl).mono fun value after shown => ?_
  · rintro _ _ action rfl aside
    exact stays action aside
  · obtain ⟨_, shown, same⟩ := shown
    exact ⟨same, shown⟩

/-- A program of a kind that every action of a phase allows, and none leaves, stays in the phase. -/
theorem Typestate.Follows.of_performs {S : Machine} {T : Typestate S} {α : Type} {kind : S.Action → Prop}
    {phase : T.Phase} (stays : ∀ action, kind action → T.allowed phase action ∧
      ∀ answer, T.next phase action answer = phase)
    {program : Prog S.Action S.Answer α} (performs : program.Performs kind) :
    T.Follows program (fun _ after => after = phase) phase := by
  induction program with
  | pure value => rfl
  | act action rest ih =>
    obtain ⟨allowed, next⟩ := stays action performs.1
    refine ⟨allowed, fun answer => ?_⟩
    rw [next answer]
    exact ih answer (performs.2 answer)

/-- A program of a kind that keeps a property of the phases, and that every such phase allows, keeps it. -/
theorem Typestate.Follows.of_kept {S : Machine} {T : Typestate S} {α : Type} {kind : S.Action → Prop}
    {kept : T.Phase → Prop} (keeps : ∀ action, kind action → ∀ phase, kept phase → T.allowed phase action ∧
      ∀ answer, kept (T.next phase action answer))
    {program : Prog S.Action S.Answer α} (performs : program.Performs kind) {phase : T.Phase} (now : kept phase) :
    T.Follows program (fun _ => kept) phase := by
  induction program generalizing phase with
  | pure value => exact now
  | act action rest ih =>
    obtain ⟨allowed, next⟩ := keeps action performs.1 phase now
    exact ⟨allowed, fun answer => ih answer (performs.2 answer) (next answer)⟩

/-- What a program of a kind follows, it follows by actions of that kind. -/
theorem Typestate.Follows.both {S : Machine} {T : Typestate S} {α : Type} {kind : S.Action → Prop}
    {program : Prog S.Action S.Answer α} {post : α → T.Phase → Prop} {phase : T.Phase}
    (follows : T.Follows program post phase) (performs : program.Performs kind) :
    (T.relax fun phase action => T.allowed phase action ∧ kind action).Follows program post phase := by
  induction program generalizing phase with
  | pure value => exact follows
  | act action rest ih =>
    exact ⟨⟨follows.1, performs.1⟩, fun answer => ih answer (follows.2 answer) (performs.2 answer)⟩

/-- A program that follows a typestate performs only what some phase allows. -/
theorem Typestate.Follows.performs {S : Machine} {T : Typestate S} {α : Type} {kind : S.Action → Prop}
    (allows : ∀ phase action, T.allowed phase action → kind action)
    {program : Prog S.Action S.Answer α} {post : α → T.Phase → Prop} {phase : T.Phase}
    (follows : T.Follows program post phase) : program.Performs kind := by
  induction program generalizing phase with
  | pure value => trivial
  | act action rest ih =>
    obtain ⟨allowed, later⟩ := follows
    exact ⟨allows phase action allowed, fun answer => ih answer (later answer)⟩

end Concurrent
