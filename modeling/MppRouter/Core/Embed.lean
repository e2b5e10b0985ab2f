import MppRouter.Core.Typestate

/-! # Programs of one machine inside another

A machine that shares its world with further parties has more actions. A program of the smaller machine
runs there unchanged, and what it follows it still follows. A program may also be run with a program of the
other machine for each of its actions, as a library runs with the hooks of its caller.
-/

namespace Concurrent

namespace Prog

variable {Action Action' : Type} {Answer : Action → Type} {Answer' : Action' → Type} {α β : Type}

/-- Run a program with the actions of a larger machine. -/
def embed (into : Action → Action') (back : ∀ action, Answer' (into action) → Answer action) :
    Prog Action Answer α → Prog Action' Answer' α
  | .pure value => .pure value
  | .act action rest => .act (into action) fun answer => (rest (back action answer)).embed into back

/-- Run a program whose actions are themselves programs of another machine. -/
def interpret (hook : ∀ action, Prog Action' Answer' (Answer action)) : Prog Action Answer α → Prog Action' Answer' α
  | .pure value => .pure value
  | .act action rest => hook action >>= fun answer => (rest answer).interpret hook

end Prog

namespace Typestate

variable {S S' : Machine} {T : Typestate S} {T' : Typestate S'} {α : Type}

/-- A program follows the larger typestate when that one treats the program's actions alike. -/
theorem Follows.embed {into : S.Action → S'.Action} {back : ∀ action, S'.Answer (into action) → S.Answer action}
    {phases : T.Phase → T'.Phase} (allowed : ∀ phase action, T.allowed phase action →
      T'.allowed (phases phase) (into action))
    (next : ∀ phase action answer, T'.next (phases phase) (into action) answer =
      phases (T.next phase action (back action answer)))
    {program : Prog S.Action S.Answer α} {post : α → T.Phase → Prop} {phase : T.Phase}
    (follows : T.Follows program post phase) :
    T'.Follows (program.embed into back) (fun value after => ∃ inner, after = phases inner ∧ post value inner)
      (phases phase) := by
  induction program generalizing phase with
  | pure value => exact ⟨phase, rfl, follows⟩
  | act action rest ih =>
    obtain ⟨now, later⟩ := follows
    refine ⟨allowed phase action now, fun answer => ?_⟩
    rw [next]
    exact ih _ (later _)

/-- Hooks that follow the outer typestate from phases that agree to phases that agree carry a whole program. -/
theorem Follows.interpret {agree : T.Phase → T'.Phase → Prop} {hook : ∀ action, Prog S'.Action S'.Answer (S.Answer action)}
    (hooks : ∀ phase action, T.allowed phase action → ∀ outer, agree phase outer →
      T'.Follows (hook action) (fun answer after => agree (T.next phase action answer) after) outer)
    {program : Prog S.Action S.Answer α} {post : α → T.Phase → Prop} {phase : T.Phase}
    (follows : T.Follows program post phase) {outer : T'.Phase} (now : agree phase outer) :
    T'.Follows (program.interpret hook) (fun value after => ∃ last, post value last ∧ agree last after) outer := by
  induction program generalizing phase outer with
  | pure value => exact ⟨phase, follows, now⟩
  | act action rest ih =>
    obtain ⟨allowed, later⟩ := follows
    apply Follows.bind
    apply Follows.mono (hooks phase action allowed outer now)
    intro answer after agrees
    exact ih answer (later answer) agrees

/-- Hooks that lead from what one phase knows to what the next one knows carry a whole program of such calls. -/
theorem Follows.interpreted {P : Protocol S'} {admits : S'.Admits} {tid : ℕ} {Knows : T.Phase → S'.World → Prop}
    {hook : ∀ action, Prog S'.Action S'.Answer (S.Answer action)}
    (hooks : ∀ phase action, T.allowed phase action → ∀ world, Knows phase world →
      P.Holds admits tid (hook action) (fun answer => Knows (T.next phase action answer)) world)
    {program : Prog S.Action S.Answer α} {post : α → T.Phase → Prop} {phase : T.Phase}
    (follows : T.Follows program post phase) {world : S'.World} (knows : Knows phase world) :
    P.Holds admits tid (program.interpret hook) (fun value after => ∃ last, post value last ∧ Knows last after) world := by
  induction program generalizing phase world with
  | pure value => exact ⟨phase, follows, knows⟩
  | act action rest ih =>
    obtain ⟨allowed, later⟩ := follows
    apply Protocol.Holds.bind
    apply Protocol.Holds.mono _ (hooks phase action allowed world knows)
    intro answer after known
    exact ih answer (later answer) known

end Typestate

end Concurrent
