import MppRouter.Core.Performs

/-! # One program under fixed circumstances

When a program performs no action twice, all that its surroundings can do to it is said by one choice for
each action. Under such circumstances a program has one outcome, which is computed here.
-/

namespace Concurrent

namespace Machine

variable {S : Machine} {α β : Type}

variable (S) in
/-- What the environment chooses at each action. -/
abbrev Weather := S.Action → S.Choice

/-- The result of a program and the world it leaves; nothing, where a choice cannot occur. -/
def under (weather : S.Weather) (tid : ℕ) : Prog S.Action S.Answer α → S.World → Option (α × S.World)
  | .pure value, world => some (value, world)
  | .act action rest, world =>
    match S.perform tid action (weather action) world with
    | none => none
    | some (answer, after) => under weather tid (rest answer) after

variable {weather : S.Weather} {tid : ℕ}

theorem under_bind (program : Prog S.Action S.Answer α) (next : α → Prog S.Action S.Answer β) (world : S.World) :
    under weather tid (program >>= next) world =
      (under weather tid program world).bind fun result => under weather tid (next result.1) result.2 := by
  induction program generalizing world with
  | pure value => rfl
  | act action rest ih =>
    simp only [Prog.act_bind, under]
    cases S.perform tid action (weather action) world with
    | none => rfl
    | some result => exact ih result.1 result.2

/-- What every action of its kind keeps, a program of such actions keeps. -/
theorem under_keeps {kind : S.Action → Prop} (kept : S.World → S.World → Prop) (refl : ∀ world, kept world world)
    (trans : ∀ first second third, kept first second → kept second third → kept first third)
    (keeps : ∀ action choice world answer after, kind action →
      S.perform tid action choice world = some (answer, after) → kept world after)
    {program : Prog S.Action S.Answer α} {world after : S.World} {value : α}
    (ended : under weather tid program world = some (value, after)) (performs : program.Performs kind) :
    kept world after := by
  induction program generalizing world with
  | pure result =>
    cases ended
    exact refl _
  | act action rest ih =>
    simp only [under] at ended
    cases performed : S.perform tid action (weather action) world with
    | none =>
      rw [performed] at ended
      cases ended
    | some result =>
      rw [performed] at ended
      exact trans _ _ _ (keeps action _ _ _ _ performs.1 performed) (ih result.1 ended (performs.2 result.1))

/-- A throwing program ends with a result, or with an exception. -/
def Ends (weather : S.Weather) (tid : ℕ) (program : Throwing S.Action S.Answer α) (world : S.World)
    (result : Option α) (after : S.World) : Prop :=
  under weather tid program.run world = some (result, after)

namespace Ends

variable {world after : S.World}

variable {program : Throwing S.Action S.Answer α}

/-- A program has one end. -/
theorem unique {result result' : Option α} {after' : S.World}
    (one : Ends weather tid program world result after) (other : Ends weather tid program world result' after') :
    result = result' ∧ after = after' := by
  have same := one.symm.trans other
  simpa using same

theorem pure {value : α} {result : Option α} (ended : Ends weather tid (Pure.pure value) world result after) :
    result = some value ∧ after = world := by
  cases ended
  exact ⟨rfl, rfl⟩

/-- The first part throws, or the rest goes on with its result. -/
theorem bind {next : α → Throwing S.Action S.Answer β} {result : Option β}
    (ended : Ends weather tid (program >>= next) world result after) :
    (∃ value middle, Ends weather tid program world (some value) middle ∧
      Ends weather tid (next value) middle result after) ∨
    Ends weather tid program world none after ∧ result = none := by
  obtain ⟨⟨first, middle⟩, ran, rest⟩ := Option.bind_eq_some_iff.mp ((under_bind program.run _ world).symm.trans ended)
  cases first with
  | some value => exact .inl ⟨value, middle, ran, rest⟩
  | none =>
    cases rest
    exact .inr ⟨ran, rfl⟩

/-- The first part has a result, and the rest goes on with it. -/
theorem seq {next : α → Throwing S.Action S.Answer β} {value : α} {middle : S.World} {result : Option β}
    (begins : Ends weather tid program world (some value) middle)
    (later : Ends weather tid (next value) middle result after) :
    Ends weather tid (program >>= next) world result after := by
  refine (under_bind program.run _ world).trans ?_
  rw [show under weather tid program.run world = _ from begins]
  exact later

theorem attempt {result : Option (Option α)}
    (ended : Ends weather tid (Throwing.attempt program) world result after) :
    ∃ inner, result = some inner ∧ Ends weather tid program world inner after := by
  obtain ⟨⟨first, middle⟩, ran, rest⟩ := Option.bind_eq_some_iff.mp ((under_bind program.run _ world).symm.trans ended)
  cases rest
  exact ⟨first, rfl, ran⟩

/-- An action that does not throw. -/
theorem lift {action : S.Action} {result : Option (S.Answer action)}
    (ended : Ends weather tid (OptionT.lift (Prog.call action)) world result after) :
    ∃ answer, result = some answer ∧ S.perform tid action (weather action) world = some (answer, after) := by
  simp only [Ends] at ended
  obtain ⟨⟨answer, middle⟩, ran, rest⟩ := Option.bind_eq_some_iff.mp ((under_bind (Prog.call action) _ world).symm.trans ended)
  cases rest
  refine ⟨answer, rfl, ?_⟩
  simp only [Prog.call, under] at ran
  cases performed : S.perform tid action (weather action) world with
  | none =>
    rw [performed] at ran
    cases ran
  | some answered =>
    rw [performed] at ran
    exact ran

/-- An action that may throw. -/
theorem call {action : S.Action} {result : S.Answer action}
    (ended : under weather tid (Prog.call action) world = some (result, after)) :
    S.perform tid action (weather action) world = some (result, after) := by
  simp only [Prog.call, under] at ended
  cases performed : S.perform tid action (weather action) world with
  | none =>
    rw [performed] at ended
    cases ended
  | some answered =>
    rw [performed] at ended
    exact ended

end Ends

end Machine

end Concurrent
