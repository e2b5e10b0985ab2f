import MppRouter.Core.Performs

/-! # A program alone

What a program comes to while no other thread moves: a relation between the world it starts in, its result and the
world it leaves, which composes over `bind`.
-/

namespace Concurrent

namespace Machine

variable {S : Machine} {α β : Type}

/-- Alone, the program ends with this result in this world. -/
inductive Solo (admits : S.Admits) (tid : ℕ) : Prog S.Action S.Answer α → S.World → α → S.World → Prop
  | pure (value : α) (world : S.World) : Solo admits tid (.pure value) world value world
  | act {action : S.Action} {rest : S.Answer action → Prog S.Action S.Answer α} {choice : S.Choice}
      {world middle after : S.World} {answer : S.Answer action} {value : α} (admitted : admits tid action choice world)
      (performed : S.perform tid action choice world = some (answer, middle))
      (later : Solo admits tid (rest answer) middle value after) : Solo admits tid (.act action rest) world value after

namespace Solo

variable {admits : S.Admits} {tid : ℕ} {world after : S.World}

theorem of_pure {value result : α} (solo : Solo admits tid (Pure.pure value) world result after) :
    result = value ∧ after = world := by
  cases solo
  exact ⟨rfl, rfl⟩

/-- A program that ends with one result does not end with another. -/
theorem elim {claim : Prop} {value result : α} (solo : Solo admits tid (Pure.pure value) world result after)
    (other : result ≠ value) : claim :=
  absurd (of_pure solo).1 other

variable {program : Prog S.Action S.Answer α}

/-- The first part ends, and the rest goes on with its result. -/
theorem of_bind {next : α → Prog S.Action S.Answer β} {value : β}
    (solo : Solo admits tid (program >>= next) world value after) :
    ∃ first middle, Solo admits tid program world first middle ∧ Solo admits tid (next first) middle value after := by
  induction program generalizing world with
  | pure result => exact ⟨result, world, .pure result world, solo⟩
  | act action rest ih =>
    cases solo with
    | act admitted performed later =>
      obtain ⟨first, middle, begins, goesOn⟩ := ih _ later
      exact ⟨first, middle, .act admitted performed begins, goesOn⟩

variable {action : S.Action}

/-- One action, and the rest goes on with its answer. -/
theorem of_call {next : S.Answer action → Prog S.Action S.Answer β} {value : β}
    (solo : Solo admits tid (Prog.call action >>= next) world value after) :
    ∃ choice answer middle, admits tid action choice world ∧
      S.perform tid action choice world = some (answer, middle) ∧ Solo admits tid (next answer) middle value after := by
  cases solo with
  | act admitted performed later => exact ⟨_, _, _, admitted, performed, later⟩

/-- One action and nothing else. -/
theorem of_last {value : S.Answer action} (solo : Solo admits tid (Prog.call action) world value after) :
    ∃ choice, admits tid action choice world ∧ S.perform tid action choice world = some (value, after) := by
  cases solo with
  | act admitted performed ends =>
    cases ends
    exact ⟨_, admitted, performed⟩

/-- One action, and the rest with its answer. -/
theorem ask {next : S.Answer action → Prog S.Action S.Answer β} {choice : S.Choice} {middle : S.World}
    {answer : S.Answer action} {value : β} (admitted : admits tid action choice world)
    (performed : S.perform tid action choice world = some (answer, middle))
    (later : Solo admits tid (next answer) middle value after) : Solo admits tid (Prog.call action >>= next) world value after :=
  .act admitted performed later

/-- The rest goes on where the first part ends. -/
theorem bind {next : α → Prog S.Action S.Answer β} {first : α} {value : β}
    {middle : S.World} (begins : Solo admits tid program world first middle)
    (later : Solo admits tid (next first) middle value after) : Solo admits tid (program >>= next) world value after := by
  induction begins with
  | pure => exact later
  | act admitted performed _ ih => exact .act admitted performed (ih later)

end Solo

/-- Alone, the program has come as far as this world, where it stops or goes on: an exception that nothing catches ends it
before or after an action that took effect. -/
inductive Begun (admits : S.Admits) (tid : ℕ) : Prog S.Action S.Answer α → S.World → S.World → Prop
  | stop (program : Prog S.Action S.Answer α) (world : S.World) : Begun admits tid program world world
  | act {action : S.Action} {rest : S.Answer action → Prog S.Action S.Answer α} {choice : S.Choice}
      {world middle after : S.World} {answer : S.Answer action} (admitted : admits tid action choice world)
      (performed : S.perform tid action choice world = some (answer, middle))
      (later : Begun admits tid (rest answer) middle after) : Begun admits tid (.act action rest) world after

variable {program : Prog S.Action S.Answer α}

variable {admits : S.Admits} {tid : ℕ} {world after : S.World}

/-- A program that ends has come that far. -/
theorem Solo.begun {value : α} (solo : Solo admits tid program world value after) :
    Begun admits tid program world after := by
  induction solo with
  | pure value world => exact .stop _ world
  | act admitted performed _ ih => exact .act admitted performed ih

section Kept

variable {kind : S.Action → Prop} {inv : S.World → Prop}
  (moves : ∀ action, kind action → ∀ choice world answer after, admits tid action choice world →
    S.perform tid action choice world = some (answer, after) → inv world → inv after)
  (performs : program.Performs kind)

include moves performs

/-- What every action of a kind keeps, a program of this kind has kept wherever it stops. -/
theorem Begun.kept (begun : Begun admits tid program world after) (now : inv world) : inv after := by
  induction begun with
  | stop program world => exact now
  | act admitted performed _ ih =>
    exact ih (performs.2 _) (moves _ performs.1 _ _ _ _ admitted performed now)

/-- What every action of a kind keeps, a program of this kind keeps. -/
theorem Solo.kept {value : α} (solo : Solo admits tid program world value after) (now : inv world) : inv after :=
  solo.begun.kept moves performs now

end Kept

/-- Let a program run alone under these choices, to its result and the world it leaves. -/
def soloExec (admits : S.Admits) [admits.Decides] (tid : ℕ) : List S.Choice → Prog S.Action S.Answer α → S.World →
    Option (α × S.World)
  | _, .pure value, world => some (value, world)
  | [], .act _ _, _ => none
  | choice :: choices, .act action rest, world =>
    if admits tid action choice world then
      match S.perform tid action choice world with
      | none => none
      | some (answer, after) => soloExec admits tid choices (rest answer) after
    else none

theorem soloExec_solo [admits.Decides] {tid : ℕ} {choices : List S.Choice} {world after : S.World} {value : α}
    (executed : soloExec admits tid choices program world = some (value, after)) :
    Solo admits tid program world value after := by
  induction choices generalizing program world with
  | nil =>
    cases program with
    | pure result =>
      cases executed
      exact .pure _ _
    | act action rest => cases executed
  | cons choice choices ih =>
    cases program with
    | pure result =>
      cases executed
      exact .pure _ _
    | act action rest =>
      simp only [soloExec] at executed
      split at executed
      · rename_i admitted
        split at executed
        · cases executed
        · rename_i performed
          exact .act admitted performed (ih executed)
      · cases executed

end Machine

end Concurrent
