import MppRouter.Core.Performs

/-! # Machines that record what their threads did

A recorded machine behaves as the machine it records, and keeps for each thread its actions with their answers
and the worlds it performed them in, newest first. A rule says which action may follow which past. It is checked
on each program alone, and then holds of every history that an interleaving leaves behind.
-/

namespace Concurrent

open Machine Function List

variable {S : Machine}

variable {admits : S.Admits}

/-- What every admitted step keeps, a run keeps. -/
theorem Machine.Run.keeps {config after : S.Config} (inv : S.World → Prop)
    (step : ∀ tid action choice world answer next, admits tid action choice world →
      S.perform tid action choice world = some (answer, next) → inv world → inv next)
    (run : Run admits config after) (now : inv config.world) : inv after.world := by
  induction run with
  | refl => exact now
  | tail _ last ih =>
    cases last with
    | mk _ admitted performed => exact step _ _ _ _ _ _ admitted performed ih

variable (S)

/-- An action with its answer. -/
abbrev Deed := Σ action : S.Action, S.Answer action

/-- What a thread did, and in which world. -/
structure Event where
  deed : Deed S
  before : S.World

/-- The machine with the history of each thread, newest first. -/
abbrev recorded : Machine where
  Action := S.Action
  Answer := S.Answer
  Choice := S.Choice
  World := S.World × (ℕ → List (Event S))
  perform tid action choice world :=
    (S.perform tid action choice world.1).map fun result =>
      (result.1, result.2, update world.2 tid (⟨⟨action, result.1⟩, world.1⟩ :: world.2 tid))

variable {S}

/-- The threads, before anything is recorded of them. -/
def Machine.Config.unrecorded (config : S.Config) : (recorded S).Config := ⟨(config.world, fun _ => []), config.threads⟩

/-- A condition on steps, whatever was recorded. -/
def Machine.Admits.recorded (admits : S.Admits) : (recorded S).Admits :=
  fun tid action choice world => admits tid action choice world.1

instance (admits : S.Admits) [decides : admits.Decides] (tid : ℕ) (action : (recorded S).Action) (choice : (recorded S).Choice) (world : (recorded S).World) :
    Decidable (admits.recorded tid action choice world) := decides tid action choice world.1

theorem recorded_perform {tid : ℕ} {action : S.Action} {choice : S.Choice} {world after : (recorded S).World}
    {answer : S.Answer action} (performed : (recorded S).perform tid action choice world = some (answer, after)) :
    S.perform tid action choice world.1 = some (answer, after.1) ∧
      after.2 = update world.2 tid (⟨⟨action, answer⟩, world.1⟩ :: world.2 tid) := by
  obtain ⟨⟨value, next⟩, was, same⟩ := Option.map_eq_some_iff.mp performed
  obtain ⟨rfl, rfl⟩ := Prod.mk.inj same
  exact ⟨was, rfl⟩

/-- What is recorded was done. -/
theorem recorded_truly {config : S.Config} {after : (recorded S).Config}
    (run : Run admits.recorded config.unrecorded after) {tid : ℕ} {event : Event S} (member : event ∈ after.world.2 tid) :
    ∃ choice next, S.perform tid event.deed.1 choice event.before = some (event.deed.2, next) := by
  refine run.keeps (fun world : S.World × (ℕ → List (Event S)) => ∀ tid, ∀ event ∈ world.2 tid, ∃ choice next,
    S.perform tid event.deed.1 choice event.before = some (event.deed.2, next)) ?_ ?_ tid event member
  · intro tid action choice world answer next _ performed truly other event member
    obtain ⟨was, history⟩ := recorded_perform performed
    rw [history] at member
    by_cases same : other = tid
    · subst same
      rw [update_self] at member
      rcases mem_cons.mp member with rfl | earlier
      · exact ⟨choice, next.1, was⟩
      · exact truly other event earlier
    · rw [update_of_ne same] at member
      exact truly other event member
  · exact fun _ _ member => absurd member not_mem_nil

/-! ## Rules -/

variable (S) in
/-- Which action may follow which past. -/
abbrev Rule := List (Deed S) → S.Action → Prop

/-- Every action of a history follows what it may follow. -/
def Obeys (rule : Rule S) (history : List (Event S)) : Prop :=
  ∀ event earlier, event :: earlier <:+ history → rule (earlier.map Event.deed) event.deed.1

theorem Obeys.cons {rule : Rule S} {event : Event S} {history : List (Event S)} (obeys : Obeys rule history)
    (now : rule (history.map Event.deed) event.deed.1) : Obeys rule (event :: history) := by
  intro other earlier suffix
  rcases suffix_cons_iff.mp suffix with same | before
  · obtain ⟨rfl, rfl⟩ := cons.inj same
    exact now
  · exact obeys other earlier before

/-- The phases of a thread are its pasts. -/
def audit (rule : Rule S) : Typestate (recorded S) where
  Phase := List (Deed S)
  allowed := rule
  next past action answer := ⟨action, answer⟩ :: past

/-- A program of a kind that the rule always allows adds deeds of that kind to the past. -/
theorem Typestate.Follows.grows {rule : Rule S} {kind : S.Action → Prop} {α : Type}
    (allowed : ∀ past action, kind action → rule past action) {program : Prog S.Action S.Answer α}
    (performs : program.Performs kind) (past : List (Deed S)) :
    (audit rule).Follows program (fun _ after => ∃ new, after = new ++ past ∧ ∀ deed ∈ new, kind deed.1) past := by
  induction program generalizing past with
  | pure value => exact ⟨[], rfl, fun _ member => absurd member not_mem_nil⟩
  | act action rest ih =>
    obtain ⟨now, later⟩ := performs
    refine ⟨allowed past action now, fun answer => ?_⟩
    apply (ih answer (later answer) (⟨action, answer⟩ :: past)).mono
    rintro _ _ ⟨new, rfl, kinds⟩
    let this : Deed S := ⟨action, answer⟩
    refine ⟨new ++ [this], (append_assoc new [this] past).symm, ?_⟩
    intro deed member
    rcases mem_append.mp member with newer | same
    · exact kinds deed newer
    · rw [mem_singleton.mp same]
      exact now

/-- A thread writes to its own history, and obeys the rule. -/
def auditing (rule : Rule S) : Protocol (recorded S) where
  Inv world := ∀ tid, Obeys rule (world.2 tid)
  Guar tid world after := ∀ other, other ≠ tid → after.2 other = world.2 other

theorem audit_keeps (rule : Rule S) (admits : (recorded S).Admits) (tid : ℕ) :
    (audit rule).Keeps (auditing rule) admits tid fun past world => (world.2 tid).map Event.deed = past where
  stable := by
    intro past other world after distinct _ _ guar knows
    rw [guar tid distinct.symm]
    exact knows
  step := by
    intro past action allowed world obeys knows choice answer after _ performed
    obtain ⟨-, history⟩ := recorded_perform performed
    refine ⟨fun other => ?_, fun other distinct => ?_, ?_⟩
    · by_cases same : other = tid
      · subst same
        rw [history, update_self]
        apply (obeys other).cons
        rw [knows]
        exact allowed
      · rw [history, update_of_ne same]
        exact obeys other
    · rw [history, update_of_ne distinct]
    · rw [history, update_self, map_cons, knows]
      rfl

/-- Programs that follow a rule alone obey it in every interleaving. -/
theorem audited {rule : Rule S} {config : S.Config} {post : Unit → List (Deed S) → Prop}
    (follows : ∀ tid, (audit rule).Follows (config.threads tid) post []) {after : (recorded S).Config}
    (run : Run admits.recorded config.unrecorded after) (tid : ℕ) : Obeys rule (after.world.2 tid) := by
  have obeys : ∀ tid, Obeys rule (config.unrecorded.world.2 tid) :=
    fun _ _ _ suffix => absurd (suffix_nil.mp suffix) (cons_ne_nil _ _)
  exact Typestate.sound (fun tid => audit_keeps rule admits.recorded tid) [] obeys (fun _ => rfl) follows run tid

end Concurrent
