import MppRouter.Core.Typestate

/-! # Runs to the end

Threads that have ended do not move again, and a run may end with every thread at its end. What a typestate promises
of the end of each program then holds of the world.
-/

namespace Concurrent

open Machine Typestate

/-- The program has ended. -/
def Prog.ended {Action : Type} {Answer : Action → Type} {α : Type} : Prog Action Answer α → Bool
  | .pure _ => true
  | .act _ _ => false

variable {S : Machine}

/-- Every thread has ended. -/
def Machine.Config.Finished (config : S.Config) : Prop := ∀ tid, config.threads tid = .pure ()

theorem Prog.ended_pure {program : Prog S.Action S.Answer Unit} (ended : program.ended = true) : program = .pure () := by
  cases program with
  | pure value => rfl
  | act action rest => cases ended

variable {admits : S.Admits}

/-- A thread that has ended stays where it is. -/
theorem Machine.Run.ended_stays {config after : S.Config} (run : Run admits config after) {tid : ℕ}
    (ended : config.threads tid = .pure ()) : after.threads tid = .pure () := by
  induction run with
  | refl => exact ended
  | tail _ step ih =>
    cases step with | @mk other action choice rest answer world next admitted performed => ?_
    have moved : tid ≠ other := by
      rintro rfl
      cases ih.symm.trans next
    simpa only [Function.update_of_ne moved] using ih

/-- A schedule after which the busy threads have ended shows a run to the end. -/
theorem Machine.Config.exec_finishes (admits : S.Admits) [admits.Decides] (config : S.Config)
    (schedule : List (ℕ × S.Choice)) (busy : List ℕ) (idle : ∀ tid, tid ∉ busy → config.threads tid = .pure ())
    (test : S.World → Bool) (executed : (config.exec admits schedule).any (fun after =>
      test after.world && busy.all fun tid => (after.threads tid).ended) = true) :
    ∃ after, Run admits config after ∧ after.Finished ∧ test after.world = true := by
  obtain ⟨after, reached, passed⟩ := (Option.any_eq_true _ _).mp executed
  obtain ⟨passed, ended⟩ := Bool.and_eq_true_iff.mp passed
  have run := Config.exec_run reached
  refine ⟨after, run, fun tid => ?_, passed⟩
  by_cases listed : tid ∈ busy
  · exact Prog.ended_pure (List.all_eq_true.mp ended tid listed)
  · exact run.ended_stays (idle tid listed)

/-- Where every thread has ended, each is in a phase of its postcondition. -/
theorem Typestate.finished {T : ℕ → Typestate S} {P : Protocol S}
    {Knows : (tid : ℕ) → (T tid).Phase → S.World → Prop} (keeps : ∀ tid, (T tid).Keeps P admits tid (Knows tid))
    {config after : S.Config} (start : (tid : ℕ) → (T tid).Phase) (inv : P.Inv config.world)
    (knows : ∀ tid, Knows tid (start tid) config.world) {post : (tid : ℕ) → Unit → (T tid).Phase → Prop}
    (follows : ∀ tid, (T tid).Follows (config.threads tid) (post tid) (start tid)) (run : Run admits config after)
    (finished : after.Finished) :
    P.Inv after.world ∧ ∀ tid, ∃ phase, post tid () phase ∧ Knows tid phase after.world := by
  obtain ⟨kept, phases⟩ := reached_each keeps inv (fun tid => ⟨start tid, knows tid, follows tid⟩) run
  refine ⟨kept, fun tid => ?_⟩
  obtain ⟨phase, knew, follows⟩ := phases tid
  rw [finished tid] at follows
  exact ⟨phase, follows, knew⟩

end Concurrent
