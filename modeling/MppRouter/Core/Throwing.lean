import MppRouter.Core.RelyGuarantee

/-! # Programs whose operations may throw

An operation on a remote store ends in one of three ways: it is answered, its answer is lost after it
took effect, or it fails without effect. A throwing program ends with a result or with an exception.
-/

namespace Concurrent

open Machine

/-- How an operation on a remote store goes wrong, if it does. -/
inductive Fault where
  | none | lost | failed
  deriving DecidableEq, Repr

/-- Perform an operation that may throw: its answer, or nothing. -/
def Fault.apply {A W : Type} (fault : Fault) (operation : W → A × W) (world : W) : Option A × W :=
  match fault with
  | .none => (some (operation world).1, (operation world).2)
  | .lost => (.none, (operation world).2)
  | .failed => (.none, world)

/-- The operation has no effect and throws, or has its effect and is answered by it, if at all. -/
theorem Fault.apply_cases {A W : Type} {fault : Fault} {operation : W → A × W} {world after : W} {answer : Option A}
    (applied : fault.apply operation world = (answer, after)) :
    (answer = .none ∧ after = world) ∨
      (after = (operation world).2 ∧ ∀ value, answer = some value → (operation world).1 = value) := by
  cases fault with
  | none =>
    cases applied
    exact .inr ⟨rfl, fun _ same => Option.some.inj same⟩
  | lost =>
    cases applied
    exact .inr ⟨rfl, nofun⟩
  | failed =>
    cases applied
    exact .inl ⟨rfl, rfl⟩

/-- What an operation without effect is answered, or nothing where it throws. -/
def Fault.answered {A : Type} (fault : Fault) (answer : A) : Option A := if fault = .none then some answer else .none

theorem Fault.answered_some {A : Type} {fault : Fault} {answer value : A}
    (answered : fault.answered answer = some value) : answer = value := by
  unfold Fault.answered at answered
  split at answered
  · exact Option.some.inj answered
  · cases answered

/-- A program that ends with a result, or throws. -/
abbrev Throwing (Action : Type) (Answer : Action → Type) : Type → Type := OptionT (Prog Action Answer)

namespace Throwing

variable {Action : Type} {Answer : Action → Type} {α β : Type}

/-- `try`: the result of a program, or nothing when it throws. -/
def attempt (program : Throwing Action Answer α) : Throwing Action Answer (Option α) := OptionT.lift program.run

/-- `finally`: run a cleanup that may not throw, whether the program throws or not. -/
def ensuring (program : Throwing Action Answer α) (cleanup : Prog Action Answer Unit) : Throwing Action Answer α :=
  OptionT.mk do
    let result ← program.run
    cleanup
    pure result

end Throwing

namespace Protocol

variable {S : Machine} {P : Protocol S} {admits : S.Admits} {tid : ℕ} {α β : Type} {world : S.World}

variable {program : Throwing S.Action S.Answer α}

variable {next : α → Throwing S.Action S.Answer β}

/-- A throwing program goes on with its result; an exception ends it. -/
theorem Holds.seq {post : Option β → S.World → Prop}
    (first : P.Holds admits tid program.run (fun result after => match result with
      | some value => P.Holds admits tid (next value).run post after
      | none => post none after) world) :
    P.Holds admits tid (program >>= next).run post world := by
  refine Holds.bind (first.mono fun result after holds => ?_)
  cases result with
  | none => exact holds
  | some value => exact holds

theorem Holds.attempt {post : Option (Option α) → S.World → Prop}
    (holds : P.Holds admits tid program.run (fun result after => post (some result) after) world) :
    P.Holds admits tid (Throwing.attempt program).run post world :=
  Holds.bind (holds.mono fun _ _ now => now)

variable {cleanup : Prog S.Action S.Answer Unit}

theorem Holds.ensuring {post : Option α → S.World → Prop} (holds : P.Holds admits tid program.run (fun result after =>
      P.Holds admits tid cleanup (fun _ final => post result final) after) world) :
    P.Holds admits tid (Throwing.ensuring program cleanup).run post world :=
  Holds.bind (holds.mono fun _ _ cleans => Holds.bind (cleans.mono fun _ _ now => now))

/-- A throwing program keeps the protocol, does not throw, and ends with its postcondition. -/
def Returns (P : Protocol S) (admits : S.Admits) (tid : ℕ) (program : Throwing S.Action S.Answer α)
    (post : α → S.World → Prop) (world : S.World) : Prop :=
  P.Holds admits tid program.run (fun result after => ∃ value, result = some value ∧ post value after) world

variable {post : α → S.World → Prop}

theorem Returns.pure {value : α} (now : post value world) :
    P.Returns admits tid (Pure.pure value) post world := ⟨value, rfl, now⟩

theorem Returns.mono {weaker : α → S.World → Prop}
    (returns : P.Returns admits tid program post world) (weaken : ∀ value after, post value after → weaker value after) :
    P.Returns admits tid program weaker world :=
  Holds.mono (fun _ after ⟨value, same, now⟩ => ⟨value, same, weaken value after now⟩) returns

theorem Returns.bind {post : β → S.World → Prop}
    (first : P.Returns admits tid program (fun value => P.Returns admits tid (next value) post) world) :
    P.Returns admits tid (program >>= next) post world := by
  refine Holds.seq (Holds.mono ?_ first)
  rintro _ after ⟨value, rfl, rest⟩
  exact rest

theorem Returns.attempt {post : Option α → S.World → Prop}
    (returns : P.Returns admits tid program (fun value => post (some value)) world) :
    P.Returns admits tid (Throwing.attempt program) post world := by
  refine Holds.attempt (Holds.mono ?_ returns)
  rintro _ after ⟨value, rfl, now⟩
  exact ⟨some value, rfl, now⟩

theorem Returns.ensuring (returns : P.Returns admits tid program (fun value after =>
      P.Holds admits tid cleanup (fun _ final => post value final) after) world) :
    P.Returns admits tid (Throwing.ensuring program cleanup) post world := by
  refine Holds.ensuring (Holds.mono ?_ returns)
  rintro _ after ⟨value, rfl, cleans⟩
  exact cleans.mono fun _ _ now => ⟨value, rfl, now⟩

theorem Returns.frame
    (assertion : S.World → Prop) (kept : ∀ other world after, P.Guar other world after → assertion world →
      assertion after) (now : assertion world) (returns : P.Returns admits tid program post world) :
    P.Returns admits tid program (fun value after => post value after ∧ assertion after) world := by
  refine Holds.mono ?_ (Holds.frame assertion kept now returns)
  rintro _ after ⟨⟨value, rfl, now⟩, asserted⟩
  exact ⟨value, rfl, now, asserted⟩

end Protocol

end Concurrent
