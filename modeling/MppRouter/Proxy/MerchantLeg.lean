import MppRouter.Core.Weather
import MppRouter.Proxy.HandleProxy

/-! # What the merchant leg may touch

Paying a merchant reads and calls, and signs one credential at most. It settles nothing, records nothing and
leaves every store as it is.
-/

namespace MppRouter.Proxy

open Concurrent Machine Throwing

section Walk

variable {kind : Action → Prop} {action : Action}

theorem performs_ask (allowed : kind action) : Performs kind (ask action) := ⟨allowed, fun _ => trivial⟩

theorem call_performs (allowed : kind action) : (Prog.call action : Prog Action Action.Answer _).Performs kind :=
  ⟨allowed, fun _ => trivial⟩

theorem performs_readBody (response : MerchantResponse) : Performs kind (readBody response) := trivial

end Walk

section Flow

variable {T : Typestate proxyMachine} {phase : T.Phase} {α β : Type} {post : Option β → T.Phase → Prop}

/-- Perform an action that does not throw, and go on with its answer. -/
theorem follows_ask {action : Action} {next : action.Answer → Handler β} (allowed : T.allowed phase action)
    (later : ∀ answer, T.Follows (next answer).run post (T.next phase action answer)) :
    T.Follows (ask action >>= next).run post phase :=
  Typestate.Follows.seq ⟨allowed, later⟩

theorem follows_readBody {response : MerchantResponse} {next : MerchantBody → Handler β} (unread : post none phase)
    (later : ∀ body, T.Follows (next body).run post phase) :
    T.Follows (readBody response >>= next).run post phase := by
  apply Typestate.Follows.seq
  unfold readBody
  cases response.body with
  | none => exact unread
  | some body => exact later body

end Flow

/-- The actions of the merchant leg that sign nothing. -/
def Action.callsMerchant : Action → Prop
  | .hostedOriginHeaders | .checkoutDeliveryPaused | .fetchMerchant | .getTempoChannel | .fetchUnpaid | .receive => True
  | _ => False

def Action.paysMerchant (payload : Option String) (action : Action) : Prop :=
  action.callsMerchant ∨ ∃ amount, action = .signCredential payload amount

section Leg

theorem fetchDirect_performs (unreachable failed : String) (accepted : MerchantResponse → Bool) :
    Performs (Action.callsMerchant) (fetchDirect unreachable failed accepted) := by
  unfold fetchDirect
  apply Performs.bind
  · exact performs_ask trivial
  · intro response
    cases response with
    | none => exact .pure _
    | some response => exact .bind (performs_readBody response) fun _ => .pure _

theorem fetchOperator_performs (route : Route) : Performs (Action.callsMerchant) (fetchOperator route) := by
  unfold fetchOperator
  apply Performs.bind
  · unfold originHeaders
    split
    · exact call_performs trivial
    · exact .pure _
  · intro injected
    split
    · exact .pure _
    · apply Performs.bind
      · exact performs_ask trivial
      · intro response
        cases response with
        | none => exact .pure _
        | some response =>
          dsimp only
          split
          · exact .pure _
          · exact .bind (performs_readBody response) fun _ => .pure _

theorem fetchPayInvoice_performs : Performs (Action.callsMerchant) fetchPayInvoice := by
  unfold fetchPayInvoice
  apply Performs.bind
  · exact performs_ask trivial
  · intro paused
    split
    · exact .pure _
    · exact fetchDirect_performs _ _ _

/-- Whether the leg has signed. -/
def signs : Bool → (action : Action) → action.Answer → Bool
  | _, .signCredential _ _, true => true
  | signed, _, _ => signed

/-- The merchant leg signs at most once. -/
def payFlow (payload : Option String) : Typestate proxyMachine where
  Phase := Bool
  allowed signed action := action.callsMerchant ∨ signed = false ∧ ∃ amount, action = .signCredential payload amount
  next := signs

variable {payload : Option String} {pick : Pick}

theorem answerChallenge_follows (quote : Challenge) (channel : Option TempoChannelState) :
    (payFlow payload).Follows (answerChallenge pick payload quote channel).run anyhow false := by
  unfold answerChallenge
  refine follows_ask (.inl trivial) fun unpaid => ?_
  split
  · trivial
  · trivial
  · trivial
  · refine follows_ask (.inr ⟨rfl, _, rfl⟩) fun signed => ?_
    split
    · refine follows_ask (.inl trivial) fun response => ?_
      cases response <;> trivial
    · trivial

theorem payTempo_follows (quote : Challenge) :
    (payFlow payload).Follows (payTempo pick payload quote).run anyhow false := by
  unfold payTempo
  apply Typestate.Follows.seq
  have leg : (payFlow payload).Follows (payTempoLeg pick payload quote).run anyhow false := by
    unfold payTempoLeg
    split
    · apply Typestate.Follows.seq
      apply Typestate.Follows.attempt
      refine ⟨.inl trivial, fun channel => ?_⟩
      rcases channel with _ | _ | channel
      · trivial
      · trivial
      · exact answerChallenge_follows quote (some channel)
    · exact answerChallenge_follows quote none
  refine leg.mono fun result phase _ => ?_
  rcases result with _ | failure | response
  · trivial
  · trivial
  · apply follows_readBody trivial
    intro body
    split
    · trivial
    · split <;> trivial

theorem payMerchantAndGetBody_follows (route : Route) (quote : Challenge) :
    (payFlow payload).Follows (payMerchantAndGetBody pick payload route quote).run anyhow false := by
  have calling {α : Type} {program : Handler α} (calls : Performs Action.callsMerchant program) :
      (payFlow payload).Follows program.run anyhow false := by
    refine Typestate.Follows.mono (Typestate.Follows.of_performs ?_ calls) fun _ _ _ => trivial
    intro action calls
    refine ⟨.inl calls, ?_⟩
    cases action <;> first | exact fun _ => rfl | exact calls.elim
  unfold payMerchantAndGetBody
  apply Typestate.Follows.seq
  have inner : (payFlow payload).Follows (payMerchantAndGetBodyInner pick payload route quote).run anyhow
      false := by
    unfold payMerchantAndGetBodyInner
    split
    · exact calling (fetchOperator_performs route)
    split
    · exact calling (fetchDirect_performs _ _ _)
    split
    · exact calling fetchPayInvoice_performs
    · exact payTempo_follows quote
  refine inner.mono fun result phase _ => ?_
  cases result <;> trivial

theorem payMerchantAndGetBody_performs (route : Route) (quote : Challenge) :
    Performs (Action.paysMerchant payload) (payMerchantAndGetBody pick payload route quote) := by
  refine Typestate.Follows.performs ?_ (payMerchantAndGetBody_follows route quote)
  rintro signed action (calls | ⟨-, signs⟩)
  · exact .inl calls
  · exact .inr signs

end Leg

/-- A world that differs in the signed credentials alone. -/
def World.SameBooks (world after : World) : Prop := ∃ credentials, after = { world with credentials }

theorem World.SameBooks.refl (world : World) : world.SameBooks world := ⟨world.credentials, rfl⟩

theorem World.SameBooks.trans {first second third : World} (one : first.SameBooks second)
    (two : second.SameBooks third) : first.SameBooks third := by
  obtain ⟨_, rfl⟩ := one
  obtain ⟨credentials, rfl⟩ := two
  exact ⟨credentials, rfl⟩

theorem paysMerchant_sameBooks {payload : Option String} {tid : ℕ} (action : Action) (choice : Choice) (world : World)
    (answer : action.Answer) (after : World) (pays : action.paysMerchant payload)
    (performed : perform tid action choice world = some (answer, after)) : world.SameBooks after := by
  rcases pays with calls | ⟨amount, rfl⟩
  · cases action with
    | hostedOriginHeaders | checkoutDeliveryPaused | fetchMerchant | getTempoChannel | fetchUnpaid | receive =>
      cases performed
      exact .refl world
    | _ => cases calls
  · cases performed
    split
    · exact ⟨_, rfl⟩
    · exact .refl world

/-- The merchant leg leaves the books as they are. -/
theorem payMerchantAndGetBody_sameBooks {weather : Weather proxyMachine} {tid : ℕ} {pick : Pick}
    {payload : Option String} {route : Route} {quote : Challenge} {world after : World}
    {result : Option MerchantPayResult}
    (ended : Ends weather tid (payMerchantAndGetBody pick payload route quote) world result after) :
    world.SameBooks after :=
  under_keeps World.SameBooks World.SameBooks.refl (fun _ _ _ => World.SameBooks.trans)
    (fun action choice world answer after => paysMerchant_sameBooks action choice world answer after)
    ended (payMerchantAndGetBody_performs route quote)

end MppRouter.Proxy
