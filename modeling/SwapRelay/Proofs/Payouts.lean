import Mathlib.Data.List.Induction
import SwapRelay.Proofs.Settlement

/-!
# Authenticated payouts

Where the USDC of a fill goes. A completion acts on the fill that the router holds, whose message
the registered peer on its chain has sent, and the message alone says how it is completed and who is
paid. A release may come long after the fill is gone and others have arrived under its key; it still
pays what the completion has staged, since nothing else writes that record.
-/

namespace SwapRelay

/-- The three ways to complete a fill. -/
inductive CompletionKind where
  | direct
  | relay
  | payload
  deriving DecidableEq, Repr

def Operation.completionKind? : Operation → Option CompletionKind
  | .completeDirect _ _ => some .direct
  | .completeRelay _ _ _ _ => some .relay
  | .completePayload _ _ => some .payload
  | _ => none

def RedeemMode.completionKind : RedeemMode → CompletionKind
  | .direct => .direct
  | .relay _ _ => .relay
  | .payload _ _ => .payload

theorem PeerFill.CompletedBy.completionKind_eq {received : PeerFill} {id : FillId}
    {operation : Operation} {outcome : Outcome}
    (completed : received.CompletedBy id operation outcome) :
    operation.completionKind? = some received.message.redeemMode.completionKind := by
  cases completed with
  | direct mode output =>
    rw [mode]
    rfl
  | relay payer feeRecipient now gasDropoff fee payout mode settled =>
    rw [mode]
    rfl
  | payload stagedBy sender body mode output =>
    rw [mode]
    rfl

namespace Deployment

/-- The router holds the fill, its message is well formed, and the registered peer on its chain has
sent it. -/
structure Authentic (deployment : Deployment MemoryRouter) (id : FillId) (received : PeerFill) :
    Prop where
  held : deployment.router.fills.get? id = some received.fill
  decoded : SwapMessage.decode received.fill.redeemerMessage = .ok received.message
  registered : deployment.peers.get? received.fill.sourceChain = some received.peer
  sent : received.fill.orderSender = received.peer.address

/-- An authentic fill with a payload is staged at the moment. -/
structure Moment.StagesPayload (moment : Moment) (id : FillId) (received : PeerFill)
    (stagedBy sender : Address) (body : Bytes) : Prop where
  asked : moment.event = .asked (.completePayload stagedBy id)
  accepted : moment.outcome? = some .done
  authentic : moment.before.Authentic id received
  mode : received.message.redeemMode = .payload sender body
  output : received.message.outputToken = .usdc

/-- An authentic fill with a payload was staged, and nothing was released under its key since. -/
def StagedUnreleased (moments : List Moment) (id : FillId) (received : PeerFill)
    (stagedBy sender : Address) (body : Bytes) : Prop :=
  ∃ earlier staging between, moments = earlier ++ staging :: between ∧
    staging.StagesPayload id received stagedBy sender body ∧
    ∀ moment ∈ between, moment.succeeds (Operation.releases id) = false

section

variable {deployment : Deployment MemoryRouter} {id : FillId} {received : PeerFill}
  {stagedBy sender : Address} {body : Bytes} {record : StagedInbound} {moment : Moment}

theorem authentic_of_readFill (read : deployment.readFill id = .ok received) :
    deployment.Authentic id received := by
  obtain ⟨held, decoded, registered, sent⟩ := readFill_eq_ok_iff.mp read
  exact ⟨held, decoded, registered, sent.symm⟩

theorem Moment.payload_before_or_now (held : moment.after.stagedInbound.get? id = some record) :
    moment.before.stagedInbound.get? id = some record ∨
      ∃ received stagedBy sender body, moment.StagesPayload id received stagedBy sender body ∧
        record = received.toStaged stagedBy sender body := by
  have happens := moment.before.happens moment.event
  rcases happens.payload_before_or_now held with earlier | staged
  · exact .inl earlier
  · obtain ⟨_, _, _, _, asked, given, read, taken, same⟩ := staged
    obtain ⟨mode, output⟩ := PeerFill.payload_eq_ok_iff.mp taken
    exact .inr ⟨_, _, _, _, ⟨asked, given, authentic_of_readFill read, mode, output⟩, same⟩

/-- Where a payload is staged in the end, none has been released under its key. -/
theorem Moment.succeeds_releases_eq_false
    (held : moment.after.stagedInbound.get? id = some record) :
    moment.succeeds (Operation.releases id) = false := by
  cases released : moment.succeeds (Operation.releases id) with
  | false => rfl
  | true =>
    obtain ⟨operation, outcome, releases, effect⟩ := Moment.exists_effect_of_succeeds released
    cases held.symm.trans (effect.payload_taken releases).2

theorem StagedUnreleased.append {moments : List Moment}
    (staged : StagedUnreleased moments id received stagedBy sender body)
    (unreleased : moment.succeeds (Operation.releases id) = false) :
    StagedUnreleased (moments ++ [moment]) id received stagedBy sender body := by
  obtain ⟨earlier, staging, between, rfl, stages, others⟩ := staged
  refine ⟨earlier, staging, between ++ [moment], List.append_assoc _ _ _, stages, ?_⟩
  intro other mem
  rcases List.mem_append.mp mem with mem | mem
  · exact others other mem
  · rw [List.mem_singleton.mp mem]
    exact unreleased

/-- Every staged payload goes back to an authentic fill. -/
theorem exists_stagedUnreleased_of_held (settings : Settings) (router : MemoryRouter)
    (past : List Event)
    (held : ((fresh settings router).run past).stagedInbound.get? id = some record) :
    ∃ received stagedBy sender body,
      StagedUnreleased ((fresh settings router).history past) id received stagedBy sender body ∧
        record = received.toStaged stagedBy sender body := by
  -- The last event decides: the payload was staged before it, and it released none, or by it.
  induction past using List.reverseRecOn with
  | nil => cases held
  | append_singleton past event ih =>
    let moment : Moment := ⟨(fresh settings router).run past, event⟩
    have listed : (fresh settings router).history (past ++ [event]) =
        (fresh settings router).history past ++ [moment] := history_append _ _ _
    rw [run_append] at held
    have left : moment.after.stagedInbound.get? id = some record := held
    rw [listed]
    rcases moment.payload_before_or_now left with earlier | ⟨_, _, _, _, stages, same⟩
    · obtain ⟨received, stagedBy, sender, body, staged, same⟩ := ih earlier
      have unreleased := moment.succeeds_releases_eq_false left
      exact ⟨received, stagedBy, sender, body, staged.append unreleased, same⟩
    · exact ⟨_, _, _, _, ⟨_, moment, [], rfl, stages, nofun⟩, same⟩

end

/-- Payouts are authenticated and go where the message says, at every point of every run. (1)
Whatever completes a fill finds it at the router and consumes it; the registered peer on its chain
has sent its message, which says how it is completed and who is paid. (2) Whoever releases a payload
is the recipient of an authentic fill that was staged under this key, with no release since, and gets
the amount, the source chain, the sender and the payload of that fill, whatever has arrived under
its key in the meantime. (3) Two operations that would both complete a fill complete it in the same
way. -/
theorem payouts_authenticated (settings : Settings) (router : MemoryRouter) (past : List Event)
    (id : FillId) :
    let now := (fresh settings router).run past
    (∀ operation outcome after, now.step operation = (.ok outcome, after) →
      operation.completes id = true →
      ∃ received, now.Authentic id received ∧ received.CompletedBy id operation outcome ∧
        after.router.fills.get? id = none) ∧
    (∀ recipient dstToken beneficiary outcome after,
      now.step (.releaseInbound recipient dstToken beneficiary id) = (.ok outcome, after) →
      ∃ received stagedBy sender body,
        StagedUnreleased ((fresh settings router).history past) id received stagedBy sender body ∧
        recipient = received.message.recipient ∧
        outcome = .released ⟨dstToken, received.fill.amount, beneficiary,
          received.fill.sourceChain, sender, body⟩) ∧
    ∀ first second given other, (now.step first).1 = .ok given → (now.step second).1 = .ok other →
      first.completes id = true → second.completes id = true →
      first.completionKind? = second.completionKind? := by
  intro now
  refine ⟨?_, ?_, ?_⟩
  · intro operation outcome after accepted completes
    obtain ⟨received, read, completed, consumed⟩ :=
      (effect_of_step_eq_ok accepted).completed completes
    exact ⟨received, authentic_of_readFill read, completed, consumed⟩
  · intro recipient dstToken beneficiary outcome after accepted
    obtain ⟨result, performed, rfl⟩ := perform_map_eq_ok_iff.mp accepted
    obtain ⟨record, held, rfl, rfl, -⟩ := perform_releaseInbound_eq_ok_iff.mp performed
    obtain ⟨received, stagedBy, sender, body, staged, rfl⟩ :=
      exists_stagedUnreleased_of_held settings router past held
    exact ⟨received, stagedBy, sender, body, staged, rfl, rfl⟩
  · intro first second given other firstAccepted secondAccepted firstCompletes secondCompletes
    obtain ⟨received, read, completed, -⟩ :=
      (effect_of_step_eq_ok (Prod.ext firstAccepted rfl)).completed firstCompletes
    obtain ⟨again, reread, recompleted, -⟩ :=
      (effect_of_step_eq_ok (Prod.ext secondAccepted rfl)).completed secondCompletes
    cases read.symm.trans reread
    exact completed.completionKind_eq.trans recompleted.completionKind_eq.symm

/-- What is released is the payload that was staged, though another fill was delivered and collected
under its key since. -/
theorem redelivered_payout_authenticated :
    let start := fresh (.standard 1) MemoryRouter.empty
    let collecting := redelivery.take 6
    let releasing := redelivery.take 8
    (∃ received, (start.run collecting).Authentic 9 received ∧
      received.CompletedBy 9 (.completeDirect 7 9) (.paidDirect ⟨7, 3⟩)) ∧
    ∃ received stagedBy sender body,
      StagedUnreleased (start.history releasing) 9 received stagedBy sender body ∧
      (7 : Address) = received.message.recipient ∧
      Outcome.released ⟨31, 4, 32, 2, 6, [5]⟩ =
        .released ⟨31, received.fill.amount, 32, received.fill.sourceChain, sender, body⟩ := by
  intro start collecting releasing
  obtain ⟨completions, -, -⟩ := payouts_authenticated (.standard 1) .empty collecting 9
  obtain ⟨-, releases, -⟩ := payouts_authenticated (.standard 1) .empty releasing 9
  constructor
  · obtain ⟨received, authentic, completed, -⟩ :=
      completions (.completeDirect 7 9) (.paidDirect ⟨7, 3⟩) _ rfl rfl
    exact ⟨received, authentic, completed⟩
  · exact releases 7 31 32 _ _ rfl

end Deployment
end SwapRelay
