import SwapRelay.Proofs.Invariants

/-!
# Settlement at most once

Fills, staged transfers and staged payloads are records that operations take away. A record that has
been taken is gone for everyone until it is brought in again, so over any run it is taken at most as
often as it came in. The three kinds of records differ in what takes them and in what brings them in:
a fill is delivered and completed, a staged payload is staged by a completion and released, and a
number of a staged transfer is never given out again.
-/

namespace SwapRelay

def Event.delivers (id : FillId) : Event → Bool
  | .delivered other _ => other == id
  | .asked _ => false

namespace Operation

def completes (id : FillId) : Operation → Bool
  | .completeDirect _ other | .completeRelay _ _ other _ | .completePayload _ other => other == id
  | _ => false

def stagesPayload (id : FillId) : Operation → Bool
  | .completePayload _ other => other == id
  | _ => false

def releases (id : FillId) : Operation → Bool
  | .releaseInbound _ _ _ other => other == id
  | _ => false

def endsStaging (id : StagedId) : Operation → Bool
  | .closeStagedOutbound _ other | .initiateTransfer _ _ other => other == id
  | _ => false

theorem IsAdministrative.takes_nothing {operation : Operation}
    (administrative : operation.IsAdministrative) :
    (∀ id, operation.completes id = false) ∧ (∀ id, operation.releases id = false) ∧
      ∀ id, operation.endsStaging id = false := by
  cases operation with
  | stageOutbound _ | closeStagedOutbound _ _ | initiateTransfer _ _ _ | completeDirect _ _
  | completeRelay _ _ _ _ | completePayload _ _ | releaseInbound _ _ _ _ =>
    exact administrative.elim
  | _ => exact ⟨fun _ => rfl, fun _ => rfl, fun _ => rfl⟩

end Operation

/-- How a fill is completed that has been read: in the mode of its message, and a payout goes to the
recipient that the message names. -/
inductive PeerFill.CompletedBy (received : PeerFill) (id : FillId) : Operation → Outcome → Prop
  | direct (mode : received.message.redeemMode = .direct)
      (output : received.message.outputToken = .usdc) :
    received.CompletedBy id (.completeDirect received.message.recipient id)
      (.paidDirect ⟨received.message.recipient, received.fill.amount⟩)
  | relay (payer feeRecipient : Address) (now : Int64) (gasDropoff : GasDropoff) (fee : Word 6)
      (payout : RelayPayout) (mode : received.message.redeemMode = .relay gasDropoff fee)
      (settled : payout.Settles payer received.message.recipient feeRecipient
        received.fill.amount gasDropoff fee) :
    received.CompletedBy id (.completeRelay payer received.message.recipient id now)
      (.paidRelay payout)
  | payload (stagedBy sender : Address) (body : Bytes)
      (mode : received.message.redeemMode = .payload sender body)
      (output : received.message.outputToken = .usdc) :
    received.CompletedBy id (.completePayload stagedBy id) .done

namespace Deployment

/-- An operation of this kind is asked for and not refused. -/
def Moment.succeeds (kind : Operation → Bool) : Moment → Bool
  | ⟨before, .asked operation⟩ => kind operation && (before.outcome? (.asked operation)).isSome
  | ⟨_, .delivered _ _⟩ => false

theorem Moment.exists_effect_of_succeeds {kind : Operation → Bool} {moment : Moment}
    (succeeds : moment.succeeds kind = true) :
    ∃ operation outcome, kind operation = true ∧
      moment.before.Effect operation outcome moment.after := by
  obtain ⟨before, event⟩ := moment
  have happens := before.happens event
  cases event with
  | delivered id fill => cases succeeds
  | asked operation =>
    obtain ⟨ofKind, accepted⟩ := Bool.and_eq_true_iff.mp succeeds
    obtain ⟨outcome, given⟩ := Option.isSome_iff_exists.mp accepted
    rw [given] at happens
    cases happens with
    | accepted _ outcome after effect => exact ⟨operation, outcome, ofKind, effect⟩

def successes (deployment : Deployment MemoryRouter) (kind : Operation → Bool)
    (events : List Event) : Nat :=
  (deployment.history events).countP (Moment.succeeds kind)

theorem countP_history_cons (deployment : Deployment MemoryRouter) (event : Event)
    (later : List Event) (counted : Moment → Bool) :
    (deployment.history (event :: later)).countP counted =
      (counted ⟨deployment, event⟩).toNat +
        ((deployment.after event).history later).countP counted := by
  rw [history, List.countP_cons, Nat.add_comm]
  cases counted ⟨deployment, event⟩ <;> rfl

theorem countP_history_event (deployment : Deployment MemoryRouter) (events : List Event)
    (counted : Event → Bool) :
    (deployment.history events).countP (fun moment => counted moment.event) =
      events.countP counted := by
  induction events generalizing deployment with
  | nil => rfl
  | cons event later ih =>
    rw [countP_history_cons, ih, List.countP_cons, Nat.add_comm]
    cases counted event <;> rfl

/-- Whatever happens from here on, the operations of a kind are refused for one reason until a
moment at which their record is brought in. -/
def RefusedUntil (deployment : Deployment MemoryRouter) (kind : Operation → Bool)
    (fault : SwapError) (renews : Moment → Bool) : Prop :=
  ∀ later, (∀ moment ∈ deployment.history later, renews moment = false) →
    ∀ operation, kind operation = true → ((deployment.run later).step operation).1 = .error fault

/-- Records of one kind under one key. -/
structure Supply where
  /-- There is a record to take, or there may still be one without a renewal. -/
  available : Deployment MemoryRouter → Bool
  /-- The operations that take the record. -/
  takes : Operation → Bool
  /-- The moments at which a record is brought in. -/
  renews : Moment → Bool
  /-- Why an operation is refused that finds no record. -/
  fault : SwapError

/-- What is taken was there and is gone, and it stays gone until it is brought in. -/
structure Supply.Lawful (supply : Supply) : Prop where
  taken : ∀ before operation outcome after, before.Numbered →
    before.Effect operation outcome after → supply.takes operation = true →
    supply.available before = true ∧ supply.available after = false
  gone : ∀ moment, moment.before.Numbered → supply.renews moment = false →
    supply.available moment.before = false → supply.available moment.after = false
  refused : ∀ deployment operation, supply.takes operation = true →
    supply.available deployment = false → deployment.Refuses operation.action supply.fault

namespace Supply.Lawful

variable {supply : Supply} {deployment : Deployment MemoryRouter}

/-- A moment at which the record is taken finds it and leaves none. -/
theorem taken_of_succeeds (lawful : supply.Lawful) {moment : Moment}
    (numbered : moment.before.Numbered) (succeeds : moment.succeeds supply.takes = true) :
    supply.available moment.before = true ∧ supply.available moment.after = false := by
  obtain ⟨operation, outcome, takes, effect⟩ := Moment.exists_effect_of_succeeds succeeds
  exact lawful.taken _ _ _ _ numbered effect takes

theorem moment_le (lawful : supply.Lawful) (moment : Moment) (numbered : moment.before.Numbered) :
    (moment.succeeds supply.takes).toNat + (supply.available moment.after).toNat ≤
      (supply.renews moment).toNat + (supply.available moment.before).toNat := by
  cases succeeds : moment.succeeds supply.takes with
  | true =>
    obtain ⟨held, left⟩ := lawful.taken_of_succeeds numbered succeeds
    simp [held, left]
  | false =>
    have gone := lawful.gone moment numbered
    cases renews : supply.renews moment with
    | true => cases supply.available moment.after <;> simp
    | false =>
      cases held : supply.available moment.before with
      | true => cases supply.available moment.after <;> simp
      | false =>
        have left : supply.available moment.after = false := gone renews held
        simp [left]

theorem successes_le (lawful : supply.Lawful) (events : List Event) (numbered : deployment.Numbered) :
    deployment.successes supply.takes events + (supply.available (deployment.run events)).toNat ≤
      (deployment.history events).countP supply.renews + (supply.available deployment).toNat := by
  induction events generalizing deployment with
  | nil => simp [successes, history, run]
  | cons event later ih =>
    have here := lawful.moment_le ⟨deployment, event⟩ numbered
    have there := ih ((deployment.happens event).numbered numbered)
    have same : deployment.run (event :: later) = (deployment.after event).run later := rfl
    change _ + (supply.available (deployment.after event)).toNat ≤
      _ + (supply.available deployment).toNat at here
    unfold successes at *
    rw [same, countP_history_cons, countP_history_cons]
    omega

/-- At most what was there and what is brought in is taken. -/
theorem successes_le_renewals (lawful : supply.Lawful) (events : List Event)
    (numbered : deployment.Numbered) :
    deployment.successes supply.takes events ≤
      (deployment.history events).countP supply.renews + (supply.available deployment).toNat :=
  Nat.le_trans (Nat.le_add_right _ _) (lawful.successes_le events numbered)

theorem gone_run (lawful : supply.Lawful) (later : List Event) (numbered : deployment.Numbered)
    (absent : supply.available deployment = false)
    (unrenewed : ∀ moment ∈ deployment.history later, supply.renews moment = false) :
    supply.available (deployment.run later) = false := by
  induction later generalizing deployment with
  | nil => exact absent
  | cons event later ih =>
    obtain ⟨here, there⟩ := List.forall_mem_cons.mp unrenewed
    have left := lawful.gone ⟨deployment, event⟩ numbered here absent
    exact ih ((deployment.happens event).numbered numbered) left there

/-- Whoever comes after the record has been taken is refused. -/
theorem refusedUntil (lawful : supply.Lawful) {moment : Moment}
    (numbered : moment.before.Numbered) (succeeds : moment.succeeds supply.takes = true) :
    moment.after.RefusedUntil supply.takes supply.fault supply.renews := by
  intro later unrenewed operation takes
  have absent := (lawful.taken_of_succeeds numbered succeeds).2
  have numbered := (moment.before.happens moment.event).numbered numbered
  exact lawful.refused _ operation takes (lawful.gone_run later numbered absent unrenewed)

end Supply.Lawful

def fillSupply (id : FillId) : Supply where
  available deployment := (deployment.router.fills.get? id).isSome
  takes := Operation.completes id
  renews moment := moment.event.delivers id
  fault := .fillNotFound

def payloadSupply (id : FillId) : Supply where
  available deployment := (deployment.stagedInbound.get? id).isSome
  takes := Operation.releases id
  renews := Moment.succeeds (Operation.stagesPayload id)
  fault := .stagedInboundNotFound

/-- The transfer staged under a number. A number that has not been given out yet counts as available,
so that nothing ever renews it. -/
def stagingSupply (id : StagedId) : Supply where
  available deployment :=
    (deployment.stagedOutbound.get? id).isSome || decide (deployment.nextStagedOutbound ≤ id)
  takes := Operation.endsStaging id
  renews _ := false
  fault := .stagedOutboundNotFound

section Laws

variable {deployment : Deployment MemoryRouter}

theorem readFill_eq_error {id : FillId} (absent : deployment.router.fills.get? id = none) :
    deployment.readFill id = .error .fillNotFound := by
  unfold readFill
  rw [MemoryRouter.tokenRouter_fill?, absent]

theorem refuses_completion {id : FillId} (absent : deployment.router.fills.get? id = none)
    {operation : Operation} (completes : operation.completes id = true) :
    deployment.Refuses operation.action .fillNotFound := by
  have unread := readFill_eq_error absent
  cases operation with
  | completeDirect recipient other =>
    obtain rfl := beq_iff_eq.mp completes
    exact .bind (.get (.check unread))
  | completeRelay payer recipient other now =>
    obtain rfl := beq_iff_eq.mp completes
    have unpayable : deployment.payableRelay payer recipient other now = .error .fillNotFound := by
      rw [payableRelay, unread]
      rfl
    exact .bind (.get (.check unpayable))
  | completePayload stagedBy other =>
    obtain rfl := beq_iff_eq.mp completes
    have unstaged : deployment.unstagedPayload other = .error .fillNotFound := by
      rw [unstagedPayload, unread]
      rfl
    exact .bind (.get (.check unstaged))
  | _ => cases completes

theorem refuses_release {id : FillId} (absent : deployment.stagedInbound.get? id = none)
    {operation : Operation} (releases : operation.releases id = true) :
    deployment.Refuses operation.action .stagedInboundNotFound := by
  cases operation with
  | releaseInbound recipient dstToken beneficiary other =>
    obtain rfl := beq_iff_eq.mp releases
    have unstaged : deployment.requireStagedInbound other = .error .stagedInboundNotFound := by
      rw [requireStagedInbound, absent]
    exact .bind (.get (.check unstaged))
  | _ => cases releases

theorem refuses_endOfStaging {id : StagedId} (absent : deployment.stagedOutbound.get? id = none)
    {operation : Operation} (ends : operation.endsStaging id = true) :
    deployment.Refuses operation.action .stagedOutboundNotFound := by
  have unstaged : deployment.requireStagedOutbound id = .error .stagedOutboundNotFound := by
    rw [requireStagedOutbound, absent]
  cases operation with
  | closeStagedOutbound sender other =>
    obtain rfl := beq_iff_eq.mp ends
    exact .bind (.get (.check unstaged))
  | initiateTransfer payer refundToken other =>
    obtain rfl := beq_iff_eq.mp ends
    have unordered : deployment.orderFor payer refundToken other =
        .error .stagedOutboundNotFound := by
      rw [orderFor, unstaged]
      rfl
    exact .bind (.get (.check unordered))
  | _ => cases ends

variable {before after : Deployment MemoryRouter}

theorem get?_dropFill_self (deployment : Deployment MemoryRouter) (id : FillId) :
    (deployment.dropFill id).router.fills.get? id = none := by
  change (deployment.router.fills.erase id).get? id = none
  exact Table.get?_erase_self _ _

theorem Effect.completed {id : FillId} {operation : Operation} {outcome : Outcome}
    (effect : before.Effect operation outcome after) (completes : operation.completes id = true) :
    ∃ received, before.readFill id = .ok received ∧ received.CompletedBy id operation outcome ∧
      after.router.fills.get? id = none := by
  have dropped := before.get?_dropFill_self id
  cases effect with
  | appointed _ administrative custodian =>
    rw [administrative.takes_nothing.1 id] at completes
    cases completes
  | registered _ administrative custodian charged peers =>
    rw [administrative.takes_nothing.1 id] at completes
    cases completes
  | paidDirect recipient other received read directed =>
    obtain rfl := beq_iff_eq.mp completes
    obtain ⟨mode, output, rfl⟩ := PeerFill.requireDirect_eq_ok_iff.mp directed
    exact ⟨received, read, .direct mode output, dropped⟩
  | paidRelay payer recipient other now received custodian gasDropoff fee payout read relayed
      payable settled =>
    obtain rfl := beq_iff_eq.mp completes
    obtain ⟨mode, rfl⟩ := PeerFill.relayTo_eq_ok_iff.mp relayed
    exact ⟨received, read, .relay payer _ now gasDropoff fee payout mode settled, dropped⟩
  | stagedInbound stagedBy sender body other received read taken vacant =>
    obtain rfl := beq_iff_eq.mp completes
    obtain ⟨mode, output⟩ := PeerFill.payload_eq_ok_iff.mp taken
    exact ⟨received, read, .payload stagedBy sender body mode output, dropped⟩
  | _ => cases completes

theorem Happens.fill_absent {id : FillId} {event : Event} {outcome? : Option Outcome}
    (happens : before.Happens event outcome? after) (undelivered : event.delivers id = false)
    (absent : before.router.fills.get? id = none) : after.router.fills.get? id = none := by
  have erased (other : FillId) : (before.dropFill other).router.fills.get? id = none := by
    change (before.router.fills.erase other).get? id = none
    exact Table.get?_erase_of_vacant other absent
  cases happens with
  | delivered other fill =>
    have different : id ≠ other := (beq_eq_false_iff_ne.mp undelivered).symm
    change (before.router.fills.insert other fill).get? id = none
    rw [Table.get?_insert_of_ne different, absent]
  | refused operation => exact absent
  | accepted operation outcome after effect =>
    cases effect with
    | paidDirect recipient other received read directed => exact erased other
    | paidRelay payer recipient other now received custodian gasDropoff fee payout read relayed
        payable settled => exact erased other
    | stagedInbound stagedBy sender body other received read taken vacant => exact erased other
    | _ => exact absent

theorem fillSupply_available_eq_false_iff {id : FillId} :
    (fillSupply id).available deployment = false ↔ deployment.router.fills.get? id = none := by
  simp [fillSupply]

theorem fillSupply_lawful (id : FillId) : (fillSupply id).Lawful where
  taken before operation outcome after _ effect completes := by
    obtain ⟨received, read, -, dropped⟩ := effect.completed completes
    have held : before.router.fills.get? id = some received.fill := (readFill_eq_ok_iff.mp read).1
    refine ⟨?_, fillSupply_available_eq_false_iff.mpr dropped⟩
    exact Option.isSome_iff_exists.mpr ⟨received.fill, held⟩
  gone moment _ undelivered absent := by
    have happens := moment.before.happens moment.event
    have absent := fillSupply_available_eq_false_iff.mp absent
    exact fillSupply_available_eq_false_iff.mpr (happens.fill_absent undelivered absent)
  refused deployment operation completes absent :=
    refuses_completion (fillSupply_available_eq_false_iff.mp absent) completes

theorem Effect.payload_taken {id : FillId} {operation : Operation} {outcome : Outcome}
    (effect : before.Effect operation outcome after) (releases : operation.releases id = true) :
    (∃ staged, before.stagedInbound.get? id = some staged) ∧
      after.stagedInbound.get? id = none := by
  cases effect with
  | appointed _ administrative custodian =>
    rw [administrative.takes_nothing.2.1 id] at releases
    cases releases
  | registered _ administrative custodian charged peers =>
    rw [administrative.takes_nothing.2.1 id] at releases
    cases releases
  | released dstToken beneficiary other staged held =>
    obtain rfl := beq_iff_eq.mp releases
    exact ⟨⟨staged, held⟩, Table.get?_erase_self _ _⟩
  | _ => cases releases

theorem Happens.payload_before_or_now {id : FillId} {event : Event} {outcome? : Option Outcome}
    {record : StagedInbound} (happens : before.Happens event outcome? after)
    (held : after.stagedInbound.get? id = some record) :
    before.stagedInbound.get? id = some record ∨
      ∃ received stagedBy sender body, event = .asked (.completePayload stagedBy id) ∧
        outcome? = some .done ∧ before.readFill id = .ok received ∧
        received.payload = .ok (sender, body) ∧
        record = received.toStaged stagedBy sender body := by
  cases happens with
  | delivered other fill => exact .inl held
  | refused operation => exact .inl held
  | accepted operation outcome after effect =>
    cases effect with
    | stagedInbound stagedBy sender body other received read taken vacant =>
      rw [Table.get?_insert] at held
      split at held
      · rename_i same
        subst same
        cases held
        exact .inr ⟨received, stagedBy, sender, body, rfl, rfl, read, taken, rfl⟩
      · exact .inl held
    | released dstToken beneficiary other found there =>
      exact .inl (Table.get?_eq_some_of_erase held)
    | _ => exact .inl held

theorem Happens.payload_absent {id : FillId} {event : Event} {outcome? : Option Outcome}
    (happens : before.Happens event outcome? after)
    (unstaged : ∀ operation, event = .asked operation → outcome?.isSome = true →
      operation.stagesPayload id = false)
    (absent : before.stagedInbound.get? id = none) : after.stagedInbound.get? id = none := by
  cases held : after.stagedInbound.get? id with
  | none => rfl
  | some record =>
    rcases happens.payload_before_or_now held with earlier | ⟨_, stagedBy, _, _, rfl, rfl, -⟩
    · cases absent.symm.trans earlier
    · have stages : (Operation.completePayload stagedBy id).stagesPayload id = true :=
        beq_self_eq_true id
      cases stages.symm.trans (unstaged _ rfl rfl)

theorem payloadSupply_available_eq_false_iff {id : FillId} :
    (payloadSupply id).available deployment = false ↔ deployment.stagedInbound.get? id = none := by
  simp [payloadSupply]

theorem payloadSupply_lawful (id : FillId) : (payloadSupply id).Lawful where
  taken before operation outcome after _ effect releases := by
    obtain ⟨held, removed⟩ := effect.payload_taken releases
    exact ⟨Option.isSome_iff_exists.mpr held, payloadSupply_available_eq_false_iff.mpr removed⟩
  gone moment _ unstaged absent := by
    obtain ⟨before, event⟩ := moment
    have happens := before.happens event
    have absent := payloadSupply_available_eq_false_iff.mp absent
    refine payloadSupply_available_eq_false_iff.mpr (happens.payload_absent ?_ absent)
    rintro operation rfl accepted
    change (operation.stagesPayload id && (before.outcome? (.asked operation)).isSome) = false
      at unstaged
    rwa [accepted, Bool.and_true] at unstaged
  refused deployment operation releases absent :=
    refuses_release (payloadSupply_available_eq_false_iff.mp absent) releases

theorem Effect.staging_ended {id : StagedId} {operation : Operation} {outcome : Outcome}
    (effect : before.Effect operation outcome after) (ends : operation.endsStaging id = true) :
    (∃ staged, before.stagedOutbound.get? id = some staged) ∧
      after.stagedOutbound.get? id = none ∧
      after.nextStagedOutbound = before.nextStagedOutbound := by
  have erased := before.stagedOutbound.get?_erase_self id
  cases effect with
  | appointed _ administrative custodian =>
    rw [administrative.takes_nothing.2.2 id] at ends
    cases ends
  | registered _ administrative custodian charged peers =>
    rw [administrative.takes_nothing.2.2 id] at ends
    cases ends
  | closed number staged held =>
    obtain rfl := beq_iff_eq.mp ends
    exact ⟨⟨staged, held⟩, erased, rfl⟩
  | initiated payer refundToken number order next ordered follows =>
    obtain rfl := beq_iff_eq.mp ends
    obtain ⟨staged, peer, requoted, message, held, -⟩ := orderFor_eq_ok_iff.mp ordered
    exact ⟨⟨staged, held⟩, erased, rfl⟩
  | _ => cases ends

theorem Happens.staging_absent {id : StagedId} {event : Event} {outcome? : Option Outcome}
    (happens : before.Happens event outcome? after)
    (absent : before.stagedOutbound.get? id = none ∧ id < before.nextStagedOutbound) :
    after.stagedOutbound.get? id = none ∧ id < after.nextStagedOutbound := by
  obtain ⟨vacant, given⟩ := absent
  have erased (other : StagedId) := Table.get?_erase_of_vacant other vacant
  cases happens with
  | delivered other fill => exact ⟨vacant, given⟩
  | refused operation => exact ⟨vacant, given⟩
  | accepted operation outcome after effect =>
    cases effect with
    | staged request record next accepted follows =>
      have different : id ≠ before.nextStagedOutbound := Fin.ne_of_lt given
      refine ⟨?_, Fin.lt_trans given (Word.lt_of_val_eq_succ follows)⟩
      rw [Table.get?_insert_of_ne different, vacant]
    | closed number record held => exact ⟨erased number, given⟩
    | initiated payer refundToken number order next ordered follows => exact ⟨erased number, given⟩
    | _ => exact ⟨vacant, given⟩

theorem stagingSupply_available_eq_false_iff {id : StagedId} :
    (stagingSupply id).available deployment = false ↔
      deployment.stagedOutbound.get? id = none ∧ id < deployment.nextStagedOutbound := by
  simp [stagingSupply]

theorem stagingSupply_lawful (id : StagedId) : (stagingSupply id).Lawful where
  taken before operation outcome after numbered effect ends := by
    obtain ⟨⟨staged, held⟩, removed, same⟩ := effect.staging_ended ends
    have given : id < before.nextStagedOutbound := numbered.staged_below id staged held
    rw [← same] at given
    refine ⟨?_, stagingSupply_available_eq_false_iff.mpr ⟨removed, given⟩⟩
    simp [stagingSupply, held]
  gone moment _ _ absent := by
    have happens := moment.before.happens moment.event
    have absent := stagingSupply_available_eq_false_iff.mp absent
    exact stagingSupply_available_eq_false_iff.mpr (happens.staging_absent absent)
  refused deployment operation ends absent :=
    refuses_endOfStaging (stagingSupply_available_eq_false_iff.mp absent).1 ends

end Laws

/-- Each record is taken at most once, at every point of every run. (1) A fill is completed at most
as often as it is delivered, and after a completion all who try to complete it find no fill until it
is delivered again. (2) A staged transfer is closed or initiated at most once, and after that all who
try find nothing staged, for ever. (3) A payload is released at most as often as it is staged, and
after a release all who try find nothing staged until its fill is completed with a payload again.
(4) These refusals say that a record is missing. -/
theorem settled_at_most_once (settings : Settings) (events : List Event) :
    (∀ id,
      (fresh settings .empty).successes (Operation.completes id) events ≤
          events.countP (Event.delivers id) ∧
        ∀ moment ∈ (fresh settings .empty).history events,
          moment.succeeds (Operation.completes id) = true →
          moment.after.RefusedUntil (Operation.completes id) .fillNotFound
            fun later => later.event.delivers id) ∧
      (∀ id,
        (fresh settings .empty).successes (Operation.endsStaging id) events ≤ 1 ∧
          ∀ moment ∈ (fresh settings .empty).history events,
            moment.succeeds (Operation.endsStaging id) = true →
            moment.after.RefusedUntil (Operation.endsStaging id) .stagedOutboundNotFound
              fun _ => false) ∧
      (∀ id,
        (fresh settings .empty).successes (Operation.releases id) events ≤
            (fresh settings .empty).successes (Operation.stagesPayload id) events ∧
          ∀ moment ∈ (fresh settings .empty).history events,
            moment.succeeds (Operation.releases id) = true →
            moment.after.RefusedUntil (Operation.releases id) .stagedInboundNotFound
              (Moment.succeeds (Operation.stagesPayload id))) ∧
      SwapError.fillNotFound.isStateError = true ∧
      SwapError.stagedOutboundNotFound.isStateError = true ∧
      SwapError.stagedInboundNotFound.isStateError = true := by
  have numbered := numbered_fresh settings
  have numberedAt : ∀ moment ∈ (fresh settings .empty).history events, moment.before.Numbered :=
    history_invariant (fun _ _ _ _ happens => happens.numbered) numbered
  refine ⟨fun id => ⟨?_, ?_⟩, fun id => ⟨?_, ?_⟩, fun id => ⟨?_, ?_⟩, rfl, rfl, rfl⟩
  · have bound := (fillSupply_lawful id).successes_le_renewals events numbered
    have delivered := countP_history_event (fresh settings .empty) events (Event.delivers id)
    rwa [← delivered]
  · intro moment mem succeeds
    exact (fillSupply_lawful id).refusedUntil (numberedAt moment mem) succeeds
  · have bound := (stagingSupply_lawful id).successes_le_renewals events numbered
    have unrenewed : ((fresh settings .empty).history events).countP (stagingSupply id).renews = 0 :=
      congrFun List.countP_false _
    have once := Bool.toNat_le ((stagingSupply id).available (fresh settings .empty))
    rw [unrenewed, Nat.zero_add] at bound
    exact Nat.le_trans bound once
  · intro moment mem succeeds
    exact (stagingSupply_lawful id).refusedUntil (numberedAt moment mem) succeeds
  · exact (payloadSupply_lawful id).successes_le_renewals events numbered
  · intro moment mem succeeds
    exact (payloadSupply_lawful id).refusedUntil (numberedAt moment mem) succeeds

/-- A fill that is to be collected arrives under the key of a payload that is still staged. -/
def redelivery : List Event :=
  [ .asked (.install 11 12 13 14),
    .asked (.addPeer 11 2 21 ⟨1, 1, .zero, 0, none, Settings.standardTimeLimit⟩),
    .delivered 9 ⟨2, 21,
      1 :: List.replicate 31 0 ++ [7] ++ 1 :: List.replicate 31 0 ++ [6] ++ [0, 1, 5] ++ [0],
      .fastFill, 0, 4⟩,
    .asked (.completePayload 8 9),
    .delivered 9 ⟨2, 21, 1 :: List.replicate 31 0 ++ [7] ++ [0] ++ [0], .fastFill, 0, 3⟩,
    .asked (.completePayload 8 9),
    .asked (.completeDirect 7 9),
    .asked (.completeDirect 7 9),
    .asked (.releaseInbound 7 31 32 9),
    .asked (.releaseInbound 7 31 32 9) ]

example : redelivery.countP (Event.delivers 9) = 2 ∧
    (fresh (.standard 1) .empty).successes (Operation.completes 9) redelivery = 2 ∧
    (fresh (.standard 1) .empty).successes (Operation.releases 9) redelivery = 1 := by
  decide +kernel

end Deployment
end SwapRelay
