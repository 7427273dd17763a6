import Mathlib
import SwapRelay.Proofs.Invariants

/-!
# Conservation of USDC

What comes in is held by the router, staged, or has been paid out, and what is taken into custody
for another chain is staged, has been returned, or is part of an order. Both balances hold after
every run, since each event moves the same amount on either side. Nothing is lost because nothing is
written over: a payload is staged only under a key that is free, and numbers are never used twice.
-/

namespace SwapRelay

namespace Table

variable {n : Nat} {α : Type} (measure : α → Nat)

def sum (table : Table n α) : Nat := (table.entries.map fun entry => measure entry.2).sum

theorem sum_insertEntry {key : Word n} {value : α} {entries : List (Word n × α)}
    (vacant : entries.lookup key = none) :
    ((insertEntry key value entries).map fun entry => measure entry.2).sum =
      measure value + (entries.map fun entry => measure entry.2).sum := by
  induction entries with
  | nil => rfl
  | cons head rest ih =>
    have different : key ≠ head.1 := by
      intro same
      simp [lookup_cons_eq_ite, same] at vacant
    have vacant : rest.lookup key = none := by
      simpa [lookup_cons_eq_ite, different] using vacant
    have := ih vacant
    unfold insertEntry
    split
    · simp only [List.map_cons, List.sum_cons]
    · simp only [List.map_cons, List.sum_cons]
      omega

theorem sum_filter_ne {key : Word n} {value : α} {entries : List (Word n × α)}
    (ascending : entries.Pairwise fun a b => a.1 < b.1) (held : entries.lookup key = some value) :
    measure value +
        ((entries.filter fun entry => entry.1 != key).map fun entry => measure entry.2).sum =
      (entries.map fun entry => measure entry.2).sum := by
  induction entries with
  | nil => cases held
  | cons head rest ih =>
    obtain ⟨above, tail⟩ := List.pairwise_cons.mp ascending
    by_cases same : key = head.1
    · subst same
      have others : rest.filter (fun entry => entry.1 != head.1) = rest := by
        refine List.filter_eq_self.mpr fun entry mem => ?_
        exact bne_iff_ne.mpr (above entry mem).ne'
      have first : head.2 = value := by simpa [lookup_cons_eq_ite] using held
      simp [others, first]
    · have held : rest.lookup key = some value := by
        simpa [lookup_cons_eq_ite, same] using held
      have := ih tail held
      have kept : (head.1 != key) = true := bne_iff_ne.mpr (Ne.symm same)
      simp only [List.filter_cons, kept, if_true, List.map_cons, List.sum_cons]
      omega

theorem sum_insert {table : Table n α} {key : Word n} (value : α)
    (vacant : table.get? key = none) :
    (table.insert key value).sum measure = measure value + table.sum measure :=
  sum_insertEntry measure vacant

theorem sum_erase {table : Table n α} {key : Word n} {value : α}
    (held : table.get? key = some value) :
    measure value + (table.erase key).sum measure = table.sum measure :=
  sum_filter_ne measure table.ascending held

@[simp] theorem sum_empty : (empty : Table n α).sum measure = 0 := rfl

end Table

def Event.deliveredAmount : Event → Nat
  | .delivered _ fill => fill.amount.val
  | .asked _ => 0

namespace Outcome

def directAmount : Outcome → Nat
  | .paidDirect payout => payout.amount.val
  | _ => 0

def relayAmount : Outcome → Nat
  | .paidRelay payout => payout.userAmount.val + payout.fee.val
  | _ => 0

def releasedAmount : Outcome → Nat
  | .released result => result.amount.val
  | _ => 0

def refundedAmount : Outcome → Nat
  | .refunded refund => refund.amount.val
  | _ => 0

def paidAmount (outcome : Outcome) : Nat :=
  outcome.directAmount + outcome.relayAmount + outcome.releasedAmount

def stagedId? : Outcome → Option StagedId
  | .staged id => some id
  | _ => none

end Outcome

namespace Deployment

/-- A fill that is delivered does not take the place of another one. -/
def Moment.LandsVacant : Moment → Prop
  | ⟨before, .delivered id _⟩ => before.router.fills.get? id = none
  | ⟨_, .asked _⟩ => True

instance : ∀ moment : Moment, Decidable moment.LandsVacant
  | ⟨before, .delivered id _⟩ => inferInstanceAs (Decidable (before.router.fills.get? id = none))
  | ⟨_, .asked _⟩ => .isTrue trivial

/-- The USDC from other chains that is in custody. -/
def inboundCustody (deployment : Deployment MemoryRouter) : Nat :=
  deployment.router.fills.sum (·.amount.val) + deployment.stagedInbound.sum (·.custodyAmount.val)

section Inbound

variable {before after : Deployment MemoryRouter}

theorem inboundCustody_dropFill {id : FillId} {received : PeerFill}
    (read : before.readFill id = .ok received) :
    before.inboundCustody = (before.dropFill id).inboundCustody + received.fill.amount.val := by
  have erased := Table.sum_erase (fun fill : Fill => fill.amount.val) (readFill_eq_ok_iff.mp read).1
  unfold inboundCustody dropFill
  dsimp only
  omega

theorem Effect.inboundCustody_eq {operation : Operation} {outcome : Outcome}
    (effect : before.Effect operation outcome after) :
    before.inboundCustody = after.inboundCustody + outcome.paidAmount := by
  cases effect with
  | appointed _ administrative custodian => rfl
  | registered _ administrative custodian charged peers => rfl
  | staged request record next accepted follows => rfl
  | closed id record held => rfl
  | initiated payer refundToken id order next ordered follows => rfl
  | paidDirect recipient id received read directed => exact inboundCustody_dropFill read
  | paidRelay payer recipient id now received custodian gasDropoff fee payout read relayed
      payable settled =>
    have split : (Outcome.paidRelay payout).paidAmount = received.fill.amount.val := by
      rw [← settled.sum_eq]
      exact Nat.zero_add _
    rw [split]
    exact inboundCustody_dropFill read
  | stagedInbound stagedBy sender body id received read taken vacant =>
    -- The amount only moves from the fill to what is staged of it.
    have dropped := inboundCustody_dropFill read
    have added := Table.sum_insert (fun staged : StagedInbound => staged.custodyAmount.val)
      (received.toStaged stagedBy sender body) vacant
    have amount : (received.toStaged stagedBy sender body).custodyAmount =
        received.fill.amount := rfl
    rw [amount] at added
    unfold inboundCustody dropFill at *
    dsimp only [Outcome.paidAmount, Outcome.directAmount, Outcome.relayAmount,
      Outcome.releasedAmount] at *
    omega
  | released dstToken beneficiary id record held =>
    have erased := Table.sum_erase (fun staged : StagedInbound => staged.custodyAmount.val) held
    unfold inboundCustody
    dsimp only [Outcome.paidAmount, Outcome.directAmount, Outcome.relayAmount,
      Outcome.releasedAmount]
    omega

/-- What comes in is held or paid out. -/
theorem Happens.inboundCustody_eq {event : Event} {outcome? : Option Outcome}
    (happens : before.Happens event outcome? after)
    (vacant : Moment.LandsVacant ⟨before, event⟩) :
    event.deliveredAmount + before.inboundCustody =
      after.inboundCustody + (outcome?.toList.map Outcome.paidAmount).sum := by
  cases happens with
  | delivered id fill =>
    have added := Table.sum_insert (fun fill : Fill => fill.amount.val) fill vacant
    simp only [inboundCustody, Event.deliveredAmount, MemoryRouter.insertFill, added,
      Option.toList_none, List.map_nil, List.sum_nil]
    omega
  | refused operation => simp [Event.deliveredAmount]
  | accepted operation outcome after effect =>
    have moved := effect.inboundCustody_eq
    simp only [Event.deliveredAmount, Option.toList_some, List.map_cons, List.map_nil,
      List.sum_singleton]
    omega

theorem inboundCustody_run (events : List Event) (deployment : Deployment MemoryRouter)
    (vacant : ∀ moment ∈ deployment.history events, moment.LandsVacant) :
    (events.map Event.deliveredAmount).sum + deployment.inboundCustody =
      (deployment.run events).inboundCustody +
        ((deployment.outcomes events).map Outcome.paidAmount).sum := by
  induction events generalizing deployment with
  | nil => simp [run, outcomes, history]
  | cons event later ih =>
    obtain ⟨here, there⟩ := List.forall_mem_cons.mp vacant
    have first := (deployment.happens event).inboundCustody_eq here
    have rest := ih (deployment.after event) there
    have same : deployment.run (event :: later) = (deployment.after event).run later := rfl
    rw [same, outcomes_cons, List.map_append, List.sum_append, List.map_cons, List.sum_cons]
    omega

theorem inboundCustody_fresh (settings : Settings) :
    (fresh settings MemoryRouter.empty).inboundCustody = 0 := rfl

/-- If no fill is delivered under the key of one that is still held, then at each point of a run all
that was delivered is held by the router, staged, or paid out in one of three ways. -/
theorem inbound_usdc_conserved (settings : Settings) (events : List Event)
    (vacant : ∀ moment ∈ (fresh settings .empty).history events, moment.LandsVacant)
    (past : List Event) (happened : past <+: events) :
    (past.map Event.deliveredAmount).sum =
      ((fresh settings .empty).run past).router.fills.sum (·.amount.val) +
        ((fresh settings .empty).run past).stagedInbound.sum (·.custodyAmount.val) +
        (((fresh settings .empty).outcomes past).map Outcome.directAmount).sum +
        (((fresh settings .empty).outcomes past).map Outcome.relayAmount).sum +
        (((fresh settings .empty).outcomes past).map Outcome.releasedAmount).sum := by
  obtain ⟨later, rfl⟩ := happened
  rw [history_append] at vacant
  have balance := inboundCustody_run past (fresh settings .empty) fun moment mem =>
    vacant moment (List.mem_append_left _ mem)
  have split : Outcome.paidAmount = fun outcome =>
      outcome.directAmount + outcome.relayAmount + outcome.releasedAmount := rfl
  rw [inboundCustody_fresh, split, List.sum_map_add, List.sum_map_add, inboundCustody] at balance
  omega

/-- A relay with a fee of 1 and a payload arrive under one key, one after the other. -/
def relayThenPayload : List Event :=
  [ .asked (.install 11 12 13 14),
    .asked (.addPeer 11 2 21 ⟨1, 1, .zero, 0, none, Settings.standardTimeLimit⟩),
    .delivered 9 ⟨2, 21,
      1 :: List.replicate 31 0 ++ [7] ++ [2, 0, 0, 0, 0, 0, 0, 0, 0, 0, 1] ++ [0],
      .fastFill, 0, 3⟩,
    .asked (.completeRelay 8 7 9 0),
    .delivered 9 ⟨2, 21,
      1 :: List.replicate 31 0 ++ [7] ++ 1 :: List.replicate 31 0 ++ [6] ++ [0, 1, 5] ++ [0],
      .fastFill, 0, 4⟩,
    .asked (.completePayload 8 9),
    .asked (.releaseInbound 7 31 32 9) ]

theorem relayThenPayload_conserved :
    (∀ moment ∈ (fresh (.standard 1) .empty).history relayThenPayload, moment.LandsVacant) ∧
      (relayThenPayload.map Event.deliveredAmount).sum =
        ((fresh (.standard 1) .empty).run relayThenPayload).router.fills.sum (·.amount.val) +
          ((fresh (.standard 1) .empty).run relayThenPayload).stagedInbound.sum
            (·.custodyAmount.val) +
          (((fresh (.standard 1) .empty).outcomes relayThenPayload).map
            Outcome.directAmount).sum +
          (((fresh (.standard 1) .empty).outcomes relayThenPayload).map Outcome.relayAmount).sum +
          (((fresh (.standard 1) .empty).outcomes relayThenPayload).map
            Outcome.releasedAmount).sum :=
  ⟨by decide +kernel, inbound_usdc_conserved (.standard 1) relayThenPayload (by decide +kernel)
    relayThenPayload (List.prefix_refl _)⟩

end Inbound

section Outbound

variable {before after : Deployment MemoryRouter}

/-- The USDC for other chains that is staged or part of an order. -/
def outboundCustody (deployment : Deployment MemoryRouter) : Nat :=
  deployment.stagedOutbound.sum (·.custodyAmount.val) +
    deployment.router.orders.sum (·.amountIn.val)

def created? (after : Deployment MemoryRouter) : Option Outcome → Option StagedOutbound
  | some (.staged id) => after.stagedOutbound.get? id
  | _ => none

def Moment.created? (moment : Moment) : Option StagedOutbound :=
  moment.after.created? moment.outcome?

/-- The records that a run makes. -/
def creations (deployment : Deployment MemoryRouter) (events : List Event) : List StagedOutbound :=
  (deployment.history events).filterMap Moment.created?

theorem creations_cons (deployment : Deployment MemoryRouter) (event : Event)
    (later : List Event) :
    deployment.creations (event :: later) =
      ((deployment.after event).created? (deployment.outcome? event)).toList ++
        (deployment.after event).creations later := by
  have met : (Moment.mk deployment event).created? =
      (deployment.after event).created? (deployment.outcome? event) := rfl
  rw [creations, history, List.filterMap_cons, met]
  cases (deployment.after event).created? (deployment.outcome? event) <;> rfl

/-- What is taken into custody is staged, returned, or part of an order. -/
theorem Happens.outboundCustody_eq {event : Event} {outcome? : Option Outcome}
    (happens : before.Happens event outcome? after) (numbered : before.Numbered) :
    ((after.created? outcome?).toList.map (·.custodyAmount.val)).sum + before.outboundCustody =
      after.outboundCustody + (outcome?.toList.map Outcome.refundedAmount).sum := by
  obtain ⟨staged_below, orders_below⟩ := numbered
  cases happens with
  | delivered id fill => simp [created?, outboundCustody, MemoryRouter.insertFill]
  | refused operation => simp [created?]
  | accepted operation outcome after effect =>
    cases effect with
    | appointed _ administrative custodian =>
      simp [created?, outboundCustody, Outcome.refundedAmount]
    | registered _ administrative custodian charged peers =>
      simp [created?, outboundCustody, Outcome.refundedAmount]
    | staged request record next accepted follows =>
      have added := Table.sum_insert (fun staged : StagedOutbound => staged.custodyAmount.val)
        record staged_below.get?_eq_none
      have made : (before.stagedOutbound.insert before.nextStagedOutbound record).get?
          before.nextStagedOutbound = some record := Table.get?_insert_self _ _ _
      simp only [created?, outboundCustody, Outcome.refundedAmount, made, Option.toList_some,
        List.map_cons, List.map_nil, List.sum_cons, List.sum_nil]
      omega
    | closed id record held =>
      have erased := Table.sum_erase (fun staged : StagedOutbound => staged.custodyAmount.val) held
      simp only [created?, outboundCustody, Outcome.refundedAmount, Option.toList_none,
        Option.toList_some, List.map_cons, List.map_nil, List.sum_cons, List.sum_nil]
      omega
    | initiated payer refundToken id order next ordered follows =>
      obtain ⟨record, peer, requoted, message, held, -, -, -, -, -, carried⟩ :=
        orderFor_eq_ok_iff.mp ordered
      have amount : order.amountIn = record.custodyAmount := by rw [carried]
      have erased := Table.sum_erase (fun staged : StagedOutbound => staged.custodyAmount.val) held
      have added := Table.sum_insert (fun order : MarketOrder => order.amountIn.val) order
        orders_below.get?_eq_none
      rw [amount] at added
      simp only [created?, outboundCustody, Outcome.refundedAmount, fileOrder, Option.toList_none,
        Option.toList_some, List.map_cons, List.map_nil, List.sum_cons, List.sum_nil]
      omega
    | paidDirect recipient id received read directed =>
      simp [created?, outboundCustody, Outcome.refundedAmount, dropFill]
    | paidRelay payer recipient id now received custodian gasDropoff fee payout read relayed
        payable settled => simp [created?, outboundCustody, Outcome.refundedAmount, dropFill]
    | stagedInbound stagedBy sender body id received read taken vacant =>
      simp [created?, outboundCustody, Outcome.refundedAmount, dropFill]
    | released dstToken beneficiary id record held =>
      simp [created?, outboundCustody, Outcome.refundedAmount]

theorem outboundCustody_run (events : List Event) (deployment : Deployment MemoryRouter)
    (numbered : deployment.Numbered) :
    ((deployment.creations events).map (·.custodyAmount.val)).sum + deployment.outboundCustody =
      (deployment.run events).outboundCustody +
        ((deployment.outcomes events).map Outcome.refundedAmount).sum := by
  induction events generalizing deployment with
  | nil => simp [run, creations, outcomes, history]
  | cons event later ih =>
    have happens := deployment.happens event
    have first := happens.outboundCustody_eq numbered
    have rest := ih (deployment.after event) (happens.numbered numbered)
    have same : deployment.run (event :: later) = (deployment.after event).run later := rfl
    rw [same, outcomes_cons, creations_cons, List.map_append, List.map_append, List.sum_append,
      List.sum_append]
    omega

def stagedIds (deployment : Deployment MemoryRouter) (events : List Event) : List StagedId :=
  (deployment.outcomes events).filterMap Outcome.stagedId?

theorem stagedIds_cons (deployment : Deployment MemoryRouter) (event : Event)
    (later : List Event) :
    deployment.stagedIds (event :: later) =
      ((deployment.outcome? event).bind Outcome.stagedId?).toList ++
        (deployment.after event).stagedIds later := by
  rw [stagedIds, outcomes_cons, List.filterMap_append]
  cases deployment.outcome? event with
  | none => rfl
  | some outcome => cases outcome <;> rfl

theorem Happens.nextStagedOutbound_le {event : Event} {outcome? : Option Outcome}
    (happens : before.Happens event outcome? after) :
    before.nextStagedOutbound ≤ after.nextStagedOutbound ∧
      ∀ id, outcome?.bind Outcome.stagedId? = some id →
        id = before.nextStagedOutbound ∧ id < after.nextStagedOutbound := by
  cases happens with
  | delivered id fill => simp
  | refused operation => simp
  | accepted operation outcome after effect =>
    cases effect with
    | staged request record next accepted follows =>
      have grows := Word.lt_of_val_eq_succ follows
      refine ⟨grows.le, fun id given => ?_⟩
      cases given
      exact ⟨rfl, grows⟩
    | appointed _ administrative custodian => simp [Outcome.stagedId?]
    | registered _ administrative custodian charged peers => simp [Outcome.stagedId?]
    | closed id record held => simp [Outcome.stagedId?]
    | initiated payer refundToken id order next ordered follows =>
      simp [Outcome.stagedId?, fileOrder]
    | paidDirect recipient id received read directed => simp [Outcome.stagedId?, dropFill]
    | paidRelay payer recipient id now received custodian gasDropoff fee payout read relayed
        payable settled => simp [Outcome.stagedId?, dropFill]
    | stagedInbound stagedBy sender body id received read taken vacant =>
      simp [Outcome.stagedId?, dropFill]
    | released dstToken beneficiary id record held => simp [Outcome.stagedId?]

theorem stagedIds_ascending (events : List Event) (deployment : Deployment MemoryRouter) :
    (∀ id ∈ deployment.stagedIds events, deployment.nextStagedOutbound ≤ id) ∧
      (deployment.stagedIds events).Pairwise (· < ·) := by
  induction events generalizing deployment with
  | nil => simp [stagedIds, outcomes, history]
  | cons event later ih =>
    obtain ⟨grows, given⟩ := (deployment.happens event).nextStagedOutbound_le
    obtain ⟨above, ascending⟩ := ih (deployment.after event)
    rw [stagedIds_cons]
    cases found : (deployment.outcome? event).bind Outcome.stagedId? with
    | none => exact ⟨fun id mem => Fin.le_trans grows (above id mem), ascending⟩
    | some id =>
      obtain ⟨first, lower⟩ := given id found
      refine ⟨fun other mem => ?_, ?_⟩
      · rcases List.mem_cons.mp mem with rfl | mem
        · exact first.ge
        · exact grows.trans (above other mem)
      · exact List.pairwise_cons.mpr ⟨fun other mem => lower.trans_le (above other mem), ascending⟩

/-- Staged transfers and orders are only added under free numbers, and nothing else happens to them
but that staged transfers are removed. -/
structure ReplacesNothing (before : Deployment MemoryRouter) (outcome? : Option Outcome)
    (after : Deployment MemoryRouter) : Prop where
  staged_vacant : ∀ id, outcome? = some (.staged id) →
    before.stagedOutbound.get? id = none ∧
      ∃ record, after.stagedOutbound = before.stagedOutbound.insert id record
  order_vacant : ∀ transfer, outcome? = some (.initiated transfer) →
    before.router.orders.get? transfer.order = none ∧
      ∃ order, after.router.orders = before.router.orders.insert transfer.order order
  staged_kept : ∀ id record, before.stagedOutbound.get? id = some record →
    after.stagedOutbound.get? id = some record ∨ after.stagedOutbound.get? id = none
  order_kept : ∀ number order, before.router.orders.get? number = some order →
    after.router.orders.get? number = some order

theorem ReplacesNothing.of_same {outcome? : Option Outcome}
    (staged : after.stagedOutbound = before.stagedOutbound)
    (orders : after.router.orders = before.router.orders)
    (noneStaged : ∀ id, outcome? ≠ some (.staged id))
    (noneInitiated : ∀ transfer, outcome? ≠ some (.initiated transfer)) :
    ReplacesNothing before outcome? after where
  staged_vacant id outcome := absurd outcome (noneStaged id)
  order_vacant transfer outcome := absurd outcome (noneInitiated transfer)
  staged_kept id record held := by
    rw [staged]
    exact .inl held
  order_kept number order held := by
    rw [orders]
    exact held

theorem Happens.replacesNothing {event : Event} {outcome? : Option Outcome}
    (happens : before.Happens event outcome? after) (numbered : before.Numbered) :
    ReplacesNothing before outcome? after := by
  obtain ⟨staged_below, orders_below⟩ := numbered
  cases happens with
  | delivered id fill => exact .of_same rfl rfl nofun nofun
  | refused operation => exact .of_same rfl rfl nofun nofun
  | accepted operation outcome after effect =>
    cases effect with
    | appointed _ administrative custodian => exact .of_same rfl rfl nofun nofun
    | registered _ administrative custodian charged peers => exact .of_same rfl rfl nofun nofun
    | staged request record next accepted follows =>
      have vacant := staged_below.get?_eq_none
      refine ⟨fun id given => ?_, nofun, fun id kept held => .inl ?_, fun _ _ held => held⟩
      · cases given
        exact ⟨vacant, record, rfl⟩
      · exact Table.get?_insert_of_vacant vacant held
    | closed id record held =>
      exact ⟨nofun, nofun, fun _ _ => Table.get?_erase_of_held id, fun _ _ held => held⟩
    | initiated payer refundToken id order next ordered follows =>
      have vacant := orders_below.get?_eq_none
      refine ⟨nofun, fun transfer given => ?_, fun _ _ => Table.get?_erase_of_held id,
        fun _ _ held => Table.get?_insert_of_vacant vacant held⟩
      cases given
      exact ⟨vacant, order, rfl⟩
    | paidDirect recipient id received read directed => exact .of_same rfl rfl nofun nofun
    | paidRelay payer recipient id now received custodian gasDropoff fee payout read relayed
        payable settled => exact .of_same rfl rfl nofun nofun
    | stagedInbound stagedBy sender body id received read taken vacant =>
      exact .of_same rfl rfl nofun nofun
    | released dstToken beneficiary id record held => exact .of_same rfl rfl nofun nofun

theorem outboundCustody_fresh (settings : Settings) :
    (fresh settings MemoryRouter.empty).outboundCustody = 0 := rfl

/-- At each point of a run all that was ever staged is still staged, has been returned, or is part
of an order; numbers are given out in ascending order and lie below the next one; and nothing that
is staged or ordered takes the place of anything else. -/
theorem outbound_usdc_conserved (settings : Settings) (events : List Event) :
    (((fresh settings .empty).creations events).map (·.custodyAmount.val)).sum =
        ((fresh settings .empty).run events).stagedOutbound.sum (·.custodyAmount.val) +
          (((fresh settings .empty).outcomes events).map Outcome.refundedAmount).sum +
          ((fresh settings .empty).run events).router.orders.sum (·.amountIn.val) ∧
      ((fresh settings .empty).stagedIds events).Pairwise (· < ·) ∧
      ((fresh settings .empty).run events).stagedOutbound.Below
        ((fresh settings .empty).run events).nextStagedOutbound ∧
      ∀ moment ∈ (fresh settings .empty).history events,
        ReplacesNothing moment.before moment.outcome? moment.after := by
  have numbered := numbered_fresh settings
  refine ⟨?_, (stagedIds_ascending events _).2, ?_, ?_⟩
  · have balance := outboundCustody_run events _ numbered
    rw [outboundCustody_fresh, outboundCustody] at balance
    omega
  · exact (run_invariant (fun _ _ _ _ happens => happens.numbered) events numbered).staged_below
  · intro moment mem
    have numbered := history_invariant (fun _ _ _ _ happens => happens.numbered) numbered moment mem
    exact (moment.before.happens moment.event).replacesNothing numbered

end Outbound

end Deployment
end SwapRelay
