import SwapRelay.Proofs.Delivery
import SwapRelay.Proofs.Settlement

/-!
# Retention of staged records

A record is written once. While it is there it is the record that was made, whatever is asked for
and whoever asks, and its owner can take the amount that it holds: the sender of a staged transfer
by closing it, the recipient of a staged payload by releasing it. Only the owner, or the account
that prepared the transfer, makes it disappear.
-/

namespace SwapRelay

/-- The successes that end the staging of a transfer: the sender gets the amount back, or the
account that prepared the transfer hands it to the router, naming its refund account. -/
inductive StagedOutbound.EndedBy (record : StagedOutbound) (id : StagedId) :
    Event → Option Outcome → Prop
  | closed : record.EndedBy id (.asked (.closeStagedOutbound record.sender id))
      (some (.refunded ⟨record.sender, record.preparedBy, record.custodyAmount⟩))
  | initiated (transfer : InitiatedTransfer) :
    record.EndedBy id (.asked (.initiateTransfer record.preparedBy record.refundToken id))
      (some (.initiated transfer))

/-- The successes that take a staged payload away: its recipient gets the amount and the payload. -/
inductive StagedInbound.ReleasedBy (record : StagedInbound) (id : FillId) :
    Event → Option Outcome → Prop
  | released (dstToken beneficiary : Address) :
    record.ReleasedBy id (.asked (.releaseInbound record.recipient dstToken beneficiary id))
      (some (.released ⟨dstToken, record.custodyAmount, beneficiary, record.sourceChain,
        record.sender, record.payload⟩))

namespace Deployment

/-- From here on the record of a staged transfer is there unchanged or is gone; it goes only when
the transfer is closed by its sender or initiated by the account that prepared it; and while it is
there its sender can close it and gets all that is held. -/
structure KeepsTransfer (deployment : Deployment MemoryRouter) (id : StagedId)
    (record : StagedOutbound) : Prop where
  unchanged : ∀ later, (deployment.run later).stagedOutbound.get? id = some record ∨
    (deployment.run later).stagedOutbound.get? id = none
  ended : ∀ later, ∀ moment ∈ deployment.history later,
    moment.before.stagedOutbound.get? id = some record →
    moment.after.stagedOutbound.get? id = none → record.EndedBy id moment.event moment.outcome?
  refundable : ∀ later, (deployment.run later).stagedOutbound.get? id = some record →
    ((deployment.run later).step (.closeStagedOutbound record.sender id)).1 =
      .ok (.refunded ⟨record.sender, record.preparedBy, record.custodyAmount⟩)

/-- From here on, until its recipient releases it, the record of a staged payload is there
unchanged, and its recipient can release it and gets all that is held. -/
structure KeepsPayload (deployment : Deployment MemoryRouter) (id : FillId)
    (record : StagedInbound) : Prop where
  unchanged : ∀ later,
    (∀ moment ∈ deployment.history later, ¬ record.ReleasedBy id moment.event moment.outcome?) →
    (deployment.run later).stagedInbound.get? id = some record
  releasable : ∀ later, (deployment.run later).stagedInbound.get? id = some record →
    ∀ dstToken beneficiary,
      ((deployment.run later).step
          (.releaseInbound record.recipient dstToken beneficiary id)).1 =
        .ok (.released ⟨dstToken, record.custodyAmount, beneficiary, record.sourceChain,
          record.sender, record.payload⟩)

section Steps

variable {before after : Deployment MemoryRouter} {event : Event} {outcome? : Option Outcome}

theorem Happens.transfer_kept_or_ended {id : StagedId} {record : StagedOutbound}
    (happens : before.Happens event outcome? after) (numbered : before.Numbered)
    (held : before.stagedOutbound.get? id = some record) :
    after.stagedOutbound.get? id = some record ∨
      record.EndedBy id event outcome? ∧ after.stagedOutbound.get? id = none ∧
        id < after.nextStagedOutbound := by
  have given : id < before.nextStagedOutbound := numbered.staged_below id record held
  cases happens with
  | delivered other fill => exact .inl held
  | refused operation => exact .inl held
  | accepted operation outcome after effect =>
    cases effect with
    | staged request new next accepted follows =>
      exact .inl (Table.get?_insert_of_vacant numbered.staged_below.get?_eq_none held)
    | closed other found there =>
      by_cases same : id = other
      · subst same
        cases held.symm.trans there
        exact .inr ⟨.closed, Table.get?_erase_self _ _, given⟩
      · exact .inl ((Table.get?_erase_of_ne same).trans held)
    | initiated payer refundToken other order next ordered follows =>
      by_cases same : id = other
      · subst same
        obtain ⟨staged, peer, requoted, message, there, prepared, refunded, -⟩ :=
          orderFor_eq_ok_iff.mp ordered
        cases held.symm.trans there
        rw [← prepared, ← refunded]
        exact .inr ⟨.initiated _, Table.get?_erase_self _ _, given⟩
      · exact .inl ((Table.get?_erase_of_ne same).trans held)
    | _ => exact .inl held

theorem Happens.payload_kept_or_released {id : FillId} {record : StagedInbound}
    (happens : before.Happens event outcome? after)
    (held : before.stagedInbound.get? id = some record) :
    after.stagedInbound.get? id = some record ∨ record.ReleasedBy id event outcome? := by
  cases happens with
  | delivered other fill => exact .inl held
  | refused operation => exact .inl held
  | accepted operation outcome after effect =>
    cases effect with
    | stagedInbound stagedBy sender body other received read taken vacant =>
      exact .inl (Table.get?_insert_of_vacant vacant held)
    | released dstToken beneficiary other found there =>
      by_cases same : id = other
      · subst same
        cases held.symm.trans there
        exact .inr (.released dstToken beneficiary)
      · exact .inl ((Table.get?_erase_of_ne same).trans held)
    | _ => exact .inl held

theorem Happens.exists_record {id : StagedId}
    (happens : before.Happens event (some (.staged id)) after) :
    ∃ request record, before.stagedRecord request = .ok record ∧
      after.stagedOutbound.get? id = some record := by
  cases happens with
  | accepted operation outcome after effect =>
    cases effect with
    | staged request record next accepted follows =>
      exact ⟨request, record, accepted, Table.get?_insert_self _ _ _⟩

theorem step_closeStagedOutbound_of_held {id : StagedId} {record : StagedOutbound}
    (held : before.stagedOutbound.get? id = some record) :
    (before.step (.closeStagedOutbound record.sender id)).1 =
      .ok (.refunded ⟨record.sender, record.preparedBy, record.custodyAmount⟩) := by
  have closed : before.step (.closeStagedOutbound record.sender id) =
      (.ok (.refunded ⟨record.sender, record.preparedBy, record.custodyAmount⟩),
        { before with stagedOutbound := before.stagedOutbound.erase id }) := by
    refine perform_map_eq_ok_iff.mpr ⟨_, ?_, rfl⟩
    exact perform_closeStagedOutbound_eq_ok_iff.mpr ⟨record, held, rfl, rfl, rfl⟩
  rw [closed]

end Steps

section Runs

variable {deployment : Deployment MemoryRouter}

/-- A number below the next one is never given out again, so what is found under it later is the
record that was there, or nothing. -/
theorem keepsTransfer_of_held {id : StagedId} {record : StagedOutbound}
    (numbered : deployment.Numbered) (held : deployment.stagedOutbound.get? id = some record) :
    deployment.KeepsTransfer id record where
  unchanged later := by
    have kept : (deployment.run later).Numbered ∧
        ((deployment.run later).stagedOutbound.get? id = some record ∨
          (deployment.run later).stagedOutbound.get? id = none ∧
            id < (deployment.run later).nextStagedOutbound) := by
      refine run_invariant (P := fun deployment => deployment.Numbered ∧
        (deployment.stagedOutbound.get? id = some record ∨
          deployment.stagedOutbound.get? id = none ∧ id < deployment.nextStagedOutbound))
        ?_ later ⟨numbered, .inl held⟩
      rintro before event outcome? after happens ⟨numbered, present | absent⟩
      · refine ⟨happens.numbered numbered, ?_⟩
        exact (happens.transfer_kept_or_ended numbered present).imp_right And.right
      · exact ⟨happens.numbered numbered, .inr (happens.staging_absent absent)⟩
    exact kept.2.imp_right And.left
  ended later moment mem present absent := by
    have numbered := history_invariant (fun _ _ _ _ happens => happens.numbered) numbered moment mem
    have happens := moment.before.happens moment.event
    rcases happens.transfer_kept_or_ended numbered present with still | ended
    · have still : moment.after.stagedOutbound.get? id = some record := still
      rw [absent] at still
      cases still
    · exact ended.1
  refundable later := step_closeStagedOutbound_of_held

theorem stagedRecord_of_moment {events : List Event} {id : StagedId} {record : StagedOutbound}
    {moment : Moment} (numbered : deployment.Numbered) (mem : moment ∈ deployment.history events)
    (given : moment.outcome? = some (.staged id))
    (held : (deployment.run events).stagedOutbound.get? id = some record) :
    ∃ request, moment.before.stagedRecord request = .ok record := by
  have happens := moment.before.happens moment.event
  rw [show moment.before.outcome? moment.event = _ from given] at happens
  obtain ⟨request, made, recorded, found⟩ := happens.exists_record
  have earlier := history_invariant (fun _ _ _ _ happens => happens.numbered) numbered moment mem
  obtain ⟨past, later, rfl, before⟩ := exists_split_of_mem_history mem
  have kept := (keepsTransfer_of_held (happens.numbered earlier) found).unchanged later
  rw [run_append, ← before] at held
  rw [show (moment.before.after moment.event).run later = moment.before.run (moment.event :: later)
    from rfl, held] at kept
  have same : record = made := by simpa using kept
  exact ⟨request, same ▸ recorded⟩

theorem keepsPayload_of_held {id : FillId} {record : StagedInbound}
    (held : deployment.stagedInbound.get? id = some record) :
    deployment.KeepsPayload id record where
  unchanged later unreleased := by
    induction later generalizing deployment with
    | nil => exact held
    | cons event later ih =>
      obtain ⟨here, there⟩ := List.forall_mem_cons.mp unreleased
      have kept := (deployment.happens event).payload_kept_or_released held
      exact ih (kept.resolve_right here) there
  releasable later present dstToken beneficiary :=
    step_releaseInbound_of_held present dstToken beneficiary

end Runs

/-- Whatever is staged is staged for good. (1) The record of a transfer is the one that was made of
the request, for as long as it is there; it goes only when its sender closes it or the account that
prepared it initiates it; and until then its sender can have all of it back. (2) The record of a
payload is the one that was made of the fill until its recipient releases it, and until then its
recipient can collect all of it. -/
theorem staged_records_write_once {before : Deployment MemoryRouter}
    (reachable : before.Reachable) :
    (∀ request id after, before.step (.stageOutbound request) = (.ok (.staged id), after) →
      ∃ record, before.stagedRecord request = .ok record ∧
        after.stagedOutbound.get? id = some record ∧ after.KeepsTransfer id record) ∧
      ∀ stagedBy id after, before.step (.completePayload stagedBy id) = (.ok .done, after) →
        ∃ received sender body, before.readFill id = .ok received ∧
          received.payload = .ok (sender, body) ∧
          after.stagedInbound.get? id = some (received.toStaged stagedBy sender body) ∧
          after.KeepsPayload id (received.toStaged stagedBy sender body) := by
  constructor
  · intro request id after accepted
    have happens := Happens.accepted _ _ _ (effect_of_step_eq_ok accepted)
    have numbered : after.Numbered := happens.numbered reachable.numbered
    obtain ⟨number, performed, given⟩ := perform_map_eq_ok_iff.mp accepted
    cases given
    obtain ⟨record, recorded, next, follows, rfl, rfl⟩ :=
      perform_stageOutbound_eq_ok_iff.mp performed
    have held := Table.get?_insert_self before.stagedOutbound before.nextStagedOutbound record
    exact ⟨record, recorded, held, keepsTransfer_of_held numbered held⟩
  · intro stagedBy id after accepted
    obtain ⟨done, performed, -⟩ := perform_map_eq_ok_iff.mp accepted
    obtain ⟨received, sender, body, read, taken, -, rfl⟩ :=
      perform_completePayload_eq_ok_iff.mp performed
    have held := Table.get?_insert_self before.stagedInbound id
      (received.toStaged stagedBy sender body)
    exact ⟨received, sender, body, read, taken, held, keepsPayload_of_held held⟩

/-- A deployment on chain 1 with a peer on chain 2, from which 70 have arrived with a payload. -/
def payloadArrived : Deployment MemoryRouter :=
  (fresh (.standard 1) .empty).run
    [ .asked (.install 11 12 13 14),
      .asked (.addPeer 11 2 22 flatTerms),
      .delivered 9 ⟨2, 22,
        1 :: List.replicate 31 0 ++ [7] ++ (1 :: List.replicate 31 0 ++ [6] ++ [0, 2, 8, 9]) ++ [0],
        .fastFill, 0, 70⟩ ]

def relayRequest : StagingRequest := ⟨5, 6, 4, 100, true, 2, 7, some (.relay ⟨3⟩ 50), none⟩

theorem relay_and_payload_kept :
    payloadArrived.Reachable ∧
      (∃ after, payloadArrived.step (.stageOutbound relayRequest) = (.ok (.staged 0), after) ∧
        after.KeepsTransfer 0 ⟨5, 6, 2, 7, 4, .relay ⟨3⟩ 5 50, .usdc, 100⟩) ∧
      ∃ after, payloadArrived.step (.completePayload 3 9) = (.ok .done, after) ∧
        after.KeepsPayload 9 ⟨70, 3, 2, 6, 7, false, [8, 9]⟩ := by
  have reachable : payloadArrived.Reachable := ⟨_, _, rfl⟩
  obtain ⟨transfers, payloads⟩ := staged_records_write_once reachable
  refine ⟨reachable, ⟨_, rfl, ?_⟩, _, rfl, ?_⟩
  · obtain ⟨record, made, -, kept⟩ := transfers relayRequest 0 _ rfl
    have same : payloadArrived.stagedRecord relayRequest =
        .ok ⟨5, 6, 2, 7, 4, .relay ⟨3⟩ 5 50, .usdc, 100⟩ := rfl
    cases made.symm.trans same
    exact kept
  · obtain ⟨received, sender, body, read, taken, -, kept⟩ := payloads 3 9 _ rfl
    have same : payloadArrived.readFill 9 = .ok ⟨⟨2, 22, _, .fastFill, 0, 70⟩,
        ⟨2, 22, flatTerms⟩, ⟨7, .payload 6 [8, 9], .usdc⟩⟩ := rfl
    cases read.symm.trans same
    cases taken
    exact kept

end Deployment
end SwapRelay
