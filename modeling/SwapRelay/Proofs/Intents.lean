import SwapRelay.Proofs.Canonical
import SwapRelay.Proofs.Courses
import SwapRelay.Proofs.Delivery

/-!
# From what is asked for to what is sent

Between staging and initiation a transfer is a record, over any router and for as long as it takes.
Operations can end the record but not change it, and no other record gets its number. So the message
says in the end what the sender has asked for, byte for byte: the output token as the sender has
spelled it, since nothing but its written form is read, the payload behind its sender and a shorter
length, and all of a relay but the fee, which is quoted at initiation.
-/

namespace SwapRelay

namespace StagingRequest

variable {request : StagingRequest}

/-- The bytes in which a message says how the transfer is to be handed out, when the target chain
has the given terms. -/
def SpellsMode (request : StagingRequest) (overheads : GasOverheads) (terms : RelayTerms)
    (token : OutputToken) (bytes : Bytes) : Prop :=
  match request.redeemOption.getD .direct with
  | .direct => bytes = [0]
  | .payload body => ∃ length : Word 2, length.val = body.length ∧
      bytes = 1 :: (request.sender.toBytes ++ length.toBytes ++ body)
  | .relay gasDropoff _ => ∃ fee : Word 6, terms.relayerFee overheads gasDropoff token = .ok fee ∧
      bytes = 2 :: (gasDropoff.units.toBytes ++ fee.toBytes)

theorem write_outputToken {token : OutputToken} (found : request.outputToken = .ok token) :
    Wire.write token = .ok (request.encodedOutputToken.getD [0]) := by
  have found := outputToken_eq_ok_iff.mp found
  cases given : request.encodedOutputToken with
  | none =>
    rw [given] at found
    rw [found]
    rfl
  | some encoded =>
    rw [given] at found
    exact CanonicalWire.write_of_decode found

end StagingRequest

section Spelling

open Written

theorem Word.eq_of_write {n : Nat} {word : Word n} {bytes : Bytes}
    (written : Wire.write word = .ok bytes) : bytes = word.toBytes :=
  (Except.ok.inj written).symm

theorem RedeemMode.eq_of_write_payload {sender : Address} {body bytes : Bytes}
    (written : Wire.write (RedeemMode.payload sender body) = .ok bytes) :
    ∃ length : Word 2, length.val = body.length ∧
      bytes = 1 :: (sender.toBytes ++ length.toBytes ++ body) := by
  obtain ⟨front, back, first, counted, rfl⟩ := append_eq_ok_iff.mp written
  obtain ⟨length, same, rfl⟩ := writeCounted_eq_ok_iff.mp counted
  cases first
  exact ⟨length, same, by simp⟩

theorem SwapMessage.eq_of_encode {message : SwapMessage} {bytes : Bytes}
    (encoded : message.encode = .ok bytes) :
    ∃ mode token, Wire.write message.redeemMode = .ok mode ∧
      Wire.write message.outputToken = .ok token ∧
      bytes = 1 :: (message.recipient.toBytes ++ mode ++ token) := by
  obtain ⟨head, body, first, second, rfl⟩ := append_eq_ok_iff.mp encoded
  obtain ⟨front, token, addressed, named, rfl⟩ := append_eq_ok_iff.mp second
  obtain ⟨recipient, mode, third, chosen, rfl⟩ := append_eq_ok_iff.mp addressed
  rw [← Except.ok.inj first, Word.eq_of_write third]
  exact ⟨mode, token, chosen, named, List.singleton_append⟩

end Spelling

namespace StagingRequest

variable {request : StagingRequest}

theorem spellsMode_of_carries {ρ : Type} {start : Deployment ρ} {record : StagedOutbound}
    {overheads : GasOverheads} {terms : RelayTerms} {mode : RedeemMode} {bytes : Bytes}
    (recorded : start.stagedRecord request = .ok record)
    (carried : record.Carries overheads terms mode) (written : Wire.write mode = .ok bytes) :
    request.SpellsMode overheads terms record.outputToken bytes := by
  obtain ⟨-, -, peer, -, token, -, custody, redeem, taken, rfl⟩ :=
    Deployment.stagedRecord_eq_ok_iff.mp recorded
  have taken := redeemAt_eq_ok_iff.mp taken
  unfold SpellsMode
  cases option : request.redeemOption.getD .direct with
  | direct =>
    rw [option] at taken
    cases taken
    cases carried
    cases written
    rfl
  | payload body =>
    rw [option] at taken
    obtain ⟨-, taken⟩ := taken
    cases taken
    cases carried
    exact RedeemMode.eq_of_write_payload written
  | relay gasDropoff maxFee =>
    rw [option] at taken
    obtain ⟨-, quoted, -, -, custody, -, taken⟩ := taken
    cases taken
    obtain ⟨fee, charged, -, -, rfl⟩ := carried
    cases written
    exact ⟨fee, charged, rfl⟩

end StagingRequest

namespace Deployment

variable {ρ : Type}

def outbound (deployment : Deployment ρ) : Table 8 StagedOutbound × StagedId :=
  (deployment.stagedOutbound, deployment.nextStagedOutbound)

/-- What an operation can do to the staged transfers: nothing, stage one under the next number, or
end one. -/
inductive OutboundChange (before : Deployment ρ) : Table 8 StagedOutbound × StagedId → Prop
  | kept : before.OutboundChange before.outbound
  | staged (record : StagedOutbound) (next : StagedId)
      (follows : next.val = before.nextStagedOutbound.val + 1) :
    before.OutboundChange
      (before.stagedOutbound.insert before.nextStagedOutbound record, next)
  | ended (id : StagedId) :
    before.OutboundChange (before.stagedOutbound.erase id, before.nextStagedOutbound)

theorem OutboundChange.get?_eq_or_eq_none {before : Deployment ρ}
    {after : Table 8 StagedOutbound × StagedId} {id : StagedId} {record : StagedOutbound}
    (change : before.OutboundChange after) (given : id < before.nextStagedOutbound)
    (found : before.stagedOutbound.get? id = some record ∨
      before.stagedOutbound.get? id = none) :
    (after.1.get? id = some record ∨ after.1.get? id = none) ∧ id < after.2 := by
  cases change with
  | kept => exact ⟨found, given⟩
  | staged new next follows =>
    rw [Table.get?_insert_of_ne (Fin.ne_of_lt given)]
    exact ⟨found, Fin.lt_trans given (Word.lt_of_val_eq_succ follows)⟩
  | ended other =>
    refine ⟨?_, given⟩
    by_cases same : id = other
    · rw [same]
      exact .inr (Table.get?_erase_self _ _)
    · rw [Table.get?_erase_of_ne same]
      exact found

variable [TokenRouter ρ]

theorem outbound_of_initiateTransfer_refused {before after : Deployment ρ}
    {payer refundToken : Address} {id : StagedId} {fault : SwapError}
    (refused : before.perform (initiateTransfer payer refundToken id) = (.error fault, after)) :
    after.outbound = before.outbound := by
  rw [initiateTransfer, perform_get_bind] at refused
  rcases perform_bind_eq_error_iff.mp refused with stopped | ⟨order, between, ordered, refused⟩
  · rw [perform_check] at stopped
    cases congrArg Prod.snd stopped
    rfl
  · rw [perform_check] at ordered
    cases congrArg Prod.snd ordered
    -- The router may have changed, but nothing is dropped before it has taken the order.
    rcases perform_bind_eq_error_iff.mp refused with stopped | ⟨number, filed, taken, refused⟩
    · have left : before.Leaves outbound (prepareOrder order) := .onRouter fun _ => rfl
      unfold Leaves at left
      rwa [stopped] at left
    · cases refused

theorem outbound_of_refused {before after : Deployment ρ} {operation : Operation}
    {fault : SwapError} (outgoing : ¬ operation.IsInbound)
    (refused : before.step operation = (.error fault, after)) : after.outbound = before.outbound := by
  by_cases administrative : operation.IsAdministrative
  · rw [(keptOnRefusal_of_isAdministrative administrative).eq_of_perform_eq_error refused]
  cases operation with
  | initiateTransfer payer refundToken id =>
    rcases perform_bind_eq_error_iff.mp refused with stopped | ⟨transfer, between, -, refused⟩
    · exact outbound_of_initiateTransfer_refused stopped
    · cases refused
  | stageOutbound request =>
    have kept : before.KeptOnRefusal (stageOutbound request) := keptOnRefusal_stageOutbound request
    rw [(kept.map Outcome.staged).eq_of_perform_eq_error refused]
  | closeStagedOutbound sender id =>
    have kept : before.KeptOnRefusal (closeStagedOutbound sender id) :=
      keptOnRefusal_closeStagedOutbound sender id
    rw [(kept.map Outcome.refunded).eq_of_perform_eq_error refused]
  | completeDirect | completeRelay | completePayload | releaseInbound =>
    exact absurd trivial outgoing
  | _ => exact absurd trivial administrative

/-- Whatever the router, also when it takes an order or hands over too little. -/
theorem outboundChange_step (before : Deployment ρ) (operation : Operation) :
    before.OutboundChange (before.step operation).2.outbound := by
  by_cases inbound : operation.IsInbound
  · have ignores : IgnoresInbound (@outbound ρ) := ⟨fun _ _ => rfl, fun _ _ => rfl⟩
    rw [view_step_of_isInbound ignores before inbound]
    exact .kept
  rcases performed : before.step operation with ⟨fault | outcome, after⟩
  · rw [outbound_of_refused inbound performed]
    exact .kept
  have administers := fun administrative => (administers_of_step_eq_ok administrative performed).2
  cases operation with
  | stageOutbound request =>
    obtain ⟨id, performed, -⟩ := perform_map_eq_ok_iff.mp performed
    obtain ⟨record, -, next, follows, -, rfl⟩ := perform_stageOutbound_eq_ok_iff.mp performed
    exact .staged record next follows
  | closeStagedOutbound sender id =>
    obtain ⟨refund, performed, -⟩ := perform_map_eq_ok_iff.mp performed
    obtain ⟨record, -, -, -, rfl⟩ := perform_closeStagedOutbound_eq_ok_iff.mp performed
    exact .ended id
  | initiateTransfer payer refundToken id =>
    obtain ⟨transfer, performed, -⟩ := perform_map_eq_ok_iff.mp performed
    obtain ⟨order, -, number, router, -, -, rfl⟩ :=
      perform_initiateTransfer_eq_ok_iff_taken.mp performed
    exact .ended id
  | completeDirect | completeRelay | completePayload | releaseInbound =>
    exact absurd trivial inbound
  | _ =>
    cases administers trivial with
    | appointed appointment => exact .kept
    | registered charged registration => exact .kept

/-- A number that has been given is never given again, so what is found under it later is the record
that was there, or nothing. -/
theorem stagedOutbound_course {deployment : Deployment ρ} {id : StagedId} {record : StagedOutbound}
    (held : deployment.stagedOutbound.get? id = some record)
    (given : id < deployment.nextStagedOutbound) (later : List (Occurrence ρ)) :
    (deployment.course later).stagedOutbound.get? id = some record ∨
      (deployment.course later).stagedOutbound.get? id = none := by
  have kept := course_induction (P := fun now : Deployment ρ =>
      (now.stagedOutbound.get? id = some record ∨ now.stagedOutbound.get? id = none) ∧
        id < now.nextStagedOutbound) ?_ later ⟨.inl held, given⟩
  · exact kept.1
  rintro before occurrence ⟨found, given⟩
  cases occurrence with
  | moved change => exact ⟨found, given⟩
  | asked operation =>
    exact (before.outboundChange_step operation).get?_eq_or_eq_none given found

theorem exists_record_of_staged {before after : Deployment ρ} {request : StagingRequest}
    {id : StagedId} (staging : before.step (.stageOutbound request) = (.ok (.staged id), after)) :
    ∃ record, before.stagedRecord request = .ok record ∧
      after.stagedOutbound.get? id = some record ∧ id < after.nextStagedOutbound := by
  obtain ⟨_, performed, given⟩ := perform_map_eq_ok_iff.mp staging
  cases given
  obtain ⟨record, recorded, next, follows, rfl, rfl⟩ := perform_stageOutbound_eq_ok_iff.mp performed
  exact ⟨record, recorded, Table.get?_insert_self _ _ _, Word.lt_of_val_eq_succ follows⟩

/-- The order for a transfer that is initiated is made of the record that was staged, requoted at the
terms of the peer. -/
theorem exists_order_of_initiated {start staged after : Deployment ρ} {request : StagingRequest}
    {id : StagedId} {between : List (Occurrence ρ)} {payer refundToken : Address}
    {transfer : InitiatedTransfer}
    (staging : start.step (.stageOutbound request) = (.ok (.staged id), staged))
    (initiation : (staged.course between).step (.initiateTransfer payer refundToken id) =
      (.ok (.initiated transfer), after)) :
    let now := staged.course between
    ∃ record peer requoted, start.stagedRecord request = .ok record ∧
      staged.stagedOutbound.get? id = some record ∧
      now.peers.get? request.targetChain = some peer ∧
      now.requote peer.terms record = .ok requoted ∧
      requoted.encodeMessage = .ok transfer.redeemerMessage ∧
      transfer.amountIn = record.custodyAmount ∧
      (TokenRouter.prepareMarketOrder ⟨record.custodyAmount, request.targetChain, peer.address,
        transfer.redeemerMessage, request.refundToken⟩).run now.router =
          .ok transfer.order after.router := by
  intro now
  obtain ⟨record, recorded, held, given⟩ := exists_record_of_staged staging
  obtain ⟨_, performed, same⟩ := perform_map_eq_ok_iff.mp initiation
  cases same
  obtain ⟨order, ordered, number, router, taken, rfl, rfl⟩ :=
    perform_initiateTransfer_eq_ok_iff_taken.mp performed
  obtain ⟨present, peer, requoted, message, found, -, -, registered, quoted, encoded, rfl⟩ :=
    orderFor_eq_ok_iff.mp ordered
  have kept : present = record := by
    simpa [found] using stagedOutbound_course held given between
  subst kept
  obtain ⟨-, -, _, -, token, asked, custody, redeem, -, rfl⟩ := stagedRecord_eq_ok_iff.mp recorded
  exact ⟨_, peer, requoted, recorded, held, registered, quoted, encoded, rfl, taken⟩

/-- Over any router, from any deployment, whatever happens in between: the message of a transfer that
is initiated is a version byte, the recipient, the redeem mode and the output token, all as they were
asked for when the transfer was staged, and the output token in the bytes in which it was given. Only
the fee of a relay is that of initiation, at the terms of the target chain's peer. The order that the
router takes has this message, for the address of this peer, with the amount that was taken into
custody and the account that was named for refunds. -/
theorem staged_intent_reaches_wire {start staged after : Deployment ρ} {request : StagingRequest}
    {id : StagedId} {between : List (Occurrence ρ)} {payer refundToken : Address}
    {transfer : InitiatedTransfer}
    (staging : start.step (.stageOutbound request) = (.ok (.staged id), staged))
    (initiation : (staged.course between).step (.initiateTransfer payer refundToken id) =
      (.ok (.initiated transfer), after)) :
    let now := staged.course between
    ∃ record peer mode, start.stagedRecord request = .ok record ∧
      staged.stagedOutbound.get? id = some record ∧
      now.peers.get? request.targetChain = some peer ∧
      request.SpellsMode now.settings.gasOverheads peer.terms record.outputToken mode ∧
      transfer.redeemerMessage =
        1 :: (request.recipient.toBytes ++ mode ++ request.encodedOutputToken.getD [0]) ∧
      transfer.amountIn = record.custodyAmount ∧
      (TokenRouter.prepareMarketOrder ⟨record.custodyAmount, request.targetChain, peer.address,
        transfer.redeemerMessage, request.refundToken⟩).run now.router =
          .ok transfer.order after.router := by
  intro now
  obtain ⟨record, peer, requoted, recorded, held, registered, quoted, encoded, amount, taken⟩ :=
    exists_order_of_initiated staging initiation
  obtain ⟨mode, carried, written⟩ := carries_of_requote quoted encoded
  obtain ⟨front, back, chosen, named, spelled⟩ := SwapMessage.eq_of_encode written
  have mode := StagingRequest.spellsMode_of_carries recorded carried chosen
  obtain ⟨-, -, _, -, token, asked, custody, redeem, -, rfl⟩ := stagedRecord_eq_ok_iff.mp recorded
  have same : back = request.encodedOutputToken.getD [0] :=
    Except.ok.inj (named.symm.trans (StagingRequest.write_outputToken asked))
  subst same
  exact ⟨_, peer, front, recorded, held, registered, mode, spelled, amount, taken⟩

def connected : Deployment MemoryRouter :=
  (fresh (.standard 1) .empty).course
    [ .asked (.install 11 12 13 14),
      .asked (.addPeer 11 2 22 flatTerms) ]

/-- The gas of chain 2, by a pool with no further hops. -/
def gasToken : Bytes := 1 :: List.replicate 20 0 ++ [1] ++ [0, 1, 244] ++ [0]

def gasRequest : StagingRequest := ⟨5, 6, 4, 100, false, 2, 7, some (.relay ⟨3⟩ 50), some gasToken⟩

/-- Relaying becomes dearer, another transfer is staged and closed, and others try to end the relay. -/
def meanwhile : List (Occurrence MemoryRouter) :=
  [ .asked (.applyFeeUpdates 13 [⟨2, .baseFee 9⟩]),
    .asked (.stageOutbound ⟨5, 6, 4, 70, true, 2, 8, some (.payload [1, 2]), none⟩),
    .moved fun router => router.insertFill 9 ⟨2, 22, [], .fastFill, 0, 4⟩,
    .asked (.closeStagedOutbound 6 1),
    .asked (.closeStagedOutbound 5 0),
    .asked (.initiateTransfer 6 4 0) ]

def repriced : Deployment MemoryRouter :=
  (connected.step (.stageOutbound gasRequest)).2.course meanwhile

def dearMessage : Bytes :=
  1 :: (List.replicate 31 0 ++ [7] ++ [2, 0, 0, 0, 3, 0, 0, 0, 0, 0, 9] ++ gasToken)

theorem repriced_relay_reaches_wire :
    (connected.step (.stageOutbound gasRequest)).1 = .ok (.staged 0) ∧
      (repriced.step (.initiateTransfer 5 4 0)).1 = .ok (.initiated ⟨0, 105, dearMessage⟩) ∧
      repriced.peers.get? 2 = some ⟨2, 22, { flatTerms with baseFee := 9 }⟩ ∧
      ∃ mode, gasRequest.SpellsMode repriced.settings.gasOverheads { flatTerms with baseFee := 9 }
          (.gas ⟨0, 0, .uniswapV3 ⟨500, []⟩⟩) mode ∧
        dearMessage = 1 :: (gasRequest.recipient.toBytes ++ mode ++ gasToken) := by
  have given : (connected.step (.stageOutbound gasRequest)).1 = .ok (.staged 0) := rfl
  have initiated : (repriced.step (.initiateTransfer 5 4 0)).1 =
      .ok (.initiated ⟨0, 105, dearMessage⟩) := by rfl
  have registered : repriced.peers.get? 2 = some ⟨2, 22, { flatTerms with baseFee := 9 }⟩ := rfl
  have asked : connected.stagedRecord gasRequest = .ok ⟨5, 6, 2, 7, 4, .relay ⟨3⟩ 5 50,
      .gas ⟨0, 0, .uniswapV3 ⟨500, []⟩⟩, 105⟩ := rfl
  obtain ⟨record, peer, mode, recorded, -, known, spelled, written, -⟩ :=
    staged_intent_reaches_wire (Prod.ext given rfl) (Prod.ext initiated rfl)
  cases asked.symm.trans recorded
  cases registered.symm.trans known
  exact ⟨given, initiated, registered, mode, spelled, written⟩

/-- Over the in-memory router, the order for a transfer that is initiated is on file under the number
that was given back. -/
theorem initiated_order_filed {start staged after : Deployment MemoryRouter}
    {request : StagingRequest} {id : StagedId} {between : List (Occurrence MemoryRouter)}
    {payer refundToken : Address} {transfer : InitiatedTransfer}
    (staging : start.step (.stageOutbound request) = (.ok (.staged id), staged))
    (initiation : (staged.course between).step (.initiateTransfer payer refundToken id) =
      (.ok (.initiated transfer), after)) :
    ∃ record peer, start.stagedRecord request = .ok record ∧
      (staged.course between).peers.get? request.targetChain = some peer ∧
      after.router.orders.get? transfer.order = some ⟨record.custodyAmount, request.targetChain,
        peer.address, transfer.redeemerMessage, request.refundToken⟩ := by
  obtain ⟨record, peer, -, recorded, -, registered, -, -, -, taken⟩ :=
    exists_order_of_initiated staging initiation
  obtain ⟨-, number, next, -, filed⟩ := MemoryRouter.prepareMarketOrder_eq_ok_iff.mp taken
  refine ⟨record, peer, recorded, registered, ?_⟩
  rw [filed, number, Table.get?_insert_self]

example : (repriced.step (.initiateTransfer 5 4 0)).2.router.orders.get? 0 =
    some ⟨105, 2, 22, dearMessage, 4⟩ := rfl

end Deployment
end SwapRelay
