import SwapRelay.Proofs.Intents
import SwapRelay.Proofs.Staging

/-!
# Admission of transfers

Exactly when a transfer is staged, and what its record is. The conditions are those of the request,
of the peer's terms and of the next number, so staging does not depend on the router. A drop-off
above the peer's maximum is refused before there is a quote, so a quote never finds it too high.
-/

namespace SwapRelay

def StagedRedeem.fee : StagedRedeem → Nat
  | .relay _ fee _ => fee.val
  | _ => 0

namespace StagingRequest

variable {request : StagingRequest} {overheads : GasOverheads} {terms : RelayTerms}
  {token : OutputToken}

/-- The output token is USDC if none is given, and else the one whose written form is given. -/
def Names (request : StagingRequest) (token : OutputToken) : Prop :=
  match request.encodedOutputToken with
  | none => token = .usdc
  | some encoded => Wire.decode OutputToken encoded = .ok token

/-- The transfer can be handed out as asked for: a payload fits its length field, and a relay has an
allowed drop-off and a quote within the sender's limit, which is less than an exact amount or fits
on top of another. -/
def Redeemable (request : StagingRequest) (overheads : GasOverheads) (terms : RelayTerms)
    (token : OutputToken) : Prop :=
  match request.redeemOption with
  | none | some .direct => True
  | some (.payload body) => body.length ≤ 65535
  | some (.relay gasDropoff maxFee) =>
    gasDropoff.units ≤ terms.maxGasDropoff.units ∧
      ∃ fee, terms.relayerFee overheads gasDropoff token = .ok fee ∧ fee ≤ maxFee ∧
        if request.isExactIn then fee.val < request.amountIn.val
        else request.amountIn.val + fee.val < 18446744073709551616

/-- The redeem mode is the one asked for, with the quoted fee if it is a relay. -/
def Redeems (request : StagingRequest) (overheads : GasOverheads) (terms : RelayTerms)
    (token : OutputToken) (redeem : StagedRedeem) : Prop :=
  match request.redeemOption with
  | none | some .direct => redeem = .direct
  | some (.payload body) => redeem = .payload body
  | some (.relay gasDropoff maxFee) =>
    ∃ fee, terms.relayerFee overheads gasDropoff token = .ok fee ∧
      redeem = .relay gasDropoff (feeAmount fee) (feeAmount maxFee)

/-- A record says what was asked for. A fee on top of the amount is taken into custody with it, so
what is left behind the fee is the amount, or for an exact amount something less. -/
structure Records (request : StagingRequest) (overheads : GasOverheads) (terms : RelayTerms)
    (token : OutputToken) (record : StagedOutbound) : Prop where
  preparedBy_eq : record.preparedBy = request.payer
  sender_eq : record.sender = request.sender
  targetChain_eq : record.targetChain = request.targetChain
  recipient_eq : record.recipient = request.recipient
  refundToken_eq : record.refundToken = request.refundToken
  outputToken_eq : record.outputToken = token
  redeems : request.Redeems overheads terms token record.redeem
  custody_eq : record.custodyAmount.val =
    request.amountIn.val + if request.isExactIn then 0 else record.redeem.fee
  net_eq : record.custodyAmount.val - record.redeem.fee =
    request.amountIn.val - if request.isExactIn then record.redeem.fee else 0
  net_pos : 1 ≤ record.custodyAmount.val - record.redeem.fee

theorem exists_relayCustody_iff {fee : Word 6} :
    (∃ custody, request.relayCustody fee = .ok custody) ↔
      if request.isExactIn then fee.val < request.amountIn.val
      else request.amountIn.val + fee.val < 18446744073709551616 := by
  simp only [relayCustody_eq_ok_iff]
  by_cases exact : request.isExactIn
  · simp only [exact, if_true]
    constructor
    · rintro ⟨custody, covered, rfl⟩
      exact covered
    · intro covered
      exact ⟨_, covered, rfl⟩
  · simp only [exact, Bool.false_eq_true, if_false]
    constructor
    · rintro ⟨custody, sum⟩
      rw [← sum]
      exact custody.isLt
    · intro fits
      exact ⟨⟨_, fits⟩, rfl⟩

theorem exists_redeemAt_iff :
    (∃ taken, request.redeemAt overheads terms token = .ok taken) ↔
      request.Redeemable overheads terms token := by
  simp only [redeemAt_eq_ok_iff]
  unfold Redeemable
  rcases request.redeemOption with _ | _ | body | ⟨gasDropoff, maxFee⟩
  · simp
  · simp
  · simp [RedeemMode.maxPayload]
  · simp only [Option.getD_some]
    constructor
    · rintro ⟨_, allowed, fee, quoted, accepted, custody, covered, -⟩
      exact ⟨allowed, fee, quoted, accepted, exists_relayCustody_iff.mp ⟨custody, covered⟩⟩
    · rintro ⟨allowed, fee, quoted, accepted, covered⟩
      obtain ⟨custody, covered⟩ := exists_relayCustody_iff.mpr covered
      exact ⟨_, allowed, fee, quoted, accepted, custody, covered, rfl⟩

section Taken

variable {custody : Word 8} {redeem : StagedRedeem}
  (taken : request.redeemAt overheads terms token = .ok (custody, redeem))

include taken

theorem redeems_of_redeemAt : request.Redeems overheads terms token redeem := by
  have taken := redeemAt_eq_ok_iff.mp taken
  unfold Redeems
  rcases option : request.redeemOption with _ | _ | body | ⟨gasDropoff, maxFee⟩
  · simp only [option, Option.getD_none, Prod.mk.injEq] at taken
    exact taken.2
  · simp only [option, Option.getD_some, Prod.mk.injEq] at taken
    exact taken.2
  · simp only [option, Option.getD_some, Prod.mk.injEq] at taken
    exact taken.2.2
  · simp only [option, Option.getD_some, Prod.mk.injEq] at taken
    obtain ⟨-, fee, quoted, -, _, -, -, same⟩ := taken
    exact ⟨fee, quoted, same⟩

theorem custody_of_redeemAt (amount : request.amountIn ≠ 0) :
    custody.val = (request.amountIn.val + if request.isExactIn then 0 else redeem.fee) ∧
      redeem.fee < custody.val := by
  have positive : 0 < request.amountIn.val := Nat.pos_of_ne_zero (Fin.val_ne_of_ne amount)
  have taken := redeemAt_eq_ok_iff.mp taken
  split at taken
  · cases taken
    simp [StagedRedeem.fee, positive]
  · cases taken.2
    simp [StagedRedeem.fee, positive]
  · obtain ⟨-, fee, -, -, _, covered, same⟩ := taken
    cases same
    refine ⟨?_, lt_of_relayCustody amount covered⟩
    have covered := relayCustody_eq_ok_iff.mp covered
    split at covered
    · rename_i exact
      simp [exact, covered.2]
    · rename_i inexact
      simp only [inexact]
      exact covered

end Taken

end StagingRequest

namespace Deployment

section Records

variable {ρ : Type} {deployment : Deployment ρ} {request : StagingRequest}

/-- The request has an amount and a recipient, names a peer and an output token, and can be redeemed
at the terms of the peer; and there is a number left. -/
structure Admits (deployment : Deployment ρ) (request : StagingRequest) (peer : Peer)
    (token : OutputToken) : Prop where
  amount_pos : 0 < request.amountIn.val
  recipient_ne : request.recipient ≠ 0
  registered : deployment.peers.get? request.targetChain = some peer
  named : request.Names token
  redeemable : request.Redeemable deployment.settings.gasOverheads peer.terms token
  numbered : deployment.nextStagedOutbound.val < 18446744073709551615

theorem exists_record_of_admits {peer : Peer} {token : OutputToken}
    (admits : deployment.Admits request peer token) :
    ∃ record, deployment.stagedRecord request = .ok record ∧
      request.Records deployment.settings.gasOverheads peer.terms token record := by
  have amount : request.amountIn ≠ 0 := Fin.ne_of_val_ne (Nat.pos_iff_ne_zero.mp admits.amount_pos)
  have asked := StagingRequest.outputToken_eq_ok_iff.mpr admits.named
  obtain ⟨⟨custody, redeem⟩, taken⟩ := StagingRequest.exists_redeemAt_iff.mpr admits.redeemable
  obtain ⟨custody_eq, fee_lt⟩ := StagingRequest.custody_of_redeemAt taken amount
  have net_eq : custody.val - redeem.fee =
      request.amountIn.val - if request.isExactIn then redeem.fee else 0 := by
    rw [custody_eq]
    by_cases exact : request.isExactIn
    · simp [exact]
    · simp [exact]
  have redeems := StagingRequest.redeems_of_redeemAt taken
  have net_pos := Nat.sub_pos_of_lt fee_lt
  have accepted := stagedRecord_eq_ok_iff.mpr ⟨amount, admits.recipient_ne, peer,
    admits.registered, token, asked, custody, redeem, taken, rfl⟩
  exact ⟨_, accepted, rfl, rfl, rfl, rfl, rfl, rfl, redeems, custody_eq, net_eq, net_pos⟩

theorem exists_admits_of_stageOutbound {id : StagedId} {after : Deployment ρ}
    (performed : deployment.perform (stageOutbound request) = (.ok id, after)) :
    ∃ peer token, deployment.Admits request peer token := by
  obtain ⟨record, recorded, next, follows, -, -⟩ := perform_stageOutbound_eq_ok_iff.mp performed
  obtain ⟨amount, recipient, peer, registered, token, asked, custody, redeem, taken, -⟩ :=
    stagedRecord_eq_ok_iff.mp recorded
  have amount_pos : 0 < request.amountIn.val := Nat.pos_of_ne_zero (Fin.val_ne_of_ne amount)
  have named := StagingRequest.outputToken_eq_ok_iff.mp asked
  have redeemable := StagingRequest.exists_redeemAt_iff.mp ⟨_, taken⟩
  have numbered : deployment.nextStagedOutbound.val < 18446744073709551615 := by
    have bound : next.val < 256 ^ 8 := next.isLt
    omega
  exact ⟨peer, token, amount_pos, recipient, registered, named, redeemable, numbered⟩

/-- A drop-off above the peer's maximum does not reach the quote. -/
theorem redeemAt_refusesOnly (request : StagingRequest) (overheads : GasOverheads)
    (terms : RelayTerms) (token : OutputToken) :
    RefusesOnly (request.redeemAt overheads terms token) (· ≠ .gasDropoffTooHigh) := by
  have covers : CoversQuoteFaults (· ≠ .gasDropoffTooHigh) := by
    constructor <;> decide
  have custody (fee : Word 6) :
      RefusesOnly (request.relayCustody fee) (· ≠ .gasDropoffTooHigh) := by
    unfold StagingRequest.relayCustody
    split
    · exact .bind (.require (by decide)) fun _ => .ok _
    · exact .within (by decide)
  unfold StagingRequest.redeemAt
  split
  · exact .ok _
  · exact .bind (.require (by decide)) fun _ => .ok _
  · refine .bind_of_eq_ok (.require (by decide)) fun _ allowed => ?_
    have allowed := require_eq_ok_iff.mp allowed
    refine .bind (terms.relayerFee_refusesOnly_of overheads _ token covers (absurd allowed)) ?_
    intro fee
    exact .bind (.require (by decide)) fun _ => .bind (custody fee) fun _ => .ok _

theorem stagedRecord_refusesOnly (deployment : Deployment ρ) (request : StagingRequest) :
    RefusesOnly (deployment.stagedRecord request) (· ≠ .gasDropoffTooHigh) := by
  have peer : RefusesOnly (deployment.requirePeer request.targetChain)
      (· ≠ .gasDropoffTooHigh) := by
    unfold requirePeer
    split
    · exact .ok _
    · exact .error (by decide)
  have token : RefusesOnly request.outputToken (· ≠ .gasDropoffTooHigh) := by
    unfold StagingRequest.outputToken
    split
    · exact .ok _
    · split
      · exact .ok _
      · exact .error (by decide)
  refine .bind (.require (by decide)) fun _ => .bind (.require (by decide)) fun _ => ?_
  refine .bind peer fun peer => .bind token fun token => ?_
  exact .bind (redeemAt_refusesOnly request _ _ token) fun _ => .ok _

theorem stageOutbound_refusesOnly (deployment : Deployment ρ) (request : StagingRequest) :
    RefusesOnly (deployment.perform (stageOutbound request)).1 (· ≠ .gasDropoffTooHigh) := by
  rw [stageOutbound, perform_get_bind]
  apply perform_check_bind_refusesOnly (deployment.stagedRecord_refusesOnly request)
  intro record
  refine perform_check_bind_refusesOnly (.within (by decide)) fun next => ?_
  rw [perform_set_bind]
  exact .ok _

end Records

section Courses

variable {ρ : Type}

theorem OutboundChange.below {before : Deployment ρ} {after : Table 8 StagedOutbound × StagedId}
    (change : before.OutboundChange after)
    (below : before.stagedOutbound.Below before.nextStagedOutbound) : after.1.Below after.2 := by
  cases change with
  | kept => exact below
  | staged record next follows => exact below.insert record follows
  | ended id => exact below.erase id

variable [TokenRouter ρ]

theorem next_vacant_course (settings : Settings) (router : ρ) (past : List (Occurrence ρ)) :
    let now := (fresh settings router).course past
    now.stagedOutbound.get? now.nextStagedOutbound = none := by
  apply Table.Below.get?_eq_none
  refine course_induction (P := fun now : Deployment ρ =>
    now.stagedOutbound.Below now.nextStagedOutbound) ?_ past .empty
  intro before occurrence below
  cases occurrence with
  | asked operation => exact (before.outboundChange_step operation).below below
  | moved change => exact below

theorem Admits.stageOutbound {deployment : Deployment ρ} {request : StagingRequest} {peer : Peer}
    {token : OutputToken} (admits : deployment.Admits request peer token) :
    ∃ record next, request.Records deployment.settings.gasOverheads peer.terms token record ∧
      next.val = deployment.nextStagedOutbound.val + 1 ∧
      deployment.step (.stageOutbound request) =
        (.ok (.staged deployment.nextStagedOutbound), { deployment with
          nextStagedOutbound := next
          stagedOutbound :=
            deployment.stagedOutbound.insert deployment.nextStagedOutbound record }) := by
  obtain ⟨record, recorded, records⟩ := exists_record_of_admits admits
  let next : StagedId :=
    ⟨deployment.nextStagedOutbound.val + 1, Nat.add_lt_of_lt_sub admits.numbered⟩
  refine ⟨record, next, records, rfl, ?_⟩
  apply perform_map_eq_ok_iff.mpr
  exact ⟨_, perform_stageOutbound_eq_ok_iff.mpr ⟨record, recorded, next, rfl, rfl, rfl⟩, rfl⟩

/-- Over any router, whatever has happened: staging succeeds exactly when the request is admitted.
It then adds a record of the request under the next number, which is free, and moves on to the
number behind it, and nothing else changes. A drop-off is never refused by the quote. -/
theorem stageOutbound_exactly (settings : Settings) (router : ρ) (past : List (Occurrence ρ))
    (request : StagingRequest) :
    let now := (fresh settings router).course past
    let result := now.step (.stageOutbound request)
    ((∃ outcome, result.1 = .ok outcome) ↔ ∃ peer token, now.Admits request peer token) ∧
    (∀ peer token, now.Admits request peer token →
      ∃ record next, request.Records now.settings.gasOverheads peer.terms token record ∧
        next.val = now.nextStagedOutbound.val + 1 ∧
        now.stagedOutbound.get? now.nextStagedOutbound = none ∧
        result = (.ok (.staged now.nextStagedOutbound), { now with
          nextStagedOutbound := next
          stagedOutbound := now.stagedOutbound.insert now.nextStagedOutbound record })) ∧
    result.1 ≠ .error .gasDropoffTooHigh := by
  intro now result
  refine ⟨⟨?_, ?_⟩, ?_, ?_⟩
  · rintro ⟨outcome, accepted⟩
    have step : now.step (.stageOutbound request) = (.ok outcome, result.2) := Prod.ext accepted rfl
    obtain ⟨id, performed, -⟩ := perform_map_eq_ok_iff.mp step
    exact exists_admits_of_stageOutbound performed
  · rintro ⟨peer, token, admits⟩
    obtain ⟨record, next, -, -, same⟩ := admits.stageOutbound
    exact ⟨_, congrArg Prod.fst same⟩
  · intro peer token admits
    obtain ⟨record, next, records, follows, same⟩ := admits.stageOutbound
    have vacant := next_vacant_course settings router past
    exact ⟨record, next, records, follows, vacant, same⟩
  · intro refused
    exact perform_map_refusesOnly (stageOutbound_refusesOnly now request) _ refused rfl

end Courses

theorem gasRequest_staged_exactly :
    connected.Admits gasRequest ⟨2, 22, flatTerms⟩ (.gas ⟨0, 0, .uniswapV3 ⟨500, []⟩⟩) ∧
      connected.stagedOutbound.get? 0 = none ∧
      ∃ record, gasRequest.Records connected.settings.gasOverheads flatTerms
          (.gas ⟨0, 0, .uniswapV3 ⟨500, []⟩⟩) record ∧
        record.custodyAmount.val - record.redeem.fee = 100 ∧
        connected.step (.stageOutbound gasRequest) = (.ok (.staged 0), { connected with
          nextStagedOutbound := 1
          stagedOutbound := connected.stagedOutbound.insert 0 record }) := by
  obtain ⟨exact, staged, -⟩ := stageOutbound_exactly (.standard 1) MemoryRouter.empty
    [.asked (.install 11 12 13 14), .asked (.addPeer 11 2 22 flatTerms)] gasRequest
  obtain ⟨peer, token, admits⟩ := exact.mp ⟨.staged 0, rfl⟩
  have registered : connected.peers.get? 2 = some ⟨2, 22, flatTerms⟩ := rfl
  have named : Wire.decode OutputToken gasToken = .ok (.gas ⟨0, 0, .uniswapV3 ⟨500, []⟩⟩) := rfl
  cases registered.symm.trans admits.registered
  cases named.symm.trans admits.named
  obtain ⟨record, next, records, follows, vacant, result⟩ := staged _ _ admits
  have last : next = 1 := Fin.ext follows
  subst last
  exact ⟨admits, vacant, record, records, records.net_eq, result⟩

end Deployment
end SwapRelay
