import SwapRelay.Proofs.Courses
import SwapRelay.Proofs.Invariants

/-!
# Independent transfers

A deployment over the in-memory router consists of parts: what is administered, every staged
transfer, every fill and every staged payload. A transfer reads what is administered and touches few
of the other parts. The rest it leaves alone, and to the rest it is blind: where the parts that it
touches are the same, it ends in the same way. So two transfers that touch no part together can be
asked for in either order.
-/

namespace SwapRelay

/-- A part of a deployment over the in-memory router. -/
inductive Part where
  /-- What is administered. -/
  | administration
  /-- The transfer that is staged under a number. -/
  | transfer (id : StagedId)
  /-- The number of the transfer that is staged next. -/
  | numbering
  /-- The orders that have been filed and the number of the next one. -/
  | orders
  /-- The fill that waits under a key. -/
  | fill (id : FillId)
  /-- The payload that is staged under a key. -/
  | payload (id : FillId)
  deriving DecidableEq, Repr

/-- What there is to see of a part. -/
abbrev Part.Content : Part → Type
  | .administration => Settings × Option Custodian × Table 2 Peer
  | .transfer _ => Option StagedOutbound
  | .numbering => StagedId
  | .orders => Table 8 MarketOrder × OrderId
  | .fill _ => Option Fill
  | .payload _ => Option StagedInbound

def Part.fillId? : Part → Option FillId
  | .fill id | .payload id => some id
  | _ => none

namespace Operation

/-- The key of the fill, or of the payload, that an operation hands out. -/
def fillId? : Operation → Option FillId
  | .completeDirect _ id | .completeRelay _ _ id _ | .completePayload _ id
  | .releaseInbound _ _ _ id => some id
  | _ => none

/-- Two transfers have nothing to do with each other: one is for another chain and one from another
chain, or they hand out different fills, or they end the staging of different transfers and at most
one of them files an order. -/
inductive Independent : Operation → Operation → Prop
  | inboundOutbound {first second : Operation} (inbound : first.IsInbound)
      (outbound : second.IsOutbound) : Independent first second
  | outboundInbound {first second : Operation} (outbound : first.IsOutbound)
      (inbound : second.IsInbound) : Independent first second
  | fills {first second : Operation} (inbound : first.IsInbound) (other : second.IsInbound)
      (different : first.fillId? ≠ second.fillId?) : Independent first second
  | closures {id other : StagedId} (sender another : Address) (different : id ≠ other) :
    Independent (.closeStagedOutbound sender id) (.closeStagedOutbound another other)
  | closeInitiate {id other : StagedId} (sender payer refundToken : Address)
      (different : id ≠ other) :
    Independent (.closeStagedOutbound sender id) (.initiateTransfer payer refundToken other)
  | initiateClose {id other : StagedId} (payer refundToken sender : Address)
      (different : id ≠ other) :
    Independent (.initiateTransfer payer refundToken id) (.closeStagedOutbound sender other)

/-- The parts that a transfer may change, and all that it reads beside what is administered. -/
def Touches : Operation → Part → Prop
  | .stageOutbound _, .transfer _ | .stageOutbound _, .numbering => True
  | .closeStagedOutbound _ id, .transfer other => id = other
  | .initiateTransfer _ _ id, .transfer other => id = other
  | .initiateTransfer _ _ _, .orders => True
  | .completeDirect _ id, .fill other | .completeRelay _ _ id _, .fill other => id = other
  | .completePayload _ id, .fill other | .completePayload _ id, .payload other => id = other
  | .releaseInbound _ _ _ id, .payload other => id = other
  | _, _ => False

variable {first second : Operation} {part : Part}

theorem IsInbound.fillId?_ne_none {operation : Operation} (inbound : operation.IsInbound) :
    operation.fillId? ≠ none := by
  cases operation with
  | completeDirect | completeRelay | completePayload | releaseInbound => exact nofun
  | _ => exact inbound.elim

theorem IsOutbound.fillId?_eq_none {operation : Operation} (outbound : operation.IsOutbound) :
    operation.fillId? = none := by
  cases operation with
  | stageOutbound | closeStagedOutbound | initiateTransfer => rfl
  | _ => exact outbound.elim

theorem fillId?_eq_of_touches {operation : Operation} (touches : operation.Touches part) :
    part.fillId? = operation.fillId? := by
  cases operation with
  | stageOutbound | closeStagedOutbound | initiateTransfer =>
    cases part with
    | fill | payload => exact touches.elim
    | _ => rfl
  | completeDirect | completeRelay | completePayload | releaseInbound =>
    cases part with
    | fill | payload =>
      first
        | exact congrArg some touches.symm
        | exact touches.elim
    | _ => exact touches.elim
  | _ => cases part <;> exact touches.elim

namespace Independent

variable (independent : first.Independent second)

include independent

theorem symm : second.Independent first := by
  cases independent with
  | inboundOutbound inbound outbound => exact .outboundInbound outbound inbound
  | outboundInbound outbound inbound => exact .inboundOutbound inbound outbound
  | fills inbound other different => exact .fills other inbound different.symm
  | closures sender another different => exact .closures another sender different.symm
  | closeInitiate sender payer refundToken different =>
    exact .initiateClose payer refundToken sender different.symm
  | initiateClose payer refundToken sender different =>
    exact .closeInitiate sender payer refundToken different.symm

theorem not_isAdministrative : ¬ first.IsAdministrative := by
  cases independent with
  | inboundOutbound inbound | fills inbound => exact inbound.not_isAdministrative
  | outboundInbound outbound => exact outbound.not_isAdministrative
  | closures | closeInitiate | initiateClose => exact id

theorem not_touches (touched : first.Touches part) : ¬ second.Touches part := by
  intro touches
  have same := (fillId?_eq_of_touches touched).symm.trans (fillId?_eq_of_touches touches)
  cases independent with
  | inboundOutbound inbound outbound =>
    exact inbound.fillId?_ne_none (same.trans outbound.fillId?_eq_none)
  | outboundInbound outbound inbound =>
    exact inbound.fillId?_ne_none (same.symm.trans outbound.fillId?_eq_none)
  | fills inbound other different => exact different same
  | closures sender another different | closeInitiate sender payer refundToken different =>
    cases part with
    | transfer id => exact different (touched.trans touches.symm)
    | _ => exact touched.elim
  | initiateClose payer refundToken sender different =>
    cases part with
    | transfer id => exact different (touched.trans touches.symm)
    | _ => exact touches.elim

end Independent

end Operation

namespace Deployment

def content (deployment : Deployment MemoryRouter) : (part : Part) → part.Content
  | .administration => deployment.administered
  | .transfer id => deployment.stagedOutbound.get? id
  | .numbering => deployment.nextStagedOutbound
  | .orders => (deployment.router.orders, deployment.router.nextOrder)
  | .fill id => deployment.router.fills.get? id
  | .payload id => deployment.stagedInbound.get? id

/-- The parts determine the deployment. -/
theorem ext_content {left right : Deployment MemoryRouter}
    (same : ∀ part, left.content part = right.content part) : left = right := by
  obtain ⟨settings, custodian, peers, outbound, inbound, number, orders, fills, order⟩ := left
  obtain ⟨_, _, _, outbound', inbound', _, orders', fills', _⟩ := right
  have transfers : outbound = outbound' := Table.ext_get? fun id => same (.transfer id)
  have payloads : inbound = inbound' := Table.ext_get? fun id => same (.payload id)
  have filled : fills = fills' := Table.ext_get? fun id => same (.fill id)
  cases same .administration
  cases same .numbering
  cases same .orders
  subst transfers payloads filled
  rfl

def put (deployment : Deployment MemoryRouter) :
    (part : Part) → part.Content → Deployment MemoryRouter
  | .administration, (settings, custodian, peers) => { deployment with settings, custodian, peers }
  | .transfer id, record? =>
    { deployment with stagedOutbound := deployment.stagedOutbound.put id record? }
  | .numbering, next => { deployment with nextStagedOutbound := next }
  | .orders, (orders, nextOrder) =>
    { deployment with router := { deployment.router with orders, nextOrder } }
  | .fill id, fill? =>
    { deployment with
      router := { deployment.router with fills := deployment.router.fills.put id fill? } }
  | .payload id, record? =>
    { deployment with stagedInbound := deployment.stagedInbound.put id record? }

theorem content_put_self (deployment : Deployment MemoryRouter) (part : Part)
    (content : part.Content) : (deployment.put part content).content part = content := by
  cases part with
  | administration | numbering | orders => rfl
  | transfer id | fill id | payload id => exact (Table.get?_put _ _ _ _).trans (if_pos rfl)

theorem content_put_of_ne (deployment : Deployment MemoryRouter) {part other : Part}
    (content : part.Content) (different : other ≠ part) :
    (deployment.put part content).content other = deployment.content other := by
  cases part with
  | administration | numbering | orders =>
    cases other <;> first | rfl | exact absurd rfl different
  | transfer id =>
    cases other with
    | transfer other =>
      exact (Table.get?_put _ _ _ _).trans (if_neg fun same => different (congrArg _ same))
    | _ => rfl
  | fill id =>
    cases other with
    | fill other =>
      exact (Table.get?_put _ _ _ _).trans (if_neg fun same => different (congrArg _ same))
    | _ => rfl
  | payload id =>
    cases other with
    | payload other =>
      exact (Table.get?_put _ _ _ _).trans (if_neg fun same => different (congrArg _ same))
    | _ => rfl

section Untouched

variable {before after : Deployment MemoryRouter} {operation : Operation} {part : Part}

theorem Effect.content_eq {outcome : Outcome} (effect : before.Effect operation outcome after)
    (transfer : ¬ operation.IsAdministrative) (untouched : ¬ operation.Touches part) :
    after.content part = before.content part := by
  have other (touched : Part) (touches : operation.Touches touched) : part ≠ touched := by
    rintro rfl
    exact untouched touches
  cases effect with
  | appointed operation administrative => exact absurd administrative transfer
  | registered operation administrative => exact absurd administrative transfer
  | staged request record next =>
    have number := before.content_put_of_ne next (other .numbering trivial)
    have staged := (before.put .numbering next).content_put_of_ne (some record)
      (other (.transfer before.nextStagedOutbound) trivial)
    exact staged.trans number
  | closed id => exact before.content_put_of_ne none (other (.transfer id) rfl)
  | initiated payer refundToken id order next =>
    have filed := before.content_put_of_ne
      (before.router.orders.insert before.router.nextOrder order, next) (other .orders trivial)
    have ended := (before.fileOrder order next).content_put_of_ne none (other (.transfer id) rfl)
    exact ended.trans filed
  | paidDirect recipient id => exact before.content_put_of_ne none (other (.fill id) rfl)
  | paidRelay payer recipient id => exact before.content_put_of_ne none (other (.fill id) rfl)
  | stagedInbound stagedBy sender body id received =>
    have dropped := before.content_put_of_ne none (other (.fill id) rfl)
    have staged := (before.dropFill id).content_put_of_ne
      (some (received.toStaged stagedBy sender body)) (other (.payload id) rfl)
    exact staged.trans dropped
  | released dstToken beneficiary id =>
    exact before.content_put_of_ne none (other (.payload id) rfl)

theorem content_step (before : Deployment MemoryRouter) (transfer : ¬ operation.IsAdministrative)
    (untouched : ¬ operation.Touches part) :
    (before.step operation).2.content part = before.content part := by
  rcases performed : before.step operation with ⟨fault | outcome, after⟩
  · have kept : (before.step operation).2 = before :=
      keptOnRefusal_action operation fault (congrArg Prod.fst performed)
    rw [performed] at kept
    exact congrArg (content · part) kept
  · exact (effect_of_step_eq_ok performed).content_eq transfer untouched

end Untouched

section Alike

variable {α β : Type} {parts : Part → Prop} {left right : Deployment MemoryRouter}

/-- Two deployments have the same content in some parts. -/
def Alike (parts : Part → Prop) (left right : Deployment MemoryRouter) : Prop :=
  ∀ part, parts part → left.content part = right.content part

theorem Alike.put (alike : Alike parts left right) (part : Part) (content : part.Content) :
    Alike parts (left.put part content) (right.put part content) := by
  intro other shown
  by_cases same : other = part
  · subst same
    rw [content_put_self, content_put_self]
  · rw [content_put_of_ne _ _ same, content_put_of_ne _ _ same, alike other shown]

def EndAlike (parts : Part → Prop) (left right : Except SwapError α × Deployment MemoryRouter) :
    Prop :=
  left.1 = right.1 ∧ Alike parts left.2 right.2

namespace EndAlike

theorem get {next : Deployment MemoryRouter → Action MemoryRouter β}
    (ends : EndAlike parts (left.perform (next left)) (right.perform (next right))) :
    EndAlike parts (left.perform (get >>= next)) (right.perform (get >>= next)) := by
  rw [perform_get_bind, perform_get_bind]
  exact ends

theorem check {check other : Except SwapError α} {next further : α → Action MemoryRouter β}
    (same : check = other) (alike : Alike parts left right)
    (ends : ∀ value, EndAlike parts (left.perform (next value)) (right.perform (further value))) :
    EndAlike parts (left.perform (liftM check >>= next))
      (right.perform (liftM other >>= further)) := by
  subst same
  rw [perform_bind, perform_check, perform_bind, perform_check]
  cases check with
  | error fault => exact ⟨rfl, alike⟩
  | ok value => exact ends value

theorem bind {first : Action MemoryRouter α} {next : α → Action MemoryRouter β}
    (begun : EndAlike parts (left.perform first) (right.perform first))
    (ends : ∀ value (left right : Deployment MemoryRouter), Alike parts left right →
      EndAlike parts (left.perform (next value)) (right.perform (next value))) :
    EndAlike parts (left.perform (first >>= next)) (right.perform (first >>= next)) := by
  rw [perform_bind, perform_bind]
  generalize left.perform first = leftEnd at begun
  generalize right.perform first = rightEnd at begun
  obtain ⟨result, leftBetween⟩ := leftEnd
  obtain ⟨_, rightBetween⟩ := rightEnd
  obtain ⟨same, alike⟩ := begun
  cases same
  cases result with
  | error fault => exact ⟨rfl, alike⟩
  | ok value => exact ends value _ _ alike

theorem map {first : Action MemoryRouter α}
    (begun : EndAlike parts (left.perform first) (right.perform first)) (convert : α → β) :
    EndAlike parts (left.perform (first >>= fun value => pure (convert value)))
      (right.perform (first >>= fun value => pure (convert value))) :=
  begun.bind fun _ _ _ alike => ⟨rfl, alike⟩

end EndAlike

end Alike

section Reading

variable {left right : Deployment MemoryRouter}
  (administration : left.administered = right.administered)

include administration

theorem readFill_congr {id : FillId} (held : left.content (.fill id) = right.content (.fill id)) :
    left.readFill id = right.readFill id := by
  have held : left.router.fills.get? id = right.router.fills.get? id := held
  simp only [readFill, MemoryRouter.tokenRouter_fill?, held, peers_eq_of_administered_eq administration]

theorem payableRelay_congr {id : FillId} (held : left.content (.fill id) = right.content (.fill id))
    (payer recipient : Address) (now : Int64) :
    left.payableRelay payer recipient id now = right.payableRelay payer recipient id now := by
  simp only [payableRelay, requireCustodian, readFill_congr administration held,
    custodian_eq_of_administered_eq administration]

theorem unstagedPayload_congr {id : FillId}
    (held : left.content (.fill id) = right.content (.fill id))
    (staged : left.content (.payload id) = right.content (.payload id)) :
    left.unstagedPayload id = right.unstagedPayload id := by
  have staged : left.stagedInbound.get? id = right.stagedInbound.get? id := staged
  simp only [unstagedPayload, readFill_congr administration held, staged]

theorem stagedRecord_congr (request : StagingRequest) :
    left.stagedRecord request = right.stagedRecord request := by
  have settings : left.settings = right.settings := congrArg Prod.fst administration
  simp only [stagedRecord, requirePeer, settings, peers_eq_of_administered_eq administration]

theorem orderFor_congr {id : StagedId}
    (held : left.content (.transfer id) = right.content (.transfer id))
    (payer refundToken : Address) :
    left.orderFor payer refundToken id = right.orderFor payer refundToken id := by
  have held : left.stagedOutbound.get? id = right.stagedOutbound.get? id := held
  have settings : left.settings = right.settings := congrArg Prod.fst administration
  simp only [orderFor, requireStagedOutbound, requirePeer, requote, held, settings,
    peers_eq_of_administered_eq administration]

end Reading

section Locality

variable {parts : Part → Prop} {left right : Deployment MemoryRouter}
  (alike : Alike parts left right)

include alike

theorem endAlike_consumeFill {id : FillId}
    (held : left.content (.fill id) = right.content (.fill id)) :
    EndAlike parts (left.perform (consumeFill id)) (right.perform (consumeFill id)) := by
  have held : left.router.fills.get? id = right.router.fills.get? id := held
  rw [consumeFill, perform_onRouter, perform_onRouter, MemoryRouter.tokenRouter_consumeFill,
    MemoryRouter.run_consumeFill, MemoryRouter.run_consumeFill, held]
  cases right.router.fills.get? id with
  | none => exact ⟨rfl, alike⟩
  | some fill => exact ⟨rfl, alike.put (.fill id) none⟩

theorem endAlike_prepareOrder (order : MarketOrder)
    (filed : left.content .orders = right.content .orders) :
    EndAlike parts (left.perform (prepareOrder order)) (right.perform (prepareOrder order)) := by
  have number : left.router.nextOrder = right.router.nextOrder := congrArg Prod.snd filed
  have orders : left.router.orders = right.router.orders := congrArg Prod.fst filed
  rw [prepareOrder, perform_onRouter, perform_onRouter,
    MemoryRouter.tokenRouter_prepareMarketOrder, MemoryRouter.run_prepareMarketOrder,
    MemoryRouter.run_prepareMarketOrder, number, orders]
  by_cases nothing : order.amountIn = 0
  · rw [if_pos nothing, if_pos nothing]
    exact ⟨rfl, alike⟩
  · rw [if_neg nothing, if_neg nothing]
    cases Word.ofNat? 8 (right.router.nextOrder.val + 1) with
    | none => exact ⟨rfl, alike⟩
    | some next =>
      exact ⟨rfl, alike.put .orders
        (right.router.orders.insert right.router.nextOrder order, next)⟩

theorem endAlike_stageOutbound (administration : left.administered = right.administered)
    (numbered : left.content .numbering = right.content .numbering) (request : StagingRequest) :
    EndAlike parts (left.perform (stageOutbound request))
      (right.perform (stageOutbound request)) := by
  have numbered : left.nextStagedOutbound = right.nextStagedOutbound := numbered
  refine .get (.check (stagedRecord_congr administration request) alike fun record => ?_)
  rw [numbered]
  refine .check rfl alike fun next => ?_
  have numbers := (alike.put .numbering next).put (.transfer right.nextStagedOutbound) (some record)
  exact ⟨rfl, numbers⟩

theorem endAlike_closeStagedOutbound {id : StagedId}
    (held : left.content (.transfer id) = right.content (.transfer id)) (sender : Address) :
    EndAlike parts (left.perform (closeStagedOutbound sender id))
      (right.perform (closeStagedOutbound sender id)) := by
  have held : left.stagedOutbound.get? id = right.stagedOutbound.get? id := held
  have found : left.requireStagedOutbound id = right.requireStagedOutbound id := by
    simp only [requireStagedOutbound, held]
  refine .get (.check found alike fun staged => .check rfl alike fun _ => ?_)
  exact ⟨rfl, alike.put (.transfer id) none⟩

theorem endAlike_initiateTransfer (administration : left.administered = right.administered)
    {id : StagedId} (held : left.content (.transfer id) = right.content (.transfer id))
    (filed : left.content .orders = right.content .orders) (payer refundToken : Address) :
    EndAlike parts (left.perform (initiateTransfer payer refundToken id))
      (right.perform (initiateTransfer payer refundToken id)) := by
  refine .get (.check (orderFor_congr administration held payer refundToken) alike fun order => ?_)
  refine (endAlike_prepareOrder alike order filed).bind fun number left right alike => ?_
  exact ⟨rfl, alike.put (.transfer id) none⟩

theorem endAlike_completeDirect (administration : left.administered = right.administered)
    {id : FillId} (held : left.content (.fill id) = right.content (.fill id))
    (recipient : Address) :
    EndAlike parts (left.perform (completeDirect recipient id))
      (right.perform (completeDirect recipient id)) := by
  refine .get (.check (readFill_congr administration held) alike fun received => ?_)
  refine .check rfl alike fun _ => ?_
  exact (endAlike_consumeFill alike held).map _

theorem endAlike_completeRelay (administration : left.administered = right.administered)
    {id : FillId} (held : left.content (.fill id) = right.content (.fill id))
    (payer recipient : Address) (now : Int64) :
    EndAlike parts (left.perform (completeRelay payer recipient id now))
      (right.perform (completeRelay payer recipient id now)) := by
  refine .get (.check (payableRelay_congr administration held payer recipient now) alike
    fun relay => ?_)
  refine (endAlike_consumeFill alike held).bind fun custody left right alike => ?_
  split
  · exact ⟨rfl, alike⟩
  · refine .check rfl alike fun _ => .check rfl alike fun _ => ?_
    exact ⟨rfl, alike⟩

theorem endAlike_completePayload (administration : left.administered = right.administered)
    {id : FillId} (held : left.content (.fill id) = right.content (.fill id))
    (staged : left.content (.payload id) = right.content (.payload id)) (stagedBy : Address) :
    EndAlike parts (left.perform (completePayload stagedBy id))
      (right.perform (completePayload stagedBy id)) := by
  refine .get (.check (unstagedPayload_congr administration held staged) alike
    fun content => ?_)
  refine (endAlike_consumeFill alike held).bind fun custody left right alike => ?_
  exact ⟨rfl, alike.put (.payload id) (some _)⟩

theorem endAlike_releaseInbound {id : FillId}
    (staged : left.content (.payload id) = right.content (.payload id))
    (recipient dstToken beneficiary : Address) :
    EndAlike parts (left.perform (releaseInbound recipient dstToken beneficiary id))
      (right.perform (releaseInbound recipient dstToken beneficiary id)) := by
  have staged : left.stagedInbound.get? id = right.stagedInbound.get? id := staged
  have found : left.requireStagedInbound id = right.requireStagedInbound id := by
    simp only [requireStagedInbound, staged]
  refine .get (.check found alike fun staged => .check rfl alike fun _ => ?_)
  exact ⟨rfl, alike.put (.payload id) none⟩

end Locality

section Independence

variable {left right : Deployment MemoryRouter} {operation first second : Operation}

/-- A transfer is blind to what it does not touch. -/
theorem endAlike_step (transfer : ¬ operation.IsAdministrative)
    (administration : left.administered = right.administered)
    (alike : Alike operation.Touches left right) :
    EndAlike operation.Touches (left.step operation) (right.step operation) := by
  cases operation with
  | stageOutbound request =>
    exact (endAlike_stageOutbound alike administration (alike .numbering trivial) request).map _
  | closeStagedOutbound sender id =>
    exact (endAlike_closeStagedOutbound alike (alike (.transfer id) rfl) sender).map _
  | initiateTransfer payer refundToken id =>
    exact (endAlike_initiateTransfer alike administration (alike (.transfer id) rfl)
      (alike .orders trivial) payer refundToken).map _
  | completeDirect recipient id =>
    exact (endAlike_completeDirect alike administration (alike (.fill id) rfl) recipient).map _
  | completeRelay payer recipient id now =>
    exact (endAlike_completeRelay alike administration (alike (.fill id) rfl) payer recipient
      now).map _
  | completePayload stagedBy id =>
    exact (endAlike_completePayload alike administration (alike (.fill id) rfl)
      (alike (.payload id) rfl) stagedBy).map _
  | releaseInbound recipient dstToken beneficiary id =>
    exact (endAlike_releaseInbound alike (alike (.payload id) rfl) recipient dstToken
      beneficiary).map _
  | _ => exact absurd trivial transfer

theorem endAlike_step_after (independent : first.Independent second)
    (deployment : Deployment MemoryRouter) :
    EndAlike second.Touches ((deployment.step first).2.step second) (deployment.step second) := by
  have transfer := independent.not_isAdministrative
  refine endAlike_step independent.symm.not_isAdministrative
    (deployment.administered_step_of_not_isAdministrative transfer) fun part touches => ?_
  exact deployment.content_step transfer fun touched => independent.not_touches touched touches

/-- Independent transfers over the in-memory router can be asked for in either order, whether they
are accepted or refused: each of them has the same result in both orders, and both orders leave the
same deployment. -/
theorem independent_transfers_commute (independent : first.Independent second)
    (deployment : Deployment MemoryRouter) :
    let firstThenSecond := (deployment.step first).2.step second
    let secondThenFirst := (deployment.step second).2.step first
    secondThenFirst.1 = (deployment.step first).1 ∧
      firstThenSecond.1 = (deployment.step second).1 ∧
      firstThenSecond.2 = secondThenFirst.2 := by
  intro firstThenSecond secondThenFirst
  obtain ⟨secondResult, secondAlike⟩ := endAlike_step_after independent deployment
  obtain ⟨firstResult, firstAlike⟩ := endAlike_step_after independent.symm deployment
  have transfer := independent.not_isAdministrative
  have another := independent.symm.not_isAdministrative
  refine ⟨firstResult, secondResult, ext_content fun part => ?_⟩
  by_cases touched : first.Touches part
  · have untouched := independent.not_touches touched
    exact (content_step _ another untouched).trans (firstAlike part touched).symm
  by_cases touches : second.Touches part
  · exact (secondAlike part touches).trans (content_step _ transfer touched).symm
  · calc
      firstThenSecond.2.content part = (deployment.step first).2.content part :=
        content_step _ another touches
      _ = deployment.content part := content_step _ transfer touched
      _ = (deployment.step second).2.content part := (content_step _ another touches).symm
      _ = secondThenFirst.2.content part := (content_step _ transfer touched).symm

end Independence

/-- Chain 1, with two transfers staged for chain 2 and two fills from there, of which the first has a
payload. -/
def crossing : Deployment MemoryRouter :=
  (fresh (.standard 1) .empty).run
    [ .asked (.install 11 12 13 14),
      .asked (.addPeer 11 2 22 ⟨5, 1, ⟨10⟩, 0, none, Settings.standardTimeLimit⟩),
      .asked (.stageOutbound ⟨5, 6, 4, 100, true, 2, 7, none, none⟩),
      .asked (.stageOutbound ⟨5, 6, 4, 80, true, 2, 8, none, none⟩),
      .delivered 9 ⟨2, 22,
        1 :: List.replicate 31 0 ++ [7] ++ (1 :: List.replicate 31 0 ++ [6] ++ [0, 2, 8, 9]) ++ [0],
        .fastFill, 0, 70⟩,
      .delivered 10 ⟨2, 22, 1 :: List.replicate 31 0 ++ [7] ++ [0] ++ [0], .fastFill, 0, 60⟩ ]

/-- A payload is staged while a transfer is initiated; a fill is collected while another one cannot
be; and a transfer is closed while another one is initiated. -/
theorem crossing_transfers_commute :
    let payload := Operation.completePayload 3 9
    let direct := Operation.completeDirect 7 10
    let relay := Operation.completeRelay 8 7 9 0
    let close := Operation.closeStagedOutbound 6 1
    let initiate := Operation.initiateTransfer 5 4 0
    (payload.Independent initiate ∧ relay.Independent direct ∧ close.Independent initiate) ∧
      ((crossing.step initiate).2.step payload).1 = .ok .done ∧
      ((crossing.step payload).2.step initiate).2 = ((crossing.step initiate).2.step payload).2 ∧
      ((crossing.step relay).2.step direct).1 = .ok (.paidDirect ⟨7, 60⟩) ∧
      ((crossing.step direct).2.step relay).1 = .error .invalidRedeemMode ∧
      ((crossing.step initiate).2.step close).1 = .ok (.refunded ⟨6, 5, 80⟩) ∧
      ((crossing.step close).2.step initiate).2 = ((crossing.step initiate).2.step close).2 := by
  intro payload direct relay close initiate
  have crosses : payload.Independent initiate := .inboundOutbound trivial trivial
  have fills : relay.Independent direct := .fills trivial trivial (by decide)
  have ends : close.Independent initiate := .closeInitiate 6 5 4 (by decide)
  obtain ⟨staged, -, crossed⟩ := independent_transfers_commute crosses crossing
  obtain ⟨refused, paid, -⟩ := independent_transfers_commute fills crossing
  obtain ⟨closed, -, ended⟩ := independent_transfers_commute ends crossing
  exact ⟨⟨crosses, fills, ends⟩, staged.trans rfl, crossed, paid.trans rfl, refused.trans rfl,
    closed.trans rfl, ended⟩

end Deployment
end SwapRelay
