import SwapRelay.Error
import SwapRelay.Table
import SwapRelay.Value.Address

/-!
# Token routers

A token router moves USDC between chains. It takes orders from a deployment and holds the fills that
arrive for it; a fill can be consumed once. The in-memory router keeps orders and fills in tables.
-/

namespace SwapRelay

/-- The key of a fill: a hash of the attestation behind it. -/
abbrev FillId := Word 32

/-- The number of an order. -/
abbrev OrderId := Word 8

/-- USDC to be sent, with a message for the redeemer. -/
structure MarketOrder where
  amountIn : Word 8
  targetChain : ChainId
  redeemer : Address
  redeemerMessage : Bytes
  refundToken : Address
  deriving DecidableEq, Repr

/-- The way in which a fill arrived. -/
inductive FillKind where
  | unset
  /-- By a finalized deposit. -/
  | cctpDeposit
  | fastFill
  deriving DecidableEq, Repr

/-- USDC that has arrived, with the message of its order. -/
structure Fill where
  sourceChain : ChainId
  orderSender : Address
  redeemerMessage : Bytes
  kind : FillKind
  /-- The time at which it was prepared, in seconds. -/
  timestamp : Int64
  amount : Word 8
  deriving DecidableEq, Repr

/-- What a router does when it is called. It reports the state in which it stops, also with an error. -/
abbrev RouterAction (ρ : Type) := EStateM SwapError ρ

/-- What a deployment needs of a router. -/
class TokenRouter (ρ : Type) where
  prepareMarketOrder : MarketOrder → RouterAction ρ OrderId
  fill? : ρ → FillId → Option Fill
  /-- Hands over the amount of a fill. -/
  consumeFill : FillId → RouterAction ρ (Word 8)

/-- A router that keeps orders and fills in tables. -/
structure MemoryRouter where
  orders : Table 8 MarketOrder
  fills : Table 32 Fill
  nextOrder : OrderId
  deriving DecidableEq, Repr

namespace MemoryRouter

def empty : MemoryRouter := ⟨.empty, .empty, 0⟩

/-- Delivers a fill, in place of any other with the same key. -/
def insertFill (router : MemoryRouter) (id : FillId) (fill : Fill) : MemoryRouter :=
  { router with fills := router.fills.insert id fill }

/-- Files the order under the next number. -/
def prepareMarketOrder (order : MarketOrder) : RouterAction MemoryRouter OrderId := do
  require (order.amountIn ≠ 0) (.tokenRouter "amount in must be nonzero")
  let router ← get
  let id := router.nextOrder
  let nextOrder ← within 8 (id.val + 1)
  set { router with orders := router.orders.insert id order, nextOrder }
  return id

def consumeFill (id : FillId) : RouterAction MemoryRouter (Word 8) := do
  let router ← get
  match router.fills.get? id with
  | some fill =>
    set { router with fills := router.fills.erase id }
    return fill.amount
  | none => throw .fillNotFound

instance : TokenRouter MemoryRouter where
  prepareMarketOrder := prepareMarketOrder
  fill? router id := router.fills.get? id
  consumeFill := consumeFill

end MemoryRouter
end SwapRelay
