import SwapRelay.Value.Address
import SwapRelay.Wire.Codec

/-!
# Output tokens

What the recipient is paid in: USDC itself, or the outcome of a swap at one of three venues. Two of
the venues take a path of pools, the third at most the program to trade at.
-/

namespace SwapRelay

/-- One further pool on a path, behind an intermediate token. -/
structure SwapHop where
  token : EvmAddress
  pool : Word 3
  deriving DecidableEq, Repr

namespace SwapHop

instance : Wire SwapHop where
  write hop := Wire.write hop.token ++ Wire.write hop.pool
  read := return ⟨← Wire.read, ← Wire.read⟩

end SwapHop

/-- A path of pools; each hop adds a swap to that in the first pool. -/
structure SwapPath where
  firstPool : Word 3
  hops : List SwapHop
  deriving DecidableEq, Repr

namespace SwapPath

def swapCount (path : SwapPath) : Nat := path.hops.length + 1

def writtenSize (path : SwapPath) : Nat := 4 + 23 * path.hops.length

def writeHopCount (count : Nat) : Written :=
  match Word.ofNat? 1 count with
  | some count => .ok count.toBytes
  | none => .error .swapPathTooLong

instance : Wire SwapPath where
  write path :=
    Wire.write path.firstPool ++ writeHopCount path.hops.length ++
      Wire.writeMany Wire.write path.hops
  read := do
    let firstPool ← Wire.read
    let count ← Reader.byte
    return ⟨firstPool, ← Reader.many Wire.read count.toNat⟩

end SwapPath

/-- Where the swap is made. -/
inductive SwapVenue where
  | uniswapV3 (path : SwapPath)
  | traderJoe (path : SwapPath)
  | jupiterV6 (program : Option Address)
  deriving DecidableEq, Repr

namespace SwapVenue

/-- The bytes of an optional program: a flag and, if present, an address. -/
def programSize : Option Address → Nat
  | none => 1
  | some _ => 33

def writtenSize : SwapVenue → Nat
  | .uniswapV3 path => 1 + path.writtenSize
  | .traderJoe path => 1 + path.writtenSize
  | .jupiterV6 program => 1 + programSize program

instance : Wire SwapVenue where
  write
    | .uniswapV3 path => Wire.tag 1 ++ Wire.write path
    | .traderJoe path => Wire.tag 2 ++ Wire.write path
    | .jupiterV6 program => Wire.tag 16 ++ Wire.write program
  read := do
    match ← Reader.byte with
    | 1 => return .uniswapV3 (← Wire.read)
    | 2 => return .traderJoe (← Wire.read)
    | 16 => return .jupiterV6 (← Wire.read)
    | _ => Reader.fail (.unknownTag .swapVenue)

end SwapVenue

/-- A swap of USDC into the output token. -/
structure OutputSwap where
  deadline : Word 4
  limitAmount : Word 16
  venue : SwapVenue
  deriving DecidableEq, Repr

namespace OutputSwap

def writtenSize (swap : OutputSwap) : Nat := 20 + swap.venue.writtenSize

instance : Wire OutputSwap where
  write swap := Wire.write swap.deadline ++ Wire.write swap.limitAmount ++ Wire.write swap.venue
  read := return ⟨← Wire.read, ← Wire.read, ← Wire.read⟩

end OutputSwap

/-- What the recipient is paid in. -/
inductive OutputToken where
  | usdc
  /-- The native token of the target chain. -/
  | gas (swap : OutputSwap)
  | other (address : Address) (swap : OutputSwap)
  deriving DecidableEq, Repr

namespace OutputToken

def swap? : OutputToken → Option OutputSwap
  | .usdc => none
  | .gas swap => some swap
  | .other _ swap => some swap

def writtenSize : OutputToken → Nat
  | .usdc => 1
  | .gas swap => 1 + swap.writtenSize
  | .other _ swap => 33 + swap.writtenSize

instance : Wire OutputToken where
  write
    | .usdc => Wire.tag 0
    | .gas swap => Wire.tag 1 ++ Wire.write swap
    | .other address swap => Wire.tag 2 ++ Wire.write address ++ Wire.write swap
  read := do
    match ← Reader.byte with
    | 0 => return .usdc
    | 1 => return .gas (← Wire.read)
    | 2 => return .other (← Wire.read) (← Wire.read)
    | _ => Reader.fail (.unknownTag .outputToken)

end OutputToken
end SwapRelay
