import SwapRelay.Settings.Basic
import SwapRelay.Text.Json

/-!
# Settings as text

Settings are read from JSON. The chain must be given; gas overheads and the time limit may be left
out, and so may single gas overheads, while the parts of a venue's gas and of a time limit belong
together. Written settings name every field.
-/

namespace SwapRelay

namespace Json

def word? (n : Nat) : Value → Option (Word n)
  | .number (some natural) => Word.ofNat? n natural
  | _ => none

/-- A field that may be left out. -/
def orElse? {α : Type} (read : Value → Option α) (absent : α) : Option Value → Option α
  | some value => read value
  | none => some absent

def renderObject (members : List (String × String)) : String :=
  "\x7b" ++ String.intercalate "," (members.map fun member =>
    "\"" ++ member.1 ++ "\":" ++ member.2) ++ "\x7d"

def renderWord {n : Nat} (word : Word n) : String := toString word.val

end Json

open Json

namespace VenueGas

def ofJson? (value : Value) : Option VenueGas :=
  match fields? ["overhead", "per_swap"] value with
  | some [some overhead, some perSwap] => do return ⟨← word? 8 overhead, ← word? 8 perSwap⟩
  | _ => none

def render (gas : VenueGas) : String :=
  renderObject [("overhead", renderWord gas.overhead), ("per_swap", renderWord gas.perSwap)]

end VenueGas

namespace GasOverheads

def ofJson? (value : Value) : Option GasOverheads :=
  match fields? ["base", "dropoff", "uniswap_v3", "trader_joe"] value with
  | some [base, dropoff, uniswapV3, traderJoe] => do
    return ⟨← orElse? (word? 8) standard.base base,
      ← orElse? (word? 8) standard.dropoff dropoff,
      ← orElse? VenueGas.ofJson? standard.uniswapV3 uniswapV3,
      ← orElse? VenueGas.ofJson? standard.traderJoe traderJoe⟩
  | _ => none

def render (overheads : GasOverheads) : String :=
  renderObject [("base", renderWord overheads.base), ("dropoff", renderWord overheads.dropoff),
    ("uniswap_v3", overheads.uniswapV3.render), ("trader_joe", overheads.traderJoe.render)]

end GasOverheads

namespace SwapTimeLimit

def ofJson? (value : Value) : Option SwapTimeLimit :=
  match fields? ["fast_limit", "finalized_limit"] value with
  | some [some fast, some finalized] => do return ⟨← word? 4 fast, ← word? 4 finalized⟩
  | _ => none

def render (limit : SwapTimeLimit) : String :=
  renderObject [("fast_limit", renderWord limit.fast),
    ("finalized_limit", renderWord limit.finalized)]

end SwapTimeLimit

namespace Settings

def ofJson? (value : Value) : Option Settings :=
  match fields? ["chain", "gas_overheads", "swap_time_limit"] value with
  | some [some chain, gasOverheads, swapTimeLimit] => do
    return ⟨← word? 2 chain, ← orElse? GasOverheads.ofJson? .standard gasOverheads,
      ← orElse? SwapTimeLimit.ofJson? standardTimeLimit swapTimeLimit⟩
  | _ => none

def parse? (text : String) : Option Settings := do ofJson? (← Json.parse? text)

/-- The compact JSON text with all fields. -/
def render (settings : Settings) : String :=
  renderObject [("chain", renderWord settings.chain),
    ("gas_overheads", settings.gasOverheads.render),
    ("swap_time_limit", settings.swapTimeLimit.render)]

end Settings
end SwapRelay
