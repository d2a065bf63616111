import LedgerWire.Asset.Pool
import LedgerWire.Price

/-!
Contract: putting assets into a liquidity pool and taking them out.

Owns:
- `PoolDeposit` and `PoolWithdraw` with their wire forms.

Does not own: pools.
-/

namespace LedgerWire

open Wire

/-- Puts at most the stated amounts into a pool, within a range of prices. -/
structure PoolDeposit where
  pool : LiquidityPoolId
  maxAmountA : Stroops
  maxAmountB : Stroops
  minPrice : Price
  maxPrice : Price
  deriving DecidableEq

def PoolDeposit.codec : Codec PoolDeposit :=
  (LiquidityPoolId.codec.pair <|
    Stroops.codec.pair <|
    Stroops.codec.pair <|
    Price.codec.pair Price.codec).convert
    (fun (pool, maxAmountA, maxAmountB, minPrice, maxPrice) =>
      ⟨pool, maxAmountA, maxAmountB, minPrice, maxPrice⟩)
    (fun body => (body.pool, body.maxAmountA, body.maxAmountB, body.minPrice, body.maxPrice))

/-- Takes at least the stated amounts out of a pool for a number of its shares. -/
structure PoolWithdraw where
  pool : LiquidityPoolId
  amount : Stroops
  minAmountA : Stroops
  minAmountB : Stroops
  deriving DecidableEq

def PoolWithdraw.codec : Codec PoolWithdraw :=
  (LiquidityPoolId.codec.pair <|
    Stroops.codec.pair <|
    Stroops.codec.pair Stroops.codec).convert
    (fun (pool, amount, minAmountA, minAmountB) => ⟨pool, amount, minAmountA, minAmountB⟩)
    (fun body => (body.pool, body.amount, body.minAmountA, body.minAmountB))

end LedgerWire
