import Bittube.Crypto.Types

/-!
# Transaction inputs, outputs and prefix (`cryptonote_basic/cryptonote_basic.h`)

The variants of `txin_v` and `txout_target_v`, `tx_out`, and the fields of
`transaction_prefix`. Each `boost::variant` is an inductive type with one constructor per
alternative, carrying that alternative's struct, so a value of the wrong alternative cannot be
read as another. `size_t` and `uint64_t` fields are natural numbers; the serializers check
their ranges where they read them.

The amounts of a transaction's outputs add up with `uint64_t` wrap-around in every loop of the
source that sums them (`get_outs_money_amount` and the `money_in_use` loop of
`validate_miner_transaction`); `getOutsMoneyAmount` is that sum.
-/

namespace Bittube.CryptonoteBasic

open Bittube.Crypto

/-- `txout_to_script`. -/
structure TxoutToScript where
  keys : List PublicKey
  script : List UInt8
  deriving DecidableEq, Repr

/-- `txin_gen`: the input of a miner transaction, naming the block height. -/
structure TxinGen where
  height : ℕ
  deriving DecidableEq, Repr

/-- `txin_to_script`. -/
structure TxinToScript where
  prev : Hash
  prevout : ℕ
  sigset : List UInt8
  deriving DecidableEq, Repr

/-- `txin_to_scripthash`. -/
structure TxinToScripthash where
  prev : Hash
  prevout : ℕ
  script : TxoutToScript
  sigset : List UInt8
  deriving DecidableEq, Repr

/-- `txin_to_key`: a ring of earlier outputs (as offsets) and the key image it spends. -/
structure TxinToKey where
  amount : ℕ
  keyOffsets : List ℕ
  kImage : KeyImage
  deriving DecidableEq, Repr

/-- `txin_v`. -/
inductive TxinV
  | gen (txin : TxinGen)
  | toScript (txin : TxinToScript)
  | toScripthash (txin : TxinToScripthash)
  | toKey (txin : TxinToKey)
  deriving DecidableEq, Repr

/-- `txout_target_v`; `txout_to_scripthash` and `txout_to_key` are one-field structs. -/
inductive TxoutTargetV
  | toScript (target : TxoutToScript)
  | toScripthash (hash : Hash)
  | toKey (key : PublicKey)
  deriving DecidableEq, Repr

/-- `tx_out`. -/
structure TxOut where
  amount : ℕ
  target : TxoutTargetV
  deriving DecidableEq, Repr

/-- `transaction_prefix`. -/
structure TransactionPrefix where
  version : ℕ
  unlockTime : ℕ
  isMmTx : Bool
  vin : List TxinV
  vout : List TxOut
  extra : List UInt8
  deriving DecidableEq, Repr

/-- `get_outs_money_amount`: the sum of the output amounts in `uint64_t`. -/
def getOutsMoneyAmount (vout : List TxOut) : ℕ :=
  vout.foldl (fun acc o => (acc + o.amount) % 2 ^ 64) 0

/-- A `uint64_t` running sum is the sum modulo `2 ^ 64`. -/
theorem foldl_add_mod (l : List ℕ) :
    l.foldl (fun acc a => (acc + a) % 2 ^ 64) 0 = l.sum % 2 ^ 64 := by
  -- the accumulator is always a reduced word, so it is carried as `acc % 2 ^ 64`
  suffices h : ∀ acc, l.foldl (fun acc a => (acc + a) % 2 ^ 64) (acc % 2 ^ 64) =
      (acc + l.sum) % 2 ^ 64 by
    simpa using h 0
  induction l with
  | nil => intro acc; simp
  | cons a l ih =>
    intro acc
    simp only [List.foldl_cons, Nat.mod_add_mod, ih, List.sum_cons, Nat.add_assoc]

theorem getOutsMoneyAmount_eq (vout : List TxOut) :
    getOutsMoneyAmount vout = (vout.map TxOut.amount).sum % 2 ^ 64 := by
  rw [getOutsMoneyAmount, ← foldl_add_mod, List.foldl_map]

end Bittube.CryptonoteBasic
