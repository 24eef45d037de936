import Mathlib.Logic.Function.Basic
import Mathlib.Tactic.Positivity

/-!
# The parts of `cosmwasm_std` the contracts use

`Uint128` with the panicking `+` and `-` of its operators, the standard error, the message a
contract returns, and the host's transaction boundary: a call that returns `Err` or panics
leaves the committed storage as it was.
-/

namespace Okp4Contracts

/-- An address as the host hands it to a contract. -/
abbrev Addr := String

/-- `Binary`, the bytes of a payload. -/
abbrev Binary := List UInt8

/-- `str::as_bytes`: the UTF-8 encoding of a string. -/
def asBytes (s : String) : Binary := s.toUTF8.data.toList

theorem asBytes_eq (s : String) : asBytes s = s.data.flatMap String.utf8EncodeChar := rfl

/-- cosmwasm's `Uint128`. -/
@[ext]
structure Uint128 where
  val : Nat
  isLt : val < 2 ^ 128
  deriving DecidableEq, Repr

namespace Uint128

/-- `u128::MAX`. -/
def MAX : Nat := 2 ^ 128 - 1

theorem val_le_MAX (a : Uint128) : a.val ≤ MAX := by
  have := a.isLt
  unfold MAX
  omega

def zero : Uint128 := ⟨0, by positivity⟩

/-- `Uint128::MAX`. -/
def max : Uint128 := ⟨MAX, Nat.sub_one_lt (by positivity)⟩

def one : Uint128 := ⟨1, Nat.one_lt_two_pow (by decide)⟩

@[simp] theorem zero_val : zero.val = 0 := rfl

@[simp] theorem one_val : one.val = 1 := rfl

instance : OfNat Uint128 n := ⟨⟨n % 2 ^ 128, Nat.mod_lt _ (by positivity)⟩⟩

instance : LT Uint128 := ⟨fun a b => a.val < b.val⟩

instance : DecidableRel (α := Uint128) (· < ·) := fun a b => Nat.decLt a.val b.val

theorem lt_iff (a b : Uint128) : a < b ↔ a.val < b.val := Iff.rfl

/-- `a + b`: `none` where cosmwasm panics with "attempt to add with overflow". -/
def add (a b : Uint128) : Option Uint128 :=
  if h : a.val + b.val < 2 ^ 128 then some ⟨a.val + b.val, h⟩ else none

/-- `a - b`: `none` where cosmwasm panics with "attempt to subtract with overflow". -/
def sub (a b : Uint128) : Option Uint128 :=
  if h : b.val ≤ a.val then some ⟨a.val - b.val, by have := a.isLt; omega⟩ else none

theorem add_eq_some_iff {a b c : Uint128} : a.add b = some c ↔ c.val = a.val + b.val := by
  have := c.isLt
  unfold add
  split <;> simp only [Option.some.injEq, Uint128.ext_iff, reduceCtorEq, false_iff] <;> omega

theorem add_one_of_lt {a : Uint128} (h : a.val + 1 < 2 ^ 128) :
    a.add one = some ⟨a.val + 1, h⟩ := dif_pos h

theorem add_one_of_MAX {a : Uint128} (h : a.val = MAX) : a.add one = none :=
  dif_neg (by simp only [one_val, h, MAX]; omega)

theorem add_eq_none_iff {a b : Uint128} : a.add b = none ↔ 2 ^ 128 ≤ a.val + b.val := by
  unfold add
  split <;> simp <;> omega

theorem eq_MAX_of_add_one {a : Uint128} (h : a.add one = none) : a.val = MAX := by
  have := a.isLt
  rw [add_eq_none_iff, one_val] at h
  unfold MAX
  omega

theorem sub_eq_some_iff {a b c : Uint128} :
    a.sub b = some c ↔ b.val ≤ a.val ∧ c.val = a.val - b.val := by
  unfold sub
  split <;> simp only [Option.some.injEq, Uint128.ext_iff, reduceCtorEq, false_iff] <;> omega

end Uint128

/-- Results compare by their constructor and payload, so that the answers of the model can be
decided. -/
instance instDecidableEqExcept {ε α : Type} [DecidableEq ε] [DecidableEq α] :
    DecidableEq (Except ε α)
  | .error e, .error e' => decidable_of_iff (e = e') ⟨fun h => h ▸ rfl, Except.error.inj⟩
  | .ok a, .ok a' => decidable_of_iff (a = a') ⟨fun h => h ▸ rfl, Except.ok.inj⟩
  | .error _, .ok _ => isFalse fun h => Except.noConfusion h
  | .ok _, .error _ => isFalse fun h => Except.noConfusion h

/-- The variants of `cosmwasm_std::StdError` the modelled code raises. -/
inductive StdError where
  | genericErr (msg : String)
  /-- `Item::load` on an absent item; `kind` is the item's type name. -/
  | notFound (kind : String)
  deriving DecidableEq, Repr

/-- How a call ends when it does not return `Ok`: with the contract's `Err`, or with a Rust
panic, which aborts the wasm execution. The host handles both alike. -/
inductive Failure (ε : Type) where
  | err (e : ε)
  | panic (msg : String)
  deriving DecidableEq, Repr

structure Coin where
  denom : String
  amount : Uint128
  deriving DecidableEq, Repr

/-- `WasmMsg`, with the one variant a modelled contract sends. -/
inductive WasmMsg where
  | instantiate2 (admin : Option Addr) (codeId : Nat) (label : String) (msg : Binary)
      (funds : List Coin) (salt : Binary)
  deriving DecidableEq, Repr

structure Attribute where
  key : String
  value : String
  deriving DecidableEq, Repr

structure Response where
  messages : List WasmMsg := []
  attributes : List Attribute := []
  deriving DecidableEq, Repr

structure ContractInfo where
  address : Addr
  deriving DecidableEq, Repr

structure Env where
  contract : ContractInfo
  deriving DecidableEq, Repr

structure MessageInfo where
  sender : Addr
  funds : List Coin := []
  deriving DecidableEq, Repr

/-- The host's transaction boundary: the storage a call leaves is committed only when the call
returns `Ok`; an `Err` or a panic discards all of its writes. -/
def commit {σ ε α : Type} (before : σ) : σ × Except (Failure ε) α → σ
  | (after, .ok _) => after
  | (_, .error _) => before

@[simp] theorem commit_ok {σ ε α : Type} (before after : σ) (a : α) :
    commit before ((after, .ok a) : σ × Except (Failure ε) α) = after := rfl

@[simp] theorem commit_error {σ ε α : Type} (before after : σ) (e : Failure ε) :
    commit before ((after, .error e) : σ × Except (Failure ε) α) = before := rfl

end Okp4Contracts
