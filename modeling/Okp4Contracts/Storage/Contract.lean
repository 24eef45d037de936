import Okp4Contracts.Storage.Msg

/-!
# The bucket contract

`contract.rs` of `cw-storage`: `instantiate` saves the bucket's name and limits as the message
gives them, every `execute` fails as not implemented, and the `Bucket` query answers with the
saved name and limits. So in every run the bucket stays the one instantiated; in particular its
name keeps whatever whitespace the message put in it.
-/

namespace Okp4Contracts.Storage

/-- `InstantiateMsg`. -/
structure InstantiateMsg where
  bucket : String
  limits : BucketLimits
  pagination : PaginationConfig

/-- `ExecuteMsg`. -/
inductive ExecuteMsg where
  | storeObject (data : Binary) (pin : Bool)
  | forgetObject (id : String)
  | pinObject (id : String)
  | unpinObject (id : String)

/-- `QueryMsg`. -/
inductive QueryMsg where
  | bucket
  | object (id : String)
  | objects (address : Option String) (first : Option UInt32) (after : Option String)
  | objectData (id : String)
  | objectPins (id : String) (first : Option UInt32) (after : Option String)

/-- `state::Bucket`, which the sources do not include: the fields `instantiate` fills. -/
structure Bucket where
  name : String
  limits : BucketLimits
  deriving DecidableEq, Repr

/-- The `Bucket` query's answer, with the fields `query::bucket` fills. -/
structure BucketResponse where
  name : String
  limits : BucketLimits
  deriving DecidableEq, Repr

/-- `ContractError` of `cw-storage`, whose source is not included: the variants `contract.rs`
raises. -/
inductive ContractError where
  | std (e : StdError)
  | notImplemented
  deriving DecidableEq, Repr

/-- `instantiate`: the `BUCKET` item, the contract's storage, is saved. Setting the contract
version is left out: no entry point reads it. -/
def instantiate (_storage : Option Bucket) (_env : Env) (_info : MessageInfo)
    (msg : InstantiateMsg) : Option Bucket × Except (Failure ContractError) Response :=
  (some ⟨msg.bucket, msg.limits⟩, .ok {})

/-- `execute`: nothing is implemented. -/
def execute (storage : Option Bucket) (_env : Env) (_info : MessageInfo) (_msg : ExecuteMsg) :
    Option Bucket × Except (Failure ContractError) Response :=
  (storage, .error (.err .notImplemented))

/-- `query`, before the answer is serialized: only the `Bucket` query is implemented. -/
def query (storage : Option Bucket) (_env : Env) : QueryMsg → Except StdError BucketResponse
  | .bucket =>
      match storage with
      | none => .error (.notFound "Bucket")
      | some bucket => .ok ⟨bucket.name, bucket.limits⟩
  | _ => .error (.genericErr "Not implemented")

/-- The host running execute calls one after another from the committed storage `s`. -/
def run (s : Option Bucket) : List (Env × MessageInfo × ExecuteMsg) → Option Bucket
  | [] => s
  | (env, info, msg) :: calls => run (commit s (execute s env info msg)) calls

/-- Every call fails, so the host commits nothing: a run leaves the bucket as it was. -/
theorem run_eq (s : Option Bucket) (calls : List (Env × MessageInfo × ExecuteMsg)) :
    run s calls = s := by
  induction calls with
  | nil => rfl
  | cons c calls ih =>
      obtain ⟨env, info, msg⟩ := c
      exact ih

end Okp4Contracts.Storage
