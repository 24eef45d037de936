import Okp4Contracts.Cognitarium.State

/-!
# The dataverse's instantiation

`instantiate` of `okp4-dataverse`: it predicts the address of the triple store it is about to
create, with `instantiate2_address` over the checksum of the store's code, its own canonical
address and the dataverse's name as salt, saves that address, and emits the `Instantiate2`
message that creates the store. The host derives the address of a contract created by
`Instantiate2` from the same three inputs, so the saved address is the created store's.
-/

namespace Okp4Contracts.DataverseContract

/-- `TripleStoreConfig`: the code of the triple store and the limits it is instantiated with. -/
structure TripleStoreConfig (L : Type) where
  codeId : Nat
  limits : L

/-- `InstantiateMsg`. The crate's `msg` module is not among the sources: the fields are those
`instantiate` reads, and the limits' type is a parameter. -/
structure InstantiateMsg (L : Type) where
  name : String
  triplestoreConfig : TripleStoreConfig L

/-- The `DATAVERSE` item. -/
structure Dataverse where
  name : String
  triplestoreAddress : Addr
  deriving DecidableEq, Repr

structure Storage where
  dataverse : Option Dataverse

/-- The errors `instantiate` raises: the host's, and `instantiate2_address`'s. -/
inductive ContractError where
  | std (e : StdError)
  | instantiate2Address (msg : String)
  deriving DecidableEq, Repr

/-- The host functions `instantiate` calls, and the conversion and serialization of the triple
store's instantiate message, whose sources are not included. `codeChecksum` is the `checksum`
field of `query_wasm_code_info`. -/
structure Api (L : Type) where
  addrCanonicalize : Addr → Except StdError Binary
  addrHumanize : Binary → Except StdError Addr
  codeChecksum : Nat → Except StdError Binary
  instantiate2Address : Binary → Binary → Binary → Except String Binary
  limitsInto : L → Cognitarium.StoreLimits
  toJsonBinary : Cognitarium.InstantiateMsg → Except StdError Binary

variable {L : Type} (api : Api L)

/-- `instantiate`. Setting the contract version is left out: no entry point reads it. -/
def instantiate (storage : Storage) (env : Env) (_info : MessageInfo) (msg : InstantiateMsg L) :
    Storage × Except (Failure ContractError) Response :=
  match api.addrCanonicalize env.contract.address with
  | .error e => (storage, .error (.err (.std e)))
  | .ok creator =>
      match api.codeChecksum msg.triplestoreConfig.codeId with
      | .error e => (storage, .error (.err (.std e)))
      | .ok checksum =>
          let salt := asBytes msg.name
          match api.instantiate2Address checksum creator salt with
          | .error e => (storage, .error (.err (.instantiate2Address e)))
          | .ok address =>
              match api.addrHumanize address with
              | .error e => (storage, .error (.err (.std e)))
              | .ok triplestoreAddress =>
                  let storage := { storage with dataverse := some ⟨msg.name, triplestoreAddress⟩ }
                  match api.toJsonBinary ⟨api.limitsInto msg.triplestoreConfig.limits⟩ with
                  | .error e => (storage, .error (.err (.std e)))
                  | .ok initMsg =>
                      (storage, .ok
                        { attributes := [⟨"triplestore_address", triplestoreAddress⟩]
                          messages := [.instantiate2 (some env.contract.address)
                            msg.triplestoreConfig.codeId (msg.name ++ "_triplestore") initMsg []
                            salt] })

/-- A failed instantiation hands back the storage it was given, except when every host function
succeeded and only the serialization of the store's message failed: `DATAVERSE` is saved before
it, so the storage handed back already holds the dataverse, and only the host's rollback removes
it. -/
theorem instantiate_error_writes (storage : Storage) (env : Env) (info : MessageInfo)
    (msg : InstantiateMsg L) (f : Failure ContractError)
    (h : (instantiate api storage env info msg).2 = .error f) :
    (instantiate api storage env info msg).1 = storage ∨
      ∃ triplestoreAddress e,
        api.toJsonBinary ⟨api.limitsInto msg.triplestoreConfig.limits⟩ = .error e ∧
        f = .err (.std e) ∧
        (instantiate api storage env info msg).1 =
          { storage with dataverse := some ⟨msg.name, triplestoreAddress⟩ } := by
  rcases hc : api.addrCanonicalize env.contract.address with e | creator <;>
    simp only [instantiate, hc] at h ⊢
  · exact .inl trivial
  rcases hk : api.codeChecksum msg.triplestoreConfig.codeId with e | checksum <;>
    simp only [hk] at h ⊢
  · exact .inl trivial
  rcases ha : api.instantiate2Address checksum creator (asBytes msg.name) with e | address <;>
    simp only [ha] at h ⊢
  · exact .inl trivial
  rcases hh : api.addrHumanize address with e | addr <;> simp only [hh] at h ⊢
  · exact .inl trivial
  rcases hj : api.toJsonBinary ⟨api.limitsInto msg.triplestoreConfig.limits⟩ with e | initMsg <;>
    simp only [hj, Except.error.injEq, reduceCtorEq] at h ⊢
  exact .inr ⟨addr, e, rfl, h.symm, rfl⟩

/-- `query`: no query is implemented. -/
def query (_storage : Storage) (_env : Env) : Except StdError Binary :=
  .error (.genericErr "Not implemented")

/-- The address the host gives the contract that `sender` creates with an `Instantiate2`
message: the checksum of the message's code, the sender's canonical address and the message's
salt go through `instantiate2_address`. -/
def instantiate2Target (sender : Addr) : WasmMsg → Option Addr
  | .instantiate2 _ codeId _ _ _ salt => do
      let creator ← (api.addrCanonicalize sender).toOption
      let checksum ← (api.codeChecksum codeId).toOption
      let address ← (api.instantiate2Address checksum creator salt).toOption
      (api.addrHumanize address).toOption

/-- The response of an instantiation that predicted `triplestoreAddress`. -/
def instantiateResponse (env : Env) (msg : InstantiateMsg L) (triplestoreAddress : Addr)
    (initMsg : Binary) : Response :=
  { attributes := [⟨"triplestore_address", triplestoreAddress⟩]
    messages := [.instantiate2 (some env.contract.address) msg.triplestoreConfig.codeId
      (msg.name ++ "_triplestore") initMsg [] (asBytes msg.name)] }

/-- `instantiate` succeeds only when every host function and the serialization succeed; it then
saves the name and the predicted address and answers with `instantiateResponse`. -/
theorem instantiate_ok {storage : Storage} {env : Env} {info : MessageInfo}
    {msg : InstantiateMsg L} {resp : Response}
    (h : (instantiate api storage env info msg).2 = .ok resp) :
    ∃ creator checksum address triplestoreAddress initMsg,
      api.addrCanonicalize env.contract.address = .ok creator ∧
      api.codeChecksum msg.triplestoreConfig.codeId = .ok checksum ∧
      api.instantiate2Address checksum creator (asBytes msg.name) = .ok address ∧
      api.addrHumanize address = .ok triplestoreAddress ∧
      api.toJsonBinary ⟨api.limitsInto msg.triplestoreConfig.limits⟩ = .ok initMsg ∧
      instantiate api storage env info msg =
        ({ storage with dataverse := some ⟨msg.name, triplestoreAddress⟩ },
          .ok (instantiateResponse env msg triplestoreAddress initMsg)) := by
  rcases hc : api.addrCanonicalize env.contract.address with e | creator <;>
    simp only [instantiate, hc] at h ⊢
  · cases h
  rcases hk : api.codeChecksum msg.triplestoreConfig.codeId with e | checksum <;>
    simp only [hk] at h ⊢
  · cases h
  rcases ha : api.instantiate2Address checksum creator (asBytes msg.name) with e | address <;>
    simp only [ha] at h ⊢
  · cases h
  rcases hh : api.addrHumanize address with e | addr <;> simp only [hh] at h ⊢
  · cases h
  rcases hj : api.toJsonBinary ⟨api.limitsInto msg.triplestoreConfig.limits⟩ with e | initMsg <;>
    simp only [hj] at h ⊢
  · cases h
  refine ⟨creator, checksum, address, addr, initMsg, ?_, ?_, ?_, ?_, ?_, rfl⟩ <;>
    first | rfl | assumption

/-- When the dataverse's instantiation succeeds, the address it saves and reports is the
humanized `instantiate2_address` of the store's code checksum, its own canonical address and its
name's bytes, and its one message instantiates that code with the name's bytes as salt and itself
as admin; so the saved address is the one the host gives the store the message creates. -/
theorem instantiate_saves_created_address (storage : Storage) (env : Env) (info : MessageInfo)
    (msg : InstantiateMsg L) (resp : Response)
    (h : (instantiate api storage env info msg).2 = .ok resp) :
    ∃ creator checksum address triplestoreAddress,
      api.addrCanonicalize env.contract.address = .ok creator ∧
      api.codeChecksum msg.triplestoreConfig.codeId = .ok checksum ∧
      api.instantiate2Address checksum creator (asBytes msg.name) = .ok address ∧
      api.addrHumanize address = .ok triplestoreAddress ∧
      (instantiate api storage env info msg).1.dataverse = some ⟨msg.name, triplestoreAddress⟩ ∧
      resp.attributes = [⟨"triplestore_address", triplestoreAddress⟩] ∧
      (∃ initMsg, resp.messages = [.instantiate2 (some env.contract.address)
        msg.triplestoreConfig.codeId (msg.name ++ "_triplestore") initMsg [] (asBytes msg.name)]) ∧
      ∀ m ∈ resp.messages, instantiate2Target api env.contract.address m = some triplestoreAddress := by
  obtain ⟨creator, checksum, address, addr, initMsg, hc, hk, ha, hh, -, heq⟩ := instantiate_ok api h
  rw [heq] at h ⊢
  cases h
  refine ⟨creator, checksum, address, addr, hc, hk, ha, hh, rfl, rfl, ⟨initMsg, rfl⟩, ?_⟩
  simp [instantiateResponse, instantiate2Target, hc, hk, ha, hh, Except.toOption]

theorem instantiate_saves_created_address_at_mock :
    let api : Api Cognitarium.StoreLimits :=
      ⟨fun a => .ok (asBytes a), fun _ => .ok "predicted address", fun _ => .ok [0x3b, 0x94],
        fun checksum creator salt => .ok (checksum ++ creator ++ salt), id, fun _ => .ok []⟩
    let env : Env := ⟨⟨"cosmos2contract"⟩⟩
    let msg : InstantiateMsg Cognitarium.StoreLimits := ⟨"my-dataverse", ⟨17, {}⟩⟩
    let resp := instantiateResponse env msg "predicted address" []
    (instantiate api ⟨none⟩ env ⟨"creator", []⟩ msg).2 = .ok resp ∧
      ∃ creator checksum address triplestoreAddress,
        api.addrCanonicalize env.contract.address = .ok creator ∧
        api.codeChecksum msg.triplestoreConfig.codeId = .ok checksum ∧
        api.instantiate2Address checksum creator (asBytes msg.name) = .ok address ∧
        api.addrHumanize address = .ok triplestoreAddress ∧
        (instantiate api ⟨none⟩ env ⟨"creator", []⟩ msg).1.dataverse =
          some ⟨msg.name, triplestoreAddress⟩ ∧
        resp.attributes = [⟨"triplestore_address", triplestoreAddress⟩] ∧
        (∃ initMsg, resp.messages = [.instantiate2 (some env.contract.address)
          msg.triplestoreConfig.codeId (msg.name ++ "_triplestore") initMsg []
          (asBytes msg.name)]) ∧
        ∀ m ∈ resp.messages,
          instantiate2Target api env.contract.address m = some triplestoreAddress :=
  ⟨rfl, instantiate_saves_created_address _ _ _ _ _ _ rfl⟩

end Okp4Contracts.DataverseContract
