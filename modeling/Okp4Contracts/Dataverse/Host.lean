import Okp4Contracts.Dataverse.Contract
import Okp4Contracts.Cognitarium.Run

/-!
# The dataverse and its triple store

The host executes the `Instantiate2` message of a successful `instantiate` in the same
transaction: it derives the new contract's address from the message's code checksum, the
sender's canonical address and the salt, decodes the message's binary as the triple store's
`InstantiateMsg`, and runs the store's `instantiate` at that address with the dataverse as
sender. So the store the dataverse creates sits at the address the dataverse saved, is owned by
the dataverse, has the limits of the dataverse's configuration, and keeps that owner and those
limits over every later run.
-/

namespace Okp4Contracts.DataverseContract

variable {L : Type} (api : Api L)

/-- The host executing an `Instantiate2` message that `sender` emitted for the triple store's
code: the created contract's address and its storage after the store's `instantiate`, which
receives the message decoded from its binary, `sender` as sender and the message's funds. -/
def instantiateTripleStore (decode : Binary → Option Cognitarium.InstantiateMsg) (sender : Addr)
    (m : WasmMsg) : Option (Addr × Cognitarium.Storage) :=
  match m with
  | .instantiate2 _ _ _ msg funds _ => do
      let address ← instantiate2Target api sender m
      let initMsg ← decode msg
      match Cognitarium.instantiate .empty ⟨⟨address⟩⟩ ⟨sender, funds⟩ initMsg with
      | (storage, .ok _) => some (address, storage)
      | (_, .error _) => none

/-- When the dataverse's instantiation succeeds and the store's message decodes as it was
serialized, the host creates one triple store, at the address the dataverse saved; in every run
from there the store holds the ledger of the dataverse, with the configured limits, whose log is
the triples of the calls that succeeded. -/
theorem instantiate_creates_owned_store (rdf : Cognitarium.Rdf)
    (decode : Binary → Option Cognitarium.InstantiateMsg)
    (hdecode : ∀ m b, api.toJsonBinary m = .ok b → decode b = some m)
    (storage : Storage) (env : Env) (info : MessageInfo) (msg : InstantiateMsg L) (resp : Response)
    (h : (instantiate api storage env info msg).2 = .ok resp) :
    ∃ dv store, (instantiate api storage env info msg).1.dataverse = some dv ∧
      resp.messages.map (instantiateTripleStore api decode env.contract.address) =
        [some (dv.triplestoreAddress, store)] ∧
      ∀ calls, ∃ l : Cognitarium.Ledger, (Cognitarium.run rdf store calls).Holds l ∧
        l.owner = env.contract.address ∧ l.limits = api.limitsInto msg.triplestoreConfig.limits ∧
        l.log = Cognitarium.committedTriples rdf store calls := by
  obtain ⟨creator, checksum, address, addr, initMsg, hc, hk, ha, hh, hj, heq⟩ :=
    instantiate_ok api h
  rw [heq] at h ⊢
  cases h
  have hinit := Cognitarium.instantiate_holds ⟨⟨addr⟩⟩ ⟨env.contract.address, []⟩
    ⟨api.limitsInto msg.triplestoreConfig.limits⟩
  refine ⟨_, (Cognitarium.instantiate .empty ⟨⟨addr⟩⟩ ⟨env.contract.address, []⟩
    ⟨api.limitsInto msg.triplestoreConfig.limits⟩).1, rfl, ?_, fun calls => ?_⟩
  · simp [instantiateResponse, instantiateTripleStore, instantiate2Target, hc, hk, ha, hh,
      hdecode _ _ hj, Except.toOption, Cognitarium.instantiate]
  · obtain ⟨l, hl, ho, hlim, hlog⟩ :=
      Cognitarium.run_holds rdf hinit calls
    exact ⟨l, hl, ho, hlim, by simpa [Cognitarium.Ledger.init] using hlog⟩

theorem instantiate_creates_owned_store_at_mock :
    let api : Api Cognitarium.StoreLimits :=
      ⟨fun a => .ok (asBytes a), fun _ => .ok "predicted address", fun _ => .ok [0x3b, 0x94],
        fun checksum creator salt => .ok (checksum ++ creator ++ salt), id,
        fun m => if m.limits = {} then .ok [] else .error (.genericErr "unsupported limits")⟩
    let decode : Binary → Option Cognitarium.InstantiateMsg := fun b =>
      if b = [] then some ⟨{}⟩ else none
    let rdf : Cognitarium.Rdf := ⟨fun iri => .ok ("", iri), fun _ => []⟩
    let env : Env := ⟨⟨"cosmos2contract"⟩⟩
    let msg : InstantiateMsg Cognitarium.StoreLimits := ⟨"my-dataverse", ⟨17, {}⟩⟩
    let resp := instantiateResponse env msg "predicted address" []
    (∀ m b, api.toJsonBinary m = .ok b → decode b = some m) ∧
      (instantiate api ⟨none⟩ env ⟨"creator", []⟩ msg).2 = .ok resp ∧
      ∃ dv store, (instantiate api ⟨none⟩ env ⟨"creator", []⟩ msg).1.dataverse = some dv ∧
        resp.messages.map (instantiateTripleStore api decode env.contract.address) =
          [some (dv.triplestoreAddress, store)] ∧
        ∀ calls, ∃ l : Cognitarium.Ledger, (Cognitarium.run rdf store calls).Holds l ∧
          l.owner = env.contract.address ∧ l.limits = api.limitsInto msg.triplestoreConfig.limits ∧
          l.log = Cognitarium.committedTriples rdf store calls := by
  intro api decode rdf env msg resp
  have hdecode : ∀ m b, api.toJsonBinary m = .ok b → decode b = some m := by
    rintro ⟨limits⟩ b hb
    by_cases hl : limits = {}
    · simp only [api, hl, if_true, Except.ok.injEq] at hb
      simp [decode, ← hb, hl]
    · simp [api, hl] at hb
  have h : (instantiate api ⟨none⟩ env ⟨"creator", []⟩ msg).2 = .ok resp := rfl
  exact ⟨hdecode, h, instantiate_creates_owned_store api rdf decode hdecode _ _ _ _ _ h⟩

end Okp4Contracts.DataverseContract
