import Okp4Contracts.Cognitarium.State

/-!
# The entry points of the triple store

`instantiate`, `execute` and `execute::insert` of `contract.rs`. `insert` streams the payload
through `rdf::parse_triples`; its callback counts each triple, checks the triple-count ceiling
and saves the triple under the next key, and the counters are stored once the whole stream has
passed. Nothing is written before a check of the same triple, but a later triple's failure
leaves the earlier triples' writes in the storage the call hands back to the host.
-/

namespace Okp4Contracts.Cognitarium

/-- Modelled from the spec: `rdf::parse_triples`, which the sources do not include. It runs the
reader on the payload, converts each raw triple and hands the result to `callback`, and stops at
the first syntax error or at the first error of `callback`. -/
def parseTriples {σ : Type} (convert : Rio.Triple → Except ContractError Triple)
    (callback : σ → Except ContractError Triple → σ × Except (Failure ContractError) Unit) :
    List (Except String Rio.Triple) → σ → σ × Except (Failure ContractError) Unit
  | [], st => (st, .ok ())
  | .error msg :: _, st => (st, .error (.err (.parseRDF msg)))
  | .ok triple :: rest, st =>
      match callback st (convert triple) with
      | (st, .ok ()) => parseTriples convert callback rest st
      | (st, .error e) => (st, .error e)

/-- What `insert`'s callback mutates: the key counter `pk`, the loaded `store`, and the
contract storage it saves to. -/
structure InsertState where
  pk : Uint128
  store : Store
  storage : Storage

/-- The callback `insert` hands to `parse_triples`. -/
def onTriple (st : InsertState) : Except ContractError Triple →
    InsertState × Except (Failure ContractError) Unit
  | .error e => (st, .error (.err e))
  | .ok triple =>
      match st.pk.add .one with
      | none => (st, .error (.panic "attempt to add with overflow"))
      | some pk =>
          match st.store.stat.triplesCount.add .one with
          | none => ({ st with pk }, .error (.panic "attempt to add with overflow"))
          | some count =>
              let store := { st.store with stat := { triplesCount := count } }
              match store.limits.maxTripleCount.filter (fun max => decide (max < count)) with
              | some max =>
                  ({ st with pk, store }, .error (.err (.store (.maxTriplesLimitExceeded max))))
              | none =>
                  ({ pk, store,
                     storage := { st.storage with triples := st.storage.triples.save pk.val triple } },
                   .ok ())

section Entry

variable (rdf : Rdf)

/-- The conversion `insert` passes to `parse_triples`: `Triple::try_from`, its error lifted. -/
def convertTriple (triple : Rio.Triple) : Except ContractError Triple :=
  (Triple.tryFrom rdf.explodeIri triple).mapError .std

/-- The response of an insert of `count` triples. -/
def insertResponse (count : Nat) : Response :=
  { attributes := [⟨"action", "insert"⟩, ⟨"inserted_count", toString count⟩] }

/-- `execute::insert`. The storage it returns is the one the host commits on `Ok` and
discards otherwise. -/
def insert (storage : Storage) (graph : DataInput) :
    Storage × Except (Failure ContractError) Response :=
  match storage.store with
  | none => (storage, .error (.err (.std (.notFound "Store"))))
  | some store =>
      match storage.tripleKeyIncrement with
      | none => (storage, .error (.err (.std (.notFound "Uint128"))))
      | some pk =>
          let oldCount := store.stat.triplesCount
          match parseTriples (convertTriple rdf) onTriple (rdf.read graph) ⟨pk, store, storage⟩ with
          | (st, .error e) => (st.storage, .error e)
          | (st, .ok ()) =>
              let storage :=
                { st.storage with tripleKeyIncrement := some st.pk, store := some st.store }
              match st.store.stat.triplesCount.sub oldCount with
              | none => (storage, .error (.panic "attempt to subtract with overflow"))
              | some count => (storage, .ok (insertResponse count.val))

/-- `execute`: the message is dispatched; neither the environment nor the sender is read. -/
def execute (storage : Storage) (_env : Env) (_info : MessageInfo) :
    ExecuteMsg → Storage × Except (Failure ContractError) Response
  | .insertData input => insert rdf storage input

end Entry

/-- `instantiate`: the sender becomes the owner of an empty store with the given limits. The
contract version it also records is read by no entry point and is left out. -/
def instantiate (storage : Storage) (_env : Env) (info : MessageInfo) (msg : InstantiateMsg) :
    Storage × Except (Failure ContractError) Response :=
  ({ storage with store := some (Store.new info.sender msg.limits), tripleKeyIncrement := some .zero },
   .ok {})

/-- `query`: no query is implemented. -/
def query (_storage : Storage) (_env : Env) : Except StdError Binary :=
  .error (.genericErr "Not implemented")

end Okp4Contracts.Cognitarium
