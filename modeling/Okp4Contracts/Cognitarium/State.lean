import Okp4Contracts.Cognitarium.Triples

/-!
# Messages, errors and storage of the triple store

The messages of `msg.rs`, the errors, the `Store` item and the `triples()` indexed map with its
`(subject, predicate)` index. The crate's `error.rs` and `state` module are not among the
sources: their types are modelled from the way `contract.rs` and its tests use them.
-/

namespace Okp4Contracts.Cognitarium

/-- `StoreLimits`: each ceiling is unbounded when `none`. -/
structure StoreLimits where
  maxTripleCount : Option Uint128 := none
  maxByteSize : Option Uint128 := none
  maxTripleByteSize : Option Uint128 := none
  maxQueryLimit : Option Uint128 := none
  maxQueryVariableCount : Option Uint128 := none
  maxInsertDataByteSize : Option Uint128 := none
  maxInsertDataTripleCount : Option Uint128 := none
  deriving DecidableEq, Repr

inductive DataInput where
  | rdfXml (data : Binary)
  | turtle (data : Binary)
  | nTriples (data : Binary)
  deriving DecidableEq, Repr

structure InstantiateMsg where
  limits : StoreLimits
  deriving DecidableEq, Repr

inductive ExecuteMsg where
  | insertData (input : DataInput)
  deriving DecidableEq, Repr

/-- Modelled from the spec: `StoreError`, with the ceilings the tests and the spec name. -/
inductive StoreError where
  | maxTriplesLimitExceeded (max : Uint128)
  | maxByteSize (max : Uint128)
  | maxTripleByteSize (max : Uint128)
  | maxInsertDataByteSize (max : Uint128)
  | maxInsertDataTripleCount (max : Uint128)
  deriving DecidableEq, Repr

/-- Modelled from the spec: `ContractError`, with the variants the code and its tests name, and
the parse error the reader's syntax errors become. -/
inductive ContractError where
  | std (e : StdError)
  | parseRDF (msg : String)
  | store (e : StoreError)
  | unauthorized
  deriving DecidableEq, Repr

structure StoreStat where
  triplesCount : Uint128
  deriving DecidableEq, Repr

structure Store where
  owner : Addr
  limits : StoreLimits
  stat : StoreStat
  deriving DecidableEq, Repr

/-- `Store::new`: the store of `owner`, holding no triple. -/
def Store.new (owner : Addr) (limits : StoreLimits) : Store := ⟨owner, limits, ⟨.zero⟩⟩

/-- The key of the `subject_and_predicate` index. -/
def indexKey (t : Triple) : Subject × Predicate := (t.subject, t.predicate)

/-- The `triples()` indexed map under the `u128` keys `insert` saves with, and its
`subject_and_predicate` multi-index, whose entries are `(indexKey t, key)`. -/
structure TripleMap where
  primary : Nat → Option Triple
  subjectAndPredicate : (Subject × Predicate) × Nat → Bool

namespace TripleMap

def empty : TripleMap := ⟨fun _ => none, fun _ => false⟩

/-- `IndexedMap::save`: the index entry of the triple the key held is removed, the new
triple's is added, and the primary entry is written. -/
def save (m : TripleMap) (k : Nat) (t : Triple) : TripleMap where
  primary := Function.update m.primary k (some t)
  subjectAndPredicate := fun (sp, j) =>
    decide ((sp, j) = (indexKey t, k)) ||
      (m.subjectAndPredicate (sp, j) && !decide (j = k ∧ (m.primary k).map indexKey = some sp))

/-- The index holds an entry exactly for each stored triple, under its subject and predicate. -/
def Consistent (m : TripleMap) : Prop :=
  ∀ sp k, m.subjectAndPredicate (sp, k) = decide ((m.primary k).map indexKey = some sp)

theorem empty_consistent : empty.Consistent := by
  simp [Consistent, empty]

theorem save_consistent {m : TripleMap} (h : m.Consistent) (k : Nat) (t : Triple) :
    (m.save k t).Consistent := by
  intro sp j
  by_cases hjk : j = k
  · subst hjk
    simp [save, h sp j, eq_comm]
  · simp [save, h sp j, hjk, Function.update_noteq hjk]

end TripleMap

/-- The contract's storage: the `STORE` and `TRIPLE_KEY_INCREMENT` items and the triples. -/
structure Storage where
  store : Option Store
  tripleKeyIncrement : Option Uint128
  triples : TripleMap

/-- The storage of a contract no call has run on. -/
def Storage.empty : Storage := ⟨none, none, .empty⟩

/-- The crate's `rdf` module, which the sources do not include: `explode_iri`, and the reader
`parse_triples` runs on a payload. The reader yields the payload's raw triples in order, and a
syntax error where the payload is malformed, after which nothing is read. -/
structure Rdf where
  explodeIri : String → Except StdError (String × String)
  read : DataInput → List (Except String Rio.Triple)

end Okp4Contracts.Cognitarium
