import Okp4Contracts.Cognitarium.Run

/-!
# The store as an abstract machine

The ledger is what the store is for; `Ledger.toStorage` is how the contract lays a ledger out in
its storage: the store with the log's length as count, the key counter at the same length, the
log's triples under the keys `1, 2, …` and the index they make. A storage holding a ledger is
that layout, so the host's runs are the ledger's runs seen through `toStorage`: every committed
storage is the layout of the ledger the calls built, and nothing a storage holds beyond its
ledger depends on the history, such as which calls failed or how the triples were batched.
-/

namespace Okp4Contracts.Cognitarium

namespace TripleMap

/-- The triples map holding `log` under the keys `1, 2, …`, with the index those triples make. -/
def ofLog (log : List Triple) : TripleMap where
  primary k := if k = 0 then none else log[k - 1]?
  subjectAndPredicate := fun (sp, k) =>
    decide (((if k = 0 then none else log[k - 1]?).map indexKey) = some sp)

theorem ofLog_stores (log : List Triple) : (ofLog log).Stores log :=
  ⟨fun _ => rfl, fun _ _ => rfl⟩

/-- A map holding `log` is the map of `log`: the index is a function of the primary entries. -/
theorem Stores.eq_ofLog {m : TripleMap} {log : List Triple} (h : m.Stores log) : m = ofLog log := by
  rcases m with ⟨primary, index⟩
  obtain rfl : primary = (ofLog log).primary := funext h.primary
  congr
  funext ⟨sp, k⟩
  exact h.consistent sp k

/-- A triple a map holding `log` stores stays where it is in a map holding a longer log. -/
theorem Stores.primary_of_append {m m' : TripleMap} {log more : List Triple} (h : m.Stores log)
    (h' : m'.Stores (log ++ more)) {k : Nat} {t : Triple} (hk : m.primary k = some t) :
    m'.primary k = some t := by
  rw [h.primary] at hk
  rw [h'.primary]
  split at hk
  · cases hk
  · rwa [if_neg ‹_›, List.getElem?_append_left (List.getElem?_eq_some.mp hk).1]

theorem Stores.index_of_append {m m' : TripleMap} {log more : List Triple} (h : m.Stores log)
    (h' : m'.Stores (log ++ more)) {sp : Subject × Predicate} {k : Nat}
    (hk : m.subjectAndPredicate (sp, k) = true) : m'.subjectAndPredicate (sp, k) = true := by
  rw [h.consistent] at hk
  rw [h'.consistent]
  cases hp : m.primary k with
  | none => simp [hp] at hk
  | some t => rwa [h.primary_of_append h' hp, ← hp]

end TripleMap

namespace Ledger

theorem length_lt (l : Ledger) : l.log.length < 2 ^ 128 := by
  have := l.log_le.trans (ceiling_le_MAX l.limits)
  unfold Uint128.MAX at this
  omega

/-- How the contract lays the ledger `l` out in its storage. -/
def toStorage (l : Ledger) : Storage :=
  ⟨some ⟨l.owner, l.limits, ⟨⟨l.log.length, l.length_lt⟩⟩⟩, some ⟨l.log.length, l.length_lt⟩,
    .ofLog l.log⟩

theorem toStorage_holds (l : Ledger) : l.toStorage.Holds l :=
  ⟨⟨_, rfl, rfl⟩, ⟨_, rfl, rfl⟩, TripleMap.ofLog_stores l.log⟩

end Ledger

/-- A storage holding `l` is the layout of `l`. -/
theorem Storage.Holds.eq_toStorage {s : Storage} {l : Ledger} (h : s.Holds l) :
    s = l.toStorage := by
  obtain ⟨count, hcount, hs⟩ := h.store
  obtain ⟨pk, hpk, hk⟩ := h.tripleKeyIncrement
  have ht := h.triples.eq_ofLog
  rcases s with ⟨_, _, triples⟩
  obtain rfl : count = ⟨l.log.length, l.length_lt⟩ := Uint128.ext_iff.mpr hcount
  obtain rfl : pk = ⟨l.log.length, l.length_lt⟩ := Uint128.ext_iff.mpr hpk
  obtain rfl : triples = _ := ht
  cases hs
  cases hk
  rfl

variable (rdf : Rdf)

namespace Ledger

/-- The ledger's answer to a call: the append of the call's stream. -/
def step (l : Ledger) (c : Call) : Except (Failure ContractError) Ledger :=
  match c.msg with
  | .insertData d => l.append rdf (rdf.read d)

/-- The ledger after `calls`: each call's append is kept when it succeeds. -/
def run (l : Ledger) : List Call → Ledger
  | [] => l
  | c :: cs =>
      match l.step rdf c with
      | .ok l' => run l' cs
      | .error _ => run l cs

end Ledger

/-- A call on a storage holding `l` answers as the ledger's step, reporting the number of triples
the step added, and commits a storage holding the ledger the step keeps. -/
theorem call_agrees {s : Storage} {l : Ledger} (h : s.Holds l) (c : Call) :
    (execute rdf s c.env c.info c.msg).2 =
        (l.step rdf c).map (fun l' => insertResponse (l'.log.length - l.log.length)) ∧
      (commit s (execute rdf s c.env c.info c.msg)).Holds
        (match l.step rdf c with
         | .ok l' => l'
         | .error _ => l) := by
  rcases c with ⟨env, info, ⟨d⟩⟩
  obtain ⟨hres, hholds⟩ := insert_agrees rdf h d
  refine ⟨hres, ?_⟩
  simp only [execute, Ledger.step] at hres ⊢
  rcases hi : insert rdf s d with ⟨s', r⟩
  rw [hi] at hres hholds
  cases ha : l.append rdf (rdf.read d) <;> rw [ha] at hres <;> cases hres
  · exact h
  · exact hholds _ ha

theorem run_holds_ledger_run {s : Storage} {l : Ledger} (h : s.Holds l) (calls : List Call) :
    (run rdf s calls).Holds (l.run rdf calls) := by
  induction calls generalizing s l with
  | nil => exact h
  | cons c cs ih =>
      have hstep := (call_agrees rdf h c).2
      simp only [run, Ledger.run]
      split at hstep <;> exact ih hstep

/-- Every run of the host from an instantiation commits the layout of the ledger the abstract
machine reaches over the same calls, and every next call answers as the machine's step, with the
number of triples the step added. -/
theorem run_eq_toStorage (env : Env) (info : MessageInfo) (msg : InstantiateMsg)
    (calls : List Call) :
    run rdf (instantiate .empty env info msg).1 calls =
        ((Ledger.init info msg).run rdf calls).toStorage ∧
      ∀ c : Call, (execute rdf (run rdf (instantiate .empty env info msg).1 calls)
          c.env c.info c.msg).2 =
        (((Ledger.init info msg).run rdf calls).step rdf c).map
          (fun l' =>
            insertResponse (l'.log.length - ((Ledger.init info msg).run rdf calls).log.length)) := by
  have h := run_holds_ledger_run rdf (instantiate_holds env info msg) calls
  exact ⟨h.eq_toStorage, fun c => (call_agrees rdf h c).1⟩

/-- From a reachable storage, every further run of the host keeps the store's owner and limits,
keeps each stored triple under its key and each index entry, and never lowers the counters,
which stay equal. -/
theorem run_keeps_stored_triples {s : Storage} (hs : Reachable rdf s) (calls : List Call) :
    (run rdf s calls).store.map (·.owner) = s.store.map (·.owner) ∧
      (run rdf s calls).store.map (·.limits) = s.store.map (·.limits) ∧
      (∀ k t, s.triples.primary k = some t → (run rdf s calls).triples.primary k = some t) ∧
      (∀ sp k, s.triples.subjectAndPredicate (sp, k) = true →
        (run rdf s calls).triples.subjectAndPredicate (sp, k) = true) ∧
      ∃ n n', n ≤ n' ∧ s.store.map (·.stat.triplesCount.val) = some n ∧
        s.tripleKeyIncrement.map (·.val) = some n ∧
        (run rdf s calls).store.map (·.stat.triplesCount.val) = some n' ∧
        (run rdf s calls).tripleKeyIncrement.map (·.val) = some n' := by
  obtain ⟨l, h⟩ := hs.holds
  obtain ⟨l', h', ho, hl, hlog⟩ := run_holds rdf h calls
  obtain ⟨count, hcount, hstore⟩ := h.store
  obtain ⟨pk, hpk, hk⟩ := h.tripleKeyIncrement
  obtain ⟨count', hcount', hstore'⟩ := h'.store
  obtain ⟨pk', hpk', hk'⟩ := h'.tripleKeyIncrement
  have ht : (run rdf s calls).triples.Stores (l.log ++ committedTriples rdf s calls) :=
    hlog ▸ h'.triples
  exact ⟨by simp [hstore, hstore', ho], by simp [hstore, hstore', hl],
    fun _ _ => h.triples.primary_of_append ht, fun _ _ => h.triples.index_of_append ht,
    l.log.length, l'.log.length, by simp [hlog], by simp [hstore, hcount], by simp [hk, hpk],
    by simp [hstore', hcount'], by simp [hk', hpk']⟩

theorem run_keeps_stored_triples_after_insert :
    let raw : Rio.Triple := ⟨.blankNode ⟨"b"⟩, ⟨"http://example.org/p"⟩, .literal (.simple "v")⟩
    let rdf : Rdf := ⟨fun iri => .ok ("", iri), fun _ => [.ok raw]⟩
    let c : Call := ⟨⟨⟨"cognitarium"⟩⟩, ⟨"owner", []⟩, .insertData (.nTriples [])⟩
    let s := run rdf (instantiate .empty c.env c.info ⟨{}⟩).1 [c]
    Reachable rdf s ∧
      (run rdf s [c]).store.map (·.owner) = s.store.map (·.owner) ∧
      (run rdf s [c]).store.map (·.limits) = s.store.map (·.limits) ∧
      (∀ k t, s.triples.primary k = some t → (run rdf s [c]).triples.primary k = some t) ∧
      (∀ sp k, s.triples.subjectAndPredicate (sp, k) = true →
        (run rdf s [c]).triples.subjectAndPredicate (sp, k) = true) ∧
      ∃ n n', n ≤ n' ∧ s.store.map (·.stat.triplesCount.val) = some n ∧
        s.tripleKeyIncrement.map (·.val) = some n ∧
        (run rdf s [c]).store.map (·.stat.triplesCount.val) = some n' ∧
        (run rdf s [c]).tripleKeyIncrement.map (·.val) = some n' := by
  intro raw rdf c s
  have hs : Reachable rdf s := ⟨c.env, c.info, ⟨{}⟩, [c], rfl⟩
  exact ⟨hs, run_keeps_stored_triples rdf hs [c]⟩

/-- Two runs from one instantiation that commit the same triples commit the same storage: a call
that failed leaves no trace, and how the triples were cut into calls does not matter. -/
theorem run_eq_of_committedTriples_eq (env : Env) (info : MessageInfo) (msg : InstantiateMsg)
    {calls calls' : List Call}
    (h : committedTriples rdf (instantiate .empty env info msg).1 calls =
      committedTriples rdf (instantiate .empty env info msg).1 calls') :
    run rdf (instantiate .empty env info msg).1 calls =
      run rdf (instantiate .empty env info msg).1 calls' := by
  obtain ⟨l, hl, ho, hlim, hlog⟩ := run_holds rdf (instantiate_holds env info msg) calls
  obtain ⟨l', hl', ho', hlim', hlog'⟩ := run_holds rdf (instantiate_holds env info msg) calls'
  rw [hl.eq_toStorage, hl'.eq_toStorage,
    Ledger.ext_iff.mpr ⟨ho.trans ho'.symm, hlim.trans hlim'.symm, by rw [hlog, hlog', h]⟩]

theorem run_eq_of_committedTriples_eq_after_failed_call :
    let raw : Rio.Triple := ⟨.blankNode ⟨"b"⟩, ⟨"http://example.org/p"⟩, .literal (.simple "v")⟩
    let rdf : Rdf := ⟨fun iri => .ok ("", iri), fun
      | .nTriples data => data.map fun _ => .ok raw
      | _ => [.error "syntax error"]⟩
    let env : Env := ⟨⟨"cognitarium"⟩⟩
    let info : MessageInfo := ⟨"owner", []⟩
    let s := (instantiate .empty env info ⟨{}⟩).1
    let calls : List Call := [⟨env, info, .insertData (.nTriples [0, 0])⟩]
    let calls' : List Call := [⟨env, info, .insertData (.nTriples [0])⟩,
      ⟨env, info, .insertData (.turtle [])⟩, ⟨env, info, .insertData (.nTriples [1])⟩]
    committedTriples rdf s calls = committedTriples rdf s calls' ∧
      run rdf s calls = run rdf s calls' := by
  intro raw rdf env info s calls calls'
  have h : committedTriples rdf s calls = committedTriples rdf s calls' := by decide
  exact ⟨h, run_eq_of_committedTriples_eq rdf env info ⟨{}⟩ h⟩

end Okp4Contracts.Cognitarium
