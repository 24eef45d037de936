import Okp4Contracts.Cognitarium.Refinement

/-!
# Runs of the host

The host instantiates the store once and then runs calls one after another, each in its own
transaction. Every committed storage holds the ledger of the instantiator whose log is the
concatenation of the converted streams of the calls that succeeded, so both counters are the
number of stored triples, the keys are `1, …, N` in insertion order, and the index is exact.
-/

namespace Okp4Contracts.Cognitarium

/-- A call as the host delivers it. -/
structure Call where
  env : Env
  info : MessageInfo
  msg : ExecuteMsg

variable (rdf : Rdf)

/-- The host running `calls` one after another from the committed storage `s`. -/
def run (s : Storage) : List Call → Storage
  | [] => s
  | c :: cs => run (commit s (execute rdf s c.env c.info c.msg)) cs

theorem run_append (s : Storage) (calls calls' : List Call) :
    run rdf s (calls ++ calls') = run rdf (run rdf s calls) calls' := by
  induction calls generalizing s with
  | nil => rfl
  | cons c cs ih => exact ih _

/-- The triples a call's payload converts to. -/
def Call.stream (c : Call) : List Triple :=
  match c.msg with
  | .insertData d => ((convertAll rdf (rdf.read d)).toOption).getD []

/-- The triples a run of `calls` from `s` commits: the converted streams of the calls that
succeed, in call order. -/
def committedTriples (s : Storage) : List Call → List Triple
  | [] => []
  | c :: cs =>
      match execute rdf s c.env c.info c.msg with
      | (s', .ok _) => c.stream rdf ++ committedTriples s' cs
      | (_, .error _) => committedTriples s cs

/-- The storages the host commits: an instantiation, then any calls. -/
def Reachable (s : Storage) : Prop :=
  ∃ env info msg calls, s = run rdf (instantiate .empty env info msg).1 calls

/-- The ledger an instantiation starts. -/
def Ledger.init (info : MessageInfo) (msg : InstantiateMsg) : Ledger :=
  ⟨info.sender, msg.limits, [], Nat.zero_le _⟩

theorem instantiate_holds (env : Env) (info : MessageInfo) (msg : InstantiateMsg) :
    (instantiate .empty env info msg).1.Holds (Ledger.init info msg) :=
  ⟨⟨.zero, rfl, rfl⟩, ⟨.zero, rfl, rfl⟩, TripleMap.empty_stores⟩

/-- A call that succeeds on a committed storage holding `l` leaves a storage holding `l` with
the call's converted stream appended. -/
theorem call_holds {s s' : Storage} {l : Ledger} (h : s.Holds l) {c : Call} {resp : Response}
    (hc : execute rdf s c.env c.info c.msg = (s', .ok resp)) :
    ∃ l', s'.Holds l' ∧ l'.owner = l.owner ∧ l'.limits = l.limits ∧
      l'.log = l.log ++ c.stream rdf := by
  rcases c with ⟨env, info, ⟨d⟩⟩
  obtain ⟨hres, hholds⟩ := insert_agrees rdf h d
  simp only [execute] at hc
  rw [hc] at hres hholds
  cases ha : l.append rdf (rdf.read d) with
  | error f => simp [ha, Except.map] at hres
  | ok l' =>
      obtain ⟨ts, hts, -, ho, hl, hlog⟩ := (Ledger.append_eq_ok_iff rdf).mp ha
      exact ⟨l', hholds l' ha, ho, hl, by simp [Call.stream, hts, hlog, Except.toOption]⟩

theorem run_holds {s : Storage} {l : Ledger} (h : s.Holds l) (calls : List Call) :
    ∃ l', (run rdf s calls).Holds l' ∧ l'.owner = l.owner ∧ l'.limits = l.limits ∧
      l'.log = l.log ++ committedTriples rdf s calls := by
  induction calls generalizing s l with
  | nil => exact ⟨l, h, rfl, rfl, by simp [committedTriples]⟩
  | cons c cs ih =>
      rcases he : execute rdf s c.env c.info c.msg with ⟨s', _ | resp⟩
      · simpa [run, committedTriples, he] using ih h
      · obtain ⟨l₁, h₁, ho₁, hl₁, hlog₁⟩ := call_holds rdf h he
        obtain ⟨l', h', ho, hl, hlog⟩ := ih h₁
        refine ⟨l', by simpa [run, he] using h', ho.trans ho₁, hl.trans hl₁, ?_⟩
        simp [committedTriples, he, hlog, hlog₁]

/-- In every run of the host from instantiation, the committed storage holds the ledger of the
instantiator and limits whose log is the concatenation of the converted streams of the calls that
succeeded; and an insert that succeeds reports the length of its stream. -/
theorem run_holds_committed (env : Env) (info : MessageInfo) (msg : InstantiateMsg)
    (calls : List Call) :
    (∃ l : Ledger, (run rdf (instantiate .empty env info msg).1 calls).Holds l ∧
      l.owner = info.sender ∧ l.limits = msg.limits ∧
      l.log = committedTriples rdf (instantiate .empty env info msg).1 calls) ∧
    ∀ (s : Storage) (env : Env) (info : MessageInfo) (d : DataInput) (resp : Response),
      (execute rdf s env info (.insertData d)).2 = .ok resp →
        resp = insertResponse (rdf.read d).length := by
  refine ⟨?_, fun _ _ _ _ _ h => insert_ok_response rdf h⟩
  obtain ⟨l, h, ho, hl, hlog⟩ := run_holds rdf (instantiate_holds env info msg) calls
  exact ⟨l, h, ho, hl, by simpa [Ledger.init] using hlog⟩

theorem Reachable.holds {s : Storage} (hs : Reachable rdf s) : ∃ l, s.Holds l := by
  obtain ⟨env, info, msg, calls, rfl⟩ := hs
  obtain ⟨l, h, -⟩ := run_holds rdf (instantiate_holds env info msg) calls
  exact ⟨l, h⟩

theorem exists_map_eq_ok {α β : Type} {e : Except (Failure ContractError) α} {g : α → β} :
    (∃ b, e.map g = .ok b) ↔ ∃ a, e = .ok a := by
  cases e <;> simp [Except.map]

theorem map_eq_error {α β : Type} {e : Except (Failure ContractError) α} {g : α → β}
    {f : Failure ContractError} : e.map g = .error f ↔ e = .error f := by
  cases e <;> simp [Except.map]

/-- On a reachable storage with count `c` and ceiling `m`, `c ≤ m`. For a payload whose stream
cannot carry the `u128` counters past `u128::MAX`, as no payload the contract can receive does, an
insert whose `n` triples all convert succeeds exactly when `c + n ≤ m` and otherwise fails with
the limit; in general it fails with the limit exactly when the stream is longer than `m - c` and
its first `m - c + 1` items convert; and without a ceiling it fails only on a parse or conversion
error. -/
theorem insert_triple_count_limit (env₀ : Env) (info₀ : MessageInfo) (msg : InstantiateMsg)
    (calls : List Call) (env : Env) (info : MessageInfo) (d : DataInput) :
    let s := run rdf (instantiate .empty env₀ info₀ msg).1 calls
    ∃ store : Store, s.store = some store ∧
      (∀ m, store.limits.maxTripleCount = some m → store.stat.triplesCount.val ≤ m.val) ∧
      (store.stat.triplesCount.val + (rdf.read d).length ≤ Uint128.MAX →
        (∀ m, store.limits.maxTripleCount = some m →
          (∀ ts, convertAll rdf (rdf.read d) = .ok ts →
            ((∃ resp, (execute rdf s env info (.insertData d)).2 = .ok resp) ↔
              store.stat.triplesCount.val + ts.length ≤ m.val) ∧
            (m.val < store.stat.triplesCount.val + ts.length →
              (execute rdf s env info (.insertData d)).2 =
                .error (.err (.store (.maxTriplesLimitExceeded m))))) ∧
          ((execute rdf s env info (.insertData d)).2 =
              .error (.err (.store (.maxTriplesLimitExceeded m))) ↔
            m.val - store.stat.triplesCount.val < (rdf.read d).length ∧
              ∃ ts, convertAll rdf ((rdf.read d).take (m.val - store.stat.triplesCount.val + 1)) =
                .ok ts)) ∧
        (store.limits.maxTripleCount = none → ∀ f,
          (execute rdf s env info (.insertData d)).2 = .error f →
            (∃ msg, f = .err (.parseRDF msg)) ∨ ∃ se, f = .err (.std se))) := by
  intro s
  obtain ⟨l, h, -⟩ := run_holds rdf (instantiate_holds env₀ info₀ msg) calls
  obtain ⟨count, hcount, hstore⟩ := h.store
  have hres : (execute rdf s env info (.insertData d)).2 = _ := (insert_agrees rdf h d).1
  refine ⟨_, hstore, fun m hm => ?_, fun hfit => ⟨fun m hm => ?_, fun hm f hf => ?_⟩⟩
  · have hm : l.limits.maxTripleCount = some m := hm
    simpa [hcount, ceiling, hm] using l.log_le
  · have hm : l.limits.maxTripleCount = some m := hm
    have hc : ceiling l.limits = m.val := by simp [ceiling, hm]
    dsimp only at hfit ⊢
    rw [hcount] at hfit ⊢
    simp only [hres, map_eq_error, Ledger.append_eq_maxTriples_iff rdf hm]
    refine ⟨fun ts hts => ⟨?_, fun hgt => ?_⟩, ⟨fun h' => h'.2, fun h' => ⟨by omega, h'⟩⟩⟩
    · rw [exists_map_eq_ok]
      simp only [Ledger.append_eq_ok_iff, hts, Except.ok.injEq, exists_eq_left', hc]
      exact ⟨fun ⟨_, h, _⟩ => h, fun h' => ⟨⟨l.owner, l.limits, l.log ++ ts, by simpa [hc] using h'⟩,
        h', rfl, rfl, rfl⟩⟩
    · have hlen := convertAll_length rdf hts
      refine (Ledger.append_eq_maxTriples_iff rdf hm).mp ?_
      rw [Ledger.append_eq_ceilingFailure rdf hts (hc ▸ hgt)]
      simp [ceilingFailure, hm, show m.val < Uint128.MAX by omega]
  · have hm : l.limits.maxTripleCount = none := hm
    have hfit : l.log.length + (rdf.read d).length ≤ Uint128.MAX := hcount ▸ hfit
    rw [hres, map_eq_error] at hf
    refine (Ledger.append_eq_error rdf hf).resolve_left fun ⟨_, hlt⟩ => ?_
    simp only [ceiling, hm] at hlt
    omega

end Okp4Contracts.Cognitarium
