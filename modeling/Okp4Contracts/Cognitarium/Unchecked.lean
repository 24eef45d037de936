import Okp4Contracts.Cognitarium.Run

/-!
# What `insert` does not check

`execute` dispatches without reading the sender, and `insert`'s callback checks the triple-count
ceiling and nothing else: no byte size, no payload size, no batch size, and no lookup of the
triples already stored. So every sender is answered alike, none of the four size ceilings is ever
the error, and a stream is appended under fresh keys even when its triples are stored already.
-/

namespace Okp4Contracts.Cognitarium

variable (rdf : Rdf)

/-- `execute` answers every sender and every environment alike, and never as unauthorized. -/
theorem execute_ignores_sender (s : Storage) (env env' : Env) (info info' : MessageInfo)
    (msg : ExecuteMsg) :
    execute rdf s env' info' msg = execute rdf s env info msg ∧
      (execute rdf s env info msg).2 ≠ .error (.err .unauthorized) := by
  rcases msg with ⟨d⟩
  refine ⟨rfl, fun h => ?_⟩
  rcases insert_error_kind rdf h with ⟨_, h⟩ | ⟨_, h⟩ | ⟨_, h⟩ | ⟨_, h⟩ <;> cases h

/-- `insert` never fails with the byte-size, payload-size or batch-size ceiling. -/
theorem insert_never_size_limited (s : Storage) (d : DataInput) (m : Uint128) :
    (insert rdf s d).2 ≠ .error (.err (.store (.maxByteSize m))) ∧
      (insert rdf s d).2 ≠ .error (.err (.store (.maxTripleByteSize m))) ∧
      (insert rdf s d).2 ≠ .error (.err (.store (.maxInsertDataByteSize m))) ∧
      (insert rdf s d).2 ≠ .error (.err (.store (.maxInsertDataTripleCount m))) := by
  refine ⟨?_, ?_, ?_, ?_⟩ <;> intro h <;>
    rcases insert_error_kind rdf h with ⟨_, h⟩ | ⟨_, h⟩ | ⟨_, h⟩ | ⟨_, h⟩ <;> cases h

/-- A call that succeeds after any run appends its whole converted stream, whatever is stored
already: it reports the stream's length, both counters grow by it, and the stream's triples take
the next keys. -/
theorem insert_appends_stored_triples (env₀ : Env) (info₀ : MessageInfo) (msg : InstantiateMsg)
    (calls : List Call) (c : Call) (d : DataInput) (ts : List Triple) (resp : Response)
    (hd : c.msg = .insertData d) (hts : convertAll rdf (rdf.read d) = .ok ts)
    (hok : (execute rdf (run rdf (instantiate .empty env₀ info₀ msg).1 calls)
      c.env c.info c.msg).2 = .ok resp) :
    resp = insertResponse ts.length ∧
      ∃ n, (run rdf (instantiate .empty env₀ info₀ msg).1 calls).tripleKeyIncrement.map
          (·.val) = some n ∧
        (run rdf (instantiate .empty env₀ info₀ msg).1 (calls ++ [c])).tripleKeyIncrement.map
          (·.val) = some (n + ts.length) ∧
        (run rdf (instantiate .empty env₀ info₀ msg).1 (calls ++ [c])).store.map
          (·.stat.triplesCount.val) = some (n + ts.length) ∧
        ∀ i (hi : i < ts.length),
          (run rdf (instantiate .empty env₀ info₀ msg).1 (calls ++ [c])).triples.primary
            (n + i + 1) = some ts[i] := by
  rcases c with ⟨env, info, ⟨d'⟩⟩
  cases hd
  obtain ⟨l, h, -⟩ := run_holds rdf (instantiate_holds env₀ info₀ msg) calls
  set s := run rdf (instantiate .empty env₀ info₀ msg).1 calls
  obtain ⟨hres, hholds⟩ := insert_agrees rdf h d
  have hlen : (rdf.read d).length = ts.length := (convertAll_length rdf hts).symm
  refine ⟨hlen ▸ insert_ok_response rdf hok, ?_⟩
  obtain ⟨l', hl'⟩ := exists_map_eq_ok.mp ⟨_, hres ▸ hok⟩
  obtain ⟨ts', hts', -, -, -, hlog⟩ := (Ledger.append_eq_ok_iff rdf).mp hl'
  cases hts.symm.trans hts'
  have h' : (run rdf s [⟨env, info, .insertData d⟩]).Holds l' := by
    have hins : insert rdf s d = ((insert rdf s d).1, .ok resp) := Prod.ext rfl hok
    simp only [run, execute]
    rw [hins, commit_ok]
    exact hholds l' hl'
  obtain ⟨pk, hpk, hk⟩ := h.tripleKeyIncrement
  obtain ⟨pk', hpk', hk'⟩ := h'.tripleKeyIncrement
  obtain ⟨count', hcount', hstore'⟩ := h'.store
  rw [run_append, hk', hstore']
  refine ⟨l.log.length, by simp [hk, hpk], by simp [hpk', hlog], by simp [hcount', hlog],
    fun i hi => ?_⟩
  rw [h'.triples.primary, if_neg (by omega), hlog, Nat.add_sub_cancel,
    List.getElem?_append_right (by omega), Nat.add_sub_cancel_left, List.getElem?_eq_getElem hi]

theorem insert_twice_stores_twice :
    let raw : Rio.Triple := ⟨.blankNode ⟨"b"⟩, ⟨"http://example.org/p"⟩, .literal (.simple "v")⟩
    let t : Triple := ⟨.blank "b", ⟨"", "http://example.org/p"⟩, .literal (.simple "v")⟩
    let rdf : Rdf := ⟨fun iri => .ok ("", iri), fun _ => [.ok raw]⟩
    let env : Env := ⟨⟨"cognitarium"⟩⟩
    let c : Call := ⟨env, ⟨"owner", []⟩, .insertData (.nTriples [])⟩
    let s₀ := (instantiate .empty env ⟨"owner", []⟩ ⟨{}⟩).1
    (run rdf s₀ [c]).triples.primary 1 = some t ∧
      (execute rdf (run rdf s₀ [c]) c.env c.info c.msg).2 = .ok (insertResponse 1) ∧
      (run rdf s₀ [c, c]).store.map (·.stat.triplesCount.val) = some 2 ∧
      (run rdf s₀ [c, c]).triples.primary 2 = some t := by
  intro raw t rdf env c s₀
  have hok : (execute rdf (run rdf s₀ [c]) c.env c.info c.msg).2 = .ok (insertResponse 1) := rfl
  obtain ⟨-, n, hn, -, hcount, hkey⟩ := insert_appends_stored_triples rdf env ⟨"owner", []⟩ ⟨{}⟩
    [c] c (.nTriples []) [t] _ rfl rfl hok
  obtain rfl : n = 1 := (Option.some.inj hn).symm
  exact ⟨rfl, hok, hcount, hkey 0 (by decide)⟩

end Okp4Contracts.Cognitarium
