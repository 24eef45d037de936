import Okp4Contracts.Cognitarium.Writes

/-!
# The storage refines the log

A committed storage `Holds` a ledger when its counters, its triples map and its index are those
of the ledger's log. The callback's one step agrees with `Ledger.push`, so the loop over a stream
agrees with `Ledger.append`, and one insert on a storage holding `l` answers as the append on `l`
does and, when it succeeds, leaves a storage holding the appended ledger.
-/

namespace Okp4Contracts.Cognitarium

namespace TripleMap

/-- `m` holds the triples of `log` under the keys `1, 2, …`, and its index is consistent. -/
structure Stores (m : TripleMap) (log : List Triple) : Prop where
  primary : ∀ k, m.primary k = if k = 0 then none else log[k - 1]?
  consistent : m.Consistent

theorem empty_stores : empty.Stores [] := ⟨fun k => by simp [empty], empty_consistent⟩

theorem Stores.save {m : TripleMap} {log : List Triple} (h : m.Stores log) (t : Triple) :
    (m.save (log.length + 1) t).Stores (log ++ [t]) where
  primary k := by
    simp only [TripleMap.save]
    by_cases hk : k = log.length + 1
    · subst hk
      simp
    · rw [Function.update_noteq hk, h.primary k]
      split
      · rfl
      · rcases Nat.lt_or_gt_of_ne hk with hlt | hgt
        · rw [List.getElem?_append_left (by omega)]
        · rw [List.getElem?_eq_none (by omega), List.getElem?_eq_none (by simp; omega)]
  consistent := save_consistent h.consistent _ _

end TripleMap

/-- The state of `insert`'s loop over the storage `s` once the ledger is `l`: the counters are
the length of the log, the store is the ledger's, the triples map holds the log, and the items
the loop does not write are those of `s`. -/
structure InsertState.Tracks (st : InsertState) (s : Storage) (l : Ledger) : Prop where
  pk : st.pk.val = l.log.length
  count : st.store.stat.triplesCount.val = l.log.length
  owner : st.store.owner = l.owner
  limits : st.store.limits = l.limits
  triples : st.storage.triples.Stores l.log
  store : st.storage.store = s.store
  tripleKeyIncrement : st.storage.tripleKeyIncrement = s.tripleKeyIncrement

/-- The end of `insert`'s loop agrees with the ledger's append: both succeed, the loop tracking
the new ledger, or both fail alike. -/
def LoopAgrees (s : Storage) :
    InsertState × Except (Failure ContractError) Unit → Except (Failure ContractError) Ledger → Prop
  | (st, .ok ()), .ok l => st.Tracks s l
  | (_, .error f), .error f' => f = f'
  | _, _ => False

theorem onTriple_agrees {st : InsertState} {s : Storage} {l : Ledger} (h : st.Tracks s l)
    (t : Triple) : LoopAgrees s (onTriple st (.ok t)) (l.push t) := by
  have hle := l.log_le
  have hpk₀ := h.pk
  have hcount₀ := h.count
  have hmax := ceiling_le_MAX l.limits
  unfold Uint128.MAX at hmax
  by_cases hroom : l.log.length < ceiling l.limits
  · have hpk : st.pk.val + 1 < 2 ^ 128 := by omega
    have hcount : st.store.stat.triplesCount.val + 1 < 2 ^ 128 := by omega
    have hf : st.store.limits.maxTripleCount.filter
        (fun max => decide (max < ⟨st.store.stat.triplesCount.val + 1, hcount⟩)) = none := by
      rw [h.limits]
      unfold ceiling at hroom
      split at hroom <;> simp only [Option.filter, Uint128.lt_iff, *]
      simp only [decide_eq_true_eq, ite_eq_right_iff, reduceCtorEq, imp_false, not_lt]
      omega
    simp only [onTriple, Uint128.add_one_of_lt hpk, Uint128.add_one_of_lt hcount, hf,
      Ledger.push, dif_pos hroom, LoopAgrees]
    refine ⟨by simp [hpk₀], by simp [hcount₀], h.owner, h.limits, ?_, h.store,
      h.tripleKeyIncrement⟩
    show (st.storage.triples.save (st.pk.val + 1) t).Stores (l.log ++ [t])
    rw [hpk₀]
    exact h.triples.save t
  · have hc : l.log.length = ceiling l.limits := by omega
    simp only [Ledger.push, dif_neg hroom, ceilingFailure]
    unfold ceiling at hc
    cases hm : l.limits.maxTripleCount with
    | none =>
        simp only [hm] at hc
        simp [onTriple, Uint128.add_one_of_MAX (hpk₀.trans hc), LoopAgrees]
    | some m =>
        simp only [hm] at hc
        by_cases hlt : m.val < Uint128.MAX
        · have hlt' := hlt
          unfold Uint128.MAX at hlt'
          have hpk : st.pk.val + 1 < 2 ^ 128 := by omega
          have hcount : st.store.stat.triplesCount.val + 1 < 2 ^ 128 := by omega
          have hf : st.store.limits.maxTripleCount.filter
              (fun max => decide (max < ⟨st.store.stat.triplesCount.val + 1, hcount⟩)) = some m := by
            simp only [h.limits, hm, Option.filter, Uint128.lt_iff]
            simp only [hcount₀, hc, decide_eq_true_eq, ite_eq_left_iff]
            omega
          simp only [onTriple, Uint128.add_one_of_lt hpk, Uint128.add_one_of_lt hcount, hf,
            LoopAgrees, if_pos hlt]
        · have hpk : st.pk.val = Uint128.MAX := by
            have := m.val_le_MAX
            omega
          simp [onTriple, Uint128.add_one_of_MAX hpk, LoopAgrees, hlt]

variable (rdf : Rdf)

/-- The loop over a whole stream agrees with the ledger's append of it. -/
theorem parseTriples_agrees {s : Storage} (items : List (Except String Rio.Triple)) :
    ∀ {st : InsertState} {l : Ledger}, st.Tracks s l →
      LoopAgrees s (parseTriples (convertTriple rdf) onTriple items st) (l.append rdf items) := by
  induction items with
  | nil => exact fun h => h
  | cons item rest ih =>
      intro st l h
      rcases item with msg | raw
      · rfl
      · cases hc : convertTriple rdf raw with
        | error e => simp [parseTriples, Ledger.append, hc, onTriple, LoopAgrees]
        | ok t =>
            have hstep := onTriple_agrees h t
            simp only [parseTriples, Ledger.append, hc]
            rcases hr : onTriple st (.ok t) with ⟨st', _ | ⟨⟩⟩ <;>
              rcases hp : l.push t with f | l' <;> simp only [hr, hp, LoopAgrees] at hstep ⊢
            · exact hstep
            · exact ih hstep

/-- `s` is the committed storage of the ledger `l`: both counters are the length of the log,
the store has the ledger's owner and limits, the triple saved under key `k` is the `k`-th of the
log, and the index holds exactly the stored triples. -/
structure Storage.Holds (s : Storage) (l : Ledger) : Prop where
  store : ∃ count : Uint128, count.val = l.log.length ∧ s.store = some ⟨l.owner, l.limits, ⟨count⟩⟩
  tripleKeyIncrement : ∃ pk : Uint128, pk.val = l.log.length ∧ s.tripleKeyIncrement = some pk
  triples : s.triples.Stores l.log

/-- One insert on a committed storage does what the ledger's append does: it answers with the
number of triples the append added, or fails alike, and on success its storage holds the new
ledger. -/
theorem insert_agrees {s : Storage} {l : Ledger} (h : s.Holds l) (d : DataInput) :
    (insert rdf s d).2 =
        (l.append rdf (rdf.read d)).map (fun l' => insertResponse (l'.log.length - l.log.length)) ∧
      ∀ l', l.append rdf (rdf.read d) = .ok l' → (insert rdf s d).1.Holds l' := by
  obtain ⟨count, hcount, hs⟩ := h.store
  obtain ⟨pk, hpk, hk⟩ := h.tripleKeyIncrement
  have hag := parseTriples_agrees rdf (rdf.read d)
    (⟨hpk, hcount, rfl, rfl, h.triples, rfl, rfl⟩ :
      InsertState.Tracks ⟨pk, ⟨l.owner, l.limits, ⟨count⟩⟩, s⟩ s l)
  obtain ⟨j, ts, hp⟩ := parseTriples_passed rdf (rdf.read d) ⟨pk, ⟨l.owner, l.limits, ⟨count⟩⟩, s⟩
  rw [insert_of_passed rdf hs hk hp]
  rcases hr : parseTriples (convertTriple rdf) onTriple (rdf.read d)
      ⟨pk, ⟨l.owner, l.limits, ⟨count⟩⟩, s⟩ with ⟨st, _ | ⟨⟩⟩ <;>
    rcases ha : l.append rdf (rdf.read d) with f | l' <;> simp only [hr, ha, LoopAgrees] at hag hp ⊢
  · exact ⟨by simp [hag, Except.map], fun _ h => nomatch h⟩
  · obtain ⟨ts', hts, -, -, -, hlog⟩ := (Ledger.append_eq_ok_iff rdf).mp ha
    have hj : j = l'.log.length - l.log.length := by
      rw [(hp.ok rfl).1, hlog, List.length_append, convertAll_length rdf hts]
      omega
    have hstore : st.store = ⟨l'.owner, l'.limits, st.store.stat⟩ := by
      rw [← hag.owner, ← hag.limits]
    refine ⟨by simp [hj, Except.map], ?_⟩
    rintro l'' ⟨⟩
    exact ⟨⟨_, hag.count, by rw [hstore]⟩, ⟨_, hag.pk, rfl⟩, hag.triples⟩

end Okp4Contracts.Cognitarium
