import Okp4Contracts.Cognitarium.Ledger

/-!
# What an insert writes

On any storage, committed or not: the loop saves the converted triples of a prefix of the stream
under consecutive keys after the key counter and writes nothing else, and the counters and the
store are saved only once the whole stream has passed. A failed insert therefore hands back the
items `STORE` and `TRIPLE_KEY_INCREMENT` as they were, but not the triples map, and a successful
one reports the length of the stream.
-/

namespace Okp4Contracts.Cognitarium

/-- `saveFrom m k ts` saves the triples of `ts` under the keys `k, k + 1, …`. -/
def TripleMap.saveFrom (m : TripleMap) (k : Nat) : List Triple → TripleMap
  | [] => m
  | t :: ts => (m.save k t).saveFrom (k + 1) ts

/-- `st'` is `st` after the triple `t` passed the callback: both counters one up, and `t` saved
under the new key. -/
structure InsertState.Step (st : InsertState) (t : Triple) (st' : InsertState) : Prop where
  pk : st'.pk.val = st.pk.val + 1
  count : st'.store.stat.triplesCount.val = st.store.stat.triplesCount.val + 1
  owner : st'.store.owner = st.store.owner
  limits : st'.store.limits = st.store.limits
  storage : st'.storage = { st.storage with triples := st.storage.triples.save (st.pk.val + 1) t }

/-- The failures `insert` can end with: a load, conversion or parse error, the triple-count
limit, or a panic. -/
def InsertFailure (f : Failure ContractError) : Prop :=
  (∃ se, f = .err (.std se)) ∨ (∃ msg, f = .err (.parseRDF msg)) ∨
    (∃ m, f = .err (.store (.maxTriplesLimitExceeded m))) ∨ ∃ msg, f = .panic msg

/-- The callback either passes a converted triple, or fails before it writes anything, with
the error of the conversion, the triple-count limit or a panic. -/
theorem onTriple_cases (st : InsertState) (res : Except ContractError Triple) :
    ((onTriple st res).2 = .ok () ∧ ∃ t, res = .ok t ∧ st.Step t (onTriple st res).1) ∨
      (∃ f, (onTriple st res).2 = .error f ∧ ((∃ e, res = .error e ∧ f = .err e) ∨
        (∃ m, f = .err (.store (.maxTriplesLimitExceeded m))) ∨ ∃ msg, f = .panic msg)) ∧
      (onTriple st res).1.storage = st.storage := by
  rcases res with e | t
  · exact .inr ⟨⟨_, rfl, .inl ⟨e, rfl, rfl⟩⟩, rfl⟩
  · cases hpk : st.pk.add .one with
    | none => simp [onTriple, hpk]
    | some pk =>
        cases hcount : st.store.stat.triplesCount.add .one with
        | none => simp [onTriple, hpk, hcount]
        | some count =>
            rw [Uint128.add_eq_some_iff] at hpk hcount
            simp only [onTriple, Uint128.add_eq_some_iff.mpr hpk, Uint128.add_eq_some_iff.mpr hcount]
            split
            · exact .inr ⟨⟨_, rfl, .inr (.inl ⟨_, rfl⟩)⟩, rfl⟩
            · exact .inl ⟨rfl, t, rfl, hpk, hcount, rfl, rfl, by rw [hpk]; rfl⟩

variable (rdf : Rdf)

/-- What the loop over `items` from `st`, ending in `r`, did: it passed the first `j` items,
which convert to `ts`, and saved `ts` under the keys after `st.pk`. -/
structure Passed (items : List (Except String Rio.Triple)) (st : InsertState)
    (r : InsertState × Except (Failure ContractError) Unit) (j : Nat) (ts : List Triple) : Prop where
  convert : convertAll rdf (items.take j) = .ok ts
  storage : r.1.storage = { st.storage with triples := st.storage.triples.saveFrom (st.pk.val + 1) ts }
  ok : r.2 = .ok () → j = items.length ∧ r.1.pk.val = st.pk.val + j ∧
    r.1.store.stat.triplesCount.val = st.store.stat.triplesCount.val + j ∧
    r.1.store.owner = st.store.owner ∧ r.1.store.limits = st.store.limits
  error : ∀ f, r.2 = .error f → j < items.length ∧ InsertFailure f

theorem parseTriples_passed (items : List (Except String Rio.Triple)) (st : InsertState) :
    ∃ j ts, Passed rdf items st (parseTriples (convertTriple rdf) onTriple items st) j ts := by
  induction items generalizing st with
  | nil => exact ⟨0, [], .mk rfl rfl (fun _ => ⟨rfl, rfl, rfl, rfl, rfl⟩) (fun _ h => nomatch h)⟩
  | cons item rest ih =>
      rcases item with msg | raw
      · refine ⟨0, [], .mk rfl rfl (fun h => nomatch h) (fun f h => ⟨Nat.zero_lt_succ _, ?_⟩)⟩
        cases h
        exact .inr (.inl ⟨msg, rfl⟩)
      · rcases hon : onTriple st (convertTriple rdf raw) with ⟨st₁, r₁⟩
        have hcases := onTriple_cases st (convertTriple rdf raw)
        rw [hon] at hcases
        rcases hcases with ⟨rfl, t, hc, hstep⟩ | ⟨⟨f, rfl, hkind⟩, hs⟩
        · have hr : parseTriples (convertTriple rdf) onTriple (.ok raw :: rest) st =
              parseTriples (convertTriple rdf) onTriple rest st₁ := by
            simp only [parseTriples, hon]
          obtain ⟨j, ts, hconv, hstor, hpass, herr⟩ := ih st₁
          rw [hr]
          refine ⟨j + 1, t :: ts, .mk ?_ ?_ ?_ ?_⟩
          · simp [List.take_succ_cons, convertAll_cons_ok rdf hc, hconv, Except.map]
          · rw [hstor, hstep.storage, hstep.pk]
            rfl
          · intro h
            obtain ⟨hj, hpk, hcount, hown, hlim⟩ := hpass h
            have h1 : st₁.pk.val = st.pk.val + 1 := hstep.pk
            have h2 : st₁.store.stat.triplesCount.val = st.store.stat.triplesCount.val + 1 :=
              hstep.count
            exact ⟨by simp [hj], by omega, by omega, hown.trans hstep.owner, hlim.trans hstep.limits⟩
          · intro f h
            obtain ⟨hj, hk⟩ := herr f h
            exact ⟨by simp only [List.length_cons]; omega, hk⟩
        · have hr : parseTriples (convertTriple rdf) onTriple (.ok raw :: rest) st =
              (st₁, .error f) := by
            simp only [parseTriples, hon]
          rw [hr]
          refine ⟨0, [], .mk rfl hs (fun h => nomatch h) (fun f' h => ⟨Nat.zero_lt_succ _, ?_⟩)⟩
          cases h
          rcases hkind with ⟨e, he, rfl⟩ | hm | hp
          · obtain ⟨se, rfl⟩ := convertTriple_error rdf he
            exact .inl ⟨se, rfl⟩
          · exact .inr (.inr (.inl hm))
          · exact .inr (.inr (.inr hp))

/-- `insert` once its loop over the stream has ended: the reported count is the number of items
the loop passed. -/
theorem insert_of_passed {s : Storage} {d : DataInput} {store : Store} {pk : Uint128}
    (hs : s.store = some store) (hk : s.tripleKeyIncrement = some pk) {j : Nat} {ts : List Triple}
    (hp : Passed rdf (rdf.read d) ⟨pk, store, s⟩
      (parseTriples (convertTriple rdf) onTriple (rdf.read d) ⟨pk, store, s⟩) j ts) :
    insert rdf s d =
      match parseTriples (convertTriple rdf) onTriple (rdf.read d) ⟨pk, store, s⟩ with
      | (st, .error e) => (st.storage, .error e)
      | (st, .ok ()) =>
          ({ st.storage with tripleKeyIncrement := some st.pk, store := some st.store },
           .ok (insertResponse j)) := by
  simp only [insert, hs, hk]
  rcases hr : parseTriples (convertTriple rdf) onTriple (rdf.read d) ⟨pk, store, s⟩ with
    ⟨st, _ | ⟨⟩⟩
  · rfl
  · rw [hr] at hp
    have hcount : st.store.stat.triplesCount.val = store.stat.triplesCount.val + j :=
      (hp.ok rfl).2.2.1
    have hsub : st.store.stat.triplesCount.sub store.stat.triplesCount =
        some ⟨j, by have := st.store.stat.triplesCount.isLt; omega⟩ :=
      Uint128.sub_eq_some_iff.mpr ⟨by omega, by dsimp only; omega⟩
    simp only [hsub]

/-- An insert that succeeds reports the length of the stream. -/
theorem insert_ok_response {s : Storage} {d : DataInput} {resp : Response}
    (h : (insert rdf s d).2 = .ok resp) : resp = insertResponse (rdf.read d).length := by
  rcases hs : s.store with _ | store
  · simp [insert, hs] at h
  rcases hk : s.tripleKeyIncrement with _ | pk
  · simp [insert, hs, hk] at h
  obtain ⟨j, ts, hp⟩ := parseTriples_passed rdf (rdf.read d) ⟨pk, store, s⟩
  rw [insert_of_passed rdf hs hk hp] at h
  rcases hr : parseTriples (convertTriple rdf) onTriple (rdf.read d) ⟨pk, store, s⟩ with
    ⟨st, _ | ⟨⟩⟩ <;> rw [hr] at h hp
  · cases h
  · cases h
    rw [(hp.ok rfl).1]

/-- An insert that fails hands back `STORE` and `TRIPLE_KEY_INCREMENT` as they were, and the
triples map with the converted triples of a proper prefix of the stream saved under the keys
after the key counter. -/
theorem insert_error_writes {s : Storage} {d : DataInput} {f : Failure ContractError}
    (h : (insert rdf s d).2 = .error f) :
    (insert rdf s d).1.store = s.store ∧
      (insert rdf s d).1.tripleKeyIncrement = s.tripleKeyIncrement ∧
      ((insert rdf s d).1.triples = s.triples ∨
        ∃ pk j ts, s.tripleKeyIncrement = some pk ∧ j < (rdf.read d).length ∧
          convertAll rdf ((rdf.read d).take j) = .ok ts ∧
          (insert rdf s d).1.triples = s.triples.saveFrom (pk.val + 1) ts) := by
  rcases hs : s.store with _ | store
  · simp [insert, hs]
  rcases hk : s.tripleKeyIncrement with _ | pk
  · simp [insert, hs, hk]
  obtain ⟨j, ts, hp⟩ := parseTriples_passed rdf (rdf.read d) ⟨pk, store, s⟩
  rw [insert_of_passed rdf hs hk hp] at h ⊢
  rcases hr : parseTriples (convertTriple rdf) onTriple (rdf.read d) ⟨pk, store, s⟩ with
    ⟨st, _ | ⟨⟩⟩ <;> rw [hr] at h hp
  · have hstor : st.storage = _ := hp.storage
    simp only [hstor, hs, hk, true_and]
    exact .inr ⟨pk, j, ts, rfl, (hp.error _ rfl).1, hp.convert, rfl⟩
  · cases h

theorem insert_error_writes_at_ceiling :
    let raw : Rio.Triple := ⟨.blankNode ⟨"b"⟩, ⟨"http://example.org/p"⟩, .literal (.simple "v")⟩
    let rdf : Rdf := ⟨fun iri => .ok ("", iri), fun _ => [.ok raw, .ok raw]⟩
    let s := (instantiate .empty ⟨⟨"cognitarium"⟩⟩ ⟨"owner", []⟩ ⟨{ maxTripleCount := some 1 }⟩).1
    (insert rdf s (.nTriples [])).2 = .error (.err (.store (.maxTriplesLimitExceeded 1))) ∧
      (insert rdf s (.nTriples [])).1.store = s.store ∧
      (insert rdf s (.nTriples [])).1.tripleKeyIncrement = s.tripleKeyIncrement ∧
      ((insert rdf s (.nTriples [])).1.triples = s.triples ∨
        ∃ pk j ts, s.tripleKeyIncrement = some pk ∧ j < (rdf.read (.nTriples [])).length ∧
          convertAll rdf ((rdf.read (.nTriples [])).take j) = .ok ts ∧
          (insert rdf s (.nTriples [])).1.triples = s.triples.saveFrom (pk.val + 1) ts) := by
  intro raw rdf s
  have h : (insert rdf s (.nTriples [])).2 = .error (.err (.store (.maxTriplesLimitExceeded 1))) := by
    dsimp only [raw, rdf, s]
    decide
  exact ⟨h, insert_error_writes rdf h⟩

/-- A failed insert can hand back a storage other than the one it was given: the first triple of
a two-triple stream is saved before the second one meets the ceiling. -/
theorem insert_error_keeps_earlier_save :
    let raw : Rio.Triple := ⟨.blankNode ⟨"b"⟩, ⟨"http://example.org/p"⟩, .literal (.simple "v")⟩
    let rdf : Rdf := ⟨fun iri => .ok ("", iri), fun _ => [.ok raw, .ok raw]⟩
    let s := (instantiate .empty ⟨⟨"cognitarium"⟩⟩ ⟨"owner", []⟩ ⟨{ maxTripleCount := some 1 }⟩).1
    (insert rdf s (.nTriples [])).2 = .error (.err (.store (.maxTriplesLimitExceeded 1))) ∧
      (insert rdf s (.nTriples [])).1.triples.primary 1 ≠ s.triples.primary 1 := by
  dsimp only
  decide

/-- Every failure of `insert` is a load, conversion or parse error, the triple-count limit, or
a panic. -/
theorem insert_error_kind {s : Storage} {d : DataInput} {f : Failure ContractError}
    (h : (insert rdf s d).2 = .error f) : InsertFailure f := by
  rcases hs : s.store with _ | store
  · simp only [insert, hs, Except.error.injEq] at h
    exact .inl ⟨_, h.symm⟩
  rcases hk : s.tripleKeyIncrement with _ | pk
  · simp only [insert, hs, hk, Except.error.injEq] at h
    exact .inl ⟨_, h.symm⟩
  obtain ⟨j, ts, hp⟩ := parseTriples_passed rdf (rdf.read d) ⟨pk, store, s⟩
  rw [insert_of_passed rdf hs hk hp] at h
  rcases hr : parseTriples (convertTriple rdf) onTriple (rdf.read d) ⟨pk, store, s⟩ with
    ⟨st, _ | ⟨⟩⟩ <;> rw [hr] at h hp
  · cases h
    exact (hp.error _ rfl).2
  · cases h

/-- The callback panics only on the overflow of an increment, when the key counter or the
triple count is at `u128::MAX`. -/
theorem onTriple_panic {st : InsertState} {res : Except ContractError Triple} {msg : String}
    (h : (onTriple st res).2 = .error (.panic msg)) :
    msg = "attempt to add with overflow" ∧
      (st.pk.val = Uint128.MAX ∨ st.store.stat.triplesCount.val = Uint128.MAX) := by
  rcases res with e | t
  · cases h
  cases hpk : st.pk.add .one with
  | none =>
      simp only [onTriple, hpk, Except.error.injEq, Failure.panic.injEq] at h
      exact ⟨h.symm, .inl (Uint128.eq_MAX_of_add_one hpk)⟩
  | some pk =>
      cases hcount : st.store.stat.triplesCount.add .one with
      | none =>
          simp only [onTriple, hpk, hcount, Except.error.injEq, Failure.panic.injEq] at h
          exact ⟨h.symm, .inr (Uint128.eq_MAX_of_add_one hcount)⟩
      | some count =>
          simp only [onTriple, hpk, hcount] at h
          split at h <;> cases h

theorem parseTriples_panic (items : List (Except String Rio.Triple)) (st : InsertState)
    {msg : String}
    (h : (parseTriples (convertTriple rdf) onTriple items st).2 = .error (.panic msg)) :
    msg = "attempt to add with overflow" ∧ ∃ j < items.length,
      st.pk.val + j = Uint128.MAX ∨ st.store.stat.triplesCount.val + j = Uint128.MAX := by
  induction items generalizing st with
  | nil => cases h
  | cons item rest ih =>
      rcases item with m | raw
      · cases h
      · have hcases := onTriple_cases st (convertTriple rdf raw)
        simp only [parseTriples] at h
        rcases hon : onTriple st (convertTriple rdf raw) with ⟨st₁, _ | ⟨⟩⟩ <;>
          rw [hon] at h hcases
        · cases h
          obtain ⟨hmsg, hmax⟩ := onTriple_panic (by rw [hon])
          exact ⟨hmsg, 0, by simp, by simpa using hmax⟩
        · obtain ⟨-, t, -, hstep⟩ | ⟨⟨_, h', -⟩, -⟩ := hcases
          · obtain ⟨hmsg, j, hj, hmax⟩ := ih st₁ h
            have h1 : st₁.pk.val = st.pk.val + 1 := hstep.pk
            have h2 : st₁.store.stat.triplesCount.val = st.store.stat.triplesCount.val + 1 :=
              hstep.count
            exact ⟨hmsg, j + 1, by simp [hj], by omega⟩
          · cases h'

/-- On every storage, `insert` panics only on the overflow of an increment: when the key counter
or the triple count, after the triples the loop passed, is at `u128::MAX`. The subtraction that
computes the inserted count never panics. -/
theorem insert_panics_only_on_overflow (s : Storage) (d : DataInput) (msg : String)
    (h : (insert rdf s d).2 = .error (.panic msg)) :
    msg = "attempt to add with overflow" ∧ ∃ store pk, s.store = some store ∧
      s.tripleKeyIncrement = some pk ∧ ∃ j < (rdf.read d).length,
        pk.val + j = Uint128.MAX ∨ store.stat.triplesCount.val + j = Uint128.MAX := by
  rcases hs : s.store with _ | store
  · simp [insert, hs] at h
  rcases hk : s.tripleKeyIncrement with _ | pk
  · simp [insert, hs, hk] at h
  obtain ⟨j, ts, hp⟩ := parseTriples_passed rdf (rdf.read d) ⟨pk, store, s⟩
  rw [insert_of_passed rdf hs hk hp] at h
  rcases hr : parseTriples (convertTriple rdf) onTriple (rdf.read d) ⟨pk, store, s⟩ with
    ⟨st, _ | ⟨⟩⟩ <;> rw [hr] at h
  · cases h
    obtain ⟨hmsg, hmax⟩ := parseTriples_panic rdf (rdf.read d) ⟨pk, store, s⟩ (by rw [hr])
    exact ⟨hmsg, store, pk, rfl, rfl, hmax⟩
  · cases h

theorem insert_panics_only_on_overflow_at_max_key :
    let raw : Rio.Triple := ⟨.blankNode ⟨"b"⟩, ⟨"http://example.org/p"⟩, .literal (.simple "v")⟩
    let rdf : Rdf := ⟨fun iri => .ok ("", iri), fun _ => [.ok raw]⟩
    let s : Storage := ⟨some (Store.new "owner" {}), some .max, .empty⟩
    (insert rdf s (.nTriples [])).2 = .error (.panic "attempt to add with overflow") ∧
      "attempt to add with overflow" = "attempt to add with overflow" ∧ ∃ store pk,
        s.store = some store ∧ s.tripleKeyIncrement = some pk ∧
        ∃ j < (rdf.read (.nTriples [])).length,
          pk.val + j = Uint128.MAX ∨ store.stat.triplesCount.val + j = Uint128.MAX := by
  have h : (insert ⟨fun iri => .ok ("", iri), fun _ => [.ok ⟨.blankNode ⟨"b"⟩,
      ⟨"http://example.org/p"⟩, .literal (.simple "v")⟩]⟩
      ⟨some (Store.new "owner" {}), some .max, .empty⟩
      (.nTriples [])).2 = .error (.panic "attempt to add with overflow") := by
    decide
  exact ⟨h, insert_panics_only_on_overflow _ _ _ _ h⟩

end Okp4Contracts.Cognitarium
