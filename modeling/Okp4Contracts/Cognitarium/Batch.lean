import Okp4Contracts.Cognitarium.Run

/-!
# One payload or two calls

`parse_triples` is a loop over the stream, so a stream cut in two is the loop over the first part
followed by the loop over the second. The loop never reads the `STORE` and
`TRIPLE_KEY_INCREMENT` items of the storage it carries, and the counters an insert commits are
the ones the next insert loads and the loop goes on from. Hence, on every storage, one call
inserting a stream commits what two calls inserting its two parts commit, and fails as they do.
-/

namespace Okp4Contracts.Cognitarium

theorem parseTriples_append {σ : Type} (convert : Rio.Triple → Except ContractError Triple)
    (callback : σ → Except ContractError Triple → σ × Except (Failure ContractError) Unit)
    (xs ys : List (Except String Rio.Triple)) (st : σ) :
    parseTriples convert callback (xs ++ ys) st =
      match parseTriples convert callback xs st with
      | (st', .ok _) => parseTriples convert callback ys st'
      | r => r := by
  induction xs generalizing st with
  | nil => rfl
  | cons item rest ih =>
      rcases item with msg | raw
      · rfl
      · simp only [List.cons_append, parseTriples]
        rcases callback st (convert raw) with ⟨st', _ | ⟨⟩⟩
        · rfl
        · exact ih st'

/-- `st` with the `STORE` and `TRIPLE_KEY_INCREMENT` items of its storage set. -/
def InsertState.setItems (st : InsertState) (store : Option Store) (pk : Option Uint128) :
    InsertState :=
  { st with storage := { st.storage with store, tripleKeyIncrement := pk } }

@[simp] theorem InsertState.setItems_setItems (st : InsertState) (a a' : Option Store)
    (b b' : Option Uint128) : (st.setItems a b).setItems a' b' = st.setItems a' b' := rfl

/-- The callback commutes with setting the items it does not read. -/
theorem onTriple_setItems (st : InsertState) (store : Option Store) (pk : Option Uint128)
    (res : Except ContractError Triple) :
    onTriple (st.setItems store pk) res =
      ((onTriple st res).1.setItems store pk, (onTriple st res).2) := by
  rcases res with e | t
  · rfl
  · simp only [onTriple, InsertState.setItems]
    split <;> [rfl; split <;> [rfl; split <;> rfl]]

variable (rdf : Rdf)

theorem parseTriples_setItems (items : List (Except String Rio.Triple)) (st : InsertState)
    (store : Option Store) (pk : Option Uint128) :
    parseTriples (convertTriple rdf) onTriple items (st.setItems store pk) =
      ((parseTriples (convertTriple rdf) onTriple items st).1.setItems store pk,
        (parseTriples (convertTriple rdf) onTriple items st).2) := by
  induction items generalizing st with
  | nil => rfl
  | cons item rest ih =>
      rcases item with msg | raw
      · rfl
      · simp only [parseTriples, onTriple_setItems]
        rcases onTriple st (convertTriple rdf raw) with ⟨st', _ | ⟨⟩⟩
        · rfl
        · exact ih st'

section Loaded

variable {s : Storage} {store : Store} {pk : Uint128} (hs : s.store = some store)
  (hk : s.tripleKeyIncrement = some pk)
include hs hk

theorem insert_of_loop_error {d : DataInput} {st : InsertState} {f : Failure ContractError}
    (hr : parseTriples (convertTriple rdf) onTriple (rdf.read d) ⟨pk, store, s⟩ = (st, .error f)) :
    insert rdf s d = (st.storage, .error f) := by
  simp only [insert, hs, hk, hr]

/-- Once its loop has passed the whole stream, `insert` succeeds and commits the loop's storage
with the loop's counters. -/
theorem insert_of_loop_ok {d : DataInput} {st : InsertState}
    (hr : parseTriples (convertTriple rdf) onTriple (rdf.read d) ⟨pk, store, s⟩ = (st, .ok ())) :
    ∃ resp, insert rdf s d = ((st.setItems (some st.store) (some st.pk)).storage, .ok resp) := by
  obtain ⟨j, ts, hp⟩ := parseTriples_passed rdf (rdf.read d) ⟨pk, store, s⟩
  rw [insert_of_passed rdf hs hk hp, hr]
  exact ⟨_, rfl⟩

end Loaded

/-- The three ways an insert of `d₁`'s stream followed by `d₂`'s goes, against the insert of the
two at once: the first part fails, and so does the whole with the same failure; or the first
part succeeds and the second, on the storage the first committed, fails as the whole does; or
both succeed and the second leaves the storage the whole leaves. -/
theorem insert_concat_cases (s : Storage) {d d₁ d₂ : DataInput}
    (hd : rdf.read d = rdf.read d₁ ++ rdf.read d₂) :
    (∃ s' s'' f, insert rdf s d₁ = (s', .error f) ∧ insert rdf s d = (s'', .error f)) ∨
      (∃ s₁ r₁ s' s'' f, insert rdf s d₁ = (s₁, .ok r₁) ∧ insert rdf s₁ d₂ = (s', .error f) ∧
        insert rdf s d = (s'', .error f)) ∨
      ∃ s₁ r₁ s₂ r₂ r, insert rdf s d₁ = (s₁, .ok r₁) ∧ insert rdf s₁ d₂ = (s₂, .ok r₂) ∧
        insert rdf s d = (s₂, .ok r) := by
  rcases hs : s.store with _ | store
  · exact .inl ⟨s, s, .err (.std (.notFound "Store")), by simp only [insert, hs],
      by simp only [insert, hs]⟩
  rcases hk : s.tripleKeyIncrement with _ | pk
  · exact .inl ⟨s, s, .err (.std (.notFound "Uint128")), by simp only [insert, hs, hk],
      by simp only [insert, hs, hk]⟩
  rcases h₁ : parseTriples (convertTriple rdf) onTriple (rdf.read d₁) ⟨pk, store, s⟩ with
    ⟨st₁, f | _⟩
  · have hloop : parseTriples (convertTriple rdf) onTriple (rdf.read d) ⟨pk, store, s⟩ =
        (st₁, .error f) := by
      rw [hd, parseTriples_append, h₁]
    exact .inl ⟨_, _, f, insert_of_loop_error rdf hs hk h₁, insert_of_loop_error rdf hs hk hloop⟩
  have hloop : parseTriples (convertTriple rdf) onTriple (rdf.read d) ⟨pk, store, s⟩ =
      parseTriples (convertTriple rdf) onTriple (rdf.read d₂) st₁ := by
    rw [hd, parseTriples_append, h₁]
  obtain ⟨r₁, hins₁⟩ := insert_of_loop_ok rdf hs hk h₁
  -- the second call loads the counters the first one stored, and goes on from the first loop
  have hloop₂ := parseTriples_setItems rdf (rdf.read d₂) st₁ (some st₁.store) (some st₁.pk)
  rcases h₂ : parseTriples (convertTriple rdf) onTriple (rdf.read d₂) st₁ with ⟨st₂, f | _⟩ <;>
    rw [h₂] at hloop hloop₂
  · exact .inr (.inl ⟨_, r₁, _, _, f, hins₁,
      insert_of_loop_error rdf (s := (st₁.setItems (some st₁.store) (some st₁.pk)).storage) rfl rfl
        hloop₂, insert_of_loop_error rdf hs hk hloop⟩)
  · obtain ⟨r₂, hins₂⟩ := insert_of_loop_ok rdf
      (s := (st₁.setItems (some st₁.store) (some st₁.pk)).storage) rfl rfl hloop₂
    obtain ⟨r, hins⟩ := insert_of_loop_ok rdf hs hk hloop
    exact .inr (.inr ⟨_, r₁, _, r₂, r, hins₁, hins₂, hins⟩)

/-- On every storage, one call inserting a stream fails with `f` exactly when a call inserting its
first part fails with `f`, or succeeds and a next call inserting the rest fails with `f`; and when
the one call succeeds, it commits the storage the two calls commit. -/
theorem insert_concat_commits_as_two (s : Storage) (env : Env) (info : MessageInfo)
    {d d₁ d₂ : DataInput} (hd : rdf.read d = rdf.read d₁ ++ rdf.read d₂) :
    (∀ f, (execute rdf s env info (.insertData d)).2 = .error f ↔
      (execute rdf s env info (.insertData d₁)).2 = .error f ∨
        (∃ resp, (execute rdf s env info (.insertData d₁)).2 = .ok resp) ∧
          (execute rdf (run rdf s [⟨env, info, .insertData d₁⟩]) env info (.insertData d₂)).2 =
            .error f) ∧
    ∀ resp, (execute rdf s env info (.insertData d)).2 = .ok resp →
      run rdf s [⟨env, info, .insertData d⟩] =
        run rdf s [⟨env, info, .insertData d₁⟩, ⟨env, info, .insertData d₂⟩] := by
  simp only [execute, run]
  rcases insert_concat_cases rdf s hd with ⟨s', s'', f, h₁, h⟩ | ⟨s₁, r₁, s', s'', f, h₁, h₂, h⟩ |
    ⟨s₁, r₁, s₂, r₂, r, h₁, h₂, h⟩
  · simp [h₁, h]
  · simp [h₁, h₂, h]
  · simp [h₁, h₂, h]

theorem insert_concat_commits_as_two_at_ceiling :
    let raw : Rio.Triple := ⟨.blankNode ⟨"b"⟩, ⟨"http://example.org/p"⟩, .literal (.simple "v")⟩
    let rdf : Rdf := ⟨fun iri => .ok ("", iri), fun
      | .nTriples data => data.map fun _ => .ok raw
      | _ => []⟩
    let env : Env := ⟨⟨"cognitarium"⟩⟩
    let info : MessageInfo := ⟨"owner", []⟩
    let s := (instantiate .empty env info ⟨{ maxTripleCount := some 1 }⟩).1
    rdf.read (.nTriples [0, 0]) = rdf.read (.nTriples [0]) ++ rdf.read (.nTriples [1]) ∧
      (∀ f, (execute rdf s env info (.insertData (.nTriples [0, 0]))).2 = .error f ↔
        (execute rdf s env info (.insertData (.nTriples [0]))).2 = .error f ∨
          (∃ resp, (execute rdf s env info (.insertData (.nTriples [0]))).2 = .ok resp) ∧
            (execute rdf (run rdf s [⟨env, info, .insertData (.nTriples [0])⟩]) env info
              (.insertData (.nTriples [1]))).2 = .error f) ∧
      ∀ resp, (execute rdf s env info (.insertData (.nTriples [0, 0]))).2 = .ok resp →
        run rdf s [⟨env, info, .insertData (.nTriples [0, 0])⟩] =
          run rdf s [⟨env, info, .insertData (.nTriples [0])⟩,
            ⟨env, info, .insertData (.nTriples [1])⟩] := by
  intro raw rdf env info s
  exact ⟨rfl, insert_concat_commits_as_two rdf s env info rfl⟩

end Okp4Contracts.Cognitarium
