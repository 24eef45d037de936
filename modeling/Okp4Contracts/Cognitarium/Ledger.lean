import Okp4Contracts.Cognitarium.Contract

/-!
# The store as an append-only log

What the triple store is for, without keys or indexes: a log of triples owned by the
instantiator. An insert appends the converted stream triple by triple and fails at the first
triple that does not convert or that the ceiling has no room for; the host then keeps nothing
of it. The ceiling is the configured triple count, or the range of the `u128` counters.
-/

namespace Okp4Contracts.Cognitarium

/-- The most triples a store with `limits` holds. -/
def ceiling (limits : StoreLimits) : Nat :=
  match limits.maxTripleCount with
  | some max => max.val
  | none => Uint128.MAX

theorem ceiling_le_MAX (limits : StoreLimits) : ceiling limits ≤ Uint128.MAX := by
  unfold ceiling
  split
  · exact Uint128.val_le_MAX _
  · exact le_rfl

/-- How an insert fails at the ceiling: with the configured limit, or, at the range of the
counters, with the panic of their increment. -/
def ceilingFailure (limits : StoreLimits) : Failure ContractError :=
  match limits.maxTripleCount with
  | some max =>
      if max.val < Uint128.MAX then .err (.store (.maxTriplesLimitExceeded max))
      else .panic "attempt to add with overflow"
  | none => .panic "attempt to add with overflow"

@[ext]
structure Ledger where
  owner : Addr
  limits : StoreLimits
  log : List Triple
  log_le : log.length ≤ ceiling limits

namespace Ledger

/-- One triple appended, if the ceiling leaves room for it. -/
def push (l : Ledger) (t : Triple) : Except (Failure ContractError) Ledger :=
  if h : l.log.length < ceiling l.limits then
    .ok ⟨l.owner, l.limits, l.log ++ [t], by simpa using h⟩
  else .error (ceilingFailure l.limits)

variable (rdf : Rdf)

/-- A stream appended triple by triple, up to its first failure. -/
def append : List (Except String Rio.Triple) → Ledger → Except (Failure ContractError) Ledger
  | [], l => .ok l
  | .error msg :: _, _ => .error (.err (.parseRDF msg))
  | .ok raw :: rest, l =>
      match convertTriple rdf raw with
      | .error e => .error (.err e)
      | .ok t => (l.push t).bind (append rest)

end Ledger

variable (rdf : Rdf)

/-- The stream converted whole, or the failure of its first item that does not convert. -/
def convertAll : List (Except String Rio.Triple) → Except (Failure ContractError) (List Triple)
  | [] => .ok []
  | .error msg :: _ => .error (.err (.parseRDF msg))
  | .ok raw :: rest =>
      match convertTriple rdf raw with
      | .error e => .error (.err e)
      | .ok t => (convertAll rest).map (t :: ·)

theorem convertAll_cons_ok {raw : Rio.Triple} {t : Triple} (h : convertTriple rdf raw = .ok t)
    (rest : List (Except String Rio.Triple)) :
    convertAll rdf (.ok raw :: rest) = (convertAll rdf rest).map (t :: ·) := by
  simp [convertAll, h]

theorem map_cons_eq_ok {e : Except (Failure ContractError) (List Triple)} {t : Triple}
    {ts : List Triple} : e.map (t :: ·) = .ok ts ↔ ∃ ts', e = .ok ts' ∧ ts = t :: ts' := by
  cases e <;> simp [Except.map, eq_comm]

theorem convertAll_length {items : List (Except String Rio.Triple)} {ts : List Triple}
    (h : convertAll rdf items = .ok ts) : ts.length = items.length := by
  induction items generalizing ts with
  | nil => cases h; rfl
  | cons item rest ih =>
      rcases item with msg | raw
      · cases h
      · cases hc : convertTriple rdf raw with
        | error e => simp [convertAll, hc] at h
        | ok t =>
            rw [convertAll_cons_ok rdf hc] at h
            cases hr : convertAll rdf rest <;> simp [hr, Except.map] at h
            subst h
            simp [ih hr]

/-- A conversion fails with the standard error of `Triple::try_from`, never with a limit. -/
theorem convertTriple_error {raw : Rio.Triple} {e : ContractError}
    (h : convertTriple rdf raw = .error e) : ∃ se, e = .std se := by
  unfold convertTriple at h
  cases hc : Triple.tryFrom rdf.explodeIri raw <;> simp [hc, Except.mapError] at h
  exact ⟨_, h.symm⟩

namespace Ledger

theorem push_eq_ok_iff {l l' : Ledger} {t : Triple} :
    l.push t = .ok l' ↔ l.log.length < ceiling l.limits ∧ l'.owner = l.owner ∧
      l'.limits = l.limits ∧ l'.log = l.log ++ [t] := by
  unfold push
  split
  · simp only [Except.ok.injEq, Ledger.ext_iff, true_and, *]
    exact ⟨fun ⟨h1, h2, h3⟩ => ⟨h1.symm, h2.symm, h3.symm⟩, fun ⟨h1, h2, h3⟩ => ⟨h1.symm, h2.symm, h3.symm⟩⟩
  · simp [*]

theorem push_eq_error {l : Ledger} {t : Triple} {f : Failure ContractError} :
    l.push t = .error f ↔ ceiling l.limits ≤ l.log.length ∧ f = ceilingFailure l.limits := by
  unfold push
  split
  · simp only [reduceCtorEq, false_iff, not_and]
    omega
  · simp [eq_comm, *]
    omega

/-- An insert succeeds exactly when the whole stream converts and fits under the ceiling, and
then appends it. -/
theorem append_eq_ok_iff {items : List (Except String Rio.Triple)} {l l' : Ledger} :
    append rdf items l = .ok l' ↔ ∃ ts, convertAll rdf items = .ok ts ∧
      l.log.length + ts.length ≤ ceiling l.limits ∧
      l'.owner = l.owner ∧ l'.limits = l.limits ∧ l'.log = l.log ++ ts := by
  induction items generalizing l with
  | nil =>
      simp [append, convertAll, Ledger.ext_iff, eq_comm, l.log_le]
  | cons item rest ih =>
      rcases item with msg | raw
      · simp [append, convertAll]
      · cases hc : convertTriple rdf raw with
        | error e => simp [append, convertAll, hc]
        | ok t =>
            simp only [append, hc, convertAll_cons_ok rdf hc, map_cons_eq_ok]
            cases hp : l.push t with
            | error f =>
                obtain ⟨hle, -⟩ := push_eq_error.mp hp
                simp only [Except.bind, reduceCtorEq, false_iff, not_exists, not_and]
                rintro _ ⟨ts, -, rfl⟩ h
                exact absurd h (by simp; omega)
            | ok l₁ =>
                obtain ⟨-, ho, hl, hlog⟩ := push_eq_ok_iff.mp hp
                simp only [Except.bind, ih, ho, hl, hlog]
                constructor
                · rintro ⟨ts, hts, hle, h1, h2, h3⟩
                  exact ⟨t :: ts, ⟨ts, hts, rfl⟩, by simp at hle ⊢; omega, h1, h2, by simp [h3]⟩
                · rintro ⟨_, ⟨ts, hts, rfl⟩, hle, h1, h2, h3⟩
                  exact ⟨ts, hts, by simp at hle ⊢; omega, h1, h2, by simp [h3]⟩

theorem exists_convertAll_cons_ok {raw : Rio.Triple} {t : Triple} (h : convertTriple rdf raw = .ok t)
    (rest : List (Except String Rio.Triple)) :
    (∃ ts, convertAll rdf (.ok raw :: rest) = .ok ts) ↔ ∃ ts, convertAll rdf rest = .ok ts := by
  simp only [convertAll_cons_ok rdf h, map_cons_eq_ok]
  exact ⟨fun ⟨_, ts, hts, _⟩ => ⟨ts, hts⟩, fun ⟨ts, hts⟩ => ⟨_, ts, hts, rfl⟩⟩

/-- An insert fails with the configured limit `m` exactly when `m` is below the range of the
counters, the stream is longer than the room left, and its items up to the first one past the
room all convert. -/
theorem append_eq_maxTriples_iff {items : List (Except String Rio.Triple)} {l : Ledger}
    {m : Uint128} (hm : l.limits.maxTripleCount = some m) :
    append rdf items l = .error (.err (.store (.maxTriplesLimitExceeded m))) ↔
      m.val < Uint128.MAX ∧ m.val - l.log.length < items.length ∧
      ∃ ts, convertAll rdf (items.take (m.val - l.log.length + 1)) = .ok ts := by
  induction items generalizing l with
  | nil => simp [append]
  | cons item rest ih =>
      rcases item with msg | raw
      · simp [append, convertAll]
      · cases hc : convertTriple rdf raw with
        | error e =>
            obtain ⟨se, rfl⟩ := convertTriple_error rdf hc
            simp [append, convertAll, hc]
        | ok t =>
            rw [List.take_succ_cons, exists_convertAll_cons_ok rdf hc]
            simp only [append, hc]
            have hle := l.log_le
            simp only [ceiling, hm] at hle
            cases hp : l.push t with
            | error f =>
                obtain ⟨hge, rfl⟩ := push_eq_error.mp hp
                simp only [ceiling, hm] at hge
                have hc : m.val - l.log.length = 0 := by omega
                simp only [Except.bind, ceilingFailure, hm, hc, List.take_zero, convertAll]
                split <;> simp [*]
            | ok l₁ =>
                obtain ⟨hlt, ho, hl, hlog⟩ := push_eq_ok_iff.mp hp
                simp only [ceiling, hm] at hlt
                simp only [Except.bind, ih (hl ▸ hm), hlog, List.length_append, List.length_singleton,
                  List.length_cons, List.length_nil, zero_add]
                have : m.val - (l.log.length + 1) + 1 = m.val - l.log.length := by omega
                rw [this]
                constructor
                · rintro ⟨h1, h2, h3⟩
                  exact ⟨h1, by omega, h3⟩
                · rintro ⟨h1, h2, h3⟩
                  exact ⟨h1, by omega, h3⟩

/-- An insert fails at the ceiling, which only a stream longer than the room left can reach, or
with the error of the first item that does not parse or convert. -/
theorem append_eq_error {items : List (Except String Rio.Triple)} {l : Ledger}
    {f : Failure ContractError} (h : append rdf items l = .error f) :
    (f = ceilingFailure l.limits ∧ ceiling l.limits < l.log.length + items.length) ∨
      (∃ msg, f = .err (.parseRDF msg)) ∨ ∃ se, f = .err (.std se) := by
  induction items generalizing l with
  | nil => cases h
  | cons item rest ih =>
      rcases item with msg | raw
      · cases h
        exact .inr (.inl ⟨msg, rfl⟩)
      · cases hc : convertTriple rdf raw with
        | error e =>
            obtain ⟨se, rfl⟩ := convertTriple_error rdf hc
            simp only [append, hc, Except.error.injEq] at h
            exact .inr (.inr ⟨se, h.symm⟩)
        | ok t =>
            simp only [append, hc] at h
            cases hp : l.push t with
            | error f' =>
                rw [hp] at h
                cases h
                obtain ⟨hle, hf⟩ := push_eq_error.mp hp
                exact .inl ⟨hf, by simp only [List.length_cons]; omega⟩
            | ok l₁ =>
                rw [hp] at h
                obtain ⟨-, -, hl, hlog⟩ := push_eq_ok_iff.mp hp
                rcases ih h with ⟨hf, hlt⟩ | hrest
                · rw [hl, hlog, List.length_append, List.length_singleton] at hlt
                  rw [hl] at hf
                  exact .inl ⟨hf, by simp only [List.length_cons]; omega⟩
                · exact .inr hrest

/-- A stream that converts whole but does not fit fails at the ceiling. -/
theorem append_eq_ceilingFailure {items : List (Except String Rio.Triple)} {l : Ledger}
    {ts : List Triple} (hts : convertAll rdf items = .ok ts)
    (hgt : ceiling l.limits < l.log.length + ts.length) :
    append rdf items l = .error (ceilingFailure l.limits) := by
  induction items generalizing l ts with
  | nil =>
      cases hts
      have := l.log_le
      simp at hgt
      omega
  | cons item rest ih =>
      rcases item with msg | raw
      · cases hts
      · cases hc : convertTriple rdf raw with
        | error e => simp [convertAll, hc] at hts
        | ok t =>
            rw [convertAll_cons_ok rdf hc, map_cons_eq_ok] at hts
            obtain ⟨ts', hts', rfl⟩ := hts
            simp only [append, hc]
            cases hp : l.push t with
            | error f => rw [(push_eq_error.mp hp).2]; rfl
            | ok l₁ =>
                obtain ⟨-, -, hl, hlog⟩ := push_eq_ok_iff.mp hp
                rw [Except.bind, ← hl]
                exact ih hts' (by rw [hl, hlog]; simp at hgt ⊢; omega)

end Ledger

end Okp4Contracts.Cognitarium
