import Okp4Contracts.CosmWasm

/-!
# RDF terms of the triple store

The store's `Triple` and its terms, the terms of the `rio` parser they are converted from, and
the conversions of `state/triples.rs`. These call `explode_iri`, which splits an IRI into its
namespace and value; it belongs to the crate's `rdf` module, which the sources do not include,
and is a parameter here.
-/

namespace Okp4Contracts.Cognitarium

structure Node where
  «namespace» : String
  value : String
  deriving DecidableEq, Repr

abbrev BlankNode := String

abbrev Predicate := Node

inductive Subject where
  | named (n : Node)
  | blank (b : BlankNode)
  deriving DecidableEq, Repr

inductive Literal where
  | simple (value : String)
  | i18NString (value language : String)
  | typed (value : String) (datatype : Node)
  deriving DecidableEq, Repr

inductive Object where
  | named (n : Node)
  | blank (b : BlankNode)
  | literal (l : Literal)
  deriving DecidableEq, Repr

structure Triple where
  subject : Subject
  predicate : Predicate
  object : Object
  deriving DecidableEq, Repr

/-! The terms `rio_api` hands to the converters. A quoted triple of RDF-star is kept only as a
constructor: the converters reject it without looking inside. -/

namespace Rio

structure NamedNode where
  iri : String
  deriving DecidableEq, Repr

structure BlankNode where
  id : String
  deriving DecidableEq, Repr

inductive Subject where
  | namedNode (node : NamedNode)
  | blankNode (node : BlankNode)
  | triple
  deriving DecidableEq, Repr

inductive Literal where
  | simple (value : String)
  | languageTaggedString (value language : String)
  | typed (value : String) (datatype : NamedNode)
  deriving DecidableEq, Repr

inductive Term where
  | namedNode (node : NamedNode)
  | blankNode (node : BlankNode)
  | literal (literal : Literal)
  | triple
  deriving DecidableEq, Repr

structure Triple where
  subject : Subject
  predicate : NamedNode
  object : Term
  deriving DecidableEq, Repr

end Rio

section Conversion

variable (explodeIri : String → Except StdError (String × String))

def Node.tryFrom (value : Rio.NamedNode) : Except StdError Node :=
  (explodeIri value.iri).map fun (ns, v) => ⟨ns, v⟩

def Subject.tryFrom : Rio.Subject → Except StdError Subject
  | .namedNode node => (Node.tryFrom explodeIri node).map .named
  | .blankNode node => .ok (.blank node.id)
  | .triple => .error (.genericErr "Not implemented")

def Literal.tryFrom : Rio.Literal → Except StdError Literal
  | .simple value => .ok (.simple value)
  | .languageTaggedString value language => .ok (.i18NString value language)
  | .typed value datatype => (Node.tryFrom explodeIri datatype).map (.typed value)

def Object.tryFrom : Rio.Term → Except StdError Object
  | .blankNode node => .ok (.blank node.id)
  | .namedNode node => (Node.tryFrom explodeIri node).map .named
  | .literal l => (Literal.tryFrom explodeIri l).map .literal
  | .triple => .error (.genericErr "RDF star syntax unsupported")

def Triple.tryFrom (value : Rio.Triple) : Except StdError Triple := do
  let subject ← Subject.tryFrom explodeIri value.subject
  let predicate ← Node.tryFrom explodeIri value.predicate
  let object ← Object.tryFrom explodeIri value.object
  pure ⟨subject, predicate, object⟩

end Conversion

/-! The raw terms a stored term reads back to: a node's namespace and value joined again. -/

def Node.toRio (n : Node) : Rio.NamedNode := ⟨n.namespace ++ n.value⟩

def Subject.toRio : Subject → Rio.Subject
  | .named n => .namedNode n.toRio
  | .blank b => .blankNode ⟨b⟩

def Literal.toRio : Literal → Rio.Literal
  | .simple value => .simple value
  | .i18NString value language => .languageTaggedString value language
  | .typed value datatype => .typed value datatype.toRio

def Object.toRio : Object → Rio.Term
  | .named n => .namedNode n.toRio
  | .blank b => .blankNode ⟨b⟩
  | .literal l => .literal l.toRio

def Triple.toRio (t : Triple) : Rio.Triple := ⟨t.subject.toRio, t.predicate.toRio, t.object.toRio⟩

section RoundTrip

variable {explodeIri : String → Except StdError (String × String)}
  (hsplit : ∀ iri ns v, explodeIri iri = .ok (ns, v) → ns ++ v = iri)
include hsplit

theorem Node.toRio_tryFrom {value : Rio.NamedNode} {n : Node}
    (h : Node.tryFrom explodeIri value = .ok n) : n.toRio = value := by
  rcases value with ⟨iri⟩
  cases he : explodeIri iri with
  | error e => simp [Node.tryFrom, he, Except.map] at h
  | ok p =>
      simp only [Node.tryFrom, he, Except.map, Except.ok.injEq] at h
      subst h
      exact congrArg Rio.NamedNode.mk (hsplit iri p.1 p.2 he)

theorem Subject.toRio_tryFrom {value : Rio.Subject} {subject : Subject}
    (h : Subject.tryFrom explodeIri value = .ok subject) : subject.toRio = value := by
  rcases value with node | node | _
  · cases hn : Node.tryFrom explodeIri node with
    | error e => simp [Subject.tryFrom, hn, Except.map] at h
    | ok n =>
        simp only [Subject.tryFrom, hn, Except.map, Except.ok.injEq] at h
        subst h
        exact congrArg Rio.Subject.namedNode (Node.toRio_tryFrom hsplit hn)
  · cases h
    rfl
  · cases h

theorem Literal.toRio_tryFrom {value : Rio.Literal} {l : Literal}
    (h : Literal.tryFrom explodeIri value = .ok l) : l.toRio = value := by
  rcases value with value | ⟨value, language⟩ | ⟨value, datatype⟩
  · cases h
    rfl
  · cases h
    rfl
  · cases hn : Node.tryFrom explodeIri datatype with
    | error e => simp [Literal.tryFrom, hn, Except.map] at h
    | ok n =>
        simp only [Literal.tryFrom, hn, Except.map, Except.ok.injEq] at h
        subst h
        exact congrArg (Rio.Literal.typed value) (Node.toRio_tryFrom hsplit hn)

theorem Object.toRio_tryFrom {value : Rio.Term} {o : Object}
    (h : Object.tryFrom explodeIri value = .ok o) : o.toRio = value := by
  rcases value with node | node | l | _
  · cases hn : Node.tryFrom explodeIri node with
    | error e => simp [Object.tryFrom, hn, Except.map] at h
    | ok n =>
        simp only [Object.tryFrom, hn, Except.map, Except.ok.injEq] at h
        subst h
        exact congrArg Rio.Term.namedNode (Node.toRio_tryFrom hsplit hn)
  · cases h
    rfl
  · cases hl : Literal.tryFrom explodeIri l with
    | error e => simp [Object.tryFrom, hl, Except.map] at h
    | ok l' =>
        simp only [Object.tryFrom, hl, Except.map, Except.ok.injEq] at h
        subst h
        exact congrArg Rio.Term.literal (Literal.toRio_tryFrom hsplit hl)
  · cases h

/-- When `explode_iri` splits each IRI into a namespace and a value that join back to it, a raw
triple that `Triple::try_from` accepts reads back from the stored triple: the conversion keeps
every blank node, literal, language and datatype, so two raw triples never become one. -/
theorem Triple.tryFrom_reads_back (value : Rio.Triple) (t : Triple)
    (h : Triple.tryFrom explodeIri value = .ok t) : t.toRio = value := by
  rcases value with ⟨subject, predicate, object⟩
  cases hs : Subject.tryFrom explodeIri subject <;>
    cases hp : Node.tryFrom explodeIri predicate <;>
    cases ho : Object.tryFrom explodeIri object <;>
    simp only [Triple.tryFrom, hs, hp, ho, bind, Except.bind, pure, Except.pure, reduceCtorEq] at h
  cases h
  simp only [Triple.toRio, Subject.toRio_tryFrom hsplit hs, Node.toRio_tryFrom hsplit hp,
    Object.toRio_tryFrom hsplit ho]

end RoundTrip

theorem Triple.tryFrom_reads_back_typed :
    let value : Rio.Triple := ⟨.blankNode ⟨"b"⟩, ⟨"http://example.org/p"⟩,
      .literal (.typed "1" ⟨"http://www.w3.org/2001/XMLSchema#integer"⟩)⟩
    let t : Triple := ⟨.blank "b", ⟨"", "http://example.org/p"⟩,
      .literal (.typed "1" ⟨"", "http://www.w3.org/2001/XMLSchema#integer"⟩)⟩
    (∀ iri ns v, (fun iri => .ok ("", iri) : String → Except StdError (String × String)) iri =
      .ok (ns, v) → ns ++ v = iri) ∧
      Triple.tryFrom (fun iri => .ok ("", iri)) value = .ok t ∧ t.toRio = value := by
  intro value t
  have hsplit : ∀ iri ns v, (fun iri => .ok ("", iri) : String → Except StdError (String × String))
      iri = .ok (ns, v) → ns ++ v = iri := by
    intro iri ns v h
    cases h
    exact String.empty_append iri
  have h : Triple.tryFrom (fun iri => .ok ("", iri)) value = .ok t := rfl
  exact ⟨hsplit, h, Triple.tryFrom_reads_back hsplit value t h⟩

/-! The IRIs the conversions hand to `explode_iri`, in the order they do. -/

def Rio.Subject.iris : Rio.Subject → List String
  | .namedNode node => [node.iri]
  | _ => []

def Rio.Term.iris : Rio.Term → List String
  | .namedNode node => [node.iri]
  | .literal (.typed _ datatype) => [datatype.iri]
  | _ => []

def Rio.Triple.iris (value : Rio.Triple) : List String :=
  value.subject.iris ++ value.predicate.iri :: value.object.iris

section Accepts

variable (explodeIri : String → Except StdError (String × String))

theorem Node.tryFrom_accepts (value : Rio.NamedNode) :
    (∃ n, Node.tryFrom explodeIri value = .ok n) ↔ ∃ p, explodeIri value.iri = .ok p := by
  cases h : explodeIri value.iri <;> simp [Node.tryFrom, Except.map, h]

theorem Subject.tryFrom_accepts (value : Rio.Subject) :
    (∃ s, Subject.tryFrom explodeIri value = .ok s) ↔
      value ≠ .triple ∧ ∀ iri ∈ value.iris, ∃ p, explodeIri iri = .ok p := by
  rcases value with node | node | _
  · have hn := Node.tryFrom_accepts explodeIri node
    cases h : Node.tryFrom explodeIri node <;>
      simp_all [Subject.tryFrom, Rio.Subject.iris, Except.map]
  · simp [Subject.tryFrom, Rio.Subject.iris]
  · simp [Subject.tryFrom]

theorem Object.tryFrom_accepts (value : Rio.Term) :
    (∃ o, Object.tryFrom explodeIri value = .ok o) ↔
      value ≠ .triple ∧ ∀ iri ∈ value.iris, ∃ p, explodeIri iri = .ok p := by
  rcases value with node | node | (value | ⟨value, language⟩ | ⟨value, datatype⟩) | _
  · have hn := Node.tryFrom_accepts explodeIri node
    cases h : Node.tryFrom explodeIri node <;> simp_all [Object.tryFrom, Rio.Term.iris, Except.map]
  · simp [Object.tryFrom, Rio.Term.iris]
  · simp [Object.tryFrom, Literal.tryFrom, Rio.Term.iris, Except.map]
  · simp [Object.tryFrom, Literal.tryFrom, Rio.Term.iris, Except.map]
  · have hn := Node.tryFrom_accepts explodeIri datatype
    cases h : Node.tryFrom explodeIri datatype <;>
      simp_all [Object.tryFrom, Literal.tryFrom, Rio.Term.iris, Except.map]
  · simp [Object.tryFrom]

/-- `Triple::try_from` accepts a raw triple exactly when neither its subject nor its object is a
quoted triple and `explode_iri` splits every IRI the conversion meets: the subject's and the
object's when they are named nodes, the predicate's, and a typed literal's datatype. -/
theorem Triple.tryFrom_accepts_iff (value : Rio.Triple) :
    (∃ t, Triple.tryFrom explodeIri value = .ok t) ↔
      value.subject ≠ .triple ∧ value.object ≠ .triple ∧
        ∀ iri ∈ value.iris, ∃ p, explodeIri iri = .ok p := by
  have hsplit : (∃ t, Triple.tryFrom explodeIri value = .ok t) ↔
      (∃ s, Subject.tryFrom explodeIri value.subject = .ok s) ∧
        (∃ n, Node.tryFrom explodeIri value.predicate = .ok n) ∧
        ∃ o, Object.tryFrom explodeIri value.object = .ok o := by
    cases h₁ : Subject.tryFrom explodeIri value.subject <;>
      cases h₂ : Node.tryFrom explodeIri value.predicate <;>
      cases h₃ : Object.tryFrom explodeIri value.object <;>
      simp [Triple.tryFrom, bind, Except.bind, pure, Except.pure, h₁, h₂, h₃]
  rw [hsplit, Subject.tryFrom_accepts, Node.tryFrom_accepts, Object.tryFrom_accepts]
  simp only [Rio.Triple.iris, List.mem_append, List.mem_cons, or_imp, forall_and, forall_eq]
  exact ⟨fun ⟨⟨hs, hS⟩, hp, ho, hO⟩ => ⟨hs, ho, hS, hp, hO⟩,
    fun ⟨hs, ho, hS, hp, hO⟩ => ⟨⟨hs, hS⟩, hp, ho, hO⟩⟩

end Accepts

end Okp4Contracts.Cognitarium
