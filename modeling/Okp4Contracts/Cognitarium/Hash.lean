import Okp4Contracts.Cognitarium.Triples
import Okp4Contracts.Utf8

/-!
# The object hash of the triples key

`state/triples.rs` declares the key of `triples()` as the object's hash, the predicate and the
subject. The hash is `Object::as_hash`: blake3 of a tag byte for the kind of object, a second tag
for the kind of literal, and the UTF-8 bytes of the object's strings, one after another. The tags
keep the kinds apart and one string is read back from its bytes, but the strings of a
language-tagged or typed literal are fed with no separator between them, so two such literals
whose strings concatenate alike feed the same bytes. A named node feeds its namespace twice and
never its value.
-/

namespace Okp4Contracts.Cognitarium

/-- `blake3::Hasher`, as the bytes it has been fed; `finalize` is a parameter of `Object.asHash`. -/
structure Hasher where
  input : List UInt8
  deriving DecidableEq, Repr

namespace Hasher

def new : Hasher := ⟨[]⟩

/-- `Hasher::update`: `data` is fed after what was fed before. -/
def update (hasher : Hasher) (data : List UInt8) : Hasher := ⟨hasher.input ++ data⟩

end Hasher

/-- The hasher `Object::as_hash` finalizes, after its `update` calls. -/
def Object.hasher : Object → Hasher
  | .named n =>
      ((Hasher.new.update ['n'.toUInt8]).update (asBytes n.namespace)).update
        (asBytes n.namespace)
  | .blank n => (Hasher.new.update ['b'.toUInt8]).update (asBytes n)
  | .literal l =>
      let hasher := Hasher.new.update ['l'.toUInt8]
      match l with
      | .simple value => (hasher.update ['s'.toUInt8]).update (asBytes value)
      | .i18NString value language =>
          ((hasher.update ['i'.toUInt8]).update (asBytes value)).update (asBytes language)
      | .typed value datatype =>
          (((hasher.update ['t'.toUInt8]).update (asBytes value)).update
            (asBytes datatype.namespace)).update (asBytes datatype.value)

/-- `Object::as_hash`, blake3's `finalize` being `finalize`. -/
def Object.asHash {H : Type} (finalize : List UInt8 → H) (o : Object) : H :=
  finalize o.hasher.input

/-- The key `triples()` declares for a triple: its object's hash, its predicate, its subject. -/
def tripleKey {H : Type} (finalize : List UInt8 → H) (t : Triple) : H × Predicate × Subject :=
  (t.object.asHash finalize, t.predicate, t.subject)

def Object.isNamed : Object → Bool
  | .named _ => true
  | _ => false

/-- The objects `as_hash` does not tell apart: equal objects, and language-tagged or typed
literals whose strings concatenate alike. -/
def Object.HashAlike : Object → Object → Prop
  | .literal (.i18NString v l), .literal (.i18NString v' l') => v ++ l = v' ++ l'
  | .literal (.typed v dt), .literal (.typed v' dt') =>
      v ++ dt.namespace ++ dt.value = v' ++ dt'.namespace ++ dt'.value
  | o, o' => o = o'

namespace Object

@[simp] theorem hasher_named (n : Node) :
    (named n).hasher.input = 110 :: (asBytes n.namespace ++ asBytes n.namespace) := rfl

@[simp] theorem hasher_blank (b : BlankNode) : (blank b).hasher.input = 98 :: asBytes b := rfl

@[simp] theorem hasher_simple (v : String) :
    (literal (.simple v)).hasher.input = 108 :: 115 :: asBytes v := rfl

@[simp] theorem hasher_i18NString (v l : String) :
    (literal (.i18NString v l)).hasher.input = 108 :: 105 :: asBytes (v ++ l) := by
  simp only [hasher, Hasher.update, Hasher.new, asBytes_append, List.append_assoc]
  rfl

@[simp] theorem hasher_typed (v : String) (dt : Node) :
    (literal (.typed v dt)).hasher.input =
      108 :: 116 :: asBytes (v ++ dt.namespace ++ dt.value) := by
  simp only [hasher, Hasher.update, Hasher.new, asBytes_append, List.append_assoc]
  rfl

/-- A named node's hash reads its namespace only. -/
theorem named_hasher_input_eq_iff (n n' : Node) :
    (named n).hasher.input = (named n').hasher.input ↔ n.namespace = n'.namespace := by
  simp only [hasher_named, List.cons.injEq, true_and]
  constructor
  · intro h
    have hlen := congrArg List.length h
    simp only [List.length_append] at hlen
    exact asBytes_injective (List.append_inj h (by omega)).1
  · intro h
    rw [h]

/-- Except between two named nodes, `as_hash` reads exactly the kind of object and the
concatenation of its strings. -/
theorem hasher_input_eq_iff {o o' : Object} (h : o.isNamed = false ∨ o'.isNamed = false) :
    o.hasher.input = o'.hasher.input ↔ o.HashAlike o' := by
  rcases o with n | b | (v | ⟨v, l⟩ | ⟨v, dt⟩) <;>
    rcases o' with n' | b' | (v' | ⟨v', l'⟩ | ⟨v', dt'⟩) <;>
    simp [HashAlike, isNamed] at h ⊢

end Object

/-- Except between two named nodes, the bytes `as_hash` feeds tell objects apart exactly up to
`HashAlike`; so, blake3 being injective, two triples whose objects are not both named share a
`triples()` key exactly when they share subject and predicate and their objects are alike. -/
theorem hash_input_eq_iff_hashAlike :
    (∀ o o' : Object, (o.isNamed = false ∨ o'.isNamed = false) →
      (o.hasher.input = o'.hasher.input ↔ o.HashAlike o')) ∧
    ∀ (H : Type) (finalize : List UInt8 → H), Function.Injective finalize →
      ∀ t t' : Triple, (t.object.isNamed = false ∨ t'.object.isNamed = false) →
        (tripleKey finalize t = tripleKey finalize t' ↔
          t.subject = t'.subject ∧ t.predicate = t'.predicate ∧ t.object.HashAlike t'.object) := by
  refine ⟨fun _ _ h => Object.hasher_input_eq_iff h, fun H finalize hf t t' h => ?_⟩
  simp only [tripleKey, Object.asHash, Prod.mk.injEq, hf.eq_iff, Object.hasher_input_eq_iff h]
  tauto

theorem hash_input_eq_iff_hashAlike_at_i18NString :
    let o₁ : Object := .literal (.i18NString "ab" "c")
    let o₂ : Object := .literal (.i18NString "a" "bc")
    let t₁ : Triple := ⟨.blank "s", ⟨"", "p"⟩, o₁⟩
    let t₂ : Triple := ⟨.blank "s", ⟨"", "p"⟩, o₂⟩
    (o₁.isNamed = false ∨ o₂.isNamed = false) ∧
      (o₁.hasher.input = o₂.hasher.input ↔ o₁.HashAlike o₂) ∧
      Function.Injective (id : List UInt8 → List UInt8) ∧
      (tripleKey id t₁ = tripleKey id t₂ ↔
        t₁.subject = t₂.subject ∧ t₁.predicate = t₂.predicate ∧ o₁.HashAlike o₂) :=
  ⟨Or.inl rfl, hash_input_eq_iff_hashAlike.1 _ _ (Or.inl rfl), Function.injective_id,
    hash_input_eq_iff_hashAlike.2 _ id Function.injective_id _ _ (Or.inl rfl)⟩

theorem i18NString_boundary_collides :
    let t₁ : Triple := ⟨.blank "s", ⟨"", "p"⟩, .literal (.i18NString "ab" "c")⟩
    let t₂ : Triple := ⟨.blank "s", ⟨"", "p"⟩, .literal (.i18NString "a" "bc")⟩
    t₁.object ≠ t₂.object ∧ t₁.object.hasher.input = t₂.object.hasher.input ∧
      ∀ (H : Type) (finalize : List UInt8 → H), tripleKey finalize t₁ = tripleKey finalize t₂ :=
  ⟨by decide, rfl, fun _ _ => rfl⟩

end Okp4Contracts.Cognitarium
