import Okp4Contracts.CosmWasm

/-!
# The bucket's configuration messages

`msg.rs` of `cw-storage`: the limits of a bucket, its pagination configuration, the check
`PaginationConfig::validate`, and the conversions between the configuration and the
`state::Pagination` it becomes. `validate` bounds the maximum page size by `u32::MAX - 1` and a set
default page size by the maximum, the maximum's default standing in when it is unset; but a
default left unset becomes `10` whatever the maximum, so a configured maximum below `10` yields a
pagination whose default page exceeds its maximum page.
-/

namespace Okp4Contracts.Storage

/-- `BucketLimits`: each limit is unbounded when `none`. -/
structure BucketLimits where
  maxTotalSize : Option Uint128 := none
  maxObjects : Option Uint128 := none
  maxObjectSize : Option Uint128 := none
  maxObjectPins : Option Uint128 := none
  deriving DecidableEq, Repr

/-- `MAX_PAGE_MAX_SIZE`, that is `u32::MAX - 1`. -/
def maxPageMaxSize : UInt32 := 4294967295 - 1

/-- `DEFAULT_PAGE_MAX_SIZE`. -/
def defaultPageMaxSize : UInt32 := 30

/-- `DEFAULT_PAGE_DEFAULT_SIZE`. -/
def defaultPageDefaultSize : UInt32 := 10

/-- `PaginationConfig`: each size takes its default when `none`. -/
structure PaginationConfig where
  maxPageSize : Option UInt32 := none
  defaultPageSize : Option UInt32 := none
  deriving DecidableEq, Repr

/-- `state::Pagination`, which the sources do not include: the two sizes the conversions fill. -/
structure Pagination where
  maxPageSize : UInt32
  defaultPageSize : UInt32
  deriving DecidableEq, Repr

namespace PaginationConfig

/-- `PaginationConfig::new`. -/
def new : PaginationConfig := ⟨none, none⟩

/-- `PaginationConfig::validate`. -/
def validate (c : PaginationConfig) : Except StdError Unit :=
  if (c.maxPageSize.filter fun size => decide (size > maxPageMaxSize)).isSome then
    .error (.genericErr "'max_page_size' cannot exceed 'u32::MAX - 1'")
  else if (c.defaultPageSize.filter fun size =>
      decide (size > c.maxPageSize.getD defaultPageMaxSize)).isSome then
    .error (.genericErr "'default_page_size' cannot exceed 'max_page_size'")
  else .ok ()

/-- `From<Pagination> for PaginationConfig`. -/
def ofPagination (p : Pagination) : PaginationConfig := ⟨some p.maxPageSize, some p.defaultPageSize⟩

end PaginationConfig

/-- `From<PaginationConfig> for Pagination`. -/
def Pagination.ofConfig (c : PaginationConfig) : Pagination :=
  ⟨c.maxPageSize.getD defaultPageMaxSize, c.defaultPageSize.getD defaultPageDefaultSize⟩

namespace PaginationConfig

/-- The maximum page size is unset or within `u32::MAX - 1`. -/
def MaxOk (c : PaginationConfig) : Prop := ∀ m, c.maxPageSize = some m → m ≤ maxPageMaxSize

/-- The default page size is unset or within the maximum, the maximum's default standing in for
an unset maximum. -/
def DefaultOk (c : PaginationConfig) : Prop :=
  ∀ d, c.defaultPageSize = some d → d ≤ c.maxPageSize.getD defaultPageMaxSize

theorem isSome_filter_gt {a : UInt32} {o : Option UInt32} :
    (o.filter fun size => decide (size > a)).isSome = true ↔ ¬∀ size, o = some size → size ≤ a := by
  cases o <;> simp [Option.filter]

theorem le_of_not_isSome_filter_gt {a : UInt32} {o : Option UInt32}
    (h : ¬(o.filter fun size => decide (size > a)).isSome = true) :
    ∀ size, o = some size → size ≤ a :=
  of_not_not (mt isSome_filter_gt.mpr h)

/-- `validate` accepts exactly the configurations whose two sizes are within their bounds. -/
theorem validate_eq_ok_iff (c : PaginationConfig) : c.validate = .ok () ↔ c.MaxOk ∧ c.DefaultOk := by
  simp only [validate]
  split_ifs with h₁ h₂
  · exact iff_of_false (by simp) fun h => isSome_filter_gt.mp h₁ h.1
  · exact iff_of_false (by simp) fun h => isSome_filter_gt.mp h₂ h.2
  · exact iff_of_true rfl ⟨le_of_not_isSome_filter_gt h₁, le_of_not_isSome_filter_gt h₂⟩

/-- Each error of `validate` names the size that fails its bound, the maximum being checked
first. -/
theorem validate_eq_error_iff (c : PaginationConfig) (e : StdError) :
    c.validate = .error e ↔
      (¬c.MaxOk ∧ e = .genericErr "'max_page_size' cannot exceed 'u32::MAX - 1'") ∨
        (c.MaxOk ∧ ¬c.DefaultOk ∧
          e = .genericErr "'default_page_size' cannot exceed 'max_page_size'") := by
  simp only [validate]
  split_ifs with h₁ h₂
  · have hmax : ¬c.MaxOk := isSome_filter_gt.mp h₁
    constructor
    · rintro ⟨⟩
      exact .inl ⟨hmax, rfl⟩
    · rintro (⟨-, rfl⟩ | ⟨h, -⟩)
      · rfl
      · exact absurd h hmax
  · have hdef : ¬c.DefaultOk := isSome_filter_gt.mp h₂
    constructor
    · rintro ⟨⟩
      exact .inr ⟨le_of_not_isSome_filter_gt h₁, hdef, rfl⟩
    · rintro (⟨h, -⟩ | ⟨-, -, rfl⟩)
      · exact absurd (le_of_not_isSome_filter_gt h₁) h
      · rfl
  · exact iff_of_false (by simp) fun h => h.elim (fun h => h.1 (le_of_not_isSome_filter_gt h₁))
      fun h => h.2.1 (le_of_not_isSome_filter_gt h₂)

theorem new_validate : new.validate = .ok () := rfl

end PaginationConfig

namespace Pagination

theorem toNat_add_one (a : UInt32) : (a + 1).toNat = (a.toNat + 1) % 2 ^ 32 :=
  BitVec.toNat_add _ _

/-- A configuration `validate` accepts becomes a pagination whose maximum is within
`u32::MAX - 1`, so a page of one element more does not wrap; its default is within its maximum
exactly when the default was set or the maximum is at least the default's default. -/
theorem ofConfig_bounds (c : PaginationConfig) (h : c.validate = .ok ()) :
    (ofConfig c).maxPageSize ≤ maxPageMaxSize ∧
      ((ofConfig c).maxPageSize + 1).toNat = (ofConfig c).maxPageSize.toNat + 1 ∧
      ((ofConfig c).defaultPageSize ≤ (ofConfig c).maxPageSize ↔
        c.defaultPageSize.isSome ∨ defaultPageDefaultSize ≤ (ofConfig c).maxPageSize) := by
  obtain ⟨hmax, hdef⟩ := (PaginationConfig.validate_eq_ok_iff c).mp h
  have hle : (ofConfig c).maxPageSize ≤ maxPageMaxSize := by
    cases hm : c.maxPageSize with
    | none => simp only [ofConfig, hm, Option.getD_none]; decide
    | some m => simpa only [ofConfig, hm, Option.getD_some] using hmax m hm
  have hlt : (ofConfig c).maxPageSize.toNat < 2 ^ 32 - 1 := Nat.lt_of_le_of_lt hle (by decide)
  refine ⟨hle, by rw [toNat_add_one, Nat.mod_eq_of_lt (by omega)], ?_⟩
  cases hd : c.defaultPageSize with
  | none => simp [ofConfig, hd]
  | some d => exact iff_of_true (by simpa [ofConfig, hd] using hdef d hd) (.inl rfl)

theorem ofConfig_bounds_at_unset_default :
    let c : PaginationConfig := ⟨some 5, none⟩
    c.validate = .ok () ∧
      ((ofConfig c).maxPageSize ≤ maxPageMaxSize ∧
        ((ofConfig c).maxPageSize + 1).toNat = (ofConfig c).maxPageSize.toNat + 1 ∧
        ((ofConfig c).defaultPageSize ≤ (ofConfig c).maxPageSize ↔
          c.defaultPageSize.isSome ∨ defaultPageDefaultSize ≤ (ofConfig c).maxPageSize)) ∧
      ¬(ofConfig c).defaultPageSize ≤ (ofConfig c).maxPageSize :=
  ⟨rfl, ofConfig_bounds _ rfl, by decide⟩

end Pagination

end Okp4Contracts.Storage
