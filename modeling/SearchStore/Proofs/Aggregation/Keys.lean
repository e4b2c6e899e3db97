import Mathlib.Tactic.NormNum
import SearchStore.Result.GroupKey

/-! # The order of keys of groups

Keys stand in the order of their ranks, then of their strings and then of their
numbers. Only equal keys have one place in this order, since that of a double
tells all its bits.
-/

namespace SearchStore

/-- A comparison puts all keys in one line. -/
structure TotalOrder {κ : Type} (order : κ → κ → Ordering) (same : κ → κ → Bool) : Prop where
  self : ∀ a, order a a = .eq
  swap : ∀ a b, order b a = (order a b).swap
  total : ∀ a b, (order a b).isLE ∨ (order b a).isLE
  antisymm : ∀ a b, (order a b).isLE → (order b a).isLE → same a b
  trans : ∀ a b c, (order a b).isLE → (order b c).isLE → (order a c).isLE

/-- The total order tells all bit patterns apart. -/
theorem Double.orderKey_inj {x y : Double} (h : x.orderKey = y.orderKey) : x = y := by
  have hx := x.bits.toNat_lt
  have hy := y.bits.toNat_lt
  have hmax : Int64.maxValue.toInt = 9223372036854775807 := by decide
  -- the sign decides on which side of zero the key lies, and each side is one-to-one
  have hbits : x.bits.toNat = y.bits.toNat := by
    simp only [orderKey, negative, hmax, decide_eq_true_eq] at h
    norm_num at h
    split at h <;> split at h <;> omega
  exact congrArg Double.mk (UInt64.toNat_inj.mp hbits)

namespace GroupKey

/-- Two keys are of one type and have one content, doubles bit for bit. -/
def SameContent : GroupKey → GroupKey → Prop
  | .str s, .str t => s = t
  | .int m, .int n => m = n
  | .double x, .double y => x.bits = y.bits
  | _, _ => False

/-- The string of a key. Other keys have none. -/
def chars : GroupKey → String
  | .str s => s
  | .int _ | .double _ => ""

/-- The number of a key, for doubles that of their place. Strings have none. -/
def number : GroupKey → Int
  | .str _ => 0
  | .int n => n
  | .double x => x.orderKey

theorem compare_eq_compareLex :
    compare = compareLex (compareOn rank) (compareLex (compareOn chars) (compareOn number)) := by
  funext a b
  cases a <;> cases b
  case str.str | int.int | double.double =>
    simp [compare, compareLex, compareOn, rank, chars, number]
  -- the ranks differ, and nothing else is looked at
  all_goals rfl

instance : Std.TransCmp compare := by
  rw [compare_eq_compareLex]
  infer_instance

instance : Std.LawfulEqCmp compare where
  eq_of_compare {a b} h := by
    cases a <;> cases b <;> simp only [compare] at h
    case str.str s t => rw [Std.LawfulEqCmp.eq_of_compare h]
    case int.int m n => rw [Std.LawfulEqCmp.eq_of_compare h]
    case double.double x y => rw [Double.orderKey_inj (Std.LawfulEqCmp.eq_of_compare h)]
    -- keys of two types differ in their ranks
    all_goals
      have hrank := Std.LawfulEqCmp.eq_of_compare h
      simp [rank] at hrank

variable {a b : GroupKey}

theorem beq_iff : (a == b) = true ↔ a = b := by
  have hbeq : (a == b) = (compare a b == .eq) := rfl
  rw [hbeq, beq_iff_eq, Std.LawfulEqCmp.compare_eq_iff_eq]

theorem sameContent_iff : a.SameContent b ↔ a = b := by
  cases a <;> cases b
  case double.double x y =>
    obtain ⟨bits⟩ := x
    obtain ⟨bits'⟩ := y
    simp [SameContent]
  all_goals simp [SameContent]

theorem totalOrder_compare : TotalOrder compare (· == ·) where
  self _ := Std.ReflCmp.compare_self
  swap _ _ := Std.OrientedCmp.eq_swap
  total a b := by
    have hswap : compare b a = (compare a b).swap := Std.OrientedCmp.eq_swap
    rw [hswap]
    cases compare a b <;> simp
  antisymm a b hab hba := by
    have heq : compare a b = .eq := Std.OrientedCmp.isLE_antisymm hab hba
    exact beq_iff.mpr (Std.LawfulEqCmp.eq_of_compare heq)
  trans _ _ _ := Std.TransCmp.isLE_trans

end GroupKey

end SearchStore
