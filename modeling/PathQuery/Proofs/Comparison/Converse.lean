/-
# Comparisons turned around

The converse of a comparator says of a pair what the comparator says of the pair turned around.  The
comparators of the order are converses of one another, and those of strict equality of themselves;
loose equality has none, for it takes a string on the right by its characters and none on the left.

A comparison treats its sides differently.  It asks the left one first, runs the right one to its
end, and goes through the pairs from the left.  But where neither side fails, all that counts is
whether the comparator holds of some pair (`Comparator.decides_testRuns`), and so the sides may
change places if the comparator is replaced by its converse.
-/
import PathQuery.Proofs.Comparison.Order
import PathQuery.Proofs.Evaluation.Denotation

namespace PathQuery

/-! ## Pairs -/

namespace Comparator

/-- What the first comparator says of two values the second one says of them in the other order. -/
inductive Converse : Comparator → Comparator → Prop
  | less : Converse less greater
  | greater : Converse greater less
  | lessOrEqual : Converse lessOrEqual greaterOrEqual
  | greaterOrEqual : Converse greaterOrEqual lessOrEqual
  | strictEqual : Converse strictEqual strictEqual
  | strictNotEqual : Converse strictNotEqual strictNotEqual

namespace Converse

variable {comparator converse : Comparator}

lemma symm (h : Converse comparator converse) : Converse converse comparator := by
  cases h <;> constructor

/-- Comparators with a converse hold of no container, and match no patterns. -/
lemma ne (h : Converse comparator converse) :
    comparator ≠ .exists ∧ comparator ≠ .notEqual ∧ comparator ≠ .matchesPattern := by
  cases h <;> decide

end Converse

end Comparator

lemma Json.strictlyEqual_comm (a b : Json) : a.strictlyEqual b = b.strictlyEqual a := by
  rw [strictlyEqual, strictlyEqual, order_swap a b, BEq.comm]
  cases a.order b <;> rfl

namespace Comparator

variable {comparator converse : Comparator}

lemma Converse.holds_eq (h : Converse comparator converse) (x y : Json) :
    comparator.holds x y = converse.holds y x := by
  cases h with
  | strictEqual => exact x.strictlyEqual_comm y
  | strictNotEqual => exact congrArg not (x.strictlyEqual_comm y)
  | _ =>
    simp only [holds, x.order_swap y]
    cases x.order y <;> rfl

lemma Converse.relates_iff (h : Converse comparator converse) (x y : Json) :
    comparator.Relates x y ↔ converse.Relates y x := by
  simp only [Relates, h.ne, h.symm.ne, or_self, if_false, h.holds_eq x y,
    or_comm (a := x.isContainer = true)]

end Comparator

/-! ## Comparisons -/

namespace Expression

variable {left right : Operand} {root node : Json}

/-- Where neither side fails, a comparison is decided by the pairs of their nodes. -/
lemma matches_comparison_eq_ok {comparator : Comparator} (hexists : comparator ≠ .exists)
    (hpattern : comparator ≠ .matchesPattern) (hleft : (left.resolve root node).failure = none)
    (hright : (right.resolve root node).failure = none) :
    ∃ result, (comparison comparator left (some right)).matches root node = .ok result ∧
      (result = true ↔ ∃ x ∈ left.values root node, ∃ y ∈ right.values root node,
        comparator.Relates x y) := by
  have htest := comparator.decides_testRuns hleft hright fun _ _ h => absurd h hpattern
  rw [if_neg hexists, left.nodes_resolve, right.nodes_resolve] at htest
  exact matches_of_decides htest

/-- **Comparisons can be turned around.**  Where neither side fails, a comparison has an answer, and
it has the same answer with its sides in the other order and the converse of its comparator. -/
theorem matches_converse {comparator converse : Comparator}
    (hconverse : comparator.Converse converse) (hleft : (left.resolve root node).failure = none)
    (hright : (right.resolve root node).failure = none) :
    ∃ result, (comparison comparator left (some right)).matches root node = .ok result ∧
      (comparison converse right (some left)).matches root node = .ok result := by
  obtain ⟨result, hmatches, hresult⟩ :=
    matches_comparison_eq_ok hconverse.ne.1 hconverse.ne.2.2 hleft hright
  obtain ⟨turned, hturned, hresult'⟩ :=
    matches_comparison_eq_ok hconverse.symm.ne.1 hconverse.symm.ne.2.2 hright hleft
  have hsame : result = true ↔ turned = true := by
    rw [hresult, hresult']
    constructor
    · rintro ⟨x, hx, y, hy, h⟩
      exact ⟨y, hy, x, hx, (hconverse.relates_iff x y).1 h⟩
    · rintro ⟨y, hy, x, hx, h⟩
      exact ⟨x, hx, y, hy, (hconverse.relates_iff x y).2 h⟩
  exact ⟨result, hmatches, Bool.eq_iff_iff.2 hsame ▸ hturned⟩

/-- An array, which is in no order, and a number on the left, and a string that spells a number on
the right. -/
theorem matches_converse_numeral :
    let nine : Json := .number (.integer ⟨9, by decide⟩)
    let node : Json := .object [("a", .array []), ("b", .object [("a", nine)])]
    let left : Operand := .path [.scan (some "a")]
    let right : Operand := .literal (.string " 9.5 ")
    Comparator.Converse .less .greater ∧ (left.resolve node node).failure = none ∧
      (right.resolve node node).failure = none ∧
      (comparison .greater right (some left)).matches node node = .ok true := by
  intro nine node left right
  have hleft : (left.resolve node node).failure = none := rfl
  have hright : (right.resolve node node).failure = none := rfl
  have hless : (comparison .less left (some right)).matches node node = .ok true := by
    decide +kernel
  obtain ⟨result, hresult, hgreater⟩ := matches_converse .less hleft hright
  exact ⟨.less, hleft, hright, hgreater.trans (hresult.symm.trans hless)⟩

end Expression

end PathQuery
