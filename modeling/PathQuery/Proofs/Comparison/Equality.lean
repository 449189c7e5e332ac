/-
# Strict equality among the comparators

Equality is found in three ways: loosely, strictly, and as the order of values that are neither
less nor greater.  On values of one kind that are no containers the three agree
(`Json.looselyEqual_iff`), because the text of a string is the string and two numbers that are the
same have the same place among the numbers.  Strict equality asks for one kind, so it is the
strictest of the three, and an equivalence.

Containers are set apart before any of this.  Of a pair with a container only that it differs is
accepted, so no container is equal to anything, itself included.
-/
import PathQuery.Evaluation.Basic
import PathQuery.Proofs.Comparison.Order

namespace PathQuery

/-! ## What is accepted of a pair -/

namespace Comparator

variable {left right : Json}

/-- The test of the pair succeeds, and leaves the cache as it was. -/
def Accepts (comparator : Comparator) (left right : Json) : Prop :=
  ∀ cache, comparator.testPair left right cache = .ok (true, cache)

/-- The test of the pair fails without an error, and leaves the cache as it was. -/
def Rejects (comparator : Comparator) (left right : Json) : Prop :=
  ∀ cache, comparator.testPair left right cache = .ok (false, cache)

lemma testPair_of_not_container {comparator : Comparator} (hpattern : comparator ≠ .matchesPattern)
    (hleft : left.isContainer = false) (hright : right.isContainer = false)
    (cache : Pattern.Cache) :
    comparator.testPair left right cache = .ok (comparator.holds left right, cache) := by
  simp [testPair, hpattern, hleft, hright]

lemma accepts_iff (comparator : Comparator) (hpattern : comparator ≠ .matchesPattern)
    (hleft : left.isContainer = false) (hright : right.isContainer = false) :
    comparator.Accepts left right ↔ comparator.holds left right = true := by
  simp only [Accepts, testPair_of_not_container hpattern hleft hright]
  refine ⟨fun h => ?_, fun h _ => by rw [h]⟩
  simpa using h .empty

lemma rejects_iff (comparator : Comparator) (hpattern : comparator ≠ .matchesPattern)
    (hleft : left.isContainer = false) (hright : right.isContainer = false) :
    comparator.Rejects left right ↔ comparator.holds left right = false := by
  simp only [Rejects, testPair_of_not_container hpattern hleft hright]
  refine ⟨fun h => ?_, fun h _ => by rw [h]⟩
  simpa using h .empty

/-- Nothing but existence and difference is accepted of a container. -/
lemma not_container_of_accepts {comparator : Comparator} (hexists : comparator ≠ .exists)
    (hdiffers : comparator ≠ .notEqual) (h : comparator.Accepts left right) :
    left.isContainer = false ∧ right.isContainer = false := by
  have htest := h .empty
  simp only [testPair] at htest
  split at htest
  · simp [hexists, hdiffers] at htest
  · next hcontainer => simpa using hcontainer

end Comparator

/-! ## Equality in the order -/

namespace Json

variable {a b c : Json}

lemma order_eq_iff_place (h : a.kind = .string → b.kind ≠ .string) :
    a.order b = .eq ↔ a.place = b.place := by
  rw [order_eq_compare_place h]
  exact compare_eq_iff_eq

lemma order_string_eq_iff {s t : String} : (string s).order (string t) = .eq ↔ s = t :=
  compare_eq_iff_eq

lemma strictlyEqual_iff : a.strictlyEqual b = true ↔ a.kind = b.kind ∧ a.order b = .eq := by
  simp [strictlyEqual]

lemma strictlyEqual_trans (hab : a.strictlyEqual b = true) (hbc : b.strictlyEqual c = true) :
    a.strictlyEqual c = true := by
  rw [strictlyEqual_iff] at hab hbc ⊢
  obtain ⟨hkind, hab⟩ := hab
  obtain ⟨hkind', hbc⟩ := hbc
  refine ⟨hkind.trans hkind', ?_⟩
  by_cases hstring : b.kind = .string
  · obtain ⟨s, rfl⟩ := kind_eq_string_iff.1 (hkind.trans hstring)
    obtain ⟨t, rfl⟩ := kind_eq_string_iff.1 hstring
    obtain ⟨u, rfl⟩ := kind_eq_string_iff.1 (hkind'.symm.trans hstring)
    rw [order_string_eq_iff] at hab hbc ⊢
    exact hab.trans hbc
  · rw [order_eq_iff_place fun _ => hstring] at hab
    rw [order_eq_iff_place fun hb => absurd hb hstring] at hbc
    rw [order_eq_iff_place fun ha => absurd (hkind.symm.trans ha) hstring]
    exact hab.trans hbc

lemma strictlyEqual_self (a : Json) : a.strictlyEqual a = true :=
  strictlyEqual_iff.2 ⟨rfl, order_self a⟩

lemma strictlyEqual_symm (h : a.strictlyEqual b = true) : b.strictlyEqual a = true := by
  rw [strictlyEqual_iff] at h ⊢
  refine ⟨h.1.symm, ?_⟩
  rw [order_swap a b, h.2]
  rfl

end Json

/-! ## Loose equality within a kind -/

/-- Numbers that are the same are equal in the order. -/
lemma Number.order_eq_of_same {m n : Number} (h : m.same n = true) :
    m.extended.order n.extended = .eq := by
  have hkey : m.extended.key = n.extended.key := by
    cases m with
    | integer m =>
      cases n with
      | integer n => rw [extended, extended, beq_iff_eq.1 h]
      | float y => exact absurd h Bool.false_ne_true
    | float x =>
      cases n with
      | integer n => exact absurd h Bool.false_ne_true
      | float y => exact congrArg (Prod.mk 0) (beq_iff_eq.1 h)
  rw [Extended.order_eq_compare, hkey]
  exact Std.ReflOrd.compare_self

namespace Json

variable {a b : Json}

/-- Apart from containers, strings and numbers there are `null` and the two truth values. -/
lemma eq_null_or_eq_bool (hcontainer : a.isContainer = false) (hstring : a.kind ≠ .string)
    (hnumber : a.kind ≠ .number) : a = null ∨ a = bool true ∨ a = bool false := by
  cases a with
  | null => exact Or.inl rfl
  | bool value => cases value <;> simp
  | number n => exact absurd rfl hnumber
  | string s => exact absurd rfl hstring
  | array elements => exact nomatch hcontainer
  | object members => exact nomatch hcontainer

/-- On values of one kind that are no containers, loose equality is equality in the order. -/
lemma looselyEqual_iff (hleft : a.isContainer = false) (hright : b.isContainer = false)
    (hkind : a.kind = b.kind) : a.looselyEqual b = true ↔ a.order b = .eq := by
  by_cases hstring : a.kind = .string
  · obtain ⟨s, rfl⟩ := kind_eq_string_iff.1 hstring
    obtain ⟨t, rfl⟩ := kind_eq_string_iff.1 (hkind.symm.trans hstring)
    rw [order_string_eq_iff]
    simp [looselyEqual, same, plainText]
  by_cases hnumber : a.kind = .number
  · obtain ⟨m, rfl⟩ := kind_eq_number_iff.1 hnumber
    obtain ⟨n, rfl⟩ := kind_eq_number_iff.1 (hkind.symm.trans hnumber)
    have hsame : m.same n = true → m.extended.order n.extended = .eq := Number.order_eq_of_same
    simpa [looselyEqual, same, order] using hsame
  -- the values that are left are alone in their kinds
  · obtain rfl | rfl | rfl := eq_null_or_eq_bool hleft hstring hnumber <;>
    obtain rfl | rfl | rfl := eq_null_or_eq_bool hright (hkind ▸ hstring) (hkind ▸ hnumber) <;>
    first
    | exact iff_of_true rfl rfl
    | exact nomatch hkind

end Json

/-! ## The comparators of a pair -/

namespace Comparator

variable {left right : Json}

/-- Of values that are no containers the comparators of the order accept what the order says. -/
lemma order_cases (hleft : left.isContainer = false) (hright : right.isContainer = false) :
    match left.order right with
    | .lt => less.Accepts left right ∧ lessOrEqual.Accepts left right ∧
        greater.Rejects left right ∧ greaterOrEqual.Rejects left right
    | .eq => less.Rejects left right ∧ lessOrEqual.Accepts left right ∧
        greater.Rejects left right ∧ greaterOrEqual.Accepts left right
    | .gt => less.Rejects left right ∧ lessOrEqual.Rejects left right ∧
        greater.Accepts left right ∧ greaterOrEqual.Accepts left right := by
  cases h : left.order right <;>
  simp [accepts_iff, rejects_iff, hleft, hright, holds, h]

lemma accepts_equal_iff (hleft : left.isContainer = false) (hright : right.isContainer = false) :
    equal.Accepts left right ↔ left.looselyEqual right = true :=
  equal.accepts_iff nofun hleft hright

lemma accepts_strictEqual_iff : strictEqual.Accepts left right ↔
    left.isContainer = false ∧ right.isContainer = false ∧ left.strictlyEqual right = true := by
  constructor
  · intro h
    obtain ⟨hleft, hright⟩ := not_container_of_accepts (by decide) (by decide) h
    exact ⟨hleft, hright, (strictEqual.accepts_iff nofun hleft hright).1 h⟩
  · rintro ⟨hleft, hright, h⟩
    exact (strictEqual.accepts_iff nofun hleft hright).2 h

/-- Both are neither less nor greater exactly if they are equal in the order. -/
lemma accepts_lessOrEqual_and_greaterOrEqual_iff (hleft : left.isContainer = false)
    (hright : right.isContainer = false) :
    lessOrEqual.Accepts left right ∧ greaterOrEqual.Accepts left right
      ↔ left.order right = .eq := by
  rw [lessOrEqual.accepts_iff nofun hleft hright, greaterOrEqual.accepts_iff nofun hleft hright,
    holds, holds]
  cases left.order right <;> decide

/-- What is strictly equal is equal in every other way, and rejected by all that ask for more. -/
lemma of_accepts_strictEqual (h : strictEqual.Accepts left right) :
    (equal.Accepts left right ∧ equal.Accepts right left) ∧
      (lessOrEqual.Accepts left right ∧ greaterOrEqual.Accepts left right) ∧
      less.Rejects left right ∧ greater.Rejects left right ∧ notEqual.Rejects left right ∧
      strictNotEqual.Rejects left right := by
  obtain ⟨hleft, hright, hstrict⟩ := accepts_strictEqual_iff.1 h
  obtain ⟨hkind, horder⟩ := Json.strictlyEqual_iff.1 hstrict
  obtain ⟨hkind', horder'⟩ := Json.strictlyEqual_iff.1 (Json.strictlyEqual_symm hstrict)
  have hloose := (Json.looselyEqual_iff hleft hright hkind).2 horder
  have hloose' := (Json.looselyEqual_iff hright hleft hkind').2 horder'
  have hcases := order_cases hleft hright
  rw [horder] at hcases
  obtain ⟨hless, hlessOrEqual, hgreater, hgreaterOrEqual⟩ := hcases
  refine ⟨⟨?_, ?_⟩, ⟨hlessOrEqual, hgreaterOrEqual⟩, hless, hgreater, ?_, ?_⟩
  · exact (accepts_equal_iff hleft hright).2 hloose
  · exact (accepts_equal_iff hright hleft).2 hloose'
  · rw [notEqual.rejects_iff nofun hleft hright, holds, hloose]
    rfl
  · rw [strictNotEqual.rejects_iff nofun hleft hright, holds, hstrict]
    rfl

/-- Within a kind the three ways to be equal are one. -/
lemma accepts_strictEqual_iff_of_kind_eq (hleft : left.isContainer = false)
    (hright : right.isContainer = false) (hkind : left.kind = right.kind) :
    (strictEqual.Accepts left right ↔ equal.Accepts left right) ∧
      (strictEqual.Accepts left right
        ↔ lessOrEqual.Accepts left right ∧ greaterOrEqual.Accepts left right) := by
  have hstrict : strictEqual.Accepts left right ↔ left.order right = .eq := by
    simp [accepts_strictEqual_iff, Json.strictlyEqual_iff, hleft, hright, hkind]
  rw [hstrict, accepts_equal_iff hleft hright, Json.looselyEqual_iff hleft hright hkind,
    accepts_lessOrEqual_and_greaterOrEqual_iff hleft hright]
  exact ⟨Iff.rfl, Iff.rfl⟩

/-- **Strict equality is coherent, and stricter.**  What is strictly equal is loosely equal in both
directions and neither less nor greater, and it does not differ.  Apart from containers strict
equality is an equivalence, it is loose equality and equality in the order within each kind, and of
two values exactly one is accepted: that the left one is less, that it is greater, or that it is
both less or equal and greater or equal. -/
theorem strictEqual_coherent (left right third : Json) :
    (strictEqual.Accepts left right →
      (equal.Accepts left right ∧ equal.Accepts right left) ∧
        (lessOrEqual.Accepts left right ∧ greaterOrEqual.Accepts left right) ∧
        less.Rejects left right ∧ greater.Rejects left right ∧ notEqual.Rejects left right ∧
        strictNotEqual.Rejects left right) ∧
      (left.isContainer = false → strictEqual.Accepts left left) ∧
      (strictEqual.Accepts left right → strictEqual.Accepts right left) ∧
      (strictEqual.Accepts left right → strictEqual.Accepts right third →
        strictEqual.Accepts left third) ∧
      (left.isContainer = false → right.isContainer = false →
        (left.kind = right.kind →
          (strictEqual.Accepts left right ↔ equal.Accepts left right) ∧
            (strictEqual.Accepts left right
              ↔ lessOrEqual.Accepts left right ∧ greaterOrEqual.Accepts left right)) ∧
        ((less.Accepts left right ∧ greater.Rejects left right ∧
              greaterOrEqual.Rejects left right) ∨
          (greater.Accepts left right ∧ less.Rejects left right ∧
              lessOrEqual.Rejects left right) ∨
          ((lessOrEqual.Accepts left right ∧ greaterOrEqual.Accepts left right) ∧
            less.Rejects left right ∧ greater.Rejects left right))) := by
  refine ⟨of_accepts_strictEqual, fun hleft => ?_, fun h => ?_, fun h h' => ?_,
    fun hleft hright => ⟨accepts_strictEqual_iff_of_kind_eq hleft hright, ?_⟩⟩
  · exact accepts_strictEqual_iff.2 ⟨hleft, hleft, left.strictlyEqual_self⟩
  · obtain ⟨hleft, hright, hstrict⟩ := accepts_strictEqual_iff.1 h
    exact accepts_strictEqual_iff.2 ⟨hright, hleft, Json.strictlyEqual_symm hstrict⟩
  · obtain ⟨hleft, -, hstrict⟩ := accepts_strictEqual_iff.1 h
    obtain ⟨-, hthird, hstrict'⟩ := accepts_strictEqual_iff.1 h'
    exact accepts_strictEqual_iff.2 ⟨hleft, hthird, Json.strictlyEqual_trans hstrict hstrict'⟩
  · have hcases := order_cases hleft hright
    cases horder : left.order right <;> rw [horder] at hcases
    · exact Or.inl ⟨hcases.1, hcases.2.2⟩
    · exact Or.inr (Or.inr ⟨⟨hcases.2.1, hcases.2.2.2⟩, hcases.1, hcases.2.2.1⟩)
    · exact Or.inr (Or.inl ⟨hcases.2.2.1, hcases.1, hcases.2.1⟩)

/-- An integer that no binary64 value equals, and the value that it is rounded to. -/
theorem strictEqual_coherent_rounded :
    let left : Json := .number (.integer ⟨9007199254740993, by decide⟩)
    let right : Json := .number (.integer ⟨9007199254740992, by decide⟩)
    strictEqual.Accepts left right ∧ equal.Accepts right left ∧ notEqual.Rejects left right := by
  intro left right
  have hstrict : strictEqual.Accepts left right :=
    accepts_strictEqual_iff.2 ⟨rfl, rfl, by decide +kernel⟩
  obtain ⟨⟨-, hequal⟩, -, -, -, hdiffers, -⟩ := (strictEqual_coherent left right left).1 hstrict
  exact ⟨hstrict, hequal, hdiffers⟩

end Comparator

end PathQuery
