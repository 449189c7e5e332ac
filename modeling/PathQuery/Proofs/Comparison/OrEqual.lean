/-
# Less than, equal to, or either

A comparator of the order that allows for equality means equality in the order, and loose equality
is another one.  In the order a string that spells a number stands for that number, whichever side
it is on.  Loose equality asks for the text of the left value, and so it does not see a number that
is spelled in another way or on the left.  But it sees the texts of `null` and of a truth value,
which the order ranks by their kinds and so below or above every string.

These are all the pairs on which the two differ.  On every other pair less-or-equal is less or
equal, and greater-or-equal is greater or equal (`Comparator.orEqual_iff`).  A number on the left
with its own text on the right is such a pair, because the text of a number is read as the number.
-/
import PathQuery.Proofs.Comparison.Equality
import PathQuery.Proofs.Number.Text

namespace PathQuery

/-- No two kinds have the same place. -/
lemma Kind.eq_of_order_eq {k l : Kind} (h : k.order l = .eq) : k = l := by
  cases k <;> cases l <;> first | rfl | exact nomatch h

namespace Json

/-- One of the values is a number, and the other one a string that spells an equal number; but it is
not the number that comes first, with its own text behind it. -/
inductive SpelledApart : Json → Json → Prop
  | right {n : Number} {s : String} {x : Extended} (hspells : Extended.ofText? s.toList = some x)
      (hequal : n.extended.order x = .eq) (hother : s.toList ≠ n.text) :
      SpelledApart (number n) (string s)
  | left {n : Number} {s : String} {x : Extended} (hspells : Extended.ofText? s.toList = some x)
      (hequal : x.order n.extended = .eq) : SpelledApart (string s) (number n)

lemma SpelledApart.toList_ne {n : Number} {s : String}
    (h : SpelledApart (number n) (string s)) : s.toList ≠ n.text := by
  cases h with
  | right _ _ hother => exact hother

variable {a b : Json}

/-! ## A value and a string -/

lemma looselyEqual_string_iff {s : String} :
    a.looselyEqual (string s) = true ↔ a.plainText = s := by
  cases a with
  | string t => simp [looselyEqual, same, plainText]
  | _ => simp [looselyEqual, same]

/-- Across kinds only a string on the right is loosely equal. -/
lemma eq_string_of_looselyEqual (hkind : a.kind ≠ b.kind) (h : a.looselyEqual b = true) :
    b = string a.plainText := by
  cases b with
  | string s => rw [looselyEqual_string_iff.1 h]
  | _ => cases a <;> simp_all [looselyEqual, same, kind]

lemma toList_plainText_number (n : Number) : (number n).plainText.toList = n.text :=
  String.toList_ofList

lemma order_number_string {n : Number} {s : String} {x : Extended}
    (hspells : Extended.ofText? s.toList = some x) :
    (number n).order (string s) = n.extended.order x := by
  have hkind : (number n).kind ≠ (string s).kind := nofun
  have hnumber : (string s).asNumber? = some x := hspells
  rw [order_of_kind_ne hkind, hnumber]
  rfl

lemma order_string_number {n : Number} {s : String} {x : Extended}
    (hspells : Extended.ofText? s.toList = some x) :
    (string s).order (number n) = x.order n.extended := by
  have hkind : (string s).kind ≠ (number n).kind := nofun
  have hnumber : (string s).asNumber? = some x := hspells
  rw [order_of_kind_ne hkind, hnumber]
  rfl

/-- A number is equal in the order to its own text. -/
lemma order_number_plainText (n : Number) :
    (number n).order (string (number n).plainText) = .eq := by
  have hspells := n.ofText?_text
  rw [← toList_plainText_number] at hspells
  rw [order_number_string hspells]
  exact Extended.order_eq_compare _ _ ▸ Std.ReflOrd.compare_self

lemma order_bool_string (value : Bool) (s : String) : (bool value).order (string s) = .gt := by
  cases value <;> exact order_of_kind_ne nofun

lemma order_null_string (s : String) : null.order (string s) = .lt := order_of_kind_ne nofun

/-! ## Where the two equalities differ -/

/-- Values of different kinds that are equal in the order are a number and a string that spells
it. -/
lemma asNumber?_of_order_eq (hkind : a.kind ≠ b.kind) (h : a.order b = .eq) :
    ∃ x y, a.asNumber? = some x ∧ b.asNumber? = some y ∧ x.order y = .eq := by
  rw [order_of_kind_ne hkind] at h
  split at h
  · next x y hx hy => exact ⟨x, y, hx, hy, h⟩
  · exact absurd (Kind.eq_of_order_eq h) hkind

lemma order_eq_and_not_looselyEqual_iff (hleft : a.isContainer = false)
    (hright : b.isContainer = false) :
    a.order b = .eq ∧ ¬a.looselyEqual b = true ↔ SpelledApart a b := by
  constructor
  · rintro ⟨horder, hloose⟩
    have hkind : a.kind ≠ b.kind := fun hkind =>
      hloose ((looselyEqual_iff hleft hright hkind).2 horder)
    obtain ⟨x, y, hx, hy, hequal⟩ := asNumber?_of_order_eq hkind horder
    rcases kind_of_asNumber?_eq_some hx with hnumber | hstring
    · obtain ⟨n, rfl⟩ := kind_eq_number_iff.1 hnumber
      obtain ⟨s, rfl⟩ := kind_eq_string_iff.1
        ((kind_of_asNumber?_eq_some hy).resolve_left fun hb => hkind (hnumber.trans hb.symm))
      obtain rfl : n.extended = x := Option.some.inj hx
      refine .right hy hequal fun htext => hloose (looselyEqual_string_iff.2 ?_)
      rw [← String.toList_inj, toList_plainText_number, htext]
    · obtain ⟨s, rfl⟩ := kind_eq_string_iff.1 hstring
      obtain ⟨n, rfl⟩ := kind_eq_number_iff.1
        ((kind_of_asNumber?_eq_some hy).resolve_right fun hb => hkind (hstring.trans hb.symm))
      obtain rfl : n.extended = y := Option.some.inj hy
      exact .left hx hequal
  · rintro (⟨hspells, hequal, hother⟩ | ⟨hspells, hequal⟩)
    · refine ⟨(order_number_string hspells).trans hequal, ?_⟩
      rw [looselyEqual_string_iff]
      rintro rfl
      exact hother (toList_plainText_number _)
    · refine ⟨(order_string_number hspells).trans hequal, ?_⟩
      simp [looselyEqual, same]

/-- What is loosely equal and not equal in the order is a truth value or `null`, and its text. -/
lemma cases_of_looselyEqual (hleft : a.isContainer = false) (hright : b.isContainer = false)
    (h : a.looselyEqual b = true) :
    a.order b = .eq ∨ (∃ value, a = bool value ∧ b = string (bool value).plainText) ∨
      (a = null ∧ b = string "") := by
  by_cases hkind : a.kind = b.kind
  · exact Or.inl ((looselyEqual_iff hleft hright hkind).1 h)
  · obtain rfl := eq_string_of_looselyEqual hkind h
    cases a with
    | null => exact Or.inr (Or.inr ⟨rfl, rfl⟩)
    | bool value => exact Or.inr (Or.inl ⟨value, rfl, rfl⟩)
    | number n => exact Or.inl (order_number_plainText n)
    | string s => exact absurd rfl hkind
    | array elements => exact nomatch hleft
    | object members => exact nomatch hleft

lemma order_gt_and_looselyEqual_iff (hleft : a.isContainer = false)
    (hright : b.isContainer = false) :
    a.order b = .gt ∧ a.looselyEqual b = true
      ↔ ∃ value, a = bool value ∧ b = string (bool value).plainText := by
  constructor
  · rintro ⟨horder, hloose⟩
    obtain heq | hbool | ⟨rfl, rfl⟩ := cases_of_looselyEqual hleft hright hloose
    · exact nomatch horder.symm.trans heq
    · exact hbool
    · exact nomatch horder.symm.trans (order_null_string "")
  · rintro ⟨value, rfl, rfl⟩
    exact ⟨order_bool_string _ _, looselyEqual_string_iff.2 rfl⟩

lemma order_lt_and_looselyEqual_iff (hleft : a.isContainer = false)
    (hright : b.isContainer = false) :
    a.order b = .lt ∧ a.looselyEqual b = true ↔ a = null ∧ b = string "" := by
  constructor
  · rintro ⟨horder, hloose⟩
    obtain heq | ⟨value, rfl, rfl⟩ | hnull := cases_of_looselyEqual hleft hright hloose
    · exact nomatch horder.symm.trans heq
    · exact nomatch horder.symm.trans (order_bool_string _ _)
    · exact hnull
  · rintro ⟨rfl, rfl⟩
    exact ⟨order_null_string "", looselyEqual_string_iff.2 rfl⟩

end Json

/-! ## The comparators that allow for equality -/

namespace Comparator

variable {left right : Json}

lemma accepts_lessOrEqual_iff_or (hleft : left.isContainer = false)
    (hright : right.isContainer = false) :
    (lessOrEqual.Accepts left right ↔ less.Accepts left right ∨ equal.Accepts left right) ↔
      ¬(left.order right = .eq ∧ ¬left.looselyEqual right = true) ∧
        ¬(left.order right = .gt ∧ left.looselyEqual right = true) := by
  rw [lessOrEqual.accepts_iff nofun hleft hright, less.accepts_iff nofun hleft hright,
    accepts_equal_iff hleft hright, holds, holds]
  cases left.order right <;> cases left.looselyEqual right <;> decide

lemma accepts_greaterOrEqual_iff_or (hleft : left.isContainer = false)
    (hright : right.isContainer = false) :
    (greaterOrEqual.Accepts left right ↔ greater.Accepts left right ∨ equal.Accepts left right) ↔
      ¬(left.order right = .eq ∧ ¬left.looselyEqual right = true) ∧
        ¬(left.order right = .lt ∧ left.looselyEqual right = true) := by
  rw [greaterOrEqual.accepts_iff nofun hleft hright, greater.accepts_iff nofun hleft hright,
    accepts_equal_iff hleft hright, holds, holds]
  cases left.order right <;> cases left.looselyEqual right <;> decide

/-- **When less-or-equal is less or equal.**  For values that are no containers the law fails if a
number and a string that spells it stand apart; for less-or-equal it also fails if a truth value is
compared with its text, and for greater-or-equal if `null` is compared with the empty string.  It
holds in all other cases. -/
theorem orEqual_iff (hleft : left.isContainer = false) (hright : right.isContainer = false) :
    ((lessOrEqual.Accepts left right ↔ less.Accepts left right ∨ equal.Accepts left right) ↔
        ¬Json.SpelledApart left right ∧
          ¬∃ value, left = .bool value ∧ right = .string (Json.bool value).plainText) ∧
      ((greaterOrEqual.Accepts left right
          ↔ greater.Accepts left right ∨ equal.Accepts left right) ↔
        ¬Json.SpelledApart left right ∧ ¬(left = .null ∧ right = .string "")) := by
  rw [accepts_lessOrEqual_iff_or hleft hright, accepts_greaterOrEqual_iff_or hleft hright,
    Json.order_eq_and_not_looselyEqual_iff hleft hright,
    Json.order_gt_and_looselyEqual_iff hleft hright,
    Json.order_lt_and_looselyEqual_iff hleft hright]
  exact ⟨Iff.rfl, Iff.rfl⟩

/-- An integer and its text, which stands for a rounded number in the order. -/
theorem orEqual_iff_own_text :
    let left : Json := .number (.integer ⟨9007199254740993, by decide⟩)
    let right : Json := .string "9007199254740993"
    (lessOrEqual.Accepts left right ↔ less.Accepts left right ∨ equal.Accepts left right) ∧
      (greaterOrEqual.Accepts left right
        ↔ greater.Accepts left right ∨ equal.Accepts left right) := by
  intro left right
  obtain ⟨hless, hgreater⟩ := @orEqual_iff left right rfl rfl
  have htogether : ¬Json.SpelledApart left right := by
    intro hapart
    exact hapart.toList_ne (by decide +kernel)
  refine ⟨hless.2 ⟨htogether, ?_⟩, hgreater.2 ⟨htogether, ?_⟩⟩
  · rintro ⟨value, hvalue, -⟩
    exact nomatch hvalue
  · rintro ⟨hnull, -⟩
    exact nomatch hnull

/-- A truth value is equal to its text and not less or equal, and a string that spells a number is
greater or equal to it and neither greater nor equal. -/
theorem orEqual_fails :
    ¬(lessOrEqual.Accepts (.bool true) (.string "True")
        ↔ less.Accepts (.bool true) (.string "True") ∨
          equal.Accepts (.bool true) (.string "True")) ∧
      ¬(greaterOrEqual.Accepts (.string "3") (.number (.integer ⟨3, by decide⟩))
        ↔ greater.Accepts (.string "3") (.number (.integer ⟨3, by decide⟩)) ∨
          equal.Accepts (.string "3") (.number (.integer ⟨3, by decide⟩))) := by
  rw [accepts_lessOrEqual_iff_or rfl rfl, accepts_greaterOrEqual_iff_or rfl rfl]
  exact ⟨by decide +kernel, by decide +kernel⟩

end Comparator

end PathQuery
