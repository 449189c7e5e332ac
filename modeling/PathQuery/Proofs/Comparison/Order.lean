/-
# The order of values

Two strings are ordered by their characters.  In every other pair the values are ordered by their
places (`Json.order_eq_compare_place`): a number, and a string that spells one, has its place among
the numbers; what is no number has one below or above all of them, by its kind.

So the order of a pair can be turned around, and it is transitive as long as one of the two rules
applies throughout.  Where two strings meet a number both rules apply, and they may disagree: the
string that comes first may spell the greater number.  A number that stands between two strings in
this way is the only obstacle to transitivity (`Json.order_transitive_iff`), and a real one.
-/
import Mathlib.Data.Prod.Lex
import Mathlib.Data.Set.Operations
import Mathlib.Data.String.Basic
import PathQuery.Comparison

namespace PathQuery

lemma compare_toLex {α β : Type} [Ord α] [Ord β] (a a' : α) (b b' : β) :
    compare (toLex (a, b)) (toLex (a', b')) = (compare a a').then (compare b b') := by
  rw [Prod.Lex.compare_def]
  rfl

lemma Extended.order_eq_compare (x y : Extended) :
    x.order y = compare (toLex x.key) (toLex y.key) := by
  rw [Prod.Lex.compare_def]
  rfl

lemma Extended.order_ne_gt_iff {x y : Extended} :
    x.order y ≠ .gt ↔ toLex x.key ≤ toLex y.key := by
  rw [order_eq_compare]
  exact compare_le_iff_le

namespace Json

variable {a b c : Json}

/-! ## Kinds and numbers -/

lemma kind_eq_string_iff : a.kind = .string ↔ ∃ s, a = .string s := by
  cases a with
  | bool value => cases value <;> simp [kind]
  | _ => simp [kind]

lemma kind_eq_number_iff : a.kind = .number ↔ ∃ n, a = .number n := by
  cases a with
  | bool value => cases value <;> simp [kind]
  | _ => simp [kind]

lemma kind_of_asNumber?_eq_some {x : Extended} (h : a.asNumber? = some x) :
    a.kind = .number ∨ a.kind = .string := by
  cases a <;> simp_all [asNumber?, kind]

lemma kind_ne_number_of_asNumber?_eq_none (h : a.asNumber? = none) : a.kind ≠ .number := by
  rw [Ne, kind_eq_number_iff]
  rintro ⟨n, rfl⟩
  simp [asNumber?] at h

lemma asNumber?_eq_none (hstring : a.kind ≠ .string) (hnumber : a.kind ≠ .number) :
    a.asNumber? = none := by
  rcases h : a.asNumber? with _ | x
  · rfl
  · exact absurd (kind_of_asNumber?_eq_some h) (by simp [hstring, hnumber])

/-! ## The order by kinds -/

lemma order_of_kind_ne (h : a.kind ≠ b.kind) :
    a.order b = match a.asNumber?, b.asNumber? with
      | some x, some y => x.order y
      | _, _ => a.kind.order b.kind := by
  unfold order
  split
  · exact absurd rfl h
  · exact absurd rfl h
  · exact if_neg h

lemma order_of_kind_eq (h : a.kind = b.kind) (hstring : a.kind ≠ .string)
    (hnumber : a.kind ≠ .number) : a.order b = .eq := by
  unfold order
  split
  · exact absurd rfl hstring
  · exact absurd rfl hnumber
  · exact if_pos h

/-! ## Places -/

/-- Where a value stands among all others, two strings aside: what is a number or spells one where
numbers do, by its value, and the rest by its kind. -/
def place (value : Json) : ℕ ×ₗ ℤ ×ₗ ℤ :=
  match value.asNumber? with
  | some x => toLex (Kind.number.rank, toLex x.key)
  | none => toLex (value.kind.rank, toLex (0, 0))

lemma place_of_some {x : Extended} (h : a.asNumber? = some x) :
    a.place = toLex (Kind.number.rank, toLex x.key) := by
  rw [place, h]

lemma place_of_none (h : a.asNumber? = none) : a.place = toLex (a.kind.rank, toLex (0, 0)) := by
  rw [place, h]

/-- Against what is no number a string that spells one stands where every other string does. -/
lemma compare_place_of_some_of_none {x : Extended} (ha : a.asNumber? = some x)
    (hb : b.asNumber? = none) (h : a.kind = .string → b.kind ≠ .string) :
    compare a.place b.place = a.kind.order b.kind := by
  have hnumber := kind_ne_number_of_asNumber?_eq_none hb
  rw [place_of_some ha, place_of_none hb, compare_toLex, Kind.order]
  rcases kind_of_asNumber?_eq_some ha with hkind | hkind <;> rw [hkind] at h ⊢
  · cases hb : b.kind with
    | number => exact absurd hb hnumber
    | _ => rfl
  · cases hb : b.kind with
    | number => exact absurd hb hnumber
    | string => exact absurd hb (h rfl)
    | _ => rfl

/-- Two values that are not both strings are ordered by their places. -/
lemma order_eq_compare_place (h : a.kind = .string → b.kind ≠ .string) :
    a.order b = compare a.place b.place := by
  by_cases hkind : a.kind = b.kind
  · have hstring : a.kind ≠ .string := fun ha => h ha (hkind ▸ ha)
    by_cases hnumber : a.kind = .number
    · obtain ⟨m, rfl⟩ := kind_eq_number_iff.1 hnumber
      obtain ⟨n, rfl⟩ := kind_eq_number_iff.1 (hkind ▸ hnumber)
      rw [place_of_some rfl, place_of_some rfl, compare_toLex, ← Extended.order_eq_compare]
      rfl
    · rw [order_of_kind_eq hkind hstring hnumber, place_of_none (asNumber?_eq_none hstring hnumber),
        place_of_none (asNumber?_eq_none (hkind ▸ hstring) (hkind ▸ hnumber)), hkind]
      exact Std.ReflOrd.compare_self.symm
  · rw [order_of_kind_ne hkind]
    rcases ha : a.asNumber? with _ | x <;> rcases hb : b.asNumber? with _ | y
    · rw [place_of_none ha, place_of_none hb, compare_toLex]
      simp [Kind.order]
    · rw [Std.OrientedOrd.eq_swap, compare_place_of_some_of_none hb ha fun hb ha => h ha hb]
      exact Std.OrientedOrd.eq_swap
    · exact (compare_place_of_some_of_none ha hb h).symm
    · rw [place_of_some ha, place_of_some hb, compare_toLex]
      simp [Extended.order_eq_compare]

/-! ## A value and itself, and a pair turned around -/

lemma order_self (a : Json) : a.order a = .eq := by
  by_cases hstring : a.kind = .string
  · obtain ⟨s, rfl⟩ := kind_eq_string_iff.1 hstring
    exact Std.ReflOrd.compare_self
  · rw [order_eq_compare_place fun h => absurd h hstring]
    exact Std.ReflOrd.compare_self

lemma order_swap (a b : Json) : b.order a = (a.order b).swap := by
  by_cases hstring : a.kind = .string ∧ b.kind = .string
  · obtain ⟨s, rfl⟩ := kind_eq_string_iff.1 hstring.1
    obtain ⟨t, rfl⟩ := kind_eq_string_iff.1 hstring.2
    exact Std.OrientedOrd.eq_swap
  · rw [not_and] at hstring
    rw [order_eq_compare_place hstring, order_eq_compare_place fun hb ha => hstring ha hb]
    exact Std.OrientedOrd.eq_swap

/-! ## Transitivity -/

lemma order_ne_gt_iff (h : a.kind = .string → b.kind ≠ .string) :
    a.order b ≠ .gt ↔ a.place ≤ b.place := by
  rw [order_eq_compare_place h]
  exact compare_le_iff_le

lemma order_string_ne_gt_iff {s t : String} : (string s).order (string t) ≠ .gt ↔ s ≤ t :=
  compare_le_iff_le

/-- A string stands among the numbers or just above them. -/
lemma fst_place_string (s : String) :
    Kind.number.rank ≤ (ofLex (string s).place).1 ∧
      (ofLex (string s).place).1 ≤ Kind.string.rank := by
  rcases h : (string s).asNumber? with _ | x
  · rw [place_of_none h]
    exact ⟨Nat.le_succ _, Nat.le_refl _⟩
  · rw [place_of_some h]
    exact ⟨Nat.le_refl _, Nat.le_succ _⟩

/-- What stands between two strings and is none itself is a number. -/
lemma exists_number_of_between {s t : String} (hstring : a.kind ≠ .string)
    (hleft : (string t).place ≤ a.place) (hright : a.place ≤ (string s).place) :
    ∃ n, a = .number n := by
  rw [← kind_eq_number_iff]
  by_contra hnumber
  rw [place_of_none (asNumber?_eq_none hstring hnumber)] at hleft hright
  have hlower : Kind.number.rank ≤ a.kind.rank :=
    (fst_place_string t).1.trans (Prod.Lex.monotone_fst _ _ hleft)
  have hupper : a.kind.rank ≤ Kind.string.rank :=
    (Prod.Lex.monotone_fst _ _ hright).trans (fst_place_string s).2
  cases hkind : a.kind <;> simp_all [Kind.rank]

end Json

/-- The number stands between two strings against their order: the later one spells a number that is
no greater, and the earlier one a number that is no less, or none at all. -/
def Number.Reverses (n : Number) (s t : String) : Prop :=
  s < t ∧ (∃ y, (Json.string t).asNumber? = some y ∧ y.order n.extended ≠ .gt) ∧
    ∀ x, (Json.string s).asNumber? = some x → n.extended.order x ≠ .gt

namespace Json

lemma place_number (n : Number) :
    (number n).place = toLex (Kind.number.rank, toLex n.extended.key) := rfl

lemma place_string_le_iff {n : Number} {t : String} : (string t).place ≤ (number n).place ↔
    ∃ y, (string t).asNumber? = some y ∧ y.order n.extended ≠ .gt := by
  rw [place_number]
  rcases h : (string t).asNumber? with _ | y
  · rw [place_of_none h, Prod.Lex.toLex_le_toLex]
    simp [kind, Kind.rank]
  · rw [place_of_some h, Prod.Lex.toLex_le_toLex]
    simpa using Extended.order_ne_gt_iff.symm

lemma place_number_le_iff {n : Number} {s : String} : (number n).place ≤ (string s).place ↔
    ∀ x, (string s).asNumber? = some x → n.extended.order x ≠ .gt := by
  rw [place_number]
  rcases h : (string s).asNumber? with _ | x
  · rw [place_of_none h, Prod.Lex.toLex_le_toLex]
    simp [kind, Kind.rank]
  · rw [place_of_some h, Prod.Lex.toLex_le_toLex]
    simpa using Extended.order_ne_gt_iff.symm

lemma reverses_iff {n : Number} {s t : String} : n.Reverses s t ↔
    s < t ∧ (string t).order (number n) ≠ .gt ∧ (number n).order (string s) ≠ .gt := by
  rw [Number.Reverses, ← place_string_le_iff, ← place_number_le_iff,
    order_ne_gt_iff (by simp [kind]), order_ne_gt_iff (by simp [kind])]

/-- What is ordered behind the later one of two strings and before the earlier one is a number. -/
lemma eq_or_reverses {s t : String} (hstring : a.kind ≠ .string) (hst : s ≤ t)
    (hleft : (string t).order a ≠ .gt) (hright : a.order (string s) ≠ .gt) :
    s = t ∨ ∃ n, a = number n ∧ n.Reverses s t := by
  rcases hst.eq_or_lt with rfl | hlt
  · exact Or.inl rfl
  · have hbelow := (order_ne_gt_iff fun _ => hstring).1 hleft
    have habove := (order_ne_gt_iff fun h => absurd h hstring).1 hright
    obtain ⟨n, rfl⟩ := exists_number_of_between hstring hbelow habove
    exact Or.inr ⟨n, rfl, reverses_iff.2 ⟨hlt, hleft, hright⟩⟩

/-- Three values that follow one another in a circle, the first two of them strings, follow one
another the other way round as well, unless the third one is a number that stands between the two
against their order. -/
lemma turned_or_reverses {values : Set Json} (ha : a ∈ values) (hb : b ∈ values) (hc : c ∈ values)
    (hstrings : a.kind = .string ∧ b.kind = .string) (hab : a.order b ≠ .gt)
    (hbc : b.order c ≠ .gt) (hca : c.order a ≠ .gt) :
    (b.order a ≠ .gt ∧ c.order b ≠ .gt ∧ a.order c ≠ .gt) ∨
      ∃ s t n, string s ∈ values ∧ string t ∈ values ∧ number n ∈ values ∧ n.Reverses s t := by
  obtain ⟨s, rfl⟩ := kind_eq_string_iff.1 hstrings.1
  obtain ⟨t, rfl⟩ := kind_eq_string_iff.1 hstrings.2
  have hst := order_string_ne_gt_iff.1 hab
  by_cases hstring : c.kind = .string
  · obtain ⟨u, rfl⟩ := kind_eq_string_iff.1 hstring
    have htu := order_string_ne_gt_iff.1 hbc
    have hus := order_string_ne_gt_iff.1 hca
    refine Or.inl ⟨?_, ?_, ?_⟩ <;> rw [order_string_ne_gt_iff]
    · exact htu.trans hus
    · exact hus.trans hst
    · exact hst.trans htu
  · obtain rfl | ⟨n, rfl, hn⟩ := eq_or_reverses hstring hst hbc hca
    · exact Or.inl ⟨hab, hca, hbc⟩
    · exact Or.inr ⟨s, t, n, ha, hb, hc, hn⟩

/-- If a pair is out of order although it is in order by way of a third value, then two of the three
are strings, and the other one is a number that stands between them against their order. -/
lemma exists_reverses_of_gt {values : Set Json} (ha : a ∈ values) (hb : b ∈ values)
    (hc : c ∈ values) (hab : a.order b ≠ .gt) (hbc : b.order c ≠ .gt) (hac : a.order c = .gt) :
    ∃ s t n, string s ∈ values ∧ string t ∈ values ∧ number n ∈ values ∧ n.Reverses s t := by
  have hca : c.order a ≠ .gt := by
    rw [order_swap, hac]
    exact nofun
  -- the three follow one another in a circle, so it does not matter which two are the strings
  by_cases hstringab : a.kind = .string ∧ b.kind = .string
  · exact (turned_or_reverses ha hb hc hstringab hab hbc hca).resolve_left
      fun hturned => absurd hac hturned.2.2
  by_cases hstringbc : b.kind = .string ∧ c.kind = .string
  · exact (turned_or_reverses hb hc ha hstringbc hbc hca hab).resolve_left
      fun hturned => absurd hac hturned.2.1
  by_cases hstringca : c.kind = .string ∧ a.kind = .string
  · exact (turned_or_reverses hc ha hb hstringca hca hab hbc).resolve_left
      fun hturned => absurd hac hturned.1
  -- no two of them are strings, so the places decide everywhere
  · rw [order_ne_gt_iff (not_and.1 hstringab)] at hab
    rw [order_ne_gt_iff (not_and.1 hstringbc)] at hbc
    have hle := (order_ne_gt_iff fun ha hc => hstringca ⟨hc, ha⟩).2 (hab.trans hbc)
    exact absurd hac hle

/-- **The order of values and its limit.**  Every value is equal to itself, and turning a pair
around turns the answer around.  On a set of values the order is transitive exactly if no number of
the set stands between two of its strings against their order. -/
theorem order_transitive_iff (values : Set Json) :
    (∀ a : Json, a.order a = .eq) ∧ (∀ a b : Json, b.order a = (a.order b).swap) ∧
      ((∀ a ∈ values, ∀ b ∈ values, ∀ c ∈ values,
          a.order b ≠ .gt → b.order c ≠ .gt → a.order c ≠ .gt) ↔
        ∀ s t n, string s ∈ values → string t ∈ values → number n ∈ values → ¬n.Reverses s t) := by
  refine ⟨order_self, order_swap, fun htrans s t n hs ht hn hreverses => ?_,
    fun hnone a ha b hb c hc hab hbc hac => ?_⟩
  · obtain ⟨hlt, hleft, hright⟩ := reverses_iff.1 hreverses
    have hts := htrans _ ht _ hn _ hs hleft hright
    exact absurd hlt (order_string_ne_gt_iff.1 hts).not_gt
  · obtain ⟨s, t, n, hs, ht, hn, hreverses⟩ := exists_reverses_of_gt ha hb hc hab hbc hac
    exact hnone s t n hs ht hn hreverses

/-- As a string `10` comes before `9`, and `9` is the number of that value, but `10` as a number is
greater. -/
theorem order_not_transitive :
    (string "10").order (string "9") ≠ .gt ∧
      (string "9").order (number (.integer ⟨9, by decide⟩)) ≠ .gt ∧
      (string "10").order (number (.integer ⟨9, by decide⟩)) = .gt := by
  refine ⟨by decide, by decide +kernel, by decide +kernel⟩

end Json

end PathQuery
