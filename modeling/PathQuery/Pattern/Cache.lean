/-
# A cache of patterns

Testing many nodes against one query meets the same patterns again and again.  A cache keeps the
expressions that have been made ready.  What it holds is always what would be made anew, so using it
cannot change an answer.
-/
import PathQuery.Pattern.Basic

namespace PathQuery.Pattern

/-- Strings with their expressions, made ready for matching. -/
structure Cache where
  entries : List (String × Option Marked)
  faithful : ∀ literal compiled, entries.lookup literal = some compiled →
    compile literal = .ok compiled

namespace Cache

/-- The cache without any expression. -/
def empty : Cache := ⟨[], by simp⟩

/-- The cache with one more expression. -/
def add (cache : Cache) (literal : String) (compiled : Option Marked)
    (right : compile literal = .ok compiled) : Cache where
  entries := (literal, compiled) :: cache.entries
  faithful other found held := by
    rw [List.lookup_cons] at held
    split at held
    · next same =>
      rw [beq_iff_eq] at same
      rw [same, right, Option.some.inj held]
    · exact cache.faithful other found held

/-- The expression of a string, from the cache if it is there, and the cache with it. -/
def compile (cache : Cache) (literal : String) : Except Regex.Error (Option Marked × Cache) :=
  match cache.entries.lookup literal with
  | some compiled => .ok (compiled, cache)
  | none =>
    match right : Pattern.compile literal with
    | .ok compiled => .ok (compiled, cache.add literal compiled right)
    | .error cause => .error cause

/-- Whatever the cache holds, it gives the expression that would be made anew. -/
theorem map_fst_compile (cache : Cache) (literal : String) :
    (cache.compile literal).map (·.1) = Pattern.compile literal := by
  unfold compile
  split
  · next compiled held => rw [cache.faithful literal compiled held]; rfl
  · split <;> simp_all [Except.map]

end Cache

end PathQuery.Pattern
