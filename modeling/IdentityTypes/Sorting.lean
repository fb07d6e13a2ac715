/-
# Sorting by a text

Lists are put into the ascending order of a text that goes with each element,
compared character by character. Elements with equal texts keep their order.

Key definitions: `insertOn`, `sortOn`.
-/

namespace IdentityTypes

variable {α : Type}

/-- Puts an element in front of the first one that is not smaller. -/
def insertOn (key : α → String) (a : α) : List α → List α
  | [] => [a]
  | b :: bs => if key a ≤ key b then a :: b :: bs else b :: insertOn key a bs

/-- The list in ascending order of `key`. -/
def sortOn (key : α → String) : List α → List α
  | [] => []
  | a :: as => insertOn key a (sortOn key as)

theorem insertOn_perm (key : α → String) (a : α) : ∀ as, (insertOn key a as).Perm (a :: as)
  | [] => .refl _
  | b :: bs => by
    unfold insertOn
    split
    · exact .refl _
    · exact ((insertOn_perm key a bs).cons b).trans (.swap a b bs)

/-- Sorting neither loses nor adds anything. -/
theorem sortOn_perm (key : α → String) : ∀ as, (sortOn key as).Perm as
  | [] => .refl _
  | a :: as => (insertOn_perm key a _).trans ((sortOn_perm key as).cons a)

example : sortOn (fun p : String × Nat => p.1) [("b", 1), ("a", 2), ("b", 3), ("B", 4)]
    = [("B", 4), ("a", 2), ("b", 1), ("b", 3)] := by decide

end IdentityTypes
