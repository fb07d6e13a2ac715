/-
# The ends of a text

What is left of a text that begins or ends with another.

Key definitions: `dropStart?`, `dropEnd?`.
Key theorems: `dropStart?_eq_some`, `dropEnd?_eq_some`.
-/

namespace IdentityTypes.Text

/-- The text after `first` in `s`, if `s` starts with it. -/
def dropStart? (first s : String) : Option String :=
  if first.toList.isPrefixOf s.toList then
    some (String.ofList (s.toList.drop first.toList.length))
  else none

theorem dropStart?_eq_some {first s rest : String} :
    dropStart? first s = some rest ↔ s = first ++ rest := by
  rw [dropStart?]
  constructor
  · intro h
    split at h
    · rename_i hstart
      obtain ⟨after, hafter⟩ := List.isPrefixOf_iff_prefix.mp hstart
      rw [← hafter, List.drop_left, Option.some.injEq] at h
      rw [← h, ← String.toList_inj, String.toList_append, String.toList_ofList, hafter]
    · cases h
  · rintro rfl
    rw [String.toList_append, if_pos (List.isPrefixOf_iff_prefix.mpr (List.prefix_append _ _)),
      List.drop_left, String.ofList_toList]

/-- The text before `last` in `s`, if `s` ends with it. -/
def dropEnd? (last s : String) : Option String :=
  if last.toList.isSuffixOf s.toList then
    some (String.ofList (s.toList.take (s.toList.length - last.toList.length)))
  else none

theorem dropEnd?_eq_some {last s front : String} :
    dropEnd? last s = some front ↔ s = front ++ last := by
  have htake : ∀ before : List Char,
      (before ++ last.toList).take ((before ++ last.toList).length - last.toList.length) =
        before := by
    intro before
    rw [List.length_append, Nat.add_sub_cancel, List.take_left]
  rw [dropEnd?]
  constructor
  · intro h
    split at h
    · rename_i hend
      obtain ⟨before, hbefore⟩ := List.isSuffixOf_iff_suffix.mp hend
      rw [← hbefore, htake, Option.some.injEq] at h
      rw [← h, ← String.toList_inj, String.toList_append, String.toList_ofList, hbefore]
    · cases h
  · rintro rfl
    rw [String.toList_append, if_pos (List.isSuffixOf_iff_suffix.mpr (List.suffix_append _ _)),
      htake, String.ofList_toList]

example : dropStart? "ab" "abc" = some "c" ∧ dropStart? "b" "abc" = none := by decide
example : dropEnd? "bc" "abc" = some "a" ∧ dropEnd? "b" "abc" = none := by decide

end IdentityTypes.Text
