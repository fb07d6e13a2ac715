/-
# What sorting makes of a list

A sorted list is in ascending order, and where the elements have different texts
nothing of the order they came in is left: two arrangements of the same elements
are sorted into the same list.

Elements with the same text keep their order, and so the sorted list is known
altogether (`SortsTo`).

Key definitions: `SortsTo`.
Key theorems: `sortOn_sorted`, `sortOn_eq_of_perm`, `sortOn_map`, `sortOn_sortsTo`,
`SortsTo.unique`, `SortsTo.perm`.
-/
import IdentityTypes.Sorting
import Mathlib.Data.String.Basic

namespace IdentityTypes

variable {α : Type} {key : α → String}

theorem mem_sortOn {a : α} {as : List α} : a ∈ sortOn key as ↔ a ∈ as :=
  (sortOn_perm key as).mem_iff

/-- An element put into an ascending list leaves it ascending. -/
theorem insertOn_sorted (a : α) : ∀ {bs : List α}, bs.Pairwise (fun x y => key x ≤ key y) →
    (insertOn key a bs).Pairwise fun x y => key x ≤ key y
  | [], _ => List.pairwise_singleton _ _
  | b :: bs, h => by
    obtain ⟨hb, hbs⟩ := List.pairwise_cons.mp h
    unfold insertOn
    split
    · rename_i hab
      refine List.pairwise_cons.mpr ⟨fun x hx => ?_, h⟩
      rcases List.mem_cons.mp hx with rfl | hx
      · exact hab
      · exact hab.trans (hb x hx)
    · rename_i hab
      refine List.pairwise_cons.mpr ⟨fun x hx => ?_, insertOn_sorted a hbs⟩
      rcases List.mem_cons.mp ((insertOn_perm key a bs).mem_iff.mp hx) with rfl | hx
      · exact (le_total (key b) (key x)).resolve_right hab
      · exact hb x hx

theorem sortOn_sorted : ∀ as : List α, (sortOn key as).Pairwise fun x y => key x ≤ key y
  | [] => List.Pairwise.nil
  | a :: as => insertOn_sorted a (sortOn_sorted as)

/-- The order of the elements before sorting does not show, if no two of them have
the same text. -/
theorem sortOn_eq_of_perm {as bs : List α} (h : as.Perm bs)
    (hkey : ∀ a ∈ as, ∀ b ∈ as, key a = key b → a = b) : sortOn key as = sortOn key bs := by
  refine List.Perm.eq_of_pairwise (fun a b ha hb hab hba => ?_) (sortOn_sorted as)
    (sortOn_sorted bs) ?_
  · exact hkey a (mem_sortOn.mp ha) b (h.mem_iff.mpr (mem_sortOn.mp hb)) (le_antisymm hab hba)
  · exact (sortOn_perm key as).trans (h.trans (sortOn_perm key bs).symm)

theorem insertOn_map (g : α → α) (hg : ∀ a, key (g a) = key a) (a : α) : ∀ as : List α,
    insertOn key (g a) (as.map g) = (insertOn key a as).map g
  | [] => rfl
  | b :: bs => by
    rw [List.map_cons, insertOn, insertOn, hg, hg, insertOn_map g hg a bs]
    split <;> rfl

/-- What leaves the texts alone may be done before sorting or afterwards. -/
theorem sortOn_map (g : α → α) (hg : ∀ a, key (g a) = key a) : ∀ as : List α,
    sortOn key (as.map g) = (sortOn key as).map g
  | [] => rfl
  | a :: as => by
    rw [List.map_cons, sortOn, sortOn, sortOn_map g hg as, insertOn_map g hg]

/-- The second list holds the elements of the first in ascending order, and those that
have the same text in the order in which they stand in the first. -/
structure SortsTo (key : α → String) (as bs : List α) : Prop where
  ascending : bs.Pairwise fun a b => key a ≤ key b
  stable : ∀ k, bs.filter (key · = k) = as.filter (key · = k)

/-- An element is put in front of all that have its text. -/
theorem filter_insertOn (k : String) (a : α) : ∀ bs : List α,
    (insertOn key a bs).filter (key · = k) = (a :: bs).filter (key · = k)
  | [] => rfl
  | b :: bs => by
    unfold insertOn
    by_cases hab : key a ≤ key b
    · rw [if_pos hab]
    · have hne : key a ≠ key b := fun he => hab he.le
      rw [if_neg hab, List.filter_cons, filter_insertOn k a bs]
      by_cases ha : key a = k
      · simp [ha ▸ hne.symm, ha]
      · simp [ha, List.filter_cons]

/-- Sorting puts a list into ascending order and is stable. -/
theorem sortOn_sortsTo : ∀ as : List α, SortsTo key as (sortOn key as)
  | [] => ⟨List.Pairwise.nil, fun _ => rfl⟩
  | a :: as => by
    refine ⟨sortOn_sorted _, fun k => ?_⟩
    rw [sortOn, filter_insertOn, List.filter_cons, List.filter_cons, (sortOn_sortsTo as).stable]

namespace SortsTo

variable {as bs : List α}

theorem mem_iff (h : SortsTo key as bs) {a : α} : a ∈ bs ↔ a ∈ as := by
  have hmem : ∀ l : List α, a ∈ l ↔ a ∈ l.filter (key · = key a) := by simp
  rw [hmem bs, hmem as, h.stable]

/-- There is one such list only. -/
theorem unique : ∀ {as bs cs : List α}, SortsTo key as bs → SortsTo key as cs → bs = cs
  | as, [], [], _, _ => rfl
  | as, [], c :: cs, hb, hc => nomatch hb.mem_iff.mpr (hc.mem_iff.mp List.mem_cons_self)
  | as, b :: bs, [], hb, hc => nomatch hc.mem_iff.mpr (hb.mem_iff.mp List.mem_cons_self)
  | as, b :: bs, c :: cs, hb, hc => by
    obtain ⟨hb₁, hbs⟩ := List.pairwise_cons.mp hb.ascending
    obtain ⟨hc₁, hcs⟩ := List.pairwise_cons.mp hc.ascending
    have hle : ∀ {x y : α} {xs ys : List α}, SortsTo key as (x :: xs) → SortsTo key as (y :: ys) →
        key x ≤ key y := by
      intro x y xs ys hx hy
      rcases List.mem_cons.mp (hx.mem_iff.mpr (hy.mem_iff.mp List.mem_cons_self)) with rfl | hmem
      · exact le_rfl
      · exact (List.pairwise_cons.mp hx.ascending).1 y hmem
    have hkey : key b = key c := le_antisymm (hle hb hc) (hle hc hb)
    have hfilter : ∀ k, (b :: bs).filter (key · = k) = (c :: cs).filter (key · = k) :=
      fun k => (hb.stable k).trans (hc.stable k).symm
    obtain rfl : b = c := by
      have h := hfilter (key b)
      rw [List.filter_cons_of_pos (by simp), List.filter_cons_of_pos (by simp [hkey])] at h
      exact (List.cons.inj h).1
    have htail : SortsTo key bs cs := by
      refine ⟨hcs, fun k => ?_⟩
      have h := hfilter k
      by_cases hk : key b = k
      · rw [List.filter_cons_of_pos (by simp [hk]), List.filter_cons_of_pos (by simp [hk])] at h
        exact (List.cons.inj h).2.symm
      · rw [List.filter_cons_of_neg (by simp [hk]), List.filter_cons_of_neg (by simp [hk])] at h
        exact h.symm
    rw [unique ⟨hbs, fun _ => rfl⟩ htail]

theorem eq_sortOn (h : SortsTo key as bs) : bs = sortOn key as := h.unique (sortOn_sortsTo as)

theorem perm (h : SortsTo key as bs) : bs.Perm as := h.eq_sortOn ▸ sortOn_perm key as

end SortsTo

/-- A list in ascending order is left as it is. -/
theorem sortOn_of_sorted {as : List α} (h : as.Pairwise fun a b => key a ≤ key b) :
    sortOn key as = as :=
  (SortsTo.eq_sortOn ⟨h, fun _ => rfl⟩).symm

end IdentityTypes
