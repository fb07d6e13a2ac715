/-
# Words of ASCII names

A character of ASCII is one byte long, so that in an ASCII name the places that are
found by counting characters are those where bytes are cut. Every such name has
words, and they are its characters without the delimiters. The pieces are cut off
from the right; what stays on the left is the text up to the last place that is still
to be cut, which is what both inductions say.

Key theorems: `wordsOf_of_ascii`, `exists_typeName_of_ascii`, `exists_valueName_of_ascii`.
-/
import IdentityTypes.Name.Casing
import Mathlib.Data.List.Basic

namespace IdentityTypes.Name

open Text

/-- All characters are of ASCII. -/
def IsAscii (cs : List Char) : Prop := ∀ c ∈ cs, isAscii c = true

instance (cs : List Char) : Decidable (IsAscii cs) :=
  List.decidableBAll (fun c => isAscii c = true) cs

theorem utf8Size_of_ascii {c : Char} (h : isAscii c = true) : c.utf8Size = 1 := by
  have hlt : c.toNat < 128 := of_decide_eq_true h
  exact Char.utf8Size_eq_one_iff.mpr (UInt32.le_iff_toNat_le.mpr (Nat.le_of_lt_succ hlt))

/-- What is cut off an ASCII text are as many characters as bytes. -/
theorem cutAt_append : ∀ {cs : List Char}, IsAscii cs → ∀ ds : List Char,
    cutAt cs.length (cs ++ ds) = some (cs, ds)
  | [], _, _ => by rw [List.length_nil, List.nil_append, cutAt]
  | c :: cs, h, ds => by
    obtain ⟨hc, hcs⟩ := List.forall_mem_cons.mp h
    have hcut : cutAt cs.length (cs ++ ds) = some (cs, ds) := cutAt_append hcs ds
    simp [cutAt, utf8Size_of_ascii hc, hcut]

/-- What passes a test is the run at the beginning and what passes after it. -/
theorem takeWhile_append_filter {α : Type} (p : α → Bool) : ∀ l : List α,
    l.takeWhile p ++ (l.dropWhile p).filter p = l.filter p
  | [] => rfl
  | a :: l => by
    by_cases h : p a = true
    · rw [List.takeWhile_cons_of_pos h, List.dropWhile_cons_of_pos h, List.filter_cons_of_pos h,
        List.cons_append, takeWhile_append_filter p l]
    · rw [List.takeWhile_cons_of_neg h, List.dropWhile_cons_of_neg h, List.nil_append]

theorem dropLastByte_append {cs : List Char} {c : Char} (h : isAscii c = true) :
    dropLastByte (cs ++ [c]) = some cs := by
  simp [dropLastByte, utf8Size_of_ascii h]

/-- Pieces between delimiters: `cs` is the text in which no delimiter is looked for. -/
theorem cutOut_delimiterPlaces : ∀ {cs ds : List Char}, IsAscii (cs ++ ds) →
    ∃ pieces, cutOut (cs ++ ds) (delimiterPlaces cs.length ds) =
        some ((cs ++ ds.takeWhile (!isDelimiter ·)) :: pieces) ∧
      pieces.flatten = (ds.dropWhile (!isDelimiter ·)).filter (!isDelimiter ·)
  | cs, [], _ => ⟨[], by simp [delimiterPlaces, cutOut], rfl⟩
  | cs, d :: ds, h => by
    have hsplit : cs ++ d :: ds = (cs ++ [d]) ++ ds := by simp
    rw [hsplit] at h
    obtain ⟨pieces, hcut, hflat⟩ := cutOut_delimiterPlaces h
    rw [List.length_append, List.length_singleton] at hcut
    by_cases hd : isDelimiter d = true
    · have hascii : IsAscii (cs ++ [d]) := fun c hc => h c (List.mem_append_left _ hc)
      have hright := cutAt_append hascii (ds.takeWhile (!isDelimiter ·))
      have hleft : dropLastByte (cs ++ [d]) = some cs := dropLastByte_append (hascii d (by simp))
      rw [List.length_append, List.length_singleton] at hright
      refine ⟨ds.takeWhile (!isDelimiter ·) :: pieces, ?_, ?_⟩
      · rw [hsplit, delimiterPlaces, if_pos hd, cutOut, hcut]
        simp only [Option.bind_eq_bind, Option.bind_some, hright, hleft, Option.pure_def,
          List.takeWhile_cons, hd, Bool.not_true, Bool.false_eq_true, ite_false, List.append_nil]
      · rw [List.flatten_cons, hflat, takeWhile_append_filter,
          List.dropWhile_cons_of_neg (by simp [hd]), List.filter_cons_of_neg (by simp [hd])]
    · refine ⟨pieces, ?_, ?_⟩
      · rw [hsplit, delimiterPlaces, if_neg hd, hcut,
          List.takeWhile_cons_of_pos (by simpa using hd)]
        simp
      · rw [hflat, List.dropWhile_cons_of_pos (by simpa using hd)]

/-- Words of a piece: `cs` is the text in which no joint is looked for. -/
theorem cutBefore_jointPlaces : ∀ {cs ds : List Char}, IsAscii (cs ++ ds) →
    ∃ left pieces, cutBefore (cs ++ ds) (jointPlaces cs.length ds) = some ((cs ++ left) :: pieces) ∧
      left ++ pieces.flatten = ds
  | cs, [], _ => ⟨[], [], by simp [jointPlaces, cutBefore], rfl⟩
  | cs, [d], _ => ⟨[d], [], by simp [jointPlaces, cutBefore], rfl⟩
  | cs, d :: e :: ds, h => by
    have hsplit : cs ++ d :: e :: ds = (cs ++ [d]) ++ e :: ds := by simp
    rw [hsplit] at h
    obtain ⟨left, pieces, hcut, hflat⟩ := cutBefore_jointPlaces h
    rw [List.length_append, List.length_singleton] at hcut
    by_cases hj : isJoint d e ds.head? = true
    · have hascii : IsAscii (cs ++ [d]) := fun c hc => h c (List.mem_append_left _ hc)
      have hright := cutAt_append hascii left
      rw [List.length_append, List.length_singleton] at hright
      refine ⟨[d], left :: pieces, ?_, by simp [hflat]⟩
      rw [hsplit, jointPlaces, if_pos hj, cutBefore, hcut]
      simp only [Option.bind_eq_bind, Option.bind_some, hright, Option.pure_def]
    · refine ⟨d :: left, pieces, ?_, by simp [hflat]⟩
      rw [hsplit, jointPlaces, if_neg hj, hcut]
      simp

theorem splitJoints_of_ascii {cs : List Char} (h : IsAscii cs) :
    ∃ ws, splitJoints cs = some ws ∧ ws.flatten = cs := by
  obtain ⟨left, pieces, hcut, hflat⟩ := @cutBefore_jointPlaces [] cs h
  exact ⟨_, hcut, by simpa using hflat⟩

theorem mapM_splitJoints_of_ascii : ∀ {pieces : List (List Char)}, IsAscii pieces.flatten →
    ∃ words, pieces.mapM splitJoints = some words ∧ words.flatten.flatten = pieces.flatten
  | [], _ => ⟨[], rfl, rfl⟩
  | piece :: pieces, h => by
    rw [List.flatten_cons] at h
    obtain ⟨ws, hws, hflat⟩ := splitJoints_of_ascii fun c hc => h c (List.mem_append_left _ hc)
    obtain ⟨words, hwords, hflats⟩ :=
      mapM_splitJoints_of_ascii fun c hc => h c (List.mem_append_right _ hc)
    exact ⟨ws :: words, by simp [hws, hwords], by simp [hflat, hflats]⟩

/-- **Every ASCII name has words**, and they are its characters without the
delimiters. -/
theorem wordsOf_of_ascii {cs : List Char} (h : IsAscii cs) :
    ∃ ws, wordsOf cs = some ws ∧ ws.flatten = cs.filter (!isDelimiter ·) := by
  obtain ⟨pieces, hcut, hflat⟩ := @cutOut_delimiterPlaces [] cs h
  have hpieces : (cs.takeWhile (!isDelimiter ·) :: pieces).flatten =
      cs.filter (!isDelimiter ·) := by
    rw [List.flatten_cons, hflat, takeWhile_append_filter]
  have hascii : IsAscii (cs.takeWhile (!isDelimiter ·) :: pieces).flatten :=
    fun c hc => h c (List.mem_of_mem_filter (hpieces ▸ hc))
  obtain ⟨words, hwords, hsame⟩ := mapM_splitJoints_of_ascii hascii
  refine ⟨words.flatten.filter (! ·.isEmpty), ?_, ?_⟩
  · have hsplit : splitDelimiters cs = some (cs.takeWhile (!isDelimiter ·) :: pieces) := hcut
    rw [wordsOf, hsplit]
    simp only [Option.bind_eq_bind, Option.bind_some, hwords, Option.pure_def]
  · rw [← hpieces, ← hsame]
    exact List.flatten_filter_not_isEmpty

theorem exists_typeName_of_ascii {name : String} (h : IsAscii name.toList) :
    ∃ n, typeName name = some n := by
  obtain ⟨ws, hws, -⟩ := wordsOf_of_ascii h
  exact ⟨_, by rw [typeName, hws]; rfl⟩

theorem exists_valueName_of_ascii {name : String} (h : IsAscii name.toList) :
    ∃ n, valueName name = some n := by
  obtain ⟨ws, hws, -⟩ := wordsOf_of_ascii h
  exact ⟨_, by rw [valueName, hws]; rfl⟩

end IdentityTypes.Name
