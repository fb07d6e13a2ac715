/-
# The comments of properties

The title and the description of a property are the only texts of a configuration that are
written without quotes. They stand in a comment, which a reader takes to end at the first
`*/`. No line of the comment but the last has one: what a line begins with ends with a
blank, so that nothing in the line can complete it, and in the line itself a backslash
stands between the two characters. Nothing else is lost but blanks at the end of lines.

Key definitions: `afterComment`, `skipComment`, `IsGuarded`, `IsShownAs`, `shownLines`,
`IsComment`.
Key theorems: `suffix_of_afterComment`, `isGuarded_guardComment`, `commentLines_eq`,
`afterComment_unlines`, `isComment_docLines`.
-/
import IdentityTypes.Proofs.TypeScript.Lines

namespace IdentityTypes

/-! ### Lines of a text -/

namespace Text

theorem linesFrom_eq_nil : ∀ {cs current : List Char},
    linesFrom current cs = [] ↔ current = [] ∧ cs = []
  | [], current => by simp [linesFrom]
  | c :: cs, current => by
    by_cases hc : c = '\n'
    · simp [hc, linesFrom]
    · rw [linesFrom.eq_3 _ _ _ hc, linesFrom_eq_nil]
      simp

/-- Only the empty text has no lines. -/
theorem linesOf_eq_nil {s : String} : linesOf s = [] ↔ s = "" := by
  simp [linesOf, linesFrom_eq_nil]

end Text

namespace TypeScript

open Text

/-! ### Where a comment ends -/

/-- What follows a comment, within which the text begins. The comment goes up to the
first `*/`. -/
def afterComment : List Char → Option (List Char)
  | '*' :: '/' :: cs => some cs
  | _ :: cs => afterComment cs
  | [] => none

/-- What follows the comment that a text begins with. -/
def skipComment : List Char → Option (List Char)
  | '/' :: '*' :: cs => afterComment cs
  | _ => none

/-- Every other end comes later. -/
theorem suffix_of_afterComment {cs r : List Char} (h : afterComment cs = some r) :
    ∀ {u v : List Char}, cs = u ++ '*' :: '/' :: v → v <:+ r := by
  fun_induction afterComment cs with
  | case1 cs =>
    obtain rfl : cs = r := Option.some.inj h
    rintro (_ | ⟨c, _ | ⟨d, u⟩⟩) v huv
    · simp only [List.nil_append, List.cons.injEq, true_and] at huv
      exact huv.symm ▸ List.suffix_rfl
    · simp at huv
    · simp only [List.cons_append, List.cons.injEq] at huv
      exact ⟨u ++ ['*', '/'], by simp [huv]⟩
  | case2 c cs hne ih =>
    rintro (_ | ⟨d, u⟩) v huv
    · obtain ⟨rfl, rfl⟩ := List.cons.inj huv
      exact (hne v rfl rfl).elim
    · exact ih h (List.cons.inj huv).2
  | case3 => cases h

/-- One more character makes no end of a comment, except a star before a slash. -/
theorem infix_cons_iff {c : Char} {cs : List Char} (hne : ∀ r, c = '*' → cs = '/' :: r → False) :
    "*/".toList <:+: c :: cs ↔ "*/".toList <:+: cs := by
  rw [List.infix_cons_iff]
  refine or_iff_right ?_
  rintro ⟨r, hr⟩
  obtain ⟨rfl, rfl⟩ := List.cons.inj hr
  exact hne r rfl rfl

/-- A line without an end of the comment is skipped with its line feed. -/
theorem afterComment_lineFeed {l : List Char} (h : afterComment l = none) (rest : List Char) :
    afterComment (l ++ '\n' :: rest) = afterComment rest := by
  fun_induction afterComment l with
  | case1 cs => cases h
  | case2 c cs hne ih =>
    have hskip : afterComment (c :: (cs ++ '\n' :: rest)) = afterComment (cs ++ '\n' :: rest) := by
      refine afterComment.eq_2 _ _ fun r hc hr => ?_
      cases cs with
      | nil => exact absurd (List.cons.inj hr).1 (by decide)
      | cons d ds => exact hne ds hc (congrArg (· :: ds) (List.cons.inj hr).1)
    rw [List.cons_append, hskip, ih h]
  | case3 => rfl

/-- Lines without an end of the comment are skipped. -/
theorem afterComment_unlines (rest : List Char) : ∀ {ls : List String},
    (∀ l ∈ ls, afterComment l.toList = none) →
      afterComment ((unlines ls).toList ++ rest) = afterComment rest
  | [], _ => rfl
  | l :: ls, h => by
    obtain ⟨hl, hls⟩ := List.forall_mem_cons.mp h
    have htext : (unlines (l :: ls)).toList = l.toList ++ '\n' :: (unlines ls).toList := by
      simp [unlines]
    rw [htext, List.append_assoc, List.cons_append, afterComment_lineFeed hl,
      afterComment_unlines rest hls]

/-! ### Lines are guarded -/

/-- The second text is the first one with every `*/` in it broken. -/
inductive IsGuarded : List Char → List Char → Prop
  | last {cs : List Char} : ¬ "*/".toList <:+: cs → IsGuarded cs cs
  | broken {cs ds shown : List Char} : ¬ "*/".toList <:+: cs → IsGuarded ds shown →
    IsGuarded (cs ++ ("*/".toList ++ ds)) (cs ++ ("*\\/".toList ++ shown))

/-- A guarded text keeps the character that it begins with. -/
theorem head?_guardComment (cs : List Char) : (guardComment cs).head? = cs.head? := by
  fun_cases guardComment cs <;> rfl

theorem IsGuarded.cons {c : Char} {cs shown : List Char}
    (hne : ∀ r, c = '*' → cs = '/' :: r → False) (h : IsGuarded cs shown) :
    IsGuarded (c :: cs) (c :: shown) := by
  cases h with
  | last hcs => exact .last (by rwa [infix_cons_iff hne])
  | @broken before ds shown hbefore hds =>
    have hne' : ∀ r, c = '*' → before = '/' :: r → False := by
      rintro r hc rfl
      exact hne _ hc rfl
    exact .broken (by rwa [infix_cons_iff hne']) hds

theorem isGuarded_guardComment (cs : List Char) : IsGuarded cs (guardComment cs) := by
  fun_induction guardComment cs with
  | case1 r ih => exact @IsGuarded.broken [] r _ (by decide) ih
  | case2 c r hne ih => exact ih.cons hne
  | case3 => exact .last (by decide)

/-- No comment ends in a guarded text. -/
theorem afterComment_guardComment (cs : List Char) : afterComment (guardComment cs) = none := by
  fun_induction guardComment cs with
  | case1 r ih => exact ih
  | case2 c r hne ih =>
    rw [afterComment.eq_2 _ _ ?_, ih]
    intro ds hc hr
    have hhead := head?_guardComment r
    rw [hr] at hhead
    obtain ⟨es, rfl⟩ := List.head?_eq_some_iff.mp hhead.symm
    exact hne es hc rfl
  | case3 => rfl

theorem afterComment_commentLine (line : List Char) :
    afterComment (commentLine line).toList = none := by
  unfold commentLine
  split
  · rfl
  · have hprefix : ∀ cs, afterComment ("   * ".toList ++ cs) = afterComment cs := fun cs => rfl
    rw [String.toList_append, hprefix, String.toList_ofList, afterComment_guardComment]

/-- A line of a comment shows a line of a text: blanks at the end are dropped, every `*/` is
broken, and a star stands in front. -/
def IsShownAs (line : List Char) (written : String) : Prop :=
  ∃ kept blanks shown, line = kept ++ blanks ∧ (∀ c ∈ blanks, isBlank c = true) ∧
    (∀ c, kept.getLast? = some c → isBlank c = false) ∧ IsGuarded kept shown ∧
    written.toList = if shown = [] then "   *".toList else "   * ".toList ++ shown

theorem isShownAs_commentLine (line : List Char) : IsShownAs line (commentLine line) := by
  refine ⟨trimEnd line, (line.reverse.takeWhile isBlank).reverse, _, ?_, ?_,
    fun c => getLast?_trimEnd, isGuarded_guardComment _, ?_⟩
  · rw [trimEnd, ← List.reverse_append, List.takeWhile_append_dropWhile, List.reverse_reverse]
  · exact fun c hc => List.all_eq_true.mp List.all_takeWhile c (List.mem_reverse.mp hc)
  · unfold commentLine
    split
    · rename_i h
      rw [if_pos h]
    · rename_i h
      rw [if_neg h, String.toList_append]
      exact congrArg ("   * ".toList ++ ·) String.toList_ofList

/-! ### What a comment shows -/

/-- The lines of a title and of a description, with an empty one between them if there are
lines of both. -/
def shownLines (title description : String) : List (List Char) :=
  linesOf title ++
    ((if linesOf title = [] ∨ linesOf description = [] then [] else [[]]) ++ linesOf description)

theorem shownLines_eq_nil {title description : String} :
    shownLines title description = [] ↔ linesOf title = [] ∧ linesOf description = [] := by
  unfold shownLines
  split_ifs <;> simp_all

theorem commentLines_eq (p : Property) : commentLines p = shownLines p.title p.description := by
  unfold commentLines shownLines
  by_cases hd : p.description = ""
  · simp [hd, linesOf_eq_nil.mpr]
  · have hlines : linesOf p.description ≠ [] := fun h => hd (linesOf_eq_nil.mp h)
    cases ht : linesOf p.title <;> simp [hd, hlines]

/-- There is no comment if there is nothing to show, else a line for each line that is shown,
between the first and the last one. -/
theorem docLines_eq (p : Property) : docLines p =
    if shownLines p.title p.description = [] then []
    else "  /**" :: ((shownLines p.title p.description).map commentLine ++ ["   */"]) := by
  unfold docLines
  rw [commentLines_eq]
  cases shownLines p.title p.description <;> rfl

/-- The text is a comment that shows the lines: it has a line for each of them between its
first and its last line, it ends where it seems to, and a reader takes it for a comment as
a whole. -/
structure IsComment (lines : List (List Char)) (text : String) : Prop where
  shown : ∃ written, List.Forall₂ IsShownAs lines written ∧
    text = unlines ("  /**" :: (written ++ ["   */"])) ∧
    linesOf text = ("  /**" :: (written ++ ["   */"])).map String.toList
  once : ∃ body, ∀ before after, text.toList = before ++ ("*/".toList ++ after) ↔
    before = body ∧ after = "\n".toList
  skipped : ∀ rest, skipComment (text.toList.drop "  ".length ++ rest) = some ("\n".toList ++ rest)

theorem unlines_append (ls ls' : List String) : unlines (ls ++ ls') = unlines ls ++ unlines ls' := by
  simp [unlines]

/-- The lines of a comment after its first one are skipped up to the last, whatever texts they
show. -/
theorem afterComment_commentLines (lines : List (List Char)) (rest : List Char) :
    afterComment ((unlines (lines.map commentLine ++ ["   */"])).toList ++ rest) =
      some ("\n".toList ++ rest) := by
  have hlines : ∀ l ∈ lines.map commentLine, afterComment l.toList = none :=
    List.forall_mem_map.mpr fun l _ => afterComment_commentLine l
  rw [unlines_append, String.toList_append, List.append_assoc, afterComment_unlines _ hlines]
  rfl

/-- A text that ends right behind the first end of a comment has no other end of one. -/
theorem end_iff_of_afterComment {text body : List Char} (htext : text = body ++ "*/\n".toList)
    (h : afterComment text = some "\n".toList) {before after : List Char} :
    text = before ++ ("*/".toList ++ after) ↔ before = body ∧ after = "\n".toList := by
  constructor
  · intro hend
    have hsuffix : after <:+ ['\n'] := suffix_of_afterComment h hend
    rcases List.suffix_cons_iff.mp hsuffix with hafter | hafter
    · subst hafter
      exact ⟨List.append_cancel_right (hend.symm.trans htext), rfl⟩
    · have hlast : (before ++ "*/".toList).getLast? = (body ++ "*/\n".toList).getLast? := by
        rw [← htext, hend, List.suffix_nil.mp hafter, List.append_nil]
      simp at hlast
  · rintro ⟨rfl, rfl⟩
    exact htext

/-- The lines of a comment make up a comment, whatever lines it shows. -/
theorem isComment_unlines {lines : List (List Char)}
    (hlines : ∀ l ∈ "  /**" :: (lines.map commentLine ++ ["   */"]), IsLine l) :
    IsComment lines (unlines ("  /**" :: (lines.map commentLine ++ ["   */"]))) := by
  have hfirst : (unlines ("  /**" :: (lines.map commentLine ++ ["   */"]))).toList =
      "  /**\n".toList ++ (unlines (lines.map commentLine ++ ["   */"])).toList := by
    simp [unlines]
  have hlast : (unlines (lines.map commentLine ++ ["   */"])).toList =
      (unlines (lines.map commentLine)).toList ++ ("   ".toList ++ "*/\n".toList) := by
    rw [unlines_append, String.toList_append]
    rfl
  refine ⟨⟨lines.map commentLine, ?_, rfl, linesOf_unlines hlines⟩, ?_, fun rest => ?_⟩
  · exact List.forall₂_map_right_iff.mpr (List.forall₂_same.mpr fun l _ => isShownAs_commentLine l)
  · refine ⟨"  /**\n".toList ++ ((unlines (lines.map commentLine)).toList ++ "   ".toList),
      fun before after => end_iff_of_afterComment ?_ ?_⟩
    · simp only [hfirst, hlast, List.append_assoc]
    · have hafter := afterComment_commentLines lines []
      rw [List.append_nil] at hafter
      rw [hfirst]
      exact hafter
  · rw [hfirst]
    exact afterComment_commentLines lines rest

/-- **A comment cannot be closed early and shows its texts in full.** Whatever title and
description a property has, there is no comment if neither has a line; else the comment has
one line for each of their lines, and ends nowhere but in its last line. -/
theorem isComment_docLines (p : Property) :
    (unlines (docLines p) = "" ↔ linesOf p.title = [] ∧ linesOf p.description = []) ∧
      (unlines (docLines p) ≠ "" →
        IsComment (shownLines p.title p.description) (unlines (docLines p))) := by
  have hlines : ∀ l ∈ docLines p, IsLine l := fun l => isLine_of_mem_docLines
  rw [← shownLines_eq_nil]
  rw [docLines_eq] at hlines ⊢
  split_ifs at hlines ⊢ with hnil
  · exact ⟨iff_of_true rfl hnil, fun hne => absurd rfl hne⟩
  · refine ⟨iff_of_false (fun he => ?_) hnil, fun _ => isComment_unlines hlines⟩
    have hempty := congrArg String.toList he
    simp [unlines] at hempty

/-- A slash that begins a line finds no star before it, and one that follows a broken end none
either. -/
example : docLines ⟨"name", .single (.primitive .string), true, "a */ b \t", "/\n\n**//*/", none⟩ =
    ["  /**", "   * a *\\/ b", "   *", "   * /", "   *", "   * **\\//*\\/", "   */"] := by
  decide

end TypeScript

end IdentityTypes
