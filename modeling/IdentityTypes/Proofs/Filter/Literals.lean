/-
# Reading the literals of a filter's text

A reader who knows that quotes in a literal have a backslash in front takes `\'` for a
quote, every other character for itself, and a quote without a backslash for the end of the
literal. From the literal of a text this reader gets the text back, and knows where the
literal ends, unless the text ends with a backslash: that backslash has none in front of its
own and takes the closing quote with it, so that the literal goes on into what follows. No
literal would do for such a text, as this reader never reads a text that ends with a
backslash (`not_endsInBackslash_of_endLiteral`).

So the pieces of a filter are read off its text exactly if none of the strings in it ends
with a backslash, whatever else they hold.

Key definitions: `endLiteral`, `readLiteral`, `readPieces`, `EndsInBackslash`,
`Filter.fields`.
Key theorems: `endLiteral_escape`, `readLiteral_iff`, `readPieces_textOf_iff`,
`Filter.quote_notMem_pieces`, `Filter.readPieces_text_iff`, `Filter.literals_readBack`.
-/
import IdentityTypes.Proofs.Filter.Injective
import IdentityTypes.Proofs.Filter.Writing

namespace IdentityTypes

/-! ### One literal -/

/-- What is left of a literal that is open, and what follows its end. -/
def endLiteral : List Char → Option (List Char × List Char)
  | [] => none
  | '\\' :: '\'' :: cs => (endLiteral cs).map fun p => ('\'' :: p.1, p.2)
  | '\'' :: cs => some ([], cs)
  | c :: cs => (endLiteral cs).map fun p => (c :: p.1, p.2)

/-- The contents of a literal, and what follows it. -/
def readLiteral : List Char → Option (List Char × List Char)
  | '\'' :: cs => endLiteral cs
  | _ => none

/-- The last character is a backslash. -/
def EndsInBackslash (s : List Char) : Prop := s.getLast? = some '\\'

instance (s : List Char) : Decidable (EndsInBackslash s) := inferInstanceAs (Decidable (_ = _))

section

variable {c : Char} {s t cs : List Char}

theorem endsInBackslash_cons (h : s ≠ []) : EndsInBackslash (c :: s) ↔ EndsInBackslash s := by
  obtain ⟨d, s, rfl⟩ := List.exists_cons_of_ne_nil h
  rw [EndsInBackslash, List.getLast?_cons_cons, EndsInBackslash]

/-- A character stands for itself, unless it is a quote or takes a quote with it. -/
theorem endLiteral_cons (hc : c ≠ '\'') (hcs : c = '\\' → cs.head? ≠ some '\'') :
    endLiteral (c :: cs) = (endLiteral cs).map fun p => (c :: p.1, p.2) :=
  endLiteral.eq_4 c cs (fun _ he hcs' => hcs he (hcs' ▸ rfl)) hc

/-- A literal does not begin with the quote that ends it, unless it is empty. -/
theorem head?_escape_append (hs : s ≠ []) :
    (s.flatMap Operand.escapeChar ++ cs).head? ≠ some '\'' := by
  obtain ⟨c, s, rfl⟩ := List.exists_cons_of_ne_nil hs
  by_cases hc : c = '\''
  · subst hc
    exact (by decide : some '\\' ≠ some '\'')
  · simp [Operand.escapeChar, hc]

/-- A text is got back from its literal if it does not end with a backslash. -/
theorem endLiteral_escape : ∀ {s : List Char}, ¬ EndsInBackslash s →
    endLiteral (s.flatMap Operand.escapeChar ++ '\'' :: t) = some (s, t)
  | [], _ => rfl
  | c :: s, h => by
    by_cases hs : s = []
    · subst hs
      by_cases hc : c = '\''
      · subst hc
        rfl
      · have hne : c ≠ '\\' := fun he => h (he ▸ rfl)
        rw [List.flatMap_singleton, Operand.escapeChar, if_neg hc, List.singleton_append,
          endLiteral_cons hc fun he => absurd he hne]
        rfl
    · have ih := endLiteral_escape (s := s) fun he => h ((endsInBackslash_cons hs).mpr he)
      rw [List.flatMap_cons, List.append_assoc]
      by_cases hc : c = '\''
      · subst hc
        show endLiteral ('\\' :: '\'' :: (s.flatMap Operand.escapeChar ++ '\'' :: t)) = _
        rw [endLiteral, ih]
        rfl
      · rw [Operand.escapeChar, if_neg hc, List.singleton_append,
          endLiteral_cons hc fun _ => head?_escape_append hs, ih]
        rfl

theorem endLiteral_inside {ps : List Piece} (h : ¬ EndsInBackslash s) :
    endLiteral (inside s ps) = some (s, textOf ps) :=
  endLiteral_escape h

/-- A literal is empty if a quote comes at once. -/
theorem eq_cons_of_endLiteral_nil (h : endLiteral cs = some ([], t)) : ∃ cs', cs = '\'' :: cs' := by
  fun_cases endLiteral cs with
  | case1 => cases h
  | case2 cs =>
    obtain ⟨p, -, he⟩ := Option.map_eq_some_iff.mp h
    cases he
  | case3 cs => exact ⟨cs, rfl⟩
  | case4 c cs hslash hquote =>
    rw [endLiteral.eq_4 c cs hslash hquote] at h
    obtain ⟨p, -, he⟩ := Option.map_eq_some_iff.mp h
    cases he

/-- No literal is read as a text that ends with a backslash. -/
theorem not_endsInBackslash_of_endLiteral (h : endLiteral cs = some (s, t)) :
    ¬ EndsInBackslash s := by
  fun_induction endLiteral cs generalizing s with
  | case1 => cases h
  | case2 cs ih =>
    obtain ⟨⟨s', t'⟩, hcs, he⟩ := Option.map_eq_some_iff.mp h
    cases he
    cases s' with
    | nil => exact (by decide : ¬ EndsInBackslash ['\''])
    | cons d s' => exact fun hend => ih hcs ((endsInBackslash_cons (List.cons_ne_nil _ _)).mp hend)
  | case3 cs =>
    cases h
    exact (by decide : ¬ EndsInBackslash [])
  | case4 c cs hslash hquote ih =>
    obtain ⟨⟨s', t'⟩, hcs, he⟩ := Option.map_eq_some_iff.mp h
    cases he
    cases s' with
    | nil =>
      -- the literal ends here, so a quote comes next, and it has no backslash in front
      obtain ⟨cs', rfl⟩ := eq_cons_of_endLiteral_nil hcs
      exact fun hend => hslash cs' (Option.some.inj hend) rfl
    | cons d s' => exact fun hend => ih hcs ((endsInBackslash_cons (List.cons_ne_nil _ _)).mp hend)

theorem length_lt_of_endLiteral (h : endLiteral cs = some (s, t)) : t.length < cs.length := by
  fun_induction endLiteral cs generalizing s with
  | case1 => cases h
  | case2 cs ih | case4 c cs hslash hquote ih =>
    obtain ⟨⟨s', t'⟩, hcs, he⟩ := Option.map_eq_some_iff.mp h
    cases he
    have hlt : t'.length < cs.length := ih hcs
    simp only [List.length_cons]
    omega
  | case3 cs =>
    cases h
    exact Nat.lt_succ_self _

end

/-- Of a text followed by more, the reader gets the text from its literal, and what follows,
exactly if the text does not end with a backslash. -/
theorem readLiteral_iff (s : String) (t : List Char) :
    readLiteral ((Operand.string s).text.toList ++ t) = some (s.toList, t) ↔
      ¬ EndsInBackslash s.toList := by
  have htext : readLiteral ((Operand.string s).text.toList ++ t) =
      endLiteral (s.toList.flatMap Operand.escapeChar ++ '\'' :: t) := by
    simp [Operand.text, readLiteral]
  rw [htext]
  exact ⟨not_endsInBackslash_of_endLiteral, endLiteral_escape⟩

/-! ### All literals of a text -/

/-- The pieces of a text, if every literal in it has an end. -/
def readPieces : List Char → Option (List Piece)
  | [] => some []
  | c :: cs =>
    if c = '\'' then
      match h : endLiteral cs with
      | none => none
      | some (s, rest) =>
        have := length_lt_of_endLiteral h
        (readPieces rest).map (.literal s :: ·)
    else (readPieces cs).map (.char c :: ·)
  termination_by cs => cs.length
  decreasing_by
  · simp only [List.length_cons]
    omega
  · exact Nat.lt_succ_self _

section

variable {c : Char} {s rest cs : List Char} {ps : List Piece}

theorem readPieces_char (hc : c ≠ '\'') :
    readPieces (c :: cs) = (readPieces cs).map (.char c :: ·) := by
  rw [readPieces, if_neg hc]

theorem readPieces_literal (h : endLiteral cs = some (s, rest)) :
    readPieces ('\'' :: cs) = (readPieces rest).map (.literal s :: ·) := by
  rw [readPieces, if_pos rfl]
  split
  · simp_all
  · simp_all

theorem endLiteral_of_readPieces (h : readPieces ('\'' :: cs) = some (.literal s :: ps)) :
    ∃ rest, endLiteral cs = some (s, rest) := by
  rw [readPieces, if_pos rfl] at h
  split at h
  · cases h
  · next s' rest hcs =>
    obtain ⟨qs, -, he⟩ := Option.map_eq_some_iff.mp h
    cases he
    exact ⟨rest, hcs⟩

/-- The pieces that have a quote only at the ends of literals and in them are read off their
text exactly if no literal among them ends with a backslash. -/
theorem readPieces_textOf_iff : ∀ {ps : List Piece}, .char '\'' ∉ ps →
    (readPieces (textOf ps) = some ps ↔ ∀ s, .literal s ∈ ps → ¬ EndsInBackslash s)
  | [], _ => by simp [readPieces]
  | .char c :: ps, h => by
    have hc : c ≠ '\'' := fun he => h (he ▸ List.mem_cons_self)
    have ih := readPieces_textOf_iff (List.not_mem_of_not_mem_cons h)
    simp [readPieces_char hc, ih]
  | .literal s :: ps, h => by
    have ih := readPieces_textOf_iff (List.not_mem_of_not_mem_cons h)
    rw [textOf_literal]
    constructor
    · intro hread
      obtain ⟨rest, hend⟩ := endLiteral_of_readPieces hread
      have hs := not_endsInBackslash_of_endLiteral hend
      rw [readPieces_literal (endLiteral_inside hs), Option.map_eq_some_iff] at hread
      obtain ⟨qs, hqs, he⟩ := hread
      cases he
      simpa [hs] using ih.mp hqs
    · intro hall
      rw [readPieces_literal (endLiteral_inside (hall s List.mem_cons_self)),
        ih.mpr fun t ht => hall t (List.mem_cons_of_mem _ ht)]
      rfl

end

/-! ### The texts of filters -/

namespace Json

theorem quote_notMem_digitsOf (n : Nat) : '\'' ∉ Decimal.digitsOf n :=
  fun h => absurd (isDigit_of_mem_digitsOf h) (by decide)

theorem quote_notMem_set {f : FloatFormat} {digits : List Char} {e : Int} (h : '\'' ∉ digits) :
    '\'' ∉ f.set digits e := by
  have htake : ∀ n, '\'' ∉ digits.take n := fun _ hm => h (List.mem_of_mem_take hm)
  have htail : '\'' ∉ digits.tail := fun hm => h (List.mem_of_mem_tail hm)
  have hdrop : ∀ n, '\'' ∉ digits.drop n := fun _ hm => h (List.mem_of_mem_drop hm)
  unfold FloatFormat.set
  split
  · split
    · simp [h, List.mem_replicate]
    · dsimp only
      split
      · simp [h, List.mem_replicate]
      · simp [htake, hdrop]
  · dsimp only
    split_ifs <;> simp [htake, htail, quote_notMem_digitsOf]

/-- No number has a quote in its text. -/
theorem quote_notMem_numberText (n : Number) : '\'' ∉ n.text.toList := by
  cases n with
  | integer n =>
    intro h
    rcases isDigit_of_mem_integer_text h with h | h
    · exact absurd h (by decide)
    · exact absurd h (by decide)
  | float x =>
    have hset : ∀ n e, '\'' ∉ floatFormat.set (Decimal.digitsOf n) e :=
      fun n _ => quote_notMem_set (quote_notMem_digitsOf n)
    have hsign : '\'' ∉ (if x.negative then ['-'] else []) := by
      cases x.negative <;> decide
    rw [Number.text, String.toList_ofList]
    by_cases hx : x.isZero = true
    · rw [floatText, if_pos hx, List.mem_append]
      exact fun h => h.elim hsign (by decide)
    · rw [floatText, if_neg hx, List.mem_append]
      exact fun h => h.elim hsign (hset _ _)

end Json

/-- The names of the fields in a filter. -/
def Filter.fields : Filter → List String
  | .compare _ field _ | .present field => [field]
  | .always | .never => []
  | .not f => f.fields
  | .and a b | .or a b => a.fields ++ b.fields

theorem quote_notMem_chars {s : String} : .char '\'' ∈ chars s ↔ '\'' ∈ s.toList := by
  simp [chars]

theorem Operand.quote_notMem_pieces (x : Operand) : .char '\'' ∉ x.pieces := by
  cases x with
  | null | string s => simp [pieces]
  | number n => exact mt quote_notMem_chars.mp (Json.quote_notMem_numberText n)
  | bool b => cases b <;> decide

theorem Comparison.quote_notMem_name (c : Comparison) : '\'' ∉ c.name.toList := by
  cases c <;> decide

namespace Filter

/-- Outside of its literals a filter has a quote only in the names of its fields. -/
theorem quote_notMem_pieces : ∀ {f : Filter}, (∀ s ∈ f.fields, '\'' ∉ s.toList) →
    .char '\'' ∉ f.pieces
  | .compare c field x, h => by
    have hfield := h field List.mem_cons_self
    simp [pieces, quote_notMem_chars, hfield, c.quote_notMem_name, x.quote_notMem_pieces]
  | .present field, h => by
    have hfield := h field List.mem_cons_self
    simp [pieces, quote_notMem_chars, hfield]
  | .always, _ | .never, _ => by decide
  | .not f, h => by
    have hf := quote_notMem_pieces (f := f) h
    simp [pieces, quote_notMem_chars, hf]
  | .and a b, h | .or a b, h => by
    obtain ⟨ha, hb⟩ := List.forall_mem_append.mp h
    simp [pieces, inBrackets, quote_notMem_chars, quote_notMem_pieces ha, quote_notMem_pieces hb]

/-- The literals of a filter are those of what is compared with. -/
theorem literal_mem_pieces {s : List Char} : ∀ {f : Filter},
    .literal s ∈ f.pieces ↔ ∃ x ∈ f.operands, .literal s ∈ x.pieces
  | .compare c field x => by simp [pieces, operands, chars]
  | .present _ | .always | .never => by simp [pieces, operands, chars]
  | .not f => by simp [pieces, operands, chars, literal_mem_pieces (f := f)]
  | .and a b | .or a b => by
    simp [pieces, operands, inBrackets, chars, literal_mem_pieces (f := a),
      literal_mem_pieces (f := b), or_and_right, exists_or]

end Filter

theorem Operand.literal_mem_pieces {s : List Char} {x : Operand} :
    .literal s ∈ x.pieces ↔ x = .string (String.ofList s) ∨ x = .null ∧ s = [] := by
  cases x with
  | null => simp [pieces]
  | string t =>
    rw [pieces, List.mem_singleton, Piece.literal.injEq]
    simp [eq_comm (a := t), String.ofList_eq]
  | number n => simp [pieces, chars]
  | bool b => simp [pieces, chars]

theorem Operand.forall_literal_iff {x : Operand} :
    (∀ s, .literal s ∈ x.pieces → ¬ EndsInBackslash s) ↔
      ∀ s, x = .string s → ¬ EndsInBackslash s.toList := by
  simp only [literal_mem_pieces]
  constructor
  · rintro h s rfl
    exact h s.toList (.inl (by rw [String.ofList_toList]))
  · rintro h s (rfl | ⟨-, rfl⟩)
    · simpa only [String.toList_ofList] using h _ rfl
    · decide

namespace Filter

/-- A filter is read off its text, piece by piece, exactly if no string in it ends with a
backslash. -/
theorem readPieces_text_iff {f : Filter} (h : ∀ s ∈ f.fields, '\'' ∉ s.toList) :
    readPieces f.text.toList = some f.pieces ↔
      ∀ s, .string s ∈ f.operands → ¬ EndsInBackslash s.toList := by
  rw [← textOf_pieces, readPieces_textOf_iff (quote_notMem_pieces h)]
  constructor
  · intro hall s hs
    exact Operand.forall_literal_iff.mp
      (fun t ht => hall t (literal_mem_pieces.mpr ⟨_, hs, ht⟩)) s rfl
  · intro hall s hs
    obtain ⟨x, hx, hs⟩ := literal_mem_pieces.mp hs
    exact Operand.forall_literal_iff.mpr (fun t ht => hall t (ht ▸ hx)) s hs

/-- **A string stays in its literal exactly if it does not end with a backslash.** The reader
then ends the literal at its last quote, whatever follows, and takes every piece of a filter
for what it is. -/
theorem literals_readBack (s : String) (t : List Char) :
    (readLiteral ((Operand.string s).text.toList ++ t) = some (s.toList, t) ↔
      ¬ EndsInBackslash s.toList) ∧
    ∀ f : Filter, (∀ field ∈ f.fields, '\'' ∉ field.toList) →
      (readPieces f.text.toList = some f.pieces ↔
        ∀ x, .string x ∈ f.operands → ¬ EndsInBackslash x.toList) :=
  ⟨readLiteral_iff s t, fun _ h => readPieces_text_iff h⟩

/-- A string with quotes and backslashes inside of it, also side by side. -/
def quotesInside : Filter := .or (.equals "sn" (.string "\\' or true or \\\\'")) (.present "sn")

theorem literals_readBack_inside :
    readLiteral ((Operand.string "\\'").text.toList ++ " and".toList) =
        some ("\\'".toList, " and".toList) ∧
      readPieces quotesInside.text.toList = some quotesInside.pieces := by
  obtain ⟨hliteral, hpieces⟩ := literals_readBack "\\'" " and".toList
  refine ⟨hliteral.mpr (by decide), (hpieces quotesInside (by decide)).mpr fun s hs => ?_⟩
  cases List.mem_singleton.mp hs
  decide

/-- With a backslash for one of two names, what the other name holds stands outside of all
literals. -/
theorem oneOf?_backslash_opens :
    (oneOf? "sn" [.string "\\", .string " or true or /sn sw "]).map text =
        some "(/sn eq '\\' or /sn eq ' or true or /sn sw ')" ∧
      readLiteral
          ((Operand.string "\\").text.toList ++ " or /sn eq ' or true or /sn sw ')".toList) =
        some ("' or /sn eq ".toList, " or true or /sn sw ')".toList) ∧
      readLiteral
          ((Operand.string "\\").text.toList ++ " or /sn eq ' or true or /sn sw ')".toList) ≠
        some ("\\".toList, " or /sn eq ' or true or /sn sw ')".toList) :=
  ⟨by decide, by decide, by decide⟩

end Filter

end IdentityTypes
