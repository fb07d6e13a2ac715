/-
# A text is the text of one filter

Two filters with the same text are the same, whatever stands in the strings that
fields are compared with. The text shows its pieces (`textOf_injective`), and among
the pieces of a filter each string is one, so that only words, brackets and names of
fields are left to be read: a name ends at the next space, a word at the next space
or bracket, and what a filter does is known from its first character or from the
word after its first part.

Key definitions: `Filter.isPlain`, `Filter.pieces`, `Stops`, `Filter.IsReadable`.
Key theorems: `Filter.textOf_pieces`, `Filter.isReadable`, `Filter.spaced_pieces`,
`Filter.text_injective`.
-/
import IdentityTypes.Proofs.Filter.Pieces
import Mathlib.Data.String.Basic

namespace IdentityTypes

/-! ### Filters without null and fractions -/

/-- The operand is a string, a truth value or an integer. -/
def Operand.isPlain : Operand → Bool
  | .bool _ => true
  | .number (.integer _) => true
  | .string _ => true
  | _ => false

/-- The name of a field has no space and no quote. -/
def isFieldName (field : String) : Bool := field.toList.all fun c => c ≠ ' ' ∧ c ≠ '\''

/-- Everywhere in the filter fields have such names, and are compared with such
operands. -/
def Filter.isPlain : Filter → Bool
  | .compare _ field operand => isFieldName field && operand.isPlain
  | .present field => isFieldName field
  | .always => true
  | .never => true
  | .not f => f.isPlain
  | .and a b => a.isPlain && b.isPlain
  | .or a b => a.isPlain && b.isPlain

theorem isFieldName_iff {field : String} :
    isFieldName field = true ↔ ' ' ∉ field.toList ∧ '\'' ∉ field.toList := by
  simp only [isFieldName, List.all_eq_true, decide_eq_true_eq]
  constructor
  · intro h
    exact ⟨fun hmem => (h _ hmem).1 rfl, fun hmem => (h _ hmem).2 rfl⟩
  · rintro ⟨hs, hq⟩ c hc
    exact ⟨fun he => hs (he ▸ hc), fun he => hq (he ▸ hc)⟩

/-! ### The pieces of a filter -/

/-- The characters of a text as pieces. -/
def chars (s : String) : List Piece := s.toList.map .char

/-- The pieces of an operand. -/
def Operand.pieces : Operand → List Piece
  | .null => [.literal []]
  | .string s => [.literal s.toList]
  | operand => chars operand.text

/-- Pieces in brackets, with a word between them. -/
def inBrackets (w : String) (ps qs : List Piece) : List Piece :=
  .char '(' :: (ps ++ .char ' ' :: (chars w ++ .char ' ' :: (qs ++ [.char ')'])))

/-- The pieces of a filter. -/
def Filter.pieces : Filter → List Piece
  | .compare c field operand =>
    .char '/' :: (chars field ++ .char ' ' :: (chars c.name ++ .char ' ' :: operand.pieces))
  | .present field => .char '/' :: (chars field ++ .char ' ' :: chars "pr")
  | .always => chars "true"
  | .never => chars "false"
  | .not f => chars "!(" ++ (f.pieces ++ [.char ')'])
  | .and a b => inBrackets "and" a.pieces b.pieces
  | .or a b => inBrackets "or" a.pieces b.pieces

@[simp] theorem textOf_chars (s : String) : textOf (chars s) = s.toList := by
  simp [textOf, chars, List.flatMap_map, Piece.text]

theorem Operand.textOf_pieces (x : Operand) : textOf x.pieces = x.text.toList := by
  cases x with
  | null => rfl
  | string s => simp [pieces, text, textOf, Piece.text]
  | number n => exact textOf_chars _
  | bool b => exact textOf_chars _

/-- The pieces of a filter make its text. -/
theorem Filter.textOf_pieces (f : Filter) : textOf f.pieces = f.text.toList := by
  induction f with
  | compare c field operand => simp [pieces, text, kind, Kind.name, Operand.textOf_pieces]
  | present field => simp [pieces, text, kind, Kind.name]
  | always => exact textOf_chars _
  | never => exact textOf_chars _
  | not f ih => simp [pieces, text, kind, Kind.name, ih]
  | and a b iha ihb => simp [pieces, inBrackets, text, kind, Kind.name, iha, ihb]
  | or a b iha ihb => simp [pieces, inBrackets, text, kind, Kind.name, iha, ihb]

/-! ### Words -/

/-- What follows begins with a character of `stops`, if there is anything. -/
def Stops (stops : List Char) (ps : List Piece) : Prop :=
  ∀ p ∈ ps.head?, ∃ c ∈ stops, p = .char c

theorem stops_nil {stops : List Char} : Stops stops [] := by
  intro p hp
  cases hp

theorem stops_char {stops : List Char} {c : Char} {ps : List Piece} :
    Stops stops (.char c :: ps) ↔ c ∈ stops := by
  constructor
  · intro h
    obtain ⟨d, hd, he⟩ := h _ rfl
    cases he
    exact hd
  · intro h p hp
    cases hp
    exact ⟨c, h, rfl⟩

/-- That a word has none of some characters can be computed. -/
theorem forall_notMem_of_all {stops cs : List Char} (h : cs.all (!stops.contains ·) = true) :
    ∀ c ∈ cs, c ∉ stops := by
  intro c hc hstop
  have hnot := List.all_eq_true.mp h c hc
  rw [List.contains_iff_mem.mpr hstop] at hnot
  cases hnot

/-- Two words are the same if they stop at the same places. -/
theorem map_char_append_injective {stops : List Char} : ∀ {s t : List Char} {ps qs : List Piece},
    (∀ c ∈ s, c ∉ stops) → (∀ c ∈ t, c ∉ stops) → Stops stops ps → Stops stops qs →
    s.map Piece.char ++ ps = t.map Piece.char ++ qs → s = t ∧ ps = qs
  | [], [], _, _, _, _, _, _, h => ⟨rfl, h⟩
  | [], d :: t, ps, qs, _, ht, hps, _, h => by
    have h : ps = .char d :: (t.map Piece.char ++ qs) := h
    rw [h] at hps
    exact absurd (stops_char.mp hps) (ht d List.mem_cons_self)
  | c :: s, [], ps, qs, hs, _, _, hqs, h => by
    have h : .char c :: (s.map Piece.char ++ ps) = qs := h
    rw [← h] at hqs
    exact absurd (stops_char.mp hqs) (hs c List.mem_cons_self)
  | c :: s, d :: t, ps, qs, hs, ht, hps, hqs, h => by
    obtain ⟨hc, htail⟩ := List.cons.inj h
    rw [Piece.char.injEq] at hc
    obtain ⟨rfl, hr⟩ := map_char_append_injective (List.forall_mem_cons.mp hs).2
      (List.forall_mem_cons.mp ht).2 hps hqs htail
    exact ⟨congrArg (· :: s) hc, hr⟩

theorem chars_append_injective {stops : List Char} {s t : String} {ps qs : List Piece}
    (hs : ∀ c ∈ s.toList, c ∉ stops) (ht : ∀ c ∈ t.toList, c ∉ stops) (hps : Stops stops ps)
    (hqs : Stops stops qs) (h : chars s ++ ps = chars t ++ qs) : s = t ∧ ps = qs := by
  obtain ⟨he, hr⟩ := map_char_append_injective hs ht hps hqs h
  exact ⟨String.toList_inj.mp he, hr⟩

/-! ### Integers -/

theorem integer_text (n : Int) : (Json.Number.integer n).text.toList =
    if n < 0 then '-' :: Decimal.digitsOf n.natAbs else Decimal.digitsOf n.natAbs := by
  unfold Json.Number.text
  by_cases hn : n < 0
  · simp [hn]
  · simp [hn]

theorem isDigit_of_mem_digitsOf {n : Nat} {c : Char} (h : c ∈ Decimal.digitsOf n) :
    c.isDigit = true :=
  Nat.isDigit_of_mem_toDigits (by decide) (by decide) h

theorem digitsOf_injective {m n : Nat} (h : Decimal.digitsOf m = Decimal.digitsOf n) : m = n := by
  have := congrArg (fun ds => Nat.ofDigitChars 10 ds 0) h
  simpa only [Decimal.digitsOf, Nat.ofDigitChars_ten_toDigits] using this

/-- An integer is written with digits and perhaps a sign. -/
theorem isDigit_of_mem_integer_text {n : Int} {c : Char}
    (h : c ∈ (Json.Number.integer n).text.toList) : c = '-' ∨ c.isDigit = true := by
  rw [integer_text] at h
  by_cases hn : n < 0
  · rw [if_pos hn] at h
    rcases List.mem_cons.mp h with h | h
    · exact .inl h
    · exact .inr (isDigit_of_mem_digitsOf h)
  · rw [if_neg hn] at h
    exact .inr (isDigit_of_mem_digitsOf h)

theorem integer_text_injective {m n : Int}
    (h : (Json.Number.integer m).text = (Json.Number.integer n).text) : m = n := by
  have hminus : ∀ k, '-' ∉ Decimal.digitsOf k :=
    fun k hk => absurd (isDigit_of_mem_digitsOf hk) (by decide)
  have h := congrArg String.toList h
  rw [integer_text, integer_text] at h
  split_ifs at h with hm hn hn
  · have := digitsOf_injective (List.cons.inj h).2
    omega
  · exact absurd (h ▸ List.mem_cons_self) (hminus n.natAbs)
  · exact absurd (h ▸ List.mem_cons_self) (hminus m.natAbs)
  · have := digitsOf_injective h
    omega

/-! ### Operands -/

/-- What a part of a filter may be followed by. -/
def stops : List Char := [' ', ')']

namespace Operand

/-- The operand is written as a word. -/
def isWord : Operand → Bool
  | .bool _ => true
  | .number (.integer _) => true
  | _ => false

variable {x y : Operand} {ps qs : List Piece}

theorem isWord_or_eq_string (h : x.isPlain) : x.isWord ∨ ∃ s, x = .string s := by
  cases x with
  | null => cases h
  | string s => exact .inr ⟨s, rfl⟩
  | number n =>
    cases n with
    | float x => cases h
    | integer n => exact .inl rfl
  | bool b => exact .inl rfl

theorem pieces_of_isWord (h : x.isWord) : x.pieces = chars x.text := by
  cases x with
  | null => cases h
  | string s => cases h
  | number n => rfl
  | bool b => rfl

/-- No word has a space, a bracket or a quote. -/
theorem notMem_of_isWord (h : x.isWord) : ∀ c ∈ x.text.toList, c ∉ '\'' :: stops := by
  cases x with
  | null => cases h
  | string s => cases h
  | number n =>
    cases n with
    | float x => cases h
    | integer n =>
      intro c hc hstop
      rcases isDigit_of_mem_integer_text hc with rfl | hd
      · exact absurd hstop (by decide)
      · have hnot := List.all_eq_true.mp (show ('\'' :: stops).all (! ·.isDigit) by decide) c hstop
        rw [hd] at hnot
        cases hnot
  | bool b => cases b <;> exact forall_notMem_of_all (by decide)

theorem notMem_stops_of_isWord (h : x.isWord) : ∀ c ∈ x.text.toList, c ∉ stops :=
  fun c hc => List.not_mem_of_not_mem_cons (notMem_of_isWord h c hc)

theorem spaced_pieces (h : x.isPlain) : Spaced true x.pieces := by
  rcases isWord_or_eq_string h with h | ⟨s, rfl⟩
  · rw [pieces_of_isWord h]
    exact spaced_chars fun hq => notMem_of_isWord h _ hq List.mem_cons_self
  · exact ⟨rfl, trivial⟩

/-- A truth value has a letter that no integer has. -/
theorem bool_text_ne_integer_text (b : Bool) (n : Int) :
    (Operand.bool b).text ≠ (Json.Number.integer n).text := by
  intro h
  have he : 'e' ∈ (Json.Number.integer n).text.toList := by
    rw [← h]
    cases b <;> decide
  rcases isDigit_of_mem_integer_text he with he | he
  · exact absurd he (by decide)
  · exact absurd he (by decide)

theorem eq_of_text_eq (hx : x.isWord) (hy : y.isWord) (h : x.text = y.text) : x = y := by
  match x, y, hx, hy, h with
  | .bool b, .bool d, _, _, h =>
    cases b <;> cases d <;> first | rfl | exact absurd h (by decide)
  | .bool b, .number (.integer n), _, _, h => exact absurd h (bool_text_ne_integer_text b n)
  | .number (.integer m), .bool d, _, _, h => exact absurd h.symm (bool_text_ne_integer_text d m)
  | .number (.integer m), .number (.integer n), _, _, h => rw [integer_text_injective h]

theorem text_ne_nil_of_isWord (h : x.isWord) : x.text.toList ≠ [] := by
  match x, h with
  | .bool b, _ => cases b <;> decide
  | .number (.integer n), _ =>
    intro ht
    rw [show (Operand.number (.integer n)).text = (Json.Number.integer n).text from rfl,
      integer_text] at ht
    split_ifs at ht
    exact Nat.toDigits_ne_nil ht

/-- A string is not a word. -/
theorem string_pieces_ne {s : String} (hx : x.isWord) :
    (Operand.string s).pieces ++ ps ≠ x.pieces ++ qs := by
  obtain ⟨c, cs, hc⟩ := List.exists_cons_of_ne_nil (text_ne_nil_of_isWord hx)
  rw [pieces_of_isWord hx, chars, hc]
  exact fun h => nomatch (List.cons.inj h).1

theorem pieces_append_injective (hx : x.isPlain) (hy : y.isPlain) (hps : Stops stops ps)
    (hqs : Stops stops qs) (h : x.pieces ++ ps = y.pieces ++ qs) : x = y ∧ ps = qs := by
  rcases isWord_or_eq_string hx with hx | ⟨s, rfl⟩ <;>
    rcases isWord_or_eq_string hy with hy | ⟨t, rfl⟩
  · rw [pieces_of_isWord hx, pieces_of_isWord hy] at h
    obtain ⟨ht, hr⟩ := chars_append_injective (notMem_stops_of_isWord hx)
      (notMem_stops_of_isWord hy) hps hqs h
    exact ⟨eq_of_text_eq hx hy ht, hr⟩
  · exact absurd h.symm (string_pieces_ne hx)
  · exact absurd h (string_pieces_ne hy)
  · obtain ⟨hs, hr⟩ := List.cons.inj h
    rw [Piece.literal.injEq, String.toList_inj] at hs
    exact ⟨congrArg _ hs, hr⟩

end Operand

/-! ### Filters -/

theorem Comparison.notMem_stops (c : Comparison) : ∀ d ∈ c.name.toList, d ∉ stops := by
  cases c <;> exact forall_notMem_of_all (by decide)

theorem Comparison.name_injective {c d : Comparison} (h : c.name = d.name) : c = d := by
  cases c <;> cases d <;> first | rfl | exact absurd h (by decide)

theorem Comparison.name_ne_present (c : Comparison) : c.name ≠ "pr" := by
  cases c <;> decide

namespace Filter

variable {f g : Filter} {ps qs : List Piece}

/-- A field ends at the space after it. -/
theorem field_injective {field field' : String} (hf : isFieldName field) (hg : isFieldName field')
    (h : chars field ++ .char ' ' :: ps = chars field' ++ .char ' ' :: qs) :
    field = field' ∧ ps = qs := by
  have hstop : ∀ {s : String}, isFieldName s = true → ∀ c ∈ s.toList, c ∉ [' '] := by
    intro s hs c hc he
    rw [List.mem_singleton] at he
    exact (isFieldName_iff.mp hs).1 (he ▸ hc)
  obtain ⟨he, hr⟩ := chars_append_injective (hstop hf) (hstop hg)
    (stops_char.mpr List.mem_cons_self) (stops_char.mpr List.mem_cons_self) h
  exact ⟨he, (List.cons.inj hr).2⟩

/-- Where the pieces of the filter come first, the filter is known and so is what
follows. -/
def IsReadable (f : Filter) : Prop :=
  ∀ ⦃g : Filter⦄ ⦃ps qs : List Piece⦄, g.isPlain → Stops stops ps → Stops stops qs →
    f.pieces ++ ps = g.pieces ++ qs → f = g ∧ ps = qs

/-- In brackets, a filter is read up to the closing one. -/
theorem IsReadable.closed {b b' : Filter} (hb : b.IsReadable) (hb' : b'.isPlain)
    (h : b.pieces ++ .char ')' :: ps = b'.pieces ++ .char ')' :: qs) : b = b' ∧ ps = qs := by
  obtain ⟨he, hr⟩ := hb hb' (stops_char.mpr (by decide)) (stops_char.mpr (by decide)) h
  exact ⟨he, (List.cons.inj hr).2⟩

/-- Two filters in brackets are read one after the other, with the word between them. -/
theorem IsReadable.joined {a a' b b' : Filter} (ha : a.IsReadable) (ha' : a'.isPlain)
    (hb : b.IsReadable) (hb' : b'.isPlain) {w w' : String} (hw : ∀ c ∈ w.toList, c ∉ stops)
    (hw' : ∀ c ∈ w'.toList, c ∉ stops)
    (h : inBrackets w a.pieces b.pieces ++ ps = inBrackets w' a'.pieces b'.pieces ++ qs) :
    w = w' ∧ a = a' ∧ b = b' ∧ ps = qs := by
  have hspace : ' ' ∈ stops := by decide
  simp only [inBrackets, List.cons_append, List.append_assoc, List.nil_append] at h
  obtain ⟨rfl, h₁⟩ := ha ha' (stops_char.mpr hspace) (stops_char.mpr hspace) (List.cons.inj h).2
  obtain ⟨rfl, h₂⟩ := chars_append_injective hw hw' (stops_char.mpr hspace)
    (stops_char.mpr hspace) (List.cons.inj h₁).2
  obtain ⟨rfl, hr⟩ := hb.closed hb' (List.cons.inj h₂).2
  exact ⟨rfl, rfl, rfl, hr⟩

theorem isReadable_compare {c : Comparison} {field : String} {x : Operand}
    (hfield : isFieldName field) (hx : x.isPlain) : (compare c field x).IsReadable := by
  intro g ps qs hg hps hqs h
  cases g with
  | compare c' field' x' =>
    obtain ⟨hfield', hx'⟩ := Bool.and_eq_true_iff.mp hg
    simp only [pieces, List.cons_append, List.append_assoc] at h
    obtain ⟨rfl, h₁⟩ := field_injective hfield hfield' (List.cons.inj h).2
    obtain ⟨hc, h₂⟩ := chars_append_injective c.notMem_stops c'.notMem_stops
      (stops_char.mpr (by decide)) (stops_char.mpr (by decide)) h₁
    obtain ⟨rfl, hr⟩ := Operand.pieces_append_injective hx hx' hps hqs (List.cons.inj h₂).2
    rw [Comparison.name_injective hc]
    exact ⟨rfl, hr⟩
  | present field' =>
    simp only [pieces, List.cons_append, List.append_assoc] at h
    obtain ⟨-, h₁⟩ := field_injective hfield hg (List.cons.inj h).2
    obtain ⟨hc, -⟩ := chars_append_injective c.notMem_stops (forall_notMem_of_all (by decide))
      (stops_char.mpr (by decide)) hqs h₁
    exact absurd hc c.name_ne_present
  | _ => exact absurd h (by simp [pieces, inBrackets, chars])

theorem isReadable_present {field : String} (hfield : isFieldName field) :
    (present field).IsReadable := by
  intro g ps qs hg hps hqs h
  cases g with
  | present field' =>
    simp only [pieces, List.cons_append, List.append_assoc] at h
    obtain ⟨rfl, h₁⟩ := field_injective hfield hg (List.cons.inj h).2
    exact ⟨rfl, List.append_cancel_left h₁⟩
  | compare c' field' x' =>
    obtain ⟨hfield', -⟩ := Bool.and_eq_true_iff.mp hg
    simp only [pieces, List.cons_append, List.append_assoc] at h
    obtain ⟨-, h₁⟩ := field_injective hfield hfield' (List.cons.inj h).2
    obtain ⟨hc, -⟩ := chars_append_injective (forall_notMem_of_all (by decide)) c'.notMem_stops hps
      (stops_char.mpr (by decide)) h₁
    exact absurd hc.symm c'.name_ne_present
  | _ => exact absurd h (by simp [pieces, inBrackets, chars])

theorem isReadable_always : always.IsReadable := by
  intro g ps qs _ _ _ h
  cases g with
  | always => exact ⟨rfl, List.append_cancel_left h⟩
  | _ => exact absurd h (by simp [pieces, inBrackets, chars])

theorem isReadable_never : never.IsReadable := by
  intro g ps qs _ _ _ h
  cases g with
  | never => exact ⟨rfl, List.append_cancel_left h⟩
  | _ => exact absurd h (by simp [pieces, inBrackets, chars])

theorem isReadable_not (hf : f.IsReadable) : (not f).IsReadable := by
  intro g ps qs hg _ _ h
  cases g with
  | not g =>
    have hg : g.isPlain := hg
    simp only [pieces, List.append_assoc, List.singleton_append] at h
    obtain ⟨rfl, hr⟩ := hf.closed hg (List.append_cancel_left h)
    exact ⟨rfl, hr⟩
  | _ => exact absurd h (by simp [pieces, inBrackets, chars])

theorem notMem_stops_and : ∀ c ∈ "and".toList, c ∉ stops := forall_notMem_of_all (by decide)

theorem notMem_stops_or : ∀ c ∈ "or".toList, c ∉ stops := forall_notMem_of_all (by decide)

theorem isReadable_and {a b : Filter} (ha : a.IsReadable) (hb : b.IsReadable) :
    (and a b).IsReadable := by
  intro g ps qs hg _ _ h
  cases g with
  | and a' b' =>
    obtain ⟨ha', hb'⟩ := Bool.and_eq_true_iff.mp hg
    obtain ⟨-, rfl, rfl, hr⟩ := ha.joined ha' hb hb' notMem_stops_and notMem_stops_and h
    exact ⟨rfl, hr⟩
  | or a' b' =>
    obtain ⟨ha', hb'⟩ := Bool.and_eq_true_iff.mp hg
    obtain ⟨hw, -⟩ := ha.joined ha' hb hb' notMem_stops_and notMem_stops_or h
    exact absurd hw (by decide)
  | _ => exact absurd h (by simp [pieces, inBrackets, chars])

theorem isReadable_or {a b : Filter} (ha : a.IsReadable) (hb : b.IsReadable) :
    (or a b).IsReadable := by
  intro g ps qs hg _ _ h
  cases g with
  | or a' b' =>
    obtain ⟨ha', hb'⟩ := Bool.and_eq_true_iff.mp hg
    obtain ⟨-, rfl, rfl, hr⟩ := ha.joined ha' hb hb' notMem_stops_or notMem_stops_or h
    exact ⟨rfl, hr⟩
  | and a' b' =>
    obtain ⟨ha', hb'⟩ := Bool.and_eq_true_iff.mp hg
    obtain ⟨hw, -⟩ := ha.joined ha' hb hb' notMem_stops_or notMem_stops_and h
    exact absurd hw (by decide)
  | _ => exact absurd h (by simp [pieces, inBrackets, chars])

theorem isReadable (hf : f.isPlain) : f.IsReadable := by
  induction f with
  | compare c field x =>
    obtain ⟨hfield, hx⟩ := Bool.and_eq_true_iff.mp hf
    exact isReadable_compare hfield hx
  | present field => exact isReadable_present hf
  | always => exact isReadable_always
  | never => exact isReadable_never
  | not f ih => exact isReadable_not (ih hf)
  | and a b iha ihb =>
    obtain ⟨ha, hb⟩ := Bool.and_eq_true_iff.mp hf
    exact isReadable_and (iha ha) (ihb hb)
  | or a b iha ihb =>
    obtain ⟨ha, hb⟩ := Bool.and_eq_true_iff.mp hf
    exact isReadable_or (iha ha) (ihb hb)

/-! ### Literals in filters -/

theorem spaced_inBrackets {w : String} {ps qs : List Piece} (hw : '\'' ∉ w.toList)
    (hps : Spaced false ps) (hqs : Spaced false qs) : Spaced false (inBrackets w ps qs) := by
  have hclose : Spaced false [.char ')'] := ⟨by decide, trivial⟩
  have hlast : Spaced true (qs ++ [.char ')']) := (hqs.append hclose).of_false
  have hword : Spaced false (.char ' ' :: (chars w ++ .char ' ' :: (qs ++ [.char ')']))) :=
    ⟨by decide, spaced_chars_space hw hlast⟩
  exact ⟨by decide, hps.append hword⟩

/-- Literals stand after spaces only. -/
theorem spaced_pieces (hf : f.isPlain) : Spaced false f.pieces := by
  induction f with
  | compare c field x =>
    obtain ⟨hfield, hx⟩ := Bool.and_eq_true_iff.mp hf
    have hname : '\'' ∉ c.name.toList := by cases c <;> decide
    refine ⟨by decide, ?_⟩
    exact spaced_chars_space (isFieldName_iff.mp hfield).2
      (spaced_chars_space hname (Operand.spaced_pieces hx))
  | present field =>
    refine ⟨by decide, ?_⟩
    exact spaced_chars_space (isFieldName_iff.mp hf).2 (spaced_chars (by decide))
  | always => exact spaced_chars (by decide)
  | never => exact spaced_chars (by decide)
  | not f ih =>
    have hopen : Spaced false (chars "!(") := spaced_chars (by decide)
    have hclose : Spaced false [.char ')'] := ⟨by decide, trivial⟩
    exact hopen.append ((ih hf).append hclose)
  | and a b iha ihb =>
    obtain ⟨ha, hb⟩ := Bool.and_eq_true_iff.mp hf
    exact spaced_inBrackets (by decide) (iha ha) (ihb hb)
  | or a b iha ihb =>
    obtain ⟨ha, hb⟩ := Bool.and_eq_true_iff.mp hf
    exact spaced_inBrackets (by decide) (iha ha) (ihb hb)

/-- **The text of a filter determines the filter**, where names of fields have neither
spaces nor quotes and operands are strings, truth values or integers. -/
theorem text_injective (hf : f.isPlain) (hg : g.isPlain) (h : f.text = g.text) : f = g := by
  have htext : textOf f.pieces = textOf g.pieces := by
    rw [textOf_pieces, textOf_pieces, h]
  have hpieces : f.pieces = g.pieces :=
    textOf_injective (spaced_pieces hf) (spaced_pieces hg) htext
  refine (isReadable hf hg stops_nil stops_nil ?_).1
  rw [hpieces]

/-- The first string ends with a backslash, so that a literal could seem to go on up to
the quote in the second one. -/
def misleading : Filter := .and (.equals "a" (.string "x\\")) (.equals "b" (.string " or 'c"))

theorem text_injective_misleading :
    misleading.text = "(/a eq 'x\\' and /b eq ' or \\'c')" ∧
      allOf? [.equals "a" (.string "x\\"), .equals "b" (.string " or 'c")] = some misleading :=
  ⟨by decide, congrArg some (text_injective (by decide) (by decide) (by decide))⟩

end Filter

end IdentityTypes
