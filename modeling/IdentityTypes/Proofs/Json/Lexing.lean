/-
# Tokens are read as they are written

Whichever of its texts is written for a token, the token is what is read. A string ends at
its closing quote, whatever follows it; only a number goes on as far as it can, so what
follows it must not be a part of a number. In the text of a value this is so, for a mark
or a blank comes next, or nothing. The same is so for a token with a fault that does not
matter where nobody asks for it.

Key definitions: `EndsNumber`, `Token.isMark`, `Alternating`.
Key theorems: `PiecesText.scan`, `CharsText.pieces`, `PiecesText.charsText`,
`scanNumeral_of_numeralText`, `numeral_of_numberText`, `scanToken_of_tokenText`,
`scanToken_of_looseText`, `LooselySpaced.append`, `tokens_of_spaced`.
-/
import IdentityTypes.Proofs.Json.Grammar
import IdentityTypes.Proofs.Json.Literal
import Mathlib.Data.List.Chain
import Mathlib.Data.List.TakeWhile

namespace IdentityTypes.Json

/-! ### Strings -/

theorem hexValue_of_mem : ∀ p ∈ hexDigits, hexValue p.1 = some p.2 := by decide

theorem shortEscape_of_mem : ∀ e ∈ shortEscapes, e.1 ≠ 'u' ∧ shortEscape e.1 = some e.2 := by
  decide

section

variable {n : Nat} {c : Char} {cs digits text rest : List Char}

/-- Four digits are read as the bits they write. -/
theorem scanString_hexText (h : HexText n digits) :
    scanString ('\\' :: 'u' :: digits ++ rest) =
      (scanString rest).map fun p => (.bits n :: p.1, p.2) := by
  obtain ⟨ha, hb, hc, hd⟩ := h
  rename_i a b c d
  have hword : hexWord a.1 b.1 c.1 d.1 = some (((a.2 * 16 + b.2) * 16 + c.2) * 16 + d.2) := by
    simp only [hexWord, hexValue_of_mem _ ha, hexValue_of_mem _ hb, hexValue_of_mem _ hc,
      hexValue_of_mem _ hd, Option.bind_eq_bind, Option.bind_some, Option.pure_def,
      Option.some.injEq]
    omega
  show scanString ('\\' :: 'u' :: a.1 :: b.1 :: c.1 :: d.1 :: rest) = _
  rw [scanString, hword]
  cases scanString rest <;> rfl

/-- A piece is read from each of its texts, whatever follows. -/
theorem PieceText.scan {p : Piece} (h : PieceText p text) :
    scanString (text ++ rest) = (scanString rest).map fun q => (p :: q.1, q.2) := by
  cases h with
  | plain hquote hslash hlow => exact scanString_char hquote hslash (by omega)
  | short he =>
    obtain ⟨hu, hescape⟩ := shortEscape_of_mem _ he
    exact scanString_shortEscape hu hescape
  | number h => exact scanString_hexText h

/-- A string is read as the pieces it is written for, up to its closing quote. -/
theorem PiecesText.scan {ps : List Piece} (h : PiecesText ps text) (rest : List Char) :
    scanString (text ++ '"' :: rest) = some (ps, rest) := by
  induction h with
  | nil => rfl
  | cons hp _ ih =>
    rw [List.append_assoc, hp.scan, ih]
    rfl

theorem PiecesText.append {ps qs : List Piece} {text' : List Char} (hps : PiecesText ps text)
    (hqs : PiecesText qs text') : PiecesText (ps ++ qs) (text ++ text') := by
  induction hps with
  | nil => exact hqs
  | cons hp _ ih =>
    rw [List.append_assoc]
    exact .cons hp ih

theorem PieceText.pieces {p : Piece} (h : PieceText p text) : PiecesText [p] text := by
  have h := PiecesText.cons h .nil
  rwa [List.append_nil] at h

/-- What a character is written as are pieces that are joined to it. -/
theorem CharText.pieces (h : CharText c text) : ∃ ps, PiecesText ps text ∧
    ∀ r, joinUnits (ps ++ r) = (joinUnits r).map (c :: ·) := by
  cases h with
  | plain hquote hslash hlow =>
    exact ⟨[.char c], (PieceText.plain hquote hslash hlow).pieces, fun r => rfl⟩
  | @short e he => exact ⟨[.char e.2], (PieceText.short he).pieces, fun r => rfl⟩
  | number h =>
    have hvalid : c.toNat < 0xD800 ∨ 0xDFFF < c.toNat ∧ c.toNat < 0x110000 := c.valid
    refine ⟨[.bits c.toNat], (PieceText.number h).pieces, fun r => ?_⟩
    rw [List.singleton_append, joinUnits_bits (by omega), Char.ofNat_toNat]
  | @pair _ high low digits digits' hhigh hlow hc h h' =>
    refine ⟨[.bits high, .bits low],
      (PieceText.number h).pieces.append (PieceText.number h').pieces, fun r => ?_⟩
    have hhigh : isHighHalf high = true := by simp [isHighHalf, hhigh]
    have hlow : isLowHalf low = true := by simp [isLowHalf, hlow]
    show joinUnits (.bits high :: .bits low :: r) = _
    rw [joinUnits, if_pos hhigh, if_pos hlow, ← hc, Char.ofNat_toNat]

/-- What characters are written as are pieces that are joined to them. -/
theorem CharsText.pieces (h : CharsText cs text) :
    ∃ ps, PiecesText ps text ∧ joinUnits ps = some cs := by
  induction h with
  | nil => exact ⟨[], .nil, rfl⟩
  | cons hc _ ih =>
    obtain ⟨ps, hps, hjoin⟩ := hc.pieces
    obtain ⟨qs, hqs, hjoins⟩ := ih
    refine ⟨ps ++ qs, hps.append hqs, ?_⟩
    rw [hjoin, hjoins]
    rfl

/-- Four digits write sixteen bits. -/
theorem HexText.lt (h : HexText n digits) : n < 0x10000 := by
  have hlt : ∀ p ∈ hexDigits, p.2 < 16 := by decide
  obtain ⟨ha, hb, hc, hd⟩ := h
  have := hlt _ ha
  have := hlt _ hb
  have := hlt _ hc
  have := hlt _ hd
  omega

theorem toNat_ofNat (h : n.isValidChar) : (Char.ofNat n).toNat = n := by
  rw [Char.ofNat, dif_pos h]
  rfl

/-- Bits that are no half of a surrogate pair are written like the character they are. -/
theorem HexText.charText (h : HexText n digits) (hhigh : ¬ isHighHalf n = true)
    (hlow : ¬ isLowHalf n = true) : CharText (Char.ofNat n) ('\\' :: 'u' :: digits) := by
  simp only [isHighHalf, isLowHalf, Bool.and_eq_true, decide_eq_true_eq] at hhigh hlow
  have hlt := h.lt
  have hvalid : n < 0xD800 ∨ 0xDFFF < n ∧ n < 0x110000 := by omega
  exact .number (by rwa [toNat_ofNat hvalid])

/-- Two halves are written like the character they are. -/
theorem HexText.pair {low : Nat} {digits' : List Char} (h : HexText n digits)
    (h' : HexText low digits') (hhigh : isHighHalf n = true) (hlow : isLowHalf low = true) :
    CharText (Char.ofNat (0x10000 + (n - 0xD800) * 0x400 + (low - 0xDC00)))
      ('\\' :: 'u' :: digits ++ '\\' :: 'u' :: digits') := by
  simp only [isHighHalf, isLowHalf, Bool.and_eq_true, decide_eq_true_eq] at hhigh hlow
  have hvalid : (0x10000 + (n - 0xD800) * 0x400 + (low - 0xDC00)).isValidChar := .inr (by omega)
  exact .pair hhigh hlow (toNat_ofNat hvalid) h h'

/-- Pieces that are joined to characters are a way to write these. -/
theorem PiecesText.charsText {ps : List Piece} (h : PiecesText ps text)
    (hjoin : joinUnits ps = some cs) : CharsText cs text := by
  fun_induction joinUnits ps generalizing cs text with
  | case1 =>
    cases h
    cases hjoin
    exact .nil
  | case2 c r ih =>
    obtain ⟨cs, hcs, rfl⟩ := Option.map_eq_some_iff.mp hjoin
    cases h with
    | cons hp hps =>
      cases hp with
      | plain hquote hslash hlow => exact .cons (.plain hquote hslash hlow) (ih hps hcs)
      | short he => exact .cons (.short he) (ih hps hcs)
  | case3 m n r hhigh hlow ih =>
    obtain ⟨cs, hcs, rfl⟩ := Option.map_eq_some_iff.mp hjoin
    cases h with
    | cons hp hps =>
      cases hps with
      | cons hq hqs =>
        cases hp with
        | number hm =>
          cases hq with
          | number hn =>
            have hc := CharsText.cons (hm.pair hn hhigh hlow) (ih hqs hcs)
            rwa [List.append_assoc] at hc
  | case4 | case5 | case7 => cases hjoin
  | case6 m n r hhigh hlow ih =>
    obtain ⟨cs, hcs, rfl⟩ := Option.map_eq_some_iff.mp hjoin
    cases h with
    | cons hp hps =>
      cases hp with
      | number hm => exact .cons (hm.charText hhigh hlow) (ih hps hcs)
  | case8 m r hr hhalf ih =>
    obtain ⟨cs, hcs, rfl⟩ := Option.map_eq_some_iff.mp hjoin
    rw [Bool.or_eq_true, not_or] at hhalf
    cases h with
    | cons hp hps =>
      cases hp with
      | number hm => exact .cons (hm.charText hhalf.1 hhalf.2) (ih hps hcs)

/-- Pieces that are not joined are no way to write characters, as a text shows its pieces. -/
theorem PiecesText.not_charsText {ps : List Piece} (h : PiecesText ps text)
    (hjoin : joinUnits ps = none) : ¬ CharsText cs text := by
  intro hcs
  obtain ⟨qs, hqs, hjoined⟩ := hcs.pieces
  have hscan := (h.scan []).symm.trans (hqs.scan [])
  cases hscan
  rw [hjoin] at hjoined
  cases hjoined

end

/-! ### Numbers -/

/-- A number does not go on with this text. -/
def EndsNumber (rest : List Char) : Prop :=
  ∀ c ∈ rest.head?, c.isDigit = false ∧ c ≠ '.' ∧ c ≠ 'e' ∧ c ≠ 'E'

/-- No digit comes first. -/
def EndsDigits (rest : List Char) : Prop := ∀ c ∈ rest.head?, c.isDigit = false

theorem EndsNumber.endsDigits {rest : List Char} (h : EndsNumber rest) : EndsDigits rest :=
  fun c hc => (h c hc).1

section

variable {c : Char} {ds text rest : List Char} {f : Option (List Nat)} {x : Option Int}
  {l : Numeral}

theorem eq_zero_of_digitValue (hc : c.isDigit = true) (h : digitValue c = 0) : c = '0' := by
  simp only [Char.isDigit, Bool.and_eq_true, decide_eq_true_eq, UInt32.le_iff_toNat_le] at hc
  have hlow : 48 ≤ c.toNat := hc.1
  have hn : c.toNat = 48 := by
    rw [digitValue] at h
    omega
  rw [← Char.ofNat_toNat c, hn]

/-- The digits at the beginning are all that stand before something else. -/
theorem spanDigits_append (h : ∀ c ∈ ds, c.isDigit = true) (hrest : EndsDigits rest) :
    spanDigits (ds ++ rest) = (ds.map digitValue, rest) := by
  have hstop : rest.takeWhile Char.isDigit = [] ∧ rest.dropWhile Char.isDigit = rest := by
    cases rest with
    | nil => exact ⟨rfl, rfl⟩
    | cons c cs =>
      have hc : c.isDigit = false := hrest c rfl
      exact ⟨List.takeWhile_cons_of_neg (by simp [hc]), List.dropWhile_cons_of_neg (by simp [hc])⟩
  rw [spanDigits, List.takeWhile_append_of_pos h, List.dropWhile_append_of_pos h, hstop.1,
    hstop.2, List.append_nil]

theorem IsDigits.exists_cons (h : IsDigits ds) :
    ∃ d r, ds = d :: r ∧ d.isDigit = true := by
  obtain ⟨d, r, rfl⟩ := List.exists_cons_of_ne_nil h.1
  exact ⟨d, r, rfl, h.2 d List.mem_cons_self⟩

theorem scanWhole_append (h : IsDigits ds) (hzero : ds.head? = some '0' → ds = ['0'])
    (hrest : EndsDigits rest) : scanWhole (ds ++ rest) = some (ds.map digitValue, rest) := by
  rw [scanWhole, spanDigits_append h.2 hrest]
  obtain ⟨d, r, rfl, hdigit⟩ := h.exists_cons
  rw [List.map_cons]
  cases hd : digitValue d with
  | zero =>
    have hone := hzero (congrArg some (eq_zero_of_digitValue hdigit hd))
    cases hone
    rfl
  | succ n => rfl

theorem scanFraction_append (h : FractionText f text)
    (hrest : ∀ c ∈ rest.head?, c.isDigit = false ∧ c ≠ '.') :
    scanFraction (text ++ rest) = some (f, rest) := by
  cases h with
  | none =>
    rw [List.nil_append, scanFraction.eq_def]
    split
    · exact absurd rfl (hrest '.' rfl).2
    · rfl
  | @some ds h =>
    rw [List.cons_append, scanFraction, spanDigits_append h.2 fun c hc => (hrest c hc).1]
    obtain ⟨d, r, rfl, -⟩ := h.exists_cons
    rfl

theorem scanPower_append (negative : Bool) (h : IsDigits ds) (hrest : EndsDigits rest) :
    scanPower negative (ds ++ rest) =
      some (some (if negative then -(numberOf (ds.map digitValue) : Int)
        else numberOf (ds.map digitValue)), rest) := by
  rw [scanPower, spanDigits_append h.2 hrest]
  obtain ⟨d, r, rfl, -⟩ := h.exists_cons
  rfl

/-- Digits begin with a digit. -/
theorem IsDigits.append_ne (h : IsDigits ds) (hc : c.isDigit = false) (r : List Char) :
    ds ++ rest ≠ c :: r := by
  obtain ⟨d, ds, rfl, hd⟩ := h.exists_cons
  intro he
  obtain rfl : d = c := (List.cons.inj he).1
  rw [hd] at hc
  cases hc

theorem scanExponent_append (h : ExponentText x text) (hrest : EndsNumber rest) :
    scanExponent (text ++ rest) = some (x, rest) := by
  cases h with
  | none =>
    cases rest with
    | nil => rfl
    | cons c cs =>
      obtain ⟨-, -, he, hE⟩ := hrest c rfl
      rw [List.nil_append, scanExponent.eq_def]
      simp [he, hE]
  | @plain e ds he h =>
    rw [List.cons_append, scanExponent.eq_3 _ _ (h.append_ne rfl) (h.append_ne rfl),
      if_pos (by simpa using he)]
    exact scanPower_append false h hrest.endsDigits
  | @plus e ds he h =>
    rw [List.cons_append, List.cons_append, scanExponent, if_pos (by simpa using he)]
    exact scanPower_append false h hrest.endsDigits
  | @minus e ds he h =>
    rw [List.cons_append, List.cons_append, scanExponent, if_pos (by simpa using he)]
    exact scanPower_append true h hrest.endsDigits

theorem FractionText.head (h : FractionText f text) (hrest : EndsDigits rest) :
    EndsDigits (text ++ rest) := by
  cases h with
  | none => exact hrest
  | some h =>
    intro c hc
    cases hc
    rfl

theorem ExponentText.head (h : ExponentText x text) (hrest : EndsNumber rest) :
    ∀ c ∈ (text ++ rest).head?, c.isDigit = false ∧ c ≠ '.' := by
  have hletter : ∀ e : Char, e = 'e' ∨ e = 'E' → e.isDigit = false ∧ e ≠ '.' := by
    rintro e (rfl | rfl) <;> decide
  intro c hc
  cases h with
  | none => exact ⟨(hrest c hc).1, (hrest c hc).2.1⟩
  | plain he _ => cases hc; exact hletter _ he
  | plus he _ => cases hc; exact hletter _ he
  | minus he _ => cases hc; exact hletter _ he

/-- A numeral is read as far as it goes. -/
theorem scanNumeral_of_numeralText (h : NumeralText l text) (hrest : EndsNumber rest) :
    scanNumeral (text ++ rest) = some (l, rest) := by
  obtain ⟨h, hzero, hfraction, hexponent⟩ := h
  rename_i negative ds fractionText exponentText fraction exponent
  have hdigits : EndsDigits (fractionText ++ (exponentText ++ rest)) :=
    hfraction.head fun c hc => (hexponent.head hrest c hc).1
  have hunsigned : scanUnsigned negative (ds ++ (fractionText ++ (exponentText ++ rest))) =
      some (⟨negative, ds.map digitValue, fraction, exponent⟩, rest) := by
    simp only [scanUnsigned, scanWhole_append h hzero hdigits,
      scanFraction_append hfraction (hexponent.head hrest), scanExponent_append hexponent hrest,
      Option.bind_eq_bind, Option.bind_some, Option.pure_def]
  cases negative with
  | true =>
    simp only [if_true, List.append_assoc]
    exact hunsigned
  | false =>
    simp only [Bool.false_eq_true, if_false, List.nil_append, List.append_assoc]
    rw [scanNumeral.eq_2 _ (h.append_ne rfl)]
    exact hunsigned

/-! ### Integers -/

theorem numberOf_map_digitValue (ds : List Char) :
    numberOf (ds.map digitValue) = Nat.ofDigitChars 10 ds 0 := by
  rw [numberOf, List.foldl_map, Nat.ofDigitChars_eq_foldl]
  simp only [digitValue, Nat.mul_comm 10]
  rfl

theorem le_foldl_digits (ds : List Nat) : ∀ start,
    start ≤ ds.foldl (fun n d => n * 10 + d) start := by
  induction ds with
  | nil => exact fun start => Nat.le_refl start
  | cons d ds ih =>
    intro start
    have h := ih (start * 10 + d)
    rw [List.foldl_cons]
    omega

/-- No digits are left out of a number of 64 bits. -/
theorem takeDigits_eq (ds : List Nat) : ∀ start,
    ds.foldl (fun n d => n * 10 + d) start ≤ maxWord →
      takeDigits start ds = (ds.foldl (fun n d => n * 10 + d) start, 0) := by
  induction ds with
  | nil => exact fun start _ => rfl
  | cons d ds ih =>
    intro start h
    rw [List.foldl_cons] at h ⊢
    have hd : start * 10 + d ≤ maxWord := Nat.le_trans (le_foldl_digits ds _) h
    rw [takeDigits, if_pos hd, ih _ h]

/-- The decimal digits of a number have no zero in front, unless it is zero. -/
theorem head?_toDigits (n : Nat) :
    (Nat.toDigits 10 n).head? = some '0' → Nat.toDigits 10 n = ['0'] := by
  induction n using Nat.strongRecOn with
  | ind n ih =>
    intro h
    by_cases hn : n < 10
    · rw [Nat.toDigits_of_lt_base hn] at h ⊢
      exact congrArg (fun c => [c]) (Option.some.inj h)
    · rw [Nat.toDigits_of_base_le (by decide) (by omega), List.head?_append] at h
      have hne : (Nat.toDigits 10 (n / 10)).head? ≠ none := by
        simp [Nat.toDigits_ne_nil]
      obtain ⟨c, hc⟩ := Option.ne_none_iff_exists'.mp hne
      rw [hc] at h
      cases h
      have hzero := congrArg (Nat.ofDigitChars 10 · 0) (ih (n / 10) (by omega) hc)
      simp only [Nat.ofDigitChars_toDigits (show 1 < 10 by decide) (Nat.le_refl 10)] at hzero
      have : Nat.ofDigitChars 10 ['0'] 0 = 0 := by decide
      omega

theorem isDigits_toDigits (n : Nat) : IsDigits (Nat.toDigits 10 n) :=
  ⟨Nat.toDigits_ne_nil, fun _ hc => Nat.isDigit_of_mem_toDigits (by decide) (by decide) hc⟩

/-- A natural number is written by its decimal digits, with or without a sign. -/
theorem numeralText_toDigits (negative : Bool) (n : Nat) :
    NumeralText ⟨negative, (Nat.toDigits 10 n).map digitValue, none, none⟩
      ((if negative then ['-'] else []) ++ Nat.toDigits 10 n) := by
  have h : NumeralText ⟨negative, (Nat.toDigits 10 n).map digitValue, none, none⟩
      ((if negative then ['-'] else []) ++ Nat.toDigits 10 n ++ [] ++ []) :=
    .mk (isDigits_toDigits n) (head?_toDigits n) .none .none
  rwa [List.append_nil, List.append_nil] at h

theorem takeDigits_toDigits {n : Nat} (h : n ≤ maxWord) :
    takeDigits 0 ((Nat.toDigits 10 n).map digitValue) = (n, 0) := by
  have hn : ((Nat.toDigits 10 n).map digitValue).foldl (fun n d => n * 10 + d) 0 = n := by
    have hnumber := numberOf_map_digitValue (Nat.toDigits 10 n)
    rwa [Nat.ofDigitChars_toDigits (by decide) (by decide), numberOf] at hnumber
  rw [takeDigits_eq _ 0 (by rw [hn]; exact h), hn]

theorem toList_toString (n : Int) : (toString n).toList =
    (if decide (n < 0) then ['-'] else []) ++ Nat.toDigits 10 n.natAbs := by
  cases n with
  | ofNat n =>
    have h : toString (Int.ofNat n) = String.ofList (Nat.toDigits 10 n) := rfl
    rw [h, String.toList_ofList]
    rfl
  | negSucc n =>
    have h : toString (Int.negSucc n) = "-" ++ String.ofList (Nat.toDigits 10 (n + 1)) := rfl
    rw [h, String.toList_append, String.toList_ofList, String.toList_ofList,
      decide_eq_true (Int.negSucc_lt_zero n)]
    rfl

/-- Every number is written by a numeral that stands for it. -/
theorem numeral_of_numberText {x : Number} (h : NumberText x text) :
    ∃ l, NumeralText l text ∧ l.value = some x := by
  cases h with
  | numeral h hvalue => exact ⟨_, h, hvalue⟩
  | @integer n h =>
    obtain ⟨hlow, hhigh⟩ := h
    have hn : n.natAbs ≤ maxWord := by
      rw [maxWord]
      omega
    rw [toList_toString]
    refine ⟨_, numeralText_toDigits (decide (n < 0)) n.natAbs, ?_⟩
    simp only [Numeral.value, Option.isNone_none, Bool.and_self, if_true, takeDigits_toDigits hn]
    by_cases hneg : n < 0
    · have hpos : 0 < n.natAbs ∧ n.natAbs ≤ 9223372036854775808 := by omega
      have habs : -(n.natAbs : Int) = n := by omega
      rw [if_neg (by simp [hneg]), if_pos (by simp [hpos]), habs]
    · have habs : (n.natAbs : Int) = n := by omega
      rw [if_pos (by simp [hneg]), habs]

end

/-! ### Tokens -/

/-- A token of one character, with which arrays, objects and members are set out. -/
def Token.isMark : Token → Bool
  | .openBrace | .closeBrace | .openBracket | .closeBracket | .colon | .comma => true
  | _ => false

/-- Of two tokens side by side one is a mark. -/
def Alternating (ts : List Token) : Prop :=
  ts.IsChain fun t u => t.isMark = true ∨ u.isMark = true

section

variable {t : Token} {ts : List Token} {text cs w rest : List Char}

/-- A number begins with a sign or a digit. -/
theorem NumeralText.head {l : Numeral} (h : NumeralText l text) :
    ∃ c r, text = c :: r ∧ (c = '-' ∨ c.isDigit = true) := by
  obtain ⟨h, -, -, -⟩ := h
  rename_i negative ds _ _ _ _
  cases negative with
  | true => exact ⟨'-', _, rfl, .inl rfl⟩
  | false =>
    obtain ⟨d, r, rfl, hd⟩ := h.exists_cons
    exact ⟨d, _, rfl, .inr hd⟩

/-- What begins a number is none of some other characters. -/
theorem ne_of_digit {c d : Char} (h : c = '-' ∨ c.isDigit = true)
    (hd : (d = '-' || d.isDigit) = false) : c ≠ d := by
  rintro rfl
  rcases h with rfl | h
  · cases hd
  · simp [h] at hd

theorem isSpace_of_digit {c : Char} (h : c = '-' ∨ c.isDigit = true) : isSpace c = false := by
  simp [isSpace, ne_of_digit h]

theorem punctuation_of_digit {c : Char} (h : c = '-' ∨ c.isDigit = true) :
    punctuation c = none :=
  punctuation.eq_7 c (ne_of_digit h rfl) (ne_of_digit h rfl) (ne_of_digit h rfl)
    (ne_of_digit h rfl) (ne_of_digit h rfl) (ne_of_digit h rfl)

/-- A token begins with what is no blank, and a mark with what is no part of a number. -/
theorem TokenText.head (h : TokenText t text) :
    ∃ c r, text = c :: r ∧ isSpace c = false ∧ (t.isMark = true → EndsNumber text) := by
  have hmark : ∀ c : Char, c ∈ ['\x7b', '\x7d', '[', ']', ':', ','] → EndsNumber [c] := by
    intro c hc d hd
    cases hd
    simp only [List.mem_cons, List.not_mem_nil, or_false] at hc
    rcases hc with rfl | rfl | rfl | rfl | rfl | rfl <;> decide
  cases h with
  | openBrace => exact ⟨_, _, rfl, rfl, fun _ => hmark _ (by decide)⟩
  | closeBrace => exact ⟨_, _, rfl, rfl, fun _ => hmark _ (by decide)⟩
  | openBracket => exact ⟨_, _, rfl, rfl, fun _ => hmark _ (by decide)⟩
  | closeBracket => exact ⟨_, _, rfl, rfl, fun _ => hmark _ (by decide)⟩
  | colon => exact ⟨_, _, rfl, rfl, fun _ => hmark _ (by decide)⟩
  | comma => exact ⟨_, _, rfl, rfl, fun _ => hmark _ (by decide)⟩
  | null => exact ⟨_, _, rfl, rfl, nofun⟩
  | bool b => cases b <;> exact ⟨_, _, rfl, rfl, nofun⟩
  | number h =>
    obtain ⟨l, hl, -⟩ := numeral_of_numberText h
    obtain ⟨c, r, rfl, hc⟩ := hl.head
    exact ⟨c, r, rfl, isSpace_of_digit hc, nofun⟩
  | string h => exact ⟨_, _, rfl, rfl, nofun⟩

/-- The same where a token may have a fault. -/
theorem LooseText.head (h : LooseText t text) :
    ∃ c r, text = c :: r ∧ isSpace c = false ∧ (t.isMark = true → EndsNumber text) := by
  cases h with
  | token h => exact h.head
  | large h hvalue =>
    obtain ⟨c, r, rfl, hc⟩ := h.head
    exact ⟨c, r, rfl, isSpace_of_digit hc, nofun⟩
  | half h hhalf => exact ⟨_, _, rfl, rfl, nofun⟩

/-- A numeral is read as the number it stands for, if there is one. -/
theorem scanToken_of_numeralText {l : Numeral} (h : NumeralText l text) (hrest : EndsNumber rest) :
    scanToken (text ++ rest) = some (.number l.value, rest) := by
  have hscan := scanNumeral_of_numeralText h hrest
  obtain ⟨c, r, rfl, hc⟩ := h.head
  rw [List.cons_append] at hscan ⊢
  rw [scanToken.eq_6 c _ (fun _ hn _ => ne_of_digit hc rfl hn)
    (fun _ ht _ => ne_of_digit hc rfl ht) (fun _ hf _ => ne_of_digit hc rfl hf)
    (fun hquote => ne_of_digit hc rfl hquote), punctuation_of_digit hc]
  simp only [hscan, Option.bind_eq_bind, Option.bind_some, Option.pure_def]

/-- The pieces of a string are read as the characters they are joined to, if they are. -/
theorem scanToken_of_piecesText {ps : List Piece} (h : PiecesText ps text) :
    scanToken ('"' :: text ++ ['"'] ++ rest) =
      some (.string ((joinUnits ps).map String.ofList), rest) := by
  simp [scanToken, h.scan]

/-- A token is what is read from its text; after a number there must be something else. -/
theorem scanToken_of_tokenText (h : TokenText t text)
    (hrest : (∃ x, t = .number x) → EndsNumber rest) :
    scanToken (text ++ rest) = some (t, rest) := by
  cases h with
  | bool b => cases b <;> rfl
  | number h =>
    obtain ⟨l, hl, hvalue⟩ := numeral_of_numberText h
    rw [scanToken_of_numeralText hl (hrest ⟨_, rfl⟩), hvalue]
  | string h =>
    obtain ⟨ps, hps, hjoin⟩ := h.pieces
    rw [scanToken_of_piecesText hps, hjoin]
    simp
  | _ => rfl

/-- The same where a token may have a fault. -/
theorem scanToken_of_looseText (h : LooseText t text)
    (hrest : (∃ x, t = .number x) → EndsNumber rest) :
    scanToken (text ++ rest) = some (t, rest) := by
  cases h with
  | token h => exact scanToken_of_tokenText h hrest
  | large h hvalue => rw [scanToken_of_numeralText h (hrest ⟨_, rfl⟩), hvalue]
  | @half ps text h hhalf =>
    have hnone : joinUnits ps = none :=
      Option.eq_none_iff_forall_ne_some.mpr fun cs hcs => hhalf cs (h.charsText hcs)
    rw [scanToken_of_piecesText h, hnone]
    rfl

theorem IsBlank.isSpace (hw : IsBlank w) : ∀ c ∈ w, isSpace c = true := by
  intro c hc
  have hc := hw c hc
  simp only [List.mem_cons, List.not_mem_nil, or_false] at hc
  rcases hc with rfl | rfl | rfl | rfl <;> rfl

theorem IsBlank.endsNumber (hw : IsBlank w) (hrest : EndsNumber rest) : EndsNumber (w ++ rest) := by
  cases w with
  | nil => exact hrest
  | cons d w =>
    intro c hc
    obtain rfl : d = c := Option.some.inj hc
    have hd := hw d List.mem_cons_self
    simp only [List.mem_cons, List.not_mem_nil, or_false] at hd
    rcases hd with rfl | rfl | rfl | rfl <;> decide

theorem Spaced.loosely (h : Spaced ts cs) : LooselySpaced ts cs := by
  induction h with
  | nil hw => exact .nil hw
  | cons hw ht _ ih => exact .cons hw (.token ht) ih

/-- Blanks may come first. -/
theorem LooselySpaced.blank (h : LooselySpaced ts cs) (hw : IsBlank w) :
    LooselySpaced ts (w ++ cs) := by
  cases h with
  | nil hw' => exact .nil (List.forall_mem_append.mpr ⟨hw, hw'⟩)
  | cons hw' ht hts =>
    rw [List.append_assoc, ← List.append_assoc, ← List.append_assoc]
    exact .cons (List.forall_mem_append.mpr ⟨hw, hw'⟩) ht hts

/-- Texts of tokens may stand side by side. -/
theorem LooselySpaced.append {us : List Token} (h : LooselySpaced ts cs)
    (hus : LooselySpaced us rest) : LooselySpaced (ts ++ us) (cs ++ rest) := by
  induction h with
  | nil hw => exact hus.blank hw
  | cons hw ht _ ih =>
    rw [List.append_assoc]
    exact .cons hw ht ih

/-- After a token that is no mark there is something else than a number. -/
theorem LooselySpaced.endsNumber (h : LooselySpaced ts rest) (ht : t.isMark = false)
    (hts : Alternating (t :: ts)) : EndsNumber rest := by
  cases h with
  | nil hw =>
    have h : EndsNumber (rest ++ []) := hw.endsNumber nofun
    rwa [List.append_nil] at h
  | @cons u us w text rest hw hu hus =>
    have hmark : u.isMark = true := by
      rcases (List.isChain_cons_cons.mp hts).1 with h | h
      · rw [ht] at h
        cases h
      · exact h
    obtain ⟨c, r, rfl, -, hends⟩ := hu.head
    have hends := hends hmark
    rw [List.append_assoc]
    exact hw.endsNumber fun d hd => hends d hd

/-- The tokens are read from all of their texts, whatever blanks are between them. -/
theorem tokensWithin_of_spaced (h : LooselySpaced ts cs) (hts : Alternating ts) : ∀ fuel,
    cs.length < fuel → tokensWithin fuel cs = ts := by
  induction h with
  | @nil w hw =>
    rintro (_ | fuel) hfuel
    · cases hfuel
    · rw [tokensWithin, List.dropWhile_eq_nil_iff.mpr hw.isSpace]
  | @cons t ts w text rest hw ht hrest ih =>
    rintro (_ | fuel) hfuel
    · cases hfuel
    · have hscan : scanToken (text ++ rest) = some (t, rest) :=
        scanToken_of_looseText ht fun ⟨x, hx⟩ => hrest.endsNumber (by rw [hx]; rfl) hts
      obtain ⟨c, r, rfl, hc, -⟩ := ht.head
      have hdrop : (w ++ (c :: r) ++ rest).dropWhile isSpace = c :: (r ++ rest) := by
        rw [List.append_assoc, List.dropWhile_append_of_pos hw.isSpace, List.cons_append,
          List.dropWhile_cons_of_neg (by simp [hc])]
      have hlength : rest.length < fuel := by
        simp only [List.length_append, List.length_cons] at hfuel
        omega
      rw [tokensWithin, hdrop]
      dsimp only
      rw [← List.cons_append, hscan]
      dsimp only
      rw [ih hts.tail fuel hlength]

theorem tokens_of_spaced (h : LooselySpaced ts cs) (hts : Alternating ts) : tokens cs = ts :=
  tokensWithin_of_spaced h hts _ (Nat.lt_succ_self _)

end

end IdentityTypes.Json
