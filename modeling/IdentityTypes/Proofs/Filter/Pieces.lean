/-
# Quoted texts inside of others

A filter's text is made of characters and of quoted literals. Inside a literal a
quote has a backslash in front, but a backslash has none, and so `\'` may be a quote
that belongs to the literal or a backslash with the end of the literal. A reader who
takes the one for the other is inside a literal where the text is outside, and the
other way round at every quote from there on. What stops this reader is the space
before each literal: from inside a literal, the quote would have to end it, and the
text would then have to go on inside; as the text has an end, one of the two runs
out of quotes (`inside_ne_textOf`). So the text shows which pieces it is made of.

Key definitions: `Piece`, `textOf`, `inside`, `Spaced`.
Key theorems: `inside_ne_textOf`, `inside_injective`, `textOf_injective`.
-/
import IdentityTypes.Filter.Text

namespace IdentityTypes

/-- A piece of a text: a character, or a literal with its contents. -/
inductive Piece where
  | char (c : Char)
  | literal (s : List Char)
  deriving DecidableEq, Repr

/-- How a piece is written. -/
def Piece.text : Piece → List Char
  | char c => [c]
  | literal s => '\'' :: s.flatMap Operand.escapeChar ++ ['\'']

/-- The text of some pieces. -/
def textOf (ps : List Piece) : List Char := ps.flatMap Piece.text

/-- The rest of a text from inside a literal: `s` is left of the literal, and `ps`
follow it. -/
def inside (s : List Char) (ps : List Piece) : List Char :=
  s.flatMap Operand.escapeChar ++ '\'' :: textOf ps

/-- Quotes belong to literals, and each literal has a space in front. Where `free`
says so, the first piece may be a literal too. -/
def Spaced (free : Bool) : List Piece → Prop
  | [] => True
  | .char c :: ps => c ≠ '\'' ∧ Spaced (c = ' ') ps
  | .literal _ :: ps => free = true ∧ Spaced false ps

variable {free : Bool} {c : Char} {s t cs : List Char} {ps qs : List Piece}

/-! ### One character further -/

@[simp] theorem textOf_nil : textOf [] = [] := rfl

@[simp] theorem textOf_char : textOf (.char c :: ps) = c :: textOf ps := rfl

theorem textOf_literal : textOf (.literal s :: ps) = '\'' :: inside s ps := by
  simp [textOf, inside, Piece.text]

@[simp] theorem textOf_append : textOf (ps ++ qs) = textOf ps ++ textOf qs := List.flatMap_append

theorem inside_nil : inside [] ps = '\'' :: textOf ps := rfl

theorem inside_quote : inside ('\'' :: s) ps = '\\' :: '\'' :: inside s ps := rfl

theorem inside_cons (h : c ≠ '\'') : inside (c :: s) ps = c :: inside s ps := by
  simp [inside, Operand.escapeChar, h]

/-- Outside a literal, a quote begins one. -/
theorem literal_of_textOf_eq (hps : Spaced free ps) (h : textOf ps = '\'' :: cs) :
    free = true ∧ ∃ s qs, ps = .literal s :: qs ∧ Spaced false qs ∧ inside s qs = cs := by
  cases ps with
  | nil => cases h
  | cons p qs =>
    cases p with
    | char c => exact absurd (List.cons.inj h).1 hps.1
    | literal s =>
      rw [textOf_literal] at h
      exact ⟨hps.1, s, qs, rfl, hps.2, (List.cons.inj h).2⟩

/-- Outside a literal, any other character is a piece. -/
theorem char_of_textOf_eq (hps : Spaced free ps) (hc : c ≠ '\'') (h : textOf ps = c :: cs) :
    ∃ qs, ps = .char c :: qs ∧ Spaced (c = ' ') qs ∧ textOf qs = cs := by
  cases ps with
  | nil => cases h
  | cons p qs =>
    cases p with
    | char d =>
      obtain ⟨rfl, ho⟩ := List.cons.inj h
      exact ⟨qs, rfl, hps.2, ho⟩
    | literal s =>
      rw [textOf_literal] at h
      exact absurd (List.cons.inj h).1.symm hc

/-- Inside a literal, a quote without a backslash ends it. -/
theorem end_of_inside_eq (h : inside s ps = '\'' :: cs) : s = [] ∧ textOf ps = cs := by
  cases s with
  | nil => exact ⟨rfl, (List.cons.inj h).2⟩
  | cons c s =>
    by_cases hc : c = '\''
    · subst hc
      rw [inside_quote] at h
      exact absurd (List.cons.inj h).1 (by decide)
    · rw [inside_cons hc] at h
      exact absurd (List.cons.inj h).1 hc

/-! ### One reading of a text -/

/-- The same text cannot be inside a literal and outside. A quote ends the literal
and begins another, and both readings change places. -/
theorem inside_ne_textOf : ∀ {cs s : List Char} {ps qs : List Piece} {free : Bool},
    Spaced false ps → Spaced free qs → inside s ps = cs → textOf qs ≠ cs
  | [], s, ps, qs, free, _, _, hi, _ => by simp [inside] at hi
  | c :: cs, s, ps, qs, free, hps, hqs, hi, ho => by
    cases s with
    | nil =>
      rw [inside_nil] at hi
      obtain ⟨rfl, ho'⟩ := List.cons.inj hi
      obtain ⟨-, t, qs', rfl, hqs', hi'⟩ := literal_of_textOf_eq hqs ho
      exact inside_ne_textOf hqs' hps hi' ho'
    | cons d s =>
      by_cases hd : d = '\''
      · -- the quote with its backslash would begin a literal without a space
        subst hd
        rw [inside_quote] at hi
        obtain ⟨rfl, rfl⟩ := List.cons.inj hi
        obtain ⟨qs', rfl, hqs', ho'⟩ := char_of_textOf_eq hqs (by decide) ho
        obtain ⟨hfree, -⟩ := literal_of_textOf_eq hqs' ho'
        exact absurd hfree (by decide)
      · rw [inside_cons hd] at hi
        obtain ⟨rfl, hi'⟩ := List.cons.inj hi
        obtain ⟨qs', rfl, hqs', ho'⟩ := char_of_textOf_eq hqs hd ho
        exact inside_ne_textOf hps hqs' hi' ho'

/-- A quote in a literal is not another literal's backslash and end. -/
theorem inside_quote_ne (hps : Spaced false ps) (hqs : Spaced false qs) (hc : c ≠ '\'') :
    inside ('\'' :: s) ps ≠ inside (c :: t) qs := by
  intro h
  rw [inside_quote, inside_cons hc] at h
  obtain ⟨-, ho⟩ := end_of_inside_eq (List.cons.inj h).2.symm
  exact inside_ne_textOf hps hqs rfl ho

/-- The text shows where a literal ends. -/
theorem inside_injective : ∀ {s t : List Char} {ps qs : List Piece}, Spaced false ps →
    Spaced false qs → inside s ps = inside t qs → s = t ∧ textOf ps = textOf qs
  | [], t, ps, qs, _, _, h => by
    obtain ⟨rfl, ho⟩ := end_of_inside_eq h.symm
    exact ⟨rfl, ho.symm⟩
  | s, [], ps, qs, _, _, h => end_of_inside_eq h
  | c :: s, d :: t, ps, qs, hps, hqs, h => by
    by_cases hc : c = '\'' <;> by_cases hd : d = '\''
    · subst hc hd
      rw [inside_quote, inside_quote] at h
      obtain ⟨rfl, ho⟩ := inside_injective hps hqs (List.cons.inj (List.cons.inj h).2).2
      exact ⟨rfl, ho⟩
    · subst hc
      exact absurd h (inside_quote_ne hps hqs hd)
    · subst hd
      exact absurd h.symm (inside_quote_ne hqs hps hc)
    · rw [inside_cons hc, inside_cons hd] at h
      obtain ⟨rfl, hi⟩ := List.cons.inj h
      obtain ⟨rfl, ho⟩ := inside_injective hps hqs hi
      exact ⟨rfl, ho⟩

/-- **The text shows its pieces.** -/
theorem textOf_injective : ∀ {ps qs : List Piece} {free free' : Bool}, Spaced free ps →
    Spaced free' qs → textOf ps = textOf qs → ps = qs
  | [], [], _, _, _, _, _ => rfl
  | [], .char _ :: _, _, _, _, _, h => nomatch h
  | [], .literal _ :: _, _, _, _, _, h => nomatch h
  | .char c :: ps, qs, _, _, hps, hqs, h => by
    obtain ⟨qs', rfl, hqs', ho⟩ := char_of_textOf_eq hqs hps.1 h.symm
    rw [textOf_injective hps.2 hqs' ho.symm]
  | .literal s :: ps, qs, _, _, hps, hqs, h => by
    rw [textOf_literal] at h
    obtain ⟨-, t, qs', rfl, hqs', hi⟩ := literal_of_textOf_eq hqs h.symm
    obtain ⟨rfl, ho⟩ := inside_injective hps.2 hqs' hi.symm
    rw [textOf_injective hps.2 hqs' ho]

/-! ### Texts that are spaced -/

theorem Spaced.of_false (h : Spaced false ps) : Spaced free ps := by
  cases ps with
  | nil => trivial
  | cons p ps =>
    cases p with
    | char c => exact h
    | literal s => exact absurd h.1 (by decide)

theorem Spaced.append : ∀ {ps qs : List Piece} {free : Bool}, Spaced free ps → Spaced false qs →
    Spaced free (ps ++ qs)
  | [], _, _, _, hqs => hqs.of_false
  | .char _ :: _, _, _, hps, hqs => ⟨hps.1, hps.2.append hqs⟩
  | .literal _ :: _, _, _, hps, hqs => ⟨hps.1, hps.2.append hqs⟩

theorem spaced_chars : ∀ {cs : List Char} {free : Bool}, '\'' ∉ cs → Spaced free (cs.map .char)
  | [], _, _ => trivial
  | _ :: _, _, h => ⟨(List.ne_of_not_mem_cons h).symm,
      spaced_chars (List.not_mem_of_not_mem_cons h)⟩

/-- After a space a literal may come. -/
theorem spaced_chars_space : ∀ {cs : List Char} {free : Bool}, '\'' ∉ cs → Spaced true ps →
    Spaced free (cs.map .char ++ .char ' ' :: ps)
  | [], _, _, hps => ⟨by decide, hps⟩
  | _ :: _, _, h, hps => ⟨(List.ne_of_not_mem_cons h).symm,
      spaced_chars_space (List.not_mem_of_not_mem_cons h) hps⟩

end IdentityTypes
