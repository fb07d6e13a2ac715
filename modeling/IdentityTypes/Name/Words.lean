/-
# The words of a name

A name such as `user_mailAddress2` is cut into words twice: first at its
delimiters, which are dropped, then inside each piece wherever the kind of
character changes the way it does between two words.

Places are found by counting characters, but a cut is made at that many
*bytes* of the UTF-8 encoding. For ASCII the two agree. Elsewhere the cut falls
earlier in the text than the place that was found, and when it falls inside a
character the name has no words at all (`none`).

Key definitions: `cutAt`, `splitDelimiters`, `isJoint`, `splitJoints`,
`wordsOf`.
-/
import IdentityTypes.Text.LetterCase

namespace IdentityTypes.Name

open Text

/-- Cuts a text after `n` bytes, unless that is inside a character or beyond
the end. -/
def cutAt : Nat → List Char → Option (List Char × List Char)
  | 0, cs => some ([], cs)
  | _ + 1, [] => none
  | n + 1, c :: cs =>
    if c.utf8Size ≤ n + 1 then
      (cutAt (n + 1 - c.utf8Size) cs).map fun p => (c :: p.1, p.2)
    else none

/-- Drops the last byte of a text, unless that leaves part of a character. -/
def dropLastByte (cs : List Char) : Option (List Char) :=
  match cs.getLast? with
  | some c => if c.utf8Size = 1 then some cs.dropLast else none
  | none => none

/-- The characters between the words of a name. -/
def isDelimiter (c : Char) : Bool := c = '_' || c = '-' || c = ' '

/-- The places of the delimiters in a text that begins at place `i`. -/
def delimiterPlaces (i : Nat) : List Char → List Nat
  | [] => []
  | c :: cs =>
    if isDelimiter c then i :: delimiterPlaces (i + 1) cs else delimiterPlaces (i + 1) cs

/-- Cuts a text after the byte with number `i`, for each `i` given and from the
last to the first, and drops that byte. -/
def cutOut (cs : List Char) : List Nat → Option (List (List Char))
  | [] => some [cs]
  | i :: is => do
    match ← cutOut cs is with
    | [] => none
    | left :: pieces =>
      let (left, piece) ← cutAt (i + 1) left
      let left ← dropLastByte left
      pure (left :: piece :: pieces)

/-- The pieces of a name between its delimiters. -/
def splitDelimiters (cs : List Char) : Option (List (List Char)) :=
  cutOut cs (delimiterPlaces 0 cs)

/-- Whether a word ends between `c` and `d`, where `e` follows: between small
and capital letters, between letters and digits, and before the last capital
of several that a small letter follows. A digit and a capital part like two
letters do; a capital and a digit do too. -/
def isJoint (c d : Char) (e : Option Char) : Bool :=
  (isLower c && isUpper d) || (isUpper c && isAsciiDigit d) ||
    (isAsciiDigit c && isUpper d) || (isAsciiDigit c && isLower d) ||
    (isLower c && isAsciiDigit d) || (isUpper c && isUpper d && e.any isLower)

/-- The places in a text that begins at place `i` before which a new word
starts. -/
def jointPlaces (i : Nat) : List Char → List Nat
  | [] => []
  | c :: cs =>
    match cs with
    | [] => []
    | d :: ds =>
      if isJoint c d ds.head? then (i + 1) :: jointPlaces (i + 1) cs else jointPlaces (i + 1) cs

/-- Cuts a text after `i` bytes, for each `i` given and from the last to the
first. -/
def cutBefore (cs : List Char) : List Nat → Option (List (List Char))
  | [] => some [cs]
  | i :: is => do
    match ← cutBefore cs is with
    | [] => none
    | left :: pieces =>
      let (left, piece) ← cutAt i left
      pure (left :: piece :: pieces)

/-- The words of a piece without delimiters. -/
def splitJoints (cs : List Char) : Option (List (List Char)) :=
  cutBefore cs (jointPlaces 0 cs)

/-- The words of a name, none of them empty. -/
def wordsOf (cs : List Char) : Option (List (List Char)) := do
  let pieces ← splitDelimiters cs
  let words ← pieces.mapM splitJoints
  pure (words.flatten.filter (! ·.isEmpty))

example : wordsOf "user_mailAddress-2HTMLPage".toList
    = some ["user".toList, "mail".toList, "Address".toList, "2".toList, "HTML".toList,
        "Page".toList] := by decide +kernel
example : wordsOf "é_".toList = none := by decide +kernel

end IdentityTypes.Name
