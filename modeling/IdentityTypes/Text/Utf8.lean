/-
# UTF-8

Bytes as text. `decode` reads bytes as UTF-8 and stops at the first unit that
no text is encoded as; `decodeLossy` goes on after each of them and leaves a
replacement character. A malformed unit is as long as the longest part of it
that could still have begun a character.

Key definitions: `encode`, `decode`, `decodeLossy`, `Malformed`.
-/

namespace IdentityTypes.Text

/-- The UTF-8 encoding of one character. -/
def encodeChar (c : Char) : List UInt8 :=
  let n := c.toNat
  if n < 0x80 then [n.toUInt8]
  else if n < 0x800 then [(0xC0 + n / 0x40).toUInt8, (0x80 + n % 0x40).toUInt8]
  else if n < 0x10000 then
    [(0xE0 + n / 0x1000).toUInt8, (0x80 + n / 0x40 % 0x40).toUInt8, (0x80 + n % 0x40).toUInt8]
  else
    [(0xF0 + n / 0x40000).toUInt8, (0x80 + n / 0x1000 % 0x40).toUInt8,
      (0x80 + n / 0x40 % 0x40).toUInt8, (0x80 + n % 0x40).toUInt8]

/-- The UTF-8 encoding of a text. -/
def encode (s : String) : List UInt8 :=
  s.toList.flatMap encodeChar

/-- The first unit of some bytes: a character, or a unit that is none, with
the number of bytes it takes. A unit that the end of the bytes cuts short is
`cut`. -/
inductive Unit8 where
  | char (c : Char) (rest : List UInt8)
  | bad (width : Nat) (rest : List UInt8)
  | cut
  deriving Repr

/-- Bytes that stand for the second and later bytes of a character. -/
def isTail (b : UInt8) : Bool := 0x80 ≤ b && b ≤ 0xBF

/-- The bytes that may follow the first byte `b` of a character of three or
four bytes: the rest would encode a character in more bytes than it needs, a
surrogate, or a number beyond the last character. -/
def isSecond (b x : UInt8) : Bool :=
  if b == 0xE0 then 0xA0 ≤ x && x ≤ 0xBF
  else if b == 0xED then 0x80 ≤ x && x ≤ 0x9F
  else if b == 0xF0 then 0x90 ≤ x && x ≤ 0xBF
  else if b == 0xF4 then 0x80 ≤ x && x ≤ 0x8F
  else isTail x

/-- The first unit of `b :: rest`. -/
def firstUnit (b : UInt8) (rest : List UInt8) : Unit8 :=
  if b < 0x80 then .char (Char.ofNat b.toNat) rest
  else if 0xC2 ≤ b && b ≤ 0xDF then
    match rest with
    | [] => .cut
    | x :: r =>
      if isTail x then .char (Char.ofNat ((b.toNat - 0xC0) * 0x40 + (x.toNat - 0x80))) r
      else .bad 1 rest
  else if 0xE0 ≤ b && b ≤ 0xEF then
    match rest with
    | [] => .cut
    | [x] => if isSecond b x then .cut else .bad 1 rest
    | x :: y :: r =>
      if !isSecond b x then .bad 1 rest
      else if !isTail y then .bad 2 (y :: r)
      else .char (Char.ofNat ((b.toNat - 0xE0) * 0x1000 + (x.toNat - 0x80) * 0x40 +
        (y.toNat - 0x80))) r
  else if 0xF0 ≤ b && b ≤ 0xF4 then
    match rest with
    | [] => .cut
    | [x] => if isSecond b x then .cut else .bad 1 rest
    | [x, y] => if !isSecond b x then .bad 1 rest else if isTail y then .cut else .bad 2 [y]
    | x :: y :: z :: r =>
      if !isSecond b x then .bad 1 rest
      else if !isTail y then .bad 2 (y :: z :: r)
      else if !isTail z then .bad 3 (z :: r)
      else .char (Char.ofNat ((b.toNat - 0xF0) * 0x40000 + (x.toNat - 0x80) * 0x1000 +
        (y.toNat - 0x80) * 0x40 + (z.toNat - 0x80))) r
  else .bad 1 rest

/-- The bytes after a unit. -/
def Unit8.rest : Unit8 → List UInt8
  | .char _ r | .bad _ r => r
  | .cut => []

theorem firstUnit_rest_length (b : UInt8) (rest : List UInt8) :
    (firstUnit b rest).rest.length ≤ rest.length := by
  unfold firstUnit
  repeat' split
  all_goals simp [Unit8.rest] <;> omega

/-- Why bytes are no text: at byte `index` stands a malformed unit of `width`
bytes, or one that the end cuts short. -/
inductive Malformed where
  | invalid (width index : Nat)
  | incomplete (index : Nat)
  deriving DecidableEq, Repr

/-- How a malformed unit is reported. -/
def Malformed.message : Malformed → String
  | .invalid width index =>
    "invalid utf-8 sequence of " ++ toString width ++ " bytes from index " ++ toString index
  | .incomplete index => "incomplete utf-8 byte sequence from index " ++ toString index

/-- Reads bytes from position `index` on. -/
def decodeFrom (index : Nat) : List UInt8 → Except Malformed (List Char)
  | [] => .ok []
  | b :: bs =>
    match h : firstUnit b bs with
    | .char c r =>
      have : r.length ≤ bs.length := by simpa [h, Unit8.rest] using firstUnit_rest_length b bs
      (decodeFrom (index + c.utf8Size) r).map (c :: ·)
    | .bad width _ => .error (.invalid width index)
    | .cut => .error (.incomplete index)
  termination_by bs => bs.length
  decreasing_by simp; omega

/-- The text that bytes encode, or the first reason why they encode none. -/
def decode (bs : List UInt8) : Except Malformed String :=
  (decodeFrom 0 bs).map String.ofList

/-- Reads bytes, with U+FFFD for each malformed unit. -/
def decodeLossyChars : List UInt8 → List Char
  | [] => []
  | b :: bs =>
    match h : firstUnit b bs with
    | .char c r =>
      have : r.length ≤ bs.length := by simpa [h, Unit8.rest] using firstUnit_rest_length b bs
      c :: decodeLossyChars r
    | .bad _ r =>
      have : r.length ≤ bs.length := by simpa [h, Unit8.rest] using firstUnit_rest_length b bs
      '\ufffd' :: decodeLossyChars r
    | .cut => ['\ufffd']
  termination_by bs => bs.length
  decreasing_by all_goals simp; omega

/-- The text that bytes encode, with U+FFFD for each malformed unit. -/
def decodeLossy (bs : List UInt8) : String :=
  String.ofList (decodeLossyChars bs)

example : encode "aé€😀" = [0x61, 0xC3, 0xA9, 0xE2, 0x82, 0xAC, 0xF0, 0x9F, 0x98, 0x80] := by decide
example : decode (encode "aé€😀") = .ok "aé€😀" := by cbv
example : decode [0x61, 0xC3, 0x28] = .error (.invalid 1 1) := by cbv
example : decode [0xE2, 0x82] = .error (.incomplete 0) := by cbv
example : decode [0xED, 0xA0, 0x80] = .error (.invalid 1 0) := by cbv
example : decodeLossy [0x61, 0xF0, 0x9F, 0x62] = "a\ufffdb" := by cbv

end IdentityTypes.Text
