namespace LocalPipe

/-- A string of bytes. -/
abbrev Bytes := List UInt8

namespace Text

/-- The character shown in place of bytes that are no text. -/
def replacement : Char := '\uFFFD'

/-- Whether a byte continues a character. -/
def isTail (b : UInt8) : Bool :=
  0x80 ≤ b && b ≤ 0xBF

/-- Whether a byte may come second after the first byte of a character of
three bytes: nothing shorter would do, and it is no surrogate. -/
def isSecondOfThree (first b : UInt8) : Bool :=
  (if first = 0xE0 then 0xA0 else 0x80) ≤ b && b ≤ (if first = 0xED then 0x9F else 0xBF)

/-- Whether a byte may come second after the first byte of a character of
four bytes: nothing shorter would do, and the code space is not left. -/
def isSecondOfFour (first b : UInt8) : Bool :=
  (if first = 0xF0 then 0x90 else 0x80) ≤ b && b ≤ (if first = 0xF4 then 0x8F else 0xBF)

/-- The character of a first byte, less its marker, and the bytes after it,
of which each carries six bits. -/
def assemble (lead : Nat) (tails : Bytes) : Char :=
  Char.ofNat (tails.foldl (fun n b => n * 64 + (b.toNat - 0x80)) lead)

/-- Bytes read as UTF-8. Where they are none, each longest beginning of a
character, or else the single byte, is shown as one replacement. -/
def lossyChars : Bytes → List Char
  | [] => []
  | a :: rest =>
    if a < 0x80 then Char.ofNat a.toNat :: lossyChars rest
    else if 0xC2 ≤ a && a ≤ 0xDF then
      match rest with
      | b :: r =>
        if isTail b then assemble (a.toNat - 0xC0) [b] :: lossyChars r
        else replacement :: lossyChars (b :: r)
      | [] => [replacement]
    else if 0xE0 ≤ a && a ≤ 0xEF then
      match rest with
      | b :: r =>
        if isSecondOfThree a b then
          match r with
          | c :: s =>
            if isTail c then assemble (a.toNat - 0xE0) [b, c] :: lossyChars s
            else replacement :: lossyChars (c :: s)
          | [] => [replacement]
        else replacement :: lossyChars (b :: r)
      | [] => [replacement]
    else if 0xF0 ≤ a && a ≤ 0xF4 then
      match rest with
      | b :: r =>
        if isSecondOfFour a b then
          match r with
          | c :: s =>
            if isTail c then
              match s with
              | d :: t =>
                if isTail d then assemble (a.toNat - 0xF0) [b, c, d] :: lossyChars t
                else replacement :: lossyChars (d :: t)
              | [] => [replacement]
            else replacement :: lossyChars (c :: s)
          | [] => [replacement]
        else replacement :: lossyChars (b :: r)
      | [] => [replacement]
    else replacement :: lossyChars rest

/-- A file name as it is shown. -/
def lossy (name : Bytes) : String :=
  String.ofList (lossyChars name)

end Text

end LocalPipe
