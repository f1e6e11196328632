import LocalPipe.Text.Lossy

namespace LocalPipe.Text

/-- One digit of a byte's two in lower-case hexadecimal. -/
def hexDigit (n : Nat) : Char :=
  Nat.digitChar n

/-- Bytes as two hexadecimal digits each. -/
def hex (bytes : Bytes) : String :=
  String.ofList (bytes.flatMap fun b => [hexDigit (b.toNat / 16), hexDigit (b.toNat % 16)])

/-- The 64-bit FNV-1a hash of a string of bytes. -/
def fnv1a (bytes : Bytes) : UInt64 :=
  bytes.foldl (fun h b => (h ^^^ b.toUInt64) * 0x100000001b3) 0xcbf29ce484222325

/-- A number of 64 bits as sixteen hexadecimal digits. -/
def hex64 (n : UInt64) : String :=
  let digits := Nat.toDigits 16 n.toNat
  String.ofList (List.replicate (16 - digits.length) '0' ++ digits)

/-- How bytes are described: in full up to 32 of them, and beyond that by
their number, hash, and first and last eight. -/
inductive Digest where
  | full (hex : String)
  | summary (length : Nat) (fnv head tail : String)
deriving DecidableEq, Repr

def Digest.ofBytes (bytes : Bytes) : Digest :=
  if bytes.length ≤ 32 then .full (hex bytes)
  else .summary bytes.length (hex64 (fnv1a bytes)) (hex (bytes.take 8))
    (hex (bytes.drop (bytes.length - 8)))

end LocalPipe.Text
