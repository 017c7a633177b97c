import LayoutQuery.Text.Decimal
import LayoutQuery.Text.Quoted

/-! # UTF-8
Encoding text as bytes, and decoding that stops at the first sequence that is not well formed and
says which bytes are at fault. -/
namespace LayoutQuery.Text

inductive Utf8Reason where
  | invalidStart
  | invalidContinuation
  | unexpectedEnd
  deriving DecidableEq, Repr

def Utf8Reason.message : Utf8Reason → String
  | .invalidStart => "invalid start byte"
  | .invalidContinuation => "invalid continuation byte"
  | .unexpectedEnd => "unexpected end of data"

/-- The `width` bytes from `offset` on, of which `lead` is the first, are no character. -/
structure Utf8Fault where
  reason : Utf8Reason
  offset : Nat
  width : Nat
  lead : UInt8
  deriving DecidableEq, Repr

def Utf8Fault.message (f : Utf8Fault) : String :=
  let bytes :=
    if f.width = 1 then
      "byte 0x" ++ String.ofList (hex 2 f.lead.toNat) ++ " in position " ++ natural f.offset
    else "bytes in position " ++ natural f.offset ++ "-" ++ natural (f.offset + f.width - 1)
  "'utf-8' codec can't decode " ++ bytes ++ ": " ++ f.reason.message

def isContinuation (b : UInt8) : Bool := 0x80 ≤ b && b < 0xC0

/-- The second bytes that may follow the lead byte of three or four: none that would spell a
character in more bytes than it needs, a surrogate, or a code point past the last. -/
def isSecond (lead b : UInt8) : Bool :=
  isContinuation b && !(lead == 0xE0 && b < 0xA0) && !(lead == 0xED && 0xA0 ≤ b) &&
    !(lead == 0xF0 && b < 0x90) && !(lead == 0xF4 && 0x90 ≤ b)

/-- The character of a lead value and the continuation bytes after it. -/
def assemble (lead : Nat) (rest : List UInt8) : Char :=
  Char.ofNat (rest.foldl (fun n b => 64 * n + (b.toNat - 0x80)) lead)

/-- Decodes the bytes that stand `offset` bytes into the whole. -/
def decodeFrom (offset : Nat) : List UInt8 → Except Utf8Fault (List Char)
  | [] => .ok []
  | a :: bytes =>
    if a < 0x80 then (Char.ofNat a.toNat :: ·) <$> decodeFrom (offset + 1) bytes
    else if a < 0xC2 || 0xF5 ≤ a then .error ⟨.invalidStart, offset, 1, a⟩
    else
      match bytes with
      | [] => .error ⟨.unexpectedEnd, offset, 1, a⟩
      | b :: bytes =>
        if !isSecond a b then .error ⟨.invalidContinuation, offset, 1, a⟩
        else if a < 0xE0 then
          (assemble (a.toNat - 0xC0) [b] :: ·) <$> decodeFrom (offset + 2) bytes
        else
          match bytes with
          | [] => .error ⟨.unexpectedEnd, offset, 2, a⟩
          | c :: bytes =>
            if !isContinuation c then .error ⟨.invalidContinuation, offset, 2, a⟩
            else if a < 0xF0 then
              (assemble (a.toNat - 0xE0) [b, c] :: ·) <$> decodeFrom (offset + 3) bytes
            else
              match bytes with
              | [] => .error ⟨.unexpectedEnd, offset, 3, a⟩
              | d :: bytes =>
                if !isContinuation d then .error ⟨.invalidContinuation, offset, 3, a⟩
                else (assemble (a.toNat - 0xF0) [b, c, d] :: ·) <$> decodeFrom (offset + 4) bytes

def decode (bytes : List UInt8) : Except Utf8Fault (List Char) := decodeFrom 0 bytes

def encodeChar (c : Char) : List UInt8 :=
  let n := c.toNat
  if n < 0x80 then [UInt8.ofNat n]
  else if n < 0x800 then [UInt8.ofNat (0xC0 + n / 64), UInt8.ofNat (0x80 + n % 64)]
  else if n < 0x10000 then
    [UInt8.ofNat (0xE0 + n / 4096), UInt8.ofNat (0x80 + n / 64 % 64), UInt8.ofNat (0x80 + n % 64)]
  else
    [UInt8.ofNat (0xF0 + n / 262144), UInt8.ofNat (0x80 + n / 4096 % 64),
      UInt8.ofNat (0x80 + n / 64 % 64), UInt8.ofNat (0x80 + n % 64)]

def encode (cs : List Char) : List UInt8 := cs.flatMap encodeChar

end LayoutQuery.Text
