/-!
Texts as bytes. Decoding stops at the first sequence that is not well formed and tells where it begins.
-/

namespace RouteDocs.Text.Utf8

def isTail (b : UInt8) : Bool := 0x80 ≤ b && b < 0xC0

/-- the bits of a byte that goes on with a character -/
def tailBits (b : UInt8) : Nat := b.toNat - 0x80

/-- the character of a code point, and where it begins if it is none -/
def codePoint (at_ n : Nat) : Except Nat Char :=
  if h : n.isValidChar then .ok (Char.ofNatAux n h) else .error at_

def cons (c : Except Nat Char) (rest : Except Nat (List Char)) : Except Nat (List Char) :=
  match c with
  | .error e => .error e
  | .ok c => rest.map (c :: ·)

/-- decode bytes, the first of them at the given offset; an error is the offset of the sequence that is malformed -/
def decodeFrom : (offset : Nat) → List UInt8 → Except Nat (List Char)
  | _, [] => .ok []
  | i, a :: rest =>
    if a < 0x80 then cons (.ok (Char.ofNat a.toNat)) (decodeFrom (i + 1) rest)
    else match rest with
      | [] => .error i
      | b :: rest =>
        if !isTail b then .error i
        else if 0xC2 ≤ a && a < 0xE0 then
          cons (codePoint i ((a.toNat - 0xC0) * 0x40 + tailBits b)) (decodeFrom (i + 2) rest)
        else match rest with
          | [] => .error i
          | c :: rest =>
            if !isTail c then .error i
            else if 0xE0 ≤ a && a < 0xF0 then
              let n := ((a.toNat - 0xE0) * 0x40 + tailBits b) * 0x40 + tailBits c
              if n < 0x800 then .error i else cons (codePoint i n) (decodeFrom (i + 3) rest)
            else match rest with
              | [] => .error i
              | d :: rest =>
                if !isTail d then .error i
                else if 0xF0 ≤ a && a < 0xF5 then
                  let n := (((a.toNat - 0xF0) * 0x40 + tailBits b) * 0x40 + tailBits c) * 0x40 + tailBits d
                  if n < 0x10000 then .error i else cons (codePoint i n) (decodeFrom (i + 4) rest)
                else .error i

/-- the text of bytes, or the offset of the first sequence that is malformed -/
def decode (bytes : List UInt8) : Except Nat (List Char) := decodeFrom 0 bytes

def encode (s : String) : List UInt8 := s.toUTF8.toList

end RouteDocs.Text.Utf8
