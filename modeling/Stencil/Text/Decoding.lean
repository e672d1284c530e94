/-
Module: Stencil.Text.Decoding
Purpose: Reading text from bytes, at once or block by block.
Main exports: DecodeError, Encoding.decode, Encoding.decodeBlocks
-/
import Stencil.Text.Encoding

namespace Stencil.Text

/-- What is wrong with bytes that are no text. -/
inductive DecodeFault where
  /-- No character starts with this byte. -/
  | invalidStart
  /-- A character is broken off by a byte that does not go on with it. -/
  | invalidContinuation
  /-- The bytes end inside a character. -/
  | unexpectedEnd
  /-- The byte is no character of a small encoding. -/
  | outOfRange
deriving Repr, Inhabited, DecidableEq

/-- Bytes that are no text, from `start` up to before `stop`. -/
structure DecodeError where
  encoding : Encoding
  fault : DecodeFault
  octet : UInt8
  start : Nat
  stop : Nat
deriving Repr, Inhabited, DecidableEq

/-- The text of a fault. -/
def DecodeFault.reason (encoding : Encoding) : DecodeFault → String
  | invalidStart => "invalid start byte"
  | invalidContinuation => "invalid continuation byte"
  | unexpectedEnd => "unexpected end of data"
  | outOfRange => "ordinal not in range(" ++ integerText encoding.limit ++ ")"

/-- The text of a decoding error. -/
def DecodeError.message (error : DecodeError) : String :=
  let place :=
    if error.stop = error.start + 1 then
      "byte 0x" ++ String.ofList (hexadecimal 2 error.octet.toNat) ++ " in position "
        ++ integerText error.start
    else
      "bytes in position " ++ integerText error.start ++ "-" ++ integerText (error.stop - 1 : Nat)
  "'" ++ error.encoding.name ++ "' codec can't decode " ++ place ++ ": "
    ++ error.fault.reason error.encoding

/-- How many bytes follow the first byte of a character in UTF-8, and what the first byte itself
contributes to the code. -/
def leadByte? (octet : Nat) : Option (Nat × Nat) :=
  if octet < 0x80 then some (0, octet)
  else if octet < 0xc2 then none
  else if octet < 0xe0 then some (1, octet - 0xc0)
  else if octet < 0xf0 then some (2, octet - 0xe0)
  else if octet < 0xf5 then some (3, octet - 0xf0)
  else none

/-- Whether a byte may follow the first byte of a character directly.  The bounds leave out codes
that would fit into fewer bytes, codes that are no characters, and codes beyond the last one. -/
def isSecondByte (lead octet : Nat) : Bool :=
  let least := if lead = 0xe0 then 0xa0 else if lead = 0xf0 then 0x90 else 0x80
  let greatest := if lead = 0xed then 0x9f else if lead = 0xf4 then 0x8f else 0xbf
  least ≤ octet && octet ≤ greatest

/-- Whether a byte may stand behind the second byte of a character. -/
def isLaterByte (octet : Nat) : Bool :=
  0x80 ≤ octet && octet ≤ 0xbf

/-- What comes first in bytes that should be UTF-8. -/
inductive Leading where
  /-- A character, with the number of bytes behind its first one. -/
  | character (character : Char) (followers : Nat)
  /-- A fault that spans this many bytes. -/
  | fault (fault : DecodeFault) (span : Nat)
  /-- A character that the bytes end in. -/
  | incomplete
deriving Repr, Inhabited

/-- Read the bytes behind the first one of a character: `wanted` are missing, `passed` were read,
and `code` is the code so far. -/
def followers (isNext : Nat → Bool) (code passed : Nat) : Nat → List UInt8 → Leading
  | 0, _ => .character (Char.ofNat code) passed
  | _ + 1, [] => .incomplete
  | wanted + 1, octet :: rest =>
      if isNext octet.toNat then
        followers isLaterByte (code * 0x40 + (octet.toNat - 0x80)) (passed + 1) wanted rest
      else .fault .invalidContinuation (passed + 1)

/-- Whether these are the only two bytes left of an encoded half of a character pair.  While more
bytes may come, they count as incomplete. -/
def isCutHalf (octet : UInt8) (rest : List UInt8) : Bool :=
  octet.toNat = 0xed && (match rest with
    | [second] => 0xa0 ≤ second.toNat && second.toNat ≤ 0xbf
    | _ => false)

/-- What bytes start with in UTF-8. -/
def leading (octet : UInt8) (rest : List UInt8) : Leading :=
  match leadByte? octet.toNat with
  | none => .fault .invalidStart 1
  | some (wanted, code) => followers (isSecondByte octet.toNat) code 0 wanted rest

/-- Put a character in front of a decoded text. -/
def prependCharacter (character : Char) (decoded : List Char × List UInt8) :
    List Char × List UInt8 :=
  (character :: decoded.1, decoded.2)

/-- Decode UTF-8 from a position on.  Unless the bytes are the last ones, those of an incomplete
character at the end are left over. -/
def decodeUtf8 (isLast : Bool) (position : Nat) (octets : List UInt8) :
    Except DecodeError (List Char × List UInt8) :=
  match octets with
  | [] => .ok ([], [])
  | octet :: rest =>
      let fail (fault : DecodeFault) (span : Nat) : Except DecodeError (List Char × List UInt8) :=
        .error ⟨.utf8, fault, octet, position, position + span⟩
      match leading octet rest with
      | .character character count =>
          (decodeUtf8 isLast (position + 1 + count) (rest.drop count)).map
            (prependCharacter character)
      | .fault fault span =>
          if !isLast && isCutHalf octet rest then .ok ([], octet :: rest) else fail fault span
      | .incomplete =>
          if isLast then fail .unexpectedEnd (rest.length + 1) else .ok ([], octet :: rest)
termination_by octets.length
decreasing_by
  simp only [List.length_drop, List.length_cons]
  omega

/-- Decode bytes that are one character each. -/
def decodeSingleBytes (encoding : Encoding) (position : Nat) :
    List UInt8 → Except DecodeError (List Char)
  | [] => .ok []
  | octet :: rest =>
      if octet.toNat < encoding.limit then
        (decodeSingleBytes encoding (position + 1) rest).map (Char.ofNat octet.toNat :: ·)
      else .error ⟨encoding, .outOfRange, octet, position, position + 1⟩

/-- Decode a block of bytes; what is left over belongs to the next block. -/
def Encoding.decodeBlock (encoding : Encoding) (isLast : Bool) (octets : List UInt8) :
    Except DecodeError (List Char × List UInt8) :=
  match encoding with
  | .utf8 => decodeUtf8 isLast 0 octets
  | _ => (decodeSingleBytes encoding 0 octets).map fun text => (text, [])

/-- Decode bytes at once. -/
def Encoding.decode (encoding : Encoding) (octets : List UInt8) : Except DecodeError (List Char) :=
  (encoding.decodeBlock true octets).map (·.1)

/-- The number of bytes that are read from a file at a time. -/
def blockSize : Nat := 8192

/-- Cut bytes into blocks. -/
def cutBlocks (octets : List UInt8) : List (List UInt8) :=
  match octets with
  | [] => []
  | octet :: rest =>
      (octet :: rest.take (blockSize - 1)) :: cutBlocks (rest.drop (blockSize - 1))
termination_by octets.length
decreasing_by
  simp only [List.length_drop, List.length_cons]
  omega

/-- Decode blocks one after another, up to the first error.  `left` is left over from before; the
positions of an error count from there.  Only the text of whole blocks is kept. -/
def Encoding.decodeBlocks (encoding : Encoding) (left : List UInt8) :
    List (List UInt8) → List Char × Option DecodeError
  | [] =>
      match encoding.decodeBlock true left with
      | .ok (text, _) => (text, none)
      | .error error => ([], some error)
  | block :: later =>
      match encoding.decodeBlock false (left ++ block) with
      | .ok (text, next) =>
          let (rest, error?) := encoding.decodeBlocks next later
          (text ++ rest, error?)
      | .error error => ([], some error)

/-- The text of a file that is read block by block, up to the first error. -/
def Encoding.decodeFile (encoding : Encoding) (octets : List UInt8) :
    List Char × Option DecodeError :=
  encoding.decodeBlocks [] (cutBlocks octets)

end Stencil.Text
