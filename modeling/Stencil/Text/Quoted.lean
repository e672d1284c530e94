/-
Module: Stencil.Text.Quoted
Purpose: Quoted text and quoted bytes, with escapes for what cannot be shown.
Main exports: quoted, quotedBytes
-/
import Stencil.Text.Printable

namespace Stencil.Text

/-- The hexadecimal digits of a number, padded with zeros to a width. -/
def hexadecimal (width value : Nat) : List Char :=
  let digits := Nat.toDigits 16 value
  List.replicate (width - digits.length) '0' ++ digits

/-- The escape of a character by its code: two, four or eight hexadecimal digits. -/
def codeEscape (code : Nat) : List Char :=
  if code < 0x100 then '\\' :: 'x' :: hexadecimal 2 code
  else if code < 0x10000 then '\\' :: 'u' :: hexadecimal 4 code
  else '\\' :: 'U' :: hexadecimal 8 code

/-- The single quote, unless the text holds single quotes and no double quotes. -/
def quoteFor (text : List Char) : Char :=
  if text.contains '\'' && !text.contains '"' then '"' else '\''

/-- One character inside quotes. -/
def quotedCharacter (quote character : Char) : List Char :=
  if character == quote || character == '\\' then ['\\', character]
  else if character == '\n' then ['\\', 'n']
  else if character == '\r' then ['\\', 'r']
  else if character == '\t' then ['\\', 't']
  else if isPrintable character then [character]
  else codeEscape character.toNat

/-- A text in quotes, on one line. -/
def quoted (text : List Char) : List Char :=
  let quote := quoteFor text
  quote :: text.flatMap (quotedCharacter quote) ++ [quote]

/-- One byte inside quotes: only the printable ones of ASCII stand for themselves. -/
def quotedByte (quote : Char) (byte : UInt8) : List Char :=
  let character := Char.ofNat byte.toNat
  if byte.toNat < 0x80 then quotedCharacter quote character else codeEscape byte.toNat

/-- Bytes in quotes, marked by a `b` in front. -/
def quotedBytes (octets : List UInt8) : List Char :=
  let quote := quoteFor (octets.map fun byte => Char.ofNat byte.toNat)
  'b' :: quote :: octets.flatMap (quotedByte quote) ++ [quote]

end Stencil.Text
