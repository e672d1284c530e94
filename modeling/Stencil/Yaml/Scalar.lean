/-
Module: Stencil.Yaml.Scalar
Purpose: What plain scalars of YAML stand for.
Main exports: Fault, Fault.message, resolveScalar
-/
import Stencil.Number.DigitLimit
import Stencil.Number.Reading
import Stencil.Value.Basic

namespace Stencil.Yaml

/-- Why a text cannot be read as YAML. -/
inductive Fault where
  /-- The text is no document. -/
  | malformed
  /-- A mapping has a key twice. -/
  | duplicateKey
  /-- There is no such year. -/
  | noYear (year : Nat)
  /-- There is no such month. -/
  | noMonth
  /-- The month has no such day. -/
  | noDay
  /-- An integer is written without digits. -/
  | noInteger (base : Nat)
  /-- An integer has more digits than can be read. -/
  | tooManyDigits (count : Nat)
  /-- A number with a point is written without digits. -/
  | noDouble (written : String)
  /-- No character has this code. -/
  | noCharacter
deriving Repr, Inhabited, DecidableEq

namespace Fault

/-- The text of a fault. -/
def message : Fault → String
  | malformed => "malformed document"
  | duplicateKey => "duplicate key"
  | noYear year => "year " ++ integerText year ++ " is out of range"
  | noMonth => "month must be in 1..12"
  | noDay => "day is out of range for month"
  | noInteger base => "invalid literal for int() with base " ++ integerText base ++ ": ''"
  | tooManyDigits count => (DigitFault.reading count).message
  | noCharacter => "chr() arg not in range(0x110000)"
  | noDouble written => "could not convert string to float: '" ++ written ++ "'"

/-- Whether the text is no YAML at all, as opposed to a value that cannot be. -/
def isSyntax : Fault → Bool
  | malformed | duplicateKey => true
  | _ => false

end Fault

/-- Whether a character is a digit of a base up to sixteen. -/
def isBaseDigit (base : Nat) (character : Char) : Bool :=
  (character.isDigit && character.toNat - 48 < base)
    || (base = 16 && (('a' ≤ character && character ≤ 'f') || ('A' ≤ character && character ≤ 'F')))

/-- The value of a digit. -/
def baseDigitValue (character : Char) : Nat :=
  if character.isDigit then character.toNat - 48 else character.toLower.toNat - 87

/-- The value of digits of a base; underscores between them count for nothing. -/
def readBase? (base : Nat) (characters : List Char) : Option Nat :=
  let digits := characters.filter (· != '_')
  if !digits.isEmpty && digits.all (isBaseDigit base) then
    some (digits.foldl (fun value digit => value * base + baseDigitValue digit) 0)
  else none

/-- Split the mark of a base off a magnitude: the base, and its digits. -/
def splitBase : List Char → Nat × List Char
  | '0' :: 'b' :: rest => (2, rest)
  | '0' :: 'o' :: rest => (8, rest)
  | '0' :: 'x' :: rest => (16, rest)
  | characters => (10, characters)

/-- An integer, if the text is written as one: an optional sign, and digits with underscores anywhere
among them, but for the first place.  It may turn out to have no digits. -/
def scalarInteger? (characters : List Char) : Option (Except Fault Int) :=
  let (negative, magnitude) := splitSign characters
  let (base, digits) := splitBase magnitude
  if digits.isEmpty || characters.head? == some '_'
      || !digits.all (fun digit => digit == '_' || isBaseDigit base digit) then none
  else
    match readBase? base digits with
    | some value =>
        let written := digits.filter (· != '_')
        if base = 10 && digitLimit < written.length then some (.error (.tooManyDigits written.length))
        else some (.ok (if negative then -(value : Int) else value))
    | none => some (.error (.noInteger base))

/-- Whether a character is an ASCII digit or an underscore. -/
def isDigitOrUnderscore (character : Char) : Bool :=
  character.isDigit || character == '_'

/-- Whether text is nothing, or an exponent: a mark, a sign and digits.  The sign may be left out
only where `signOptional` says so. -/
def isExponent (signOptional : Bool) : List Char → Bool
  | [] => true
  | mark :: rest =>
      let (hasSign, digits) := match rest with
        | '-' :: digits | '+' :: digits => (true, digits)
        | digits => (false, digits)
      (mark == 'e' || mark == 'E') && (hasSign || signOptional) && !digits.isEmpty
        && digits.all Char.isDigit

/-- Whether text is an unsigned number with a point or an exponent.  In front of a point or an
exponent the first place is a digit; behind a point with nothing in front, underscores alone are
enough. -/
def isDecimal (characters : List Char) : Bool :=
  let whole := characters.takeWhile isDigitOrUnderscore
  match characters.dropWhile isDigitOrUnderscore with
  | '.' :: rest =>
      let fraction := rest.takeWhile isDigitOrUnderscore
      let exponent := rest.dropWhile isDigitOrUnderscore
      if whole.isEmpty then !fraction.isEmpty && isExponent false exponent
      else whole.head?.any Char.isDigit && isExponent true exponent
  | [] => false
  | exponent => whole.head?.any Char.isDigit && isExponent true exponent

/-- A double-precision number, if the text is written as one: with a point or an exponent, or as a
word for infinity or for no number.  It may turn out to have no digits. -/
def scalarDouble? (characters : List Char) : Option (Except Fault Double) :=
  let (negative, magnitude) := splitSign characters
  let word := String.ofList magnitude
  if word == ".inf" || word == ".Inf" || word == ".INF" then
    some (.ok (Double.signedInfinity negative))
  else if characters == magnitude && (word == ".nan" || word == ".NaN" || word == ".NAN") then
    some (.ok Double.nan)
  else if isDecimal magnitude then
    let digits := Text.lowerAscii (magnitude.filter (· != '_'))
    match readDecimalLiteral? digits with
    | some decimal => some (.ok (Double.ofDecimal negative decimal))
    | none => some (.error (.noDouble (String.ofList digits)))
  else none

/-- The number of days of a month. -/
def daysOfMonth (year month : Nat) : Nat :=
  if month = 2 then
    if year % 4 = 0 && (year % 100 != 0 || year % 400 = 0) then 29 else 28
  else if month = 4 || month = 6 || month = 9 || month = 11 then 30
  else 31

/-- A date, if there is one. -/
def checkDate (year month day : Nat) : Except Fault Value :=
  if year = 0 then .error (.noYear year)
  else if month = 0 || 12 < month then .error .noMonth
  else if day = 0 || daysOfMonth year month < day then .error .noDay
  else .ok (.date year month day)

/-- Read a date: four digits of the year, two of the month and two of the day, with hyphens
between. -/
def readDate? : List Char → Option (Nat × Nat × Nat)
  | [y1, y2, y3, y4, '-', m1, m2, '-', d1, d2] => do
      let year ← readBase? 10 [y1, y2, y3, y4]
      let month ← readBase? 10 [m1, m2]
      let day ← readBase? 10 [d1, d2]
      if [y1, y2, y3, y4, m1, m2, d1, d2].all Char.isDigit then some (year, month, day) else none
  | _ => none

/-- The value of a plain scalar: null, a boolean, a number or a date where it is written as one, and
otherwise the text itself. -/
def resolveScalar (characters : List Char) : Except Fault Value :=
  let word := String.ofList characters
  if ["", "~", "null", "Null", "NULL"].contains word then .ok .null
  else if ["true", "True", "TRUE"].contains word then .ok (.boolean true)
  else if ["false", "False", "FALSE"].contains word then .ok (.boolean false)
  else
    match scalarDouble? characters with
    | some number => number.map .double
    | none =>
        match scalarInteger? characters with
        | some number => number.map .integer
        | none =>
            match readDate? characters with
            | some (year, month, day) => checkDate year month day
            | none => .ok (.text word)

end Stencil.Yaml
