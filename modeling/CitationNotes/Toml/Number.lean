import CitationNotes.Text.Search
import CitationNotes.Toml.Str
import CitationNotes.Toml.Value

/-!
Numbers, dates and times.

A literal reaches as far as its characters go, and then all of it has to have one of the forms
of a number or a moment. Integers must fit 64 bits with a sign, and a float must not be so
large that a double of that sign would be infinite; the sign that is looked at is plus.
-/

namespace CitationNotes.Toml

def isLiteralChar (c : Char) : Bool :=
  c.isAlphanum || c == '+' || c == '-' || c == '.' || c == '_' || c == ':'

/-- Whether the text is digits of a kind, with single underscores between digits. -/
def areDigits (isDigit : Char → Bool) (t : Text) : Bool :=
  (t.splitOn '_').all fun part => !part.isEmpty && part.all isDigit

def withoutSign : Text → Text
  | '+' :: t => t
  | '-' :: t => t
  | t => t

/-- Digits without needless zeros in front. -/
def isDecimal (t : Text) : Bool :=
  areDigits Char.isDigit t && (t.length == 1 || t.head? != some '0')

/-- The number that digits stand for, underscores aside. -/
def digitsValue (base : Nat) (t : Text) : Nat :=
  (t.filterMap hexValue?).foldl (fun n d => base * n + d) 0

/-- The first number that no integer reaches; its negative is the lowest integer. -/
def integerBound : Nat := Nat.pow 2 63

def isInteger (t : Text) : Bool :=
  match t with
  | '0' :: 'x' :: t =>
    areDigits (fun c => (hexValue? c).isSome) t && digitsValue 16 t < integerBound
  | '0' :: 'o' :: t =>
    areDigits (fun c => '0' ≤ c && c ≤ '7') t && digitsValue 8 t < integerBound
  | '0' :: 'b' :: t =>
    areDigits (fun c => c == '0' || c == '1') t && digitsValue 2 t < integerBound
  | '-' :: t => isDecimal t && digitsValue 10 t ≤ integerBound
  | t => isDecimal (withoutSign t) && digitsValue 10 (withoutSign t) < integerBound

/-- The parts in front of and behind the exponent sign. -/
def atExponent (t : Text) : Text × Option Text :=
  match Text.cutAt? 'e' t, Text.cutAt? 'E' t with
  | some (m, e), _ => (m, some e)
  | none, some (m, e) => (m, some e)
  | none, none => (t, none)

/-- Whether `digits` with the point moved by `exponent` places to the right is at least halfway
from the largest double to the next power of two. -/
def isTooLarge (digits : Text) (exponent : Int) : Bool :=
  let value := digitsValue 10 digits
  let size : Int := (Nat.toDigits 10 value).length + exponent
  let bound := Nat.pow 2 1024 - Nat.pow 2 970
  if value == 0 || size < 308 then false
  else if 310 < size then true
  else if 0 ≤ exponent then bound ≤ value * Nat.pow 10 exponent.toNat
  else bound * Nat.pow 10 (-exponent).toNat ≤ value

def isFloat (t : Text) : Bool :=
  let (mantissa, exponent) := atExponent t
  let (whole, fraction) :=
    match Text.cutAt? '.' mantissa with
    | some (w, f) => (w, some f)
    | none => (mantissa, none)
  let digits := withoutSign whole ++ fraction.getD []
  let shift : Int :=
    match exponent with
    | some ('-' :: e) => -(digitsValue 10 e : Int)
    | some e => digitsValue 10 (withoutSign e)
    | none => 0
  let places : Int := ((fraction.getD []).filter Char.isDigit).length
  (fraction.isSome || exponent.isSome) && isDecimal (withoutSign whole) &&
    fraction.all (areDigits Char.isDigit) &&
    exponent.all (fun e => areDigits Char.isDigit (withoutSign e)) &&
    (t.head? == some '-' || !isTooLarge digits (shift - places))

def isSpecialFloat (t : Text) : Bool :=
  withoutSign t == "inf".toList || withoutSign t == "nan".toList

/-! ### Dates and times -/

/-- A number of exactly `n` digits. -/
def fixed? : (n value : Nat) → Reader Nat
  | 0, value, t => some (value, t)
  | _ + 1, _, [] => none
  | n + 1, value, c :: t =>
    if c.isDigit then fixed? n (10 * value + (c.toNat - 48)) t else none

def expect? (c : Char) : Text → Option Text
  | [] => none
  | d :: t => if c = d then some t else none

def daysInMonth (year month : Nat) : Nat :=
  if month = 2 then
    if year % 4 = 0 && (year % 100 != 0 || year % 400 == 0) then 29 else 28
  else if month = 4 || month = 6 || month = 9 || month = 11 then 30
  else 31

/-- What follows a date. -/
def date? (t : Text) : Option Text := do
  let (year, t) ← fixed? 4 0 t
  let (month, t) ← fixed? 2 0 (← expect? '-' t)
  let (day, t) ← fixed? 2 0 (← expect? '-' t)
  if 1 ≤ month && month ≤ 12 && 1 ≤ day && day ≤ daysInMonth year month then some t else none

/-- What follows an hour and a minute. -/
def clock? (t : Text) : Option Text := do
  let (hour, t) ← fixed? 2 0 t
  let (minute, t) ← fixed? 2 0 (← expect? ':' t)
  if hour ≤ 23 && minute ≤ 59 then some t else none

/-- What follows a time of day. -/
def time? (t : Text) : Option Text := do
  let (second, t) ← fixed? 2 0 (← expect? ':' (← clock? t))
  if second ≤ 60 then
    match t with
    | '.' :: t =>
      if (t.takeWhile Char.isDigit).isEmpty then none else some (t.dropWhile Char.isDigit)
    | t => some t
  else none

/-- Whether the text is the distance from universal time, or nothing. -/
def isOffset : Text → Bool
  | [] => true
  | ['Z'] => true
  | ['z'] => true
  | '+' :: t => clock? t == some []
  | '-' :: t => clock? t == some []
  | _ => false

def isZonedTime (t : Text) : Bool := (time? t).any isOffset

def isDate (t : Text) : Bool := date? t == some []

/-- Whether the text is a date, a time, or a date and a time with a letter between them. -/
def isMoment (t : Text) : Bool :=
  time? t == some [] ||
    match date? t with
    | some [] => true
    | some ('T' :: t) => isZonedTime t
    | some ('t' :: t) => isZonedTime t
    | _ => false

/-- A literal that is neither string, array nor table. A blank may stand between a date and a
time. -/
def literalValue? (t : Text) : Option (Value × Text) :=
  let word := t.takeWhile isLiteralChar
  let rest := t.dropWhile isLiteralChar
  if word = "true".toList then some (.boolean true, rest)
  else if word = "false".toList then some (.boolean false, rest)
  else if isInteger word || isFloat word || isSpecialFloat word then some (.number word, rest)
  else if isMoment word then
    match rest with
    | ' ' :: t' =>
      let time := t'.takeWhile isLiteralChar
      if isDate word && isZonedTime time then
        some (.moment (word ++ ' ' :: time), t'.dropWhile isLiteralChar)
      else some (.moment word, rest)
    | _ => some (.moment word, rest)
  else none

end CitationNotes.Toml
