import Responsive.Binary64.Text
import Responsive.Json.Basic
import Responsive.Json.Outline
import Responsive.Text.Decimal

/-!
# Scalars of TOML

Truth values, integers in four bases, floats, and dates and times. Underscores may stand between the
digits of numbers. An integer must fit 64 signed bits, and a float must not round to an infinity
that it does not name. Dates and times are kept as texts in a normal form.
-/

set_option autoImplicit false
set_option relaxedAutoImplicit false

namespace Responsive.Toml

open Text Binary64

/-- The digits of a number, freed from single underscores between them. -/
def digits? (isDigit : Char → Bool) (s : List Char) : Option (List Char) :=
  let groups := s.splitOn '_'
  if groups.all fun group ↦ !group.isEmpty && group.all isDigit then some groups.flatten else none

/-- The digits of a decimal number, which does not begin with a needless zero. -/
def decimalDigits? (s : List Char) : Option (List Char) :=
  match digits? Char.isDigit s with
  | some ('0' :: _ :: _) => none
  | found => found

/-- The value of digits in a base. -/
def valueIn (base : Nat) (digits : List Char) : Nat :=
  digits.foldl (fun n c ↦ base * n + (Json.hexValue? c).getD 0) 0

/-- The least natural number that does not fit 64 signed bits. -/
def integerLimit : Nat := Nat.pow 2 63

/-- An integer that fits 64 signed bits. -/
def boxed? (n : Int) : Option Json :=
  if -(integerLimit : Int) ≤ n ∧ n < integerLimit then some (.int n) else none

/-- Reads an integer. -/
def integer? (s : List Char) : Option Json :=
  match s with
  | '0' :: 'x' :: s =>
    (digits? (fun c ↦ (Json.hexValue? c).isSome) s).bind fun ds ↦ boxed? (valueIn 16 ds)
  | '0' :: 'o' :: s =>
    (digits? (fun c ↦ '0' ≤ c && c ≤ '7') s).bind fun ds ↦ boxed? (valueIn 8 ds)
  | '0' :: 'b' :: s =>
    (digits? (fun c ↦ c == '0' || c == '1') s).bind fun ds ↦ boxed? (valueIn 2 ds)
  | s =>
    let (negative, s) := signed s
    (decimalDigits? s).bind fun ds ↦
      boxed? (if negative then -(digitsValue ds : Int) else digitsValue ds)

/-- The float nearest to `digits * 10 ^ exponent`; `none` if that is infinite. -/
def rounded? (negative : Bool) (digits : List Char) (exponent : Int) : Option Binary64 :=
  let x := Binary64.ofDigits negative digits exponent
  if x.isFinite then some x else none

/-- The signed value of an exponent, `0` if there is none. -/
def exponent? (s : List Char) : Option Int :=
  match s with
  | [] => some 0
  | _ :: s =>
    let (negative, s) := signed s
    (digits? Char.isDigit s).map fun ds ↦
      if negative then -(digitsValue ds : Int) else digitsValue ds

/-- The digits behind a point, none if there is no point. -/
def fraction? (s : List Char) : Option (List Char) :=
  match s with
  | [] => some []
  | _ :: s => digits? Char.isDigit s

/-- Whether an exponent begins. -/
def isExponentMark (c : Char) : Bool :=
  c == 'e' || c == 'E'

/-- Reads a float: a number with a fraction or an exponent, or one of the two names. -/
def float? (s : List Char) : Option Json := do
  let (negative, s) := signed s
  if s = ['i', 'n', 'f'] then return .number (.float (.infinite negative))
  if s = ['n', 'a', 'n'] then return .number (.float .nan)
  if !s.any fun c ↦ c == '.' || isExponentMark c then none
  let significand := s.takeWhile (!isExponentMark ·)
  let whole ← decimalDigits? (significand.takeWhile (· != '.'))
  let fraction ← fraction? (significand.dropWhile (· != '.'))
  let exponent ← exponent? (s.dropWhile (!isExponentMark ·))
  let x ← rounded? negative (whole ++ fraction) (exponent - fraction.length)
  return .number (.float x)

/-- Exactly `width` digits as a number. -/
def field? (width : Nat) (s : List Char) : Option Nat :=
  if s.length = width then readNat? s else none

/-- The number of days in a month. -/
def monthDays (year month : Nat) : Nat :=
  if month = 2 then
    if year % 4 = 0 ∧ (year % 100 ≠ 0 ∨ year % 400 = 0) then 29 else 28
  else if month = 4 ∨ month = 6 ∨ month = 9 ∨ month = 11 then 30
  else 31

/-- Whether a text is a date. -/
def isDate (s : List Char) : Bool :=
  match s.splitOn '-' with
  | [y, m, d] =>
    match field? 4 y, field? 2 m, field? 2 d with
    | some y, some m, some d => 1 ≤ m && m ≤ 12 && 1 ≤ d && d ≤ monthDays y m
    | _, _, _ => false
  | _ => false

/-- Whether a text is an hour and a minute. -/
def isHourMinute (h m : List Char) : Bool :=
  match field? 2 h, field? 2 m with
  | some h, some m => h ≤ 23 && m ≤ 59
  | _, _ => false

/-- A text without zeros at its end. -/
def trimZeros (s : List Char) : List Char :=
  (s.reverse.dropWhile (· == '0')).reverse

/-- The fraction of a second with its point, if there is one. Nine digits count, and of the zeros
at their end only one that stands alone is kept. -/
def secondFraction? (s : List Char) : Option (List Char) :=
  match s with
  | [] => some []
  | _ :: ds =>
    if (readNat? ds).isNone then none
    else
      let kept := trimZeros (ds.take 9)
      some ('.' :: if kept.isEmpty then ['0'] else kept)

/-- Reads a time of day, which may end with its minutes. -/
def time? (s : List Char) : Option (List Char) :=
  let clock := s.takeWhile (· != '.')
  match clock.splitOn ':', s.dropWhile (· != '.') with
  | [h, m], [] => if isHourMinute h m then some clock else none
  | [h, m, sec], fraction =>
    if isHourMinute h m && (field? 2 sec).any (· ≤ 60) then
      (secondFraction? fraction).map (clock ++ ·)
    else none
  | _, _ => none

/-- Reads a distance from universal time behind its sign; no distance is never negative. -/
def offset? (sign : Char) (s : List Char) : Option (List Char) :=
  match s.splitOn ':' with
  | [h, m] =>
    if isHourMinute h m then some ((if (h ++ m).all (· == '0') then '+' else sign) :: s) else none
  | _ => none

/-- Reads a time of day with an offset from universal time, if there is one. -/
def zoned? (s : List Char) : Option (List Char) :=
  let isMark (c : Char) := c == 'Z' || c == 'z' || c == '+' || c == '-'
  let time := s.takeWhile (!isMark ·)
  match s.dropWhile (!isMark ·) with
  | [] => time? time
  | ['Z'] | ['z'] => (time? time).map (· ++ ['Z'])
  | mark :: offset =>
    if mark == '+' || mark == '-' then do
      let offset ← offset? mark offset
      some ((← time? time) ++ offset)
    else none

/-- Reads a date, a time of day, or both with a letter or a space between them. -/
def moment? (s : List Char) : Option (List Char) :=
  let date := s.take 10
  if isDate date then
    match s.drop 10 with
    | [] => some date
    | c :: time =>
      if c == 'T' || c == 't' || c == ' ' then (zoned? time).map (date ++ 'T' :: ·) else none
  else time? s

/-- Reads a scalar that is no string. -/
def scalar? (s : List Char) : Option Json :=
  match s with
  | ['t', 'r', 'u', 'e'] => some (.bool true)
  | ['f', 'a', 'l', 's', 'e'] => some (.bool false)
  | s => integer? s <|> float? s <|> (moment? s).map fun chars ↦ .text (.ofList chars)

/-- A character of a scalar. -/
def isScalarChar (c : Char) : Bool :=
  c.isAlphanum || c == '_' || c == '+' || c == '-' || c == '.' || c == ':'

/-- The characters of a scalar at the front of a text: one word, or a date and a time with a space
between them. -/
def scalarSpan (s : List Char) : List Char × List Char :=
  let word := s.takeWhile isScalarChar
  let rest := s.dropWhile isScalarChar
  match rest with
  | ' ' :: d :: tail =>
    if isDate word && d.isDigit then
      (word ++ ' ' :: (d :: tail).takeWhile isScalarChar, (d :: tail).dropWhile isScalarChar)
    else (word, rest)
  | _ => (word, rest)

end Responsive.Toml
