/-!
# Numbers and dates of TOML

The shapes of values that are written without quotes. Numbers are only recognized, with a check of
their range, and their values are not kept; `datetimeText` brings dates and times into one form.
-/

namespace MarkdownHtml.Toml

/-- Digits with single underscores between digits. -/
def isDigits (isDigit : Char → Bool) : List Char → Bool
  | [] => false
  | [c] => isDigit c
  | '_' :: _ => false
  | c :: '_' :: rest => isDigit c && isDigits isDigit rest
  | c :: rest => isDigit c && isDigits isDigit rest

/-- A word without its sign. -/
def unsigned : List Char → List Char
  | '+' :: rest => rest
  | '-' :: rest => rest
  | word => word

/-- Decimal digits without a needless zero in front. -/
def isDecimal (word : List Char) : Bool :=
  isDigits Char.isDigit word && (word.head? != some '0' || word.length == 1)

/-- A hexadecimal digit. -/
def isHexDigit (c : Char) : Bool := c.isDigit || ('a' ≤ c && c ≤ 'f') || ('A' ≤ c && c ≤ 'F')

/-- The number that digits of a base write, underscores left out. -/
def digitsValue (base : Nat) (cs : List Char) : Nat :=
  cs.foldl (fun n c =>
    if c.isDigit then base * n + (c.toNat - '0'.toNat)
    else if c.isAlpha then base * n + (c.toLower.toNat - 'a'.toNat + 10)
    else n) 0

/-- Whether a word is an integer in one of the four bases; only decimal ones have signs. It must fit
into 128 bits, as a signed number if it is negative. -/
def isInteger : List Char → Bool
  | '0' :: 'x' :: rest => isDigits isHexDigit rest && digitsValue 16 rest < Nat.pow 2 128
  | '0' :: 'o' :: rest =>
    isDigits (fun c => '0' ≤ c && c ≤ '7') rest && digitsValue 8 rest < Nat.pow 2 128
  | '0' :: 'b' :: rest =>
    isDigits (fun c => c == '0' || c == '1') rest && digitsValue 2 rest < Nat.pow 2 128
  | word =>
    let limit := if word.head? = some '-' then Nat.pow 2 127 + 1 else Nat.pow 2 128
    isDecimal (unsigned word) && digitsValue 10 (unsigned word) < limit

/-- Whether an exponent is written well, without the letter before it. -/
def isExponent (word : List Char) : Bool := isDigits Char.isDigit (unsigned word)

/-- The least number that rounds to no finite double: half a unit above the largest of them. -/
def doubleLimit : Nat := Nat.pow 2 1024 - Nat.pow 2 970

/-- Whether a digit string times a power of ten is so small that it rounds to a finite double. The
powers near the limit are compared exactly; those far from it are told by the number of digits. -/
def isFiniteDouble (digits : List Char) (exponent : Int) : Bool :=
  let digits := digits.dropWhile (· == '0')
  let magnitude := digits.length + exponent
  if digits.isEmpty || magnitude ≤ 308 then true
  else if 310 ≤ magnitude then false
  else
    digitsValue 10 digits * Nat.pow 10 exponent.toNat < doubleLimit * Nat.pow 10 (-exponent).toNat

/-- Whether a word is a floating-point number: with a fraction, an exponent or both, or an infinity or
no number. It must round to a finite double unless it is written as an infinity. -/
def isFloat (word : List Char) : Bool :=
  let body := unsigned word
  if body = "inf".toList ∨ body = "nan".toList then true
  else
    let mantissa := body.takeWhile fun c => c != 'e' && c != 'E'
    let power := body.dropWhile fun c => c != 'e' && c != 'E'
    let whole := mantissa.takeWhile (· != '.')
    let fraction := mantissa.dropWhile (· != '.')
    let digits := (whole ++ fraction.drop 1).filter (· != '_')
    let places := ((fraction.drop 1).filter (· != '_')).length
    let exponent := digitsValue 10 (unsigned (power.drop 1))
    let scale : Int := if power[1]? = some '-' then -exponent - places else exponent - places
    isDecimal whole && (fraction.isEmpty || isDigits Char.isDigit (fraction.drop 1)) &&
      (power.isEmpty || isExponent (power.drop 1)) && (!fraction.isEmpty || !power.isEmpty) &&
      isFiniteDouble digits scale

/-! ## Dates and times -/

/-- The number of days of a month. -/
def daysInMonth (year month : Nat) : Nat :=
  if month = 2 then
    if year % 4 = 0 ∧ (year % 100 ≠ 0 ∨ year % 400 = 0) then 29 else 28
  else if month = 4 ∨ month = 6 ∨ month = 9 ∨ month = 11 then 30
  else 31

/-- A date: year, month and day with hyphens between them. -/
def isDate (word : List Char) : Bool :=
  match word with
  | [y1, y2, y3, y4, '-', m1, m2, '-', d1, d2] =>
    let year := [y1, y2, y3, y4]
    let month := [m1, m2]
    let day := [d1, d2]
    (year ++ month ++ day).all Char.isDigit &&
      1 ≤ digitsValue 10 month && digitsValue 10 month ≤ 12 && 1 ≤ digitsValue 10 day &&
      digitsValue 10 day ≤ daysInMonth (digitsValue 10 year) (digitsValue 10 month)
  | _ => false

/-- Two digits at most `limit`. -/
def isTwoDigits (limit : Nat) (cs : List Char) : Bool :=
  cs.length == 2 && cs.all Char.isDigit && digitsValue 10 cs ≤ limit

/-- A time: hours and minutes, then perhaps seconds, then perhaps a fraction of them. -/
def isTime (word : List Char) : Bool :=
  isTwoDigits 23 (word.take 2) && word[2]? == some ':' && isTwoDigits 59 ((word.drop 3).take 2) &&
    match word.drop 5 with
    | [] => true
    | ':' :: rest =>
      isTwoDigits 60 (rest.take 2) &&
        match rest.drop 2 with
        | [] => true
        | '.' :: fraction => !fraction.isEmpty && fraction.all Char.isDigit
        | _ => false
    | _ => false

/-- A time with an offset from universal time, or without one. -/
def isOffsetTime (word : List Char) : Bool :=
  let clock := word.takeWhile fun c => c != 'Z' && c != 'z' && c != '+' && c != '-'
  isTime clock &&
    match word.drop clock.length with
    | [] | ['Z'] | ['z'] => true
    | '+' :: rest | '-' :: rest =>
      isTwoDigits 23 (rest.take 2) && rest[2]? == some ':' && isTwoDigits 59 (rest.drop 3)
    | _ => false

/-- A date, a time, or a date and a time with `T` or a blank between them. -/
def isDatetime (word : List Char) : Bool :=
  isDate word || isTime word ||
    (isDate (word.take 10) && (word[10]? == some 'T' || word[10]? == some 't' ||
      word[10]? == some ' ') && isOffsetTime (word.drop 11))

/-- A time in its plain form: a fraction has at most nine digits and no zeros at its end, and universal
time is `Z` or `+00:00`. -/
def timeText (word : List Char) : List Char :=
  let clock := word.takeWhile fun c => c != 'Z' && c != 'z' && c != '+' && c != '-'
  let fraction := (clock.dropWhile (· != '.')).drop 1
  let digits := ((fraction.take 9).reverse.dropWhile (· == '0')).reverse
  let offset := word.drop clock.length
  clock.takeWhile (· != '.') ++
    (if fraction.isEmpty then [] else if digits.isEmpty then ['.', '0'] else '.' :: digits) ++
    if offset = ['z'] then ['Z'] else if offset = "-00:00".toList then "+00:00".toList else offset

/-- A date or time in its plain form, with `T` between a date and a time. -/
def datetimeText (word : List Char) : String :=
  String.ofList <|
    if isTime word then timeText word
    else word.take 10 ++ if (word.drop 10).isEmpty then [] else 'T' :: timeText (word.drop 11)

end MarkdownHtml.Toml
