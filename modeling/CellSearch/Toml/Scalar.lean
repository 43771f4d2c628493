import CellSearch.Document.Basic

/-!
# Numbers, dates and truth values in TOML

A scalar without quotes runs up to a delimiter and is then read as a whole. Of the numbers only
whole ones are kept; that a number has a fraction or that a scalar is a date is all that is
known of the others.
-/

namespace CellSearch.Toml

/-- Whether the text is digits with single underscores between them. -/
def areDigits (isDigit : Char → Bool) : (afterDigit : Bool) → List Char → Bool
  | afterDigit, [] => afterDigit
  | afterDigit, c :: rest =>
    if isDigit c then areDigits isDigit true rest
    else c == '_' && afterDigit && rest.head?.any isDigit && areDigits isDigit false rest

/-- The value of a digit, decimal or hexadecimal. -/
def digitValue (c : Char) : Nat :=
  if c.isDigit then c.toNat - '0'.toNat
  else if c.isLower then c.toNat - 'a'.toNat + 10
  else c.toNat - 'A'.toNat + 10

/-- The number that digits write in a base. -/
def valueInBase (base : Nat) (digits : List Char) : Nat :=
  (digits.filter (· != '_')).foldl (fun n c => base * n + digitValue c) 0

/-- Whether a character is a hexadecimal digit. -/
def isHexDigit (c : Char) : Bool :=
  c.isDigit || ('a' ≤ c && c ≤ 'f') || ('A' ≤ c && c ≤ 'F')

/-- Whether the text is a decimal number without a sign and without needless zeros. -/
def isUnsigned (cs : List Char) : Bool :=
  areDigits Char.isDigit false cs && (cs.length == 1 || cs.head? != some '0')

/-- The text without its sign, and whether it is negative. -/
def splitSign : List Char → Bool × List Char
  | '-' :: rest => (true, rest)
  | '+' :: rest => (false, rest)
  | cs => (false, cs)

/-- Read a whole number. -/
def integer? (cs : List Char) : Option Int :=
  match cs with
  | '0' :: 'x' :: digits =>
    if areDigits isHexDigit false digits then some (valueInBase 16 digits) else none
  | '0' :: 'o' :: digits =>
    if areDigits (fun c => '0' ≤ c && c ≤ '7') false digits then some (valueInBase 8 digits)
    else none
  | '0' :: 'b' :: digits =>
    if areDigits (fun c => c == '0' || c == '1') false digits then some (valueInBase 2 digits)
    else none
  | _ =>
    let (negative, digits) := splitSign cs
    if isUnsigned digits then
      let n : Int := valueInBase 10 digits
      some (if negative then -n else n)
    else none

/-! ## Fractions -/

/-- Whether the text is an exponent with its letter. -/
def isExponent : List Char → Bool
  | c :: rest => (c == 'e' || c == 'E') && areDigits Char.isDigit false (splitSign rest).2
  | [] => false

/-- Whether the text is a number with a fraction or an exponent, an infinity or no number. -/
def isFloat (cs : List Char) : Bool :=
  let body := (splitSign cs).2
  if body == "inf".toList || body == "nan".toList then true
  else
    let inWhole := fun c : Char => c.isDigit || c == '_'
    let whole := body.takeWhile inWhole
    isUnsigned whole &&
      match body.dropWhile inWhole with
      | '.' :: rest =>
        let fraction := rest.takeWhile inWhole
        let rest := rest.dropWhile inWhole
        areDigits Char.isDigit false fraction && (rest.isEmpty || isExponent rest)
      | rest => isExponent rest

/-! ## Dates and times -/

/-- The number that exactly `count` decimal digits write. -/
def fixedDigits? (count : Nat) (cs : List Char) : Option (Nat × List Char) :=
  let digits := cs.take count
  if digits.length = count ∧ digits.all Char.isDigit then
    some (valueInBase 10 digits, cs.drop count)
  else none

/-- The number of days of a month. -/
def daysInMonth (year month : Nat) : Nat :=
  if month = 2 then
    if year % 4 = 0 ∧ (year % 100 ≠ 0 ∨ year % 400 = 0) then 29 else 28
  else if [4, 6, 9, 11].contains month then 30
  else 31

/-- What follows a date. -/
def afterDate? (cs : List Char) : Option (List Char) :=
  match fixedDigits? 4 cs with
  | some (year, '-' :: rest) =>
    match fixedDigits? 2 rest with
    | some (month, '-' :: rest) =>
      match fixedDigits? 2 rest with
      | some (day, rest) =>
        if 1 ≤ month ∧ month ≤ 12 ∧ 1 ≤ day ∧ day ≤ daysInMonth year month then some rest
        else none
      | none => none
    | _ => none
  | _ => none

/-- What follows the seconds of a time, with their fraction. -/
def afterSeconds? (cs : List Char) : Option (List Char) :=
  match fixedDigits? 2 cs with
  | some (second, rest) =>
    if second ≤ 60 then
      match rest with
      | '.' :: rest =>
        if rest.head?.any Char.isDigit then some (rest.dropWhile Char.isDigit) else none
      | _ => some rest
    else none
  | none => none

/-- What follows a time of day. The seconds may be missing. -/
def afterTime? (cs : List Char) : Option (List Char) :=
  match fixedDigits? 2 cs with
  | some (hour, ':' :: rest) =>
    match fixedDigits? 2 rest with
    | some (minute, rest) =>
      if hour ≤ 23 ∧ minute ≤ 59 then
        match rest with
        | ':' :: rest => afterSeconds? rest
        | _ => some rest
      else none
    | none => none
  | _ => none

/-- Whether the text is the offset of a time zone, or empty. -/
def isOffset : List Char → Bool
  | [] => true
  | ['Z'] => true
  | ['z'] => true
  | sign :: rest =>
    (sign == '+' || sign == '-') &&
      match fixedDigits? 2 rest with
      | some (hour, ':' :: rest) =>
        match fixedDigits? 2 rest with
        | some (minute, []) => hour ≤ 23 && minute ≤ 59
        | _ => false
      | _ => false

/-- Whether the text is a date, a time of day, or both. -/
def isDateTime (cs : List Char) : Bool :=
  match afterDate? cs with
  | some [] => true
  | some (c :: rest) =>
    (c == 'T' || c == 't' || c == ' ') && (afterTime? rest).any isOffset
  | none => afterTime? cs == some []

/-! ## Scalars -/

/-- Whether a whole number has at most 128 bits, with or without a sign. -/
def isReadable (n : Int) : Bool :=
  -0x80000000000000000000000000000000 ≤ n && n < 0x100000000000000000000000000000000

/-- Read a scalar without quotes. -/
def scalar? (cs : List Char) : Option Document :=
  if cs = "true".toList then some (.bool true)
  else if cs = "false".toList then some (.bool false)
  else
    match integer? cs with
    | some n => if isReadable n then some (.integer n) else none
    | none => if isFloat cs || isDateTime cs then some .scalar else none

end CellSearch.Toml
