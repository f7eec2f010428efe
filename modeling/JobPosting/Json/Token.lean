import JobPosting.Json

/-!
# Tokens of JSON

A JSON text is read as a sequence of tokens. Where no token begins, the sequence ends in `Token.broken`, so that what
stands before a fault can still be read.

* `Json.Token` : punctuation, names, numbers and texts.
* `Json.tokens` : the tokens of a text.
-/

namespace JobPosting.Json

inductive Token where
  | openList
  | closeList
  | openObject
  | closeObject
  | comma
  | colon
  | null
  | bool (b : Bool)
  /-- A number; `fits` tells whether it is within the range of numbers. -/
  | number (fits : Bool)
  /-- A text in quotes; it has no value if an escape stands for half a character. -/
  | text (value : Option Text)
  /-- No token at all. -/
  | broken
  deriving DecidableEq

/-! ## Texts -/

/-- What stands before the closing quote, and what follows it; a control character may not stand between quotes. -/
def cutQuoted? : Text → Option (Text × Text)
  | [] => none
  | '"' :: r => some ([], r)
  | '\\' :: c :: r => (cutQuoted? r).map fun (a, b) => ('\\' :: c :: a, b)
  | c :: r => if c.toNat < 0x20 then none else (cutQuoted? r).map fun (a, b) => (c :: a, b)

/-- The number of four hexadecimal digits. -/
def unit? (a b c d : Char) : Option Nat := Text.toNat? 16 [a, b, c, d]

def shortEscape? (c : Char) : Option Char :=
  [('"', '"'), ('\\', '\\'), ('/', '/'), ('b', '\x08'), ('f', '\x0C'), ('n', '\n'), ('r', '\r'), ('t', '\t')].lookup c

def escapesOk : Text → Bool
  | '\\' :: 'u' :: a :: b :: c :: d :: r => (unit? a b c d).isSome && escapesOk r
  | '\\' :: c :: r => (shortEscape? c).isSome && escapesOk r
  | '\\' :: [] => false
  | _ :: r => escapesOk r
  | [] => true

/-- The first half of a character that takes two escapes. -/
def isFirstHalf (n : Nat) : Bool := 0xD800 ≤ n && n ≤ 0xDBFF

/-- The second half of a character that takes two escapes. -/
def isSecondHalf (n : Nat) : Bool := 0xDC00 ≤ n && n ≤ 0xDFFF

/-- The text that is written so between quotes, `half` being the first half of a character that came last. -/
def unquoteAfter? (half : Option Nat) : Text → Option Text
  | '\\' :: 'u' :: a :: b :: c :: d :: r =>
    match unit? a b c d, half with
    | none, _ => none
    | some n, some h =>
      if isSecondHalf n then
        (unquoteAfter? none r).map (Char.ofNat (0x10000 + (h - 0xD800) * 0x400 + (n - 0xDC00)) :: ·)
      else none
    | some n, none =>
      if isFirstHalf n then unquoteAfter? (some n) r
      else if isSecondHalf n then none
      else (unquoteAfter? none r).map (Char.ofNat n :: ·)
  | '\\' :: c :: r =>
    match half, shortEscape? c with
    | none, some e => (unquoteAfter? none r).map (e :: ·)
    | _, _ => none
  | c :: r => if half.isSome then none else (unquoteAfter? none r).map (c :: ·)
  | [] => if half.isSome then none else some []

/-- The text that is written so between quotes. -/
def unquote? (t : Text) : Option Text := unquoteAfter? none t

/-! ## Numbers -/

/-- The parts of a number: the digits before and after the point, and the exponent. -/
structure Numeral where
  whole : Text
  fraction : Text
  isSmall : Bool
  exponent : Text

/-- The digits at the beginning of a text, and what follows them. -/
def cutDigits (t : Text) : Text × Text := (t.takeWhile Text.isDigit, t.dropWhile Text.isDigit)

/-- The exponent at the beginning of a text with its sign, and what follows it; none if its digits are missing. -/
def cutExponent? (t : Text) : Option (Bool × Text × Text) :=
  match t with
  | c :: r =>
    if c = 'e' || c = 'E' then
      let (isSmall, r) :=
        match r with
        | '-' :: r => (true, r)
        | '+' :: r => (false, r)
        | r => (false, r)
      let (digits, rest) := cutDigits r
      if digits = [] then none else some (isSmall, digits, rest)
    else some (false, [], t)
  | [] => some (false, [], [])

/-- The fraction at the beginning of a text, and what follows it; none if its digits are missing. -/
def cutFraction? (t : Text) : Option (Text × Text) :=
  match t with
  | '.' :: r =>
    let (digits, rest) := cutDigits r
    if digits = [] then none else some (digits, rest)
  | _ => some ([], t)

/-- The number at the beginning of a text, and what follows it; a zero has no digits behind it. -/
def cutNumber? (t : Text) : Option (Numeral × Text) := do
  let t := if t.head? = some '-' then t.drop 1 else t
  let (whole, rest) := cutDigits t
  if whole = [] || (whole.head? = some '0' && whole ≠ ['0']) then none
  let (fraction, rest) ← cutFraction? rest
  let (isSmall, exponent, rest) ← cutExponent? rest
  return (⟨whole, fraction, isSmall, exponent⟩, rest)

/-- The least number beyond the range, half a step above the greatest one within. -/
def rangeEnd : Nat := (1 <<< 1024) - (1 <<< 970)

/-- Whether a number is within the range of numbers. Exponents with more digits than the text of any number has are
decided by their sign. -/
def Numeral.fits (n : Numeral) : Bool :=
  let digits := (n.whole ++ n.fraction).dropWhile (· = '0')
  let exponent := n.exponent.dropWhile (· = '0')
  if digits = [] || (n.isSmall && 9 < exponent.length) then true
  else if 9 < exponent.length then false
  else
    let e := (Text.toNat? 10 exponent).getD 0
    let mantissa := (Text.toNat? 10 digits).getD 0
    let (up, down) := if n.isSmall then (0, e + n.fraction.length) else (e, n.fraction.length)
    if digits.length + up ≤ down + 308 then true
    else if down + 310 < digits.length + up then false
    else mantissa * Nat.pow 10 up < rangeEnd * Nat.pow 10 down

/-! ## Token sequences -/

/-- A blank between tokens. -/
def isGap (c : Char) : Bool := c = ' ' || c = '\n' || c = '\t' || c = '\r'

def names : List (Text × Token) := [("null", .null), ("true", .bool true), ("false", .bool false)]

def marks : List (Char × Token) :=
  [('[', .openList), (']', .closeList), ('\x7B', .openObject), ('\x7D', .closeObject), (',', .comma), (':', .colon)]

/-- The name at the beginning of a text, and what follows it. -/
def cutName? (t : Text) : Option (Token × Text) :=
  names.findSome? fun (name, token) => (Text.stripPrefix? name t).map (token, ·)

/-- The token at the beginning of a text that does not begin with a blank, and what follows it. -/
def cutToken? : Text → Option (Token × Text)
  | [] => none
  | c :: r =>
    match marks.lookup c with
    | some token => some (token, r)
    | none =>
      if c = '"' then
        match cutQuoted? r with
        | some (inner, rest) => if escapesOk inner then some (.text (unquote? inner), rest) else none
        | none => none
      else if c = '-' || Text.isDigit c then
        (cutNumber? (c :: r)).map fun (n, rest) => (.number n.fits, rest)
      else cutName? (c :: r)

/-- The tokens of a text, found in at most `fuel` steps. -/
def tokensFrom : Nat → Text → List Token
  | 0, _ => []
  | fuel + 1, t =>
    match t.dropWhile isGap with
    | [] => []
    | c :: r =>
      match cutToken? (c :: r) with
      | some (token, rest) => token :: tokensFrom fuel rest
      | none => [.broken]

def tokens (t : Text) : List Token := tokensFrom t.length t

end JobPosting.Json
