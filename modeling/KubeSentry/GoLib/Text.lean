import Mathlib.Data.List.DropRight
import Mathlib.Data.String.Basic
import Mathlib.Tactic.Basic

/-!
# Texts of the Go standard library

`strings.TrimSpace`, the `%q` verb of `fmt` (which is `strconv.Quote`) and
`time.ParseDuration`, written over character lists so that every function
reduces.

Two things are not computed here.  `unicode.IsPrint` above ASCII is a table
of the Unicode release that Go was built with, so it is the parameter
`GoUnicode.isPrintWide`.  `time.ParseDuration` multiplies a decimal fraction
in `float64`; the model multiplies exactly and truncates to a nanosecond.
-/

namespace GoLib

/-! ## White space -/

/-- `unicode.IsSpace`. -/
def isSpace (c : Char) : Bool :=
  c = ' ' || (0x09 ≤ c.toNat && c.toNat ≤ 0x0d) || c.toNat = 0x85 || c.toNat = 0xa0 ||
    c.toNat = 0x1680 || (0x2000 ≤ c.toNat && c.toNat ≤ 0x200a) || c.toNat = 0x2028 ||
    c.toNat = 0x2029 || c.toNat = 0x202f || c.toNat = 0x205f || c.toNat = 0x3000

/-- `strings.TrimSpace`. -/
def trimSpace (s : String) : String :=
  String.ofList (((s.toList.dropWhile isSpace).reverse.dropWhile isSpace).reverse)

/-- Trimming on the right keeps a first character that is not a space. -/
theorem dropWhile_rdropWhile {p : Char → Bool} (l : List Char) :
    ((l.dropWhile p).rdropWhile p).dropWhile p = (l.dropWhile p).rdropWhile p := by
  rw [List.dropWhile_eq_self_iff]
  intro hlength
  have hpre : (l.dropWhile p).rdropWhile p <+: l.dropWhile p := List.rdropWhile_prefix p _
  have hpos : 0 < (l.dropWhile p).length := lt_of_lt_of_le hlength hpre.length_le
  have hfirst := List.dropWhile_get_zero_not p l hpos
  rw [hpre.getElem hlength]
  exact hfirst

/-- A trimmed text has nothing left to trim. -/
theorem trimSpace_trimSpace (s : String) : trimSpace (trimSpace s) = trimSpace s := by
  show String.ofList (((trimSpace s).toList.dropWhile isSpace).rdropWhile isSpace) =
    String.ofList ((s.toList.dropWhile isSpace).rdropWhile isSpace)
  have hlist : (trimSpace s).toList = (s.toList.dropWhile isSpace).rdropWhile isSpace :=
    String.toList_ofList
  rw [hlist, dropWhile_rdropWhile, List.rdropWhile_idempotent]

/-! ## Quoting -/

/-- What depends on the tables of `unicode`: the part of `unicode.IsPrint` that lies above
ASCII, and `strings.ToLower`. -/
class GoUnicode where
  isPrintWide : Char → Bool
  toLower : String → String

/-- Nothing above ASCII is printable or has a lower case; for runs on concrete ASCII text. -/
@[reducible] def GoUnicode.ascii : GoUnicode where
  isPrintWide _ := false
  toLower := String.toLower

def lowerHex (n : Nat) : Char :=
  "0123456789abcdef".toList.getD (n % 16) '0'

/-- The last `width` hexadecimal digits of `n`. -/
def hexDigits : (width n : Nat) → List Char
  | 0, _ => []
  | width + 1, n => hexDigits width (n / 16) ++ [lowerHex n]

/-- `unicode.IsPrint`. -/
def isPrint [GoUnicode] (c : Char) : Bool :=
  if c.toNat < 0x80 then 0x20 ≤ c.toNat && c.toNat < 0x7f else GoUnicode.isPrintWide c

/-- `appendEscapedRune` of `strconv`, for the double quote. -/
def escapeRune [GoUnicode] (c : Char) : List Char :=
  if c = '"' || c = '\\' then ['\\', c]
  else if isPrint c then [c]
  else if c.toNat = 0x07 then ['\\', 'a']
  else if c.toNat = 0x08 then ['\\', 'b']
  else if c.toNat = 0x0c then ['\\', 'f']
  else if c = '\n' then ['\\', 'n']
  else if c = '\r' then ['\\', 'r']
  else if c = '\t' then ['\\', 't']
  else if c.toNat = 0x0b then ['\\', 'v']
  else if c.toNat < 0x20 || c.toNat = 0x7f then '\\' :: 'x' :: hexDigits 2 c.toNat
  else if c.toNat < 0x10000 then '\\' :: 'u' :: hexDigits 4 c.toNat
  else '\\' :: 'U' :: hexDigits 8 c.toNat

/-- `strconv.Quote`, the `%q` verb. -/
def quote [GoUnicode] (s : String) : String :=
  String.ofList ('"' :: s.toList.flatMap escapeRune ++ ['"'])

/-! ## Durations -/

/-- The quoting that package `time` uses in its own errors: every byte that
is not printable ASCII is written in hexadecimal. -/
def timeQuote (s : String) : String :=
  let escape (c : Char) : List Char :=
    if 0x80 ≤ c.toNat || c.toNat < 0x20 then
      (String.utf8EncodeChar c).flatMap fun b => '\\' :: 'x' :: hexDigits 2 b.toNat
    else if c = '"' || c = '\\' then ['\\', c]
    else [c]
  String.ofList ('"' :: s.toList.flatMap escape ++ ['"'])

def isDigit (c : Char) : Bool := '0' ≤ c && c ≤ '9'

def digitValue (c : Char) : Nat := c.toNat - '0'.toNat

/-- `leadingInt`: the digits at the front, `none` when they pass `2^63`. -/
def leadingInt : List Char → Nat → Option (Nat × List Char)
  | [], x => some (x, [])
  | c :: rest, x =>
    if !isDigit c then some (x, c :: rest)
    else if 2 ^ 63 / 10 < x then none
    else if 2 ^ 63 < x * 10 + digitValue c then none
    else leadingInt rest (x * 10 + digitValue c)

/-- `leadingFraction`: the digits at the front and their scale.  Digits that
no longer fit are skipped. -/
def leadingFraction : List Char → (x scale : Nat) → (overflow : Bool) → Nat × Nat × List Char
  | [], x, scale, _ => (x, scale, [])
  | c :: rest, x, scale, overflow =>
    if !isDigit c then (x, scale, c :: rest)
    else if overflow || (2 ^ 63 - 1) / 10 < x || 2 ^ 63 < x * 10 + digitValue c then
      leadingFraction rest x scale true
    else leadingFraction rest (x * 10 + digitValue c) (scale * 10) false

/-- `unitMap`, in nanoseconds. -/
def durationUnit (u : String) : Option Nat :=
  if u = "ns" then some 1
  else if u = "us" || u = "µs" || u = "μs" then some 1000
  else if u = "ms" then some 1000000
  else if u = "s" then some 1000000000
  else if u = "m" then some 60000000000
  else if u = "h" then some 3600000000000
  else none

/-- One round of the loop of `time.ParseDuration`: a number, its fraction and
its unit.  Returns the nanoseconds and the text that is left. -/
def parseTerm (orig : String) (s : List Char) : Except String (Nat × List Char) :=
  let invalid := "time: invalid duration " ++ timeQuote orig
  match s with
  | [] => .error invalid
  | c :: _ =>
    if !(c = '.' || isDigit c) then .error invalid
    else
      match leadingInt s 0 with
      | none => .error invalid
      | some (v, s1) =>
        let pre := s1.length ≠ s.length
        let (f, scale, s2, post) :=
          match s1 with
          | '.' :: t =>
            let (f, scale, t') := leadingFraction t 0 1 false
            (f, scale, t', decide (t'.length ≠ t.length))
          | _ => (0, 1, s1, false)
        if !pre && !post then .error invalid
        else
          let u := s2.takeWhile fun c => !(c = '.' || isDigit c)
          let s3 := s2.dropWhile fun c => !(c = '.' || isDigit c)
          if u = [] then .error ("time: missing unit in duration " ++ timeQuote orig)
          else
            match durationUnit (String.ofList u) with
            | none =>
              .error ("time: unknown unit " ++ timeQuote (String.ofList u) ++
                " in duration " ++ timeQuote orig)
            | some unit =>
              if 2 ^ 63 / unit < v then .error invalid
              else if 2 ^ 63 < v * unit + f * unit / scale then .error invalid
              else .ok (v * unit + f * unit / scale, s3)

/-- The loop of `time.ParseDuration`.  Each round eats at least one
character, so the length of the text is enough fuel. -/
def parseTerms (orig : String) : (fuel : Nat) → List Char → (d : Nat) → Except String Nat
  | 0, _, d => .ok d
  | fuel + 1, s, d =>
    if s = [] then .ok d
    else
      match parseTerm orig s with
      | .error e => .error e
      | .ok (v, rest) =>
        if 2 ^ 63 < d + v then .error ("time: invalid duration " ++ timeQuote orig)
        else parseTerms orig fuel rest (d + v)

/-- `time.ParseDuration`, in nanoseconds. -/
def parseDuration (orig : String) : Except String Int :=
  let invalid := "time: invalid duration " ++ timeQuote orig
  let (neg, s) :=
    match orig.toList with
    | '-' :: rest => (true, rest)
    | '+' :: rest => (false, rest)
    | s => (false, s)
  if s = ['0'] then .ok 0
  else if s = [] then .error invalid
  else
    match parseTerms orig s.length s 0 with
    | .error e => .error e
    | .ok d =>
      if neg then .ok (-(d : Int))
      else if 2 ^ 63 - 1 < d then .error invalid
      else .ok d

example : parseDuration "1h30m" = .ok 5400000000000 := by decide
example : parseDuration "-1.5s" = .ok (-1500000000) := by decide

end GoLib
