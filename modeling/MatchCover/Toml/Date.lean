import MatchCover.Toml.Number

/-!
# Dates of TOML

Days, times of day and both together, with the text they are written as: `T` before the time, the
fraction of a second without trailing zeros, and the zone as `Z` or in hours and minutes.
-/

namespace MatchCover.Toml

structure Day where
  year : Nat
  month : Nat
  day : Nat
  deriving DecidableEq, Repr

structure Time where
  hour : Nat
  minute : Nat
  second : Nat
  nanosecond : Nat
  deriving DecidableEq, Repr

inductive Zone where
  | utc
  /-- So many minutes ahead of it. -/
  | ahead (minutes : Int)
  deriving DecidableEq, Repr

inductive Date where
  | day (day : Day)
  | time (time : Time)
  | both (day : Day) (time : Time) (zone : Option Zone)
  deriving DecidableEq, Repr

/-! ### Writing -/

/-- The digits of a number with zeros before them up to a width. -/
def padded (width n : Nat) : List Char :=
  let digits := Decimal.digits n
  List.replicate (width - digits.length) '0' ++ digits

def Day.text (d : Day) : List Char :=
  padded 4 d.year ++ '-' :: padded 2 d.month ++ '-' :: padded 2 d.day

/-- The fraction of a second with its point, if it is not zero. -/
def fractionText (nanosecond : Nat) : List Char :=
  if nanosecond = 0 then []
  else '.' :: ((padded 9 nanosecond).reverse.dropWhile (· == '0')).reverse

def Time.text (t : Time) : List Char :=
  padded 2 t.hour ++ ':' :: padded 2 t.minute ++ ':' :: padded 2 t.second ++
    fractionText t.nanosecond

def Zone.text : Zone → List Char
  | utc => ['Z']
  | ahead minutes =>
    (if minutes < 0 then '-' else '+') :: padded 2 (minutes.natAbs / 60) ++
      ':' :: padded 2 (minutes.natAbs % 60)

def Date.text : Date → List Char
  | day d => d.text
  | time t => t.text
  | both d t zone => d.text ++ 'T' :: t.text ++ (zone.map Zone.text).getD []

/-! ### Reading -/

/-- Reads a number of two digits between two bounds. -/
def pair? (least greatest : Nat) : List Char → Option (Nat × List Char)
  | a :: b :: s =>
    let n := valueOf 10 [a, b]
    if isDecimalDigit a ∧ isDecimalDigit b ∧ least ≤ n ∧ n ≤ greatest then some (n, s) else none
  | _ => none

/-- The nanoseconds of the digits of a fraction, of which nine count. -/
def nanosecondsOf (digits : List Char) : Nat :=
  let digits := digits.take 9
  valueOf 10 digits * Nat.pow 10 (9 - digits.length)

/-- Reads the fraction of a second in nanoseconds, zero if there is none. -/
def nanoseconds? : List Char → Option (Nat × List Char)
  | '.' :: s =>
    let digits := s.takeWhile isDecimalDigit
    if digits.isEmpty then none
    else some (nanosecondsOf digits, s.dropWhile isDecimalDigit)
  | s => some (0, s)

def time? (s : List Char) : Option (Time × List Char) := do
  let (hour, s) ← pair? 0 23 s
  let s ← char? ':' s
  let (minute, s) ← pair? 0 59 s
  let s ← char? ':' s
  let (second, s) ← pair? 0 60 s
  let (nanosecond, s) ← nanoseconds? s
  some ({ hour, minute, second, nanosecond }, s)

def zone? : List Char → Option (Option Zone × List Char)
  | [] => some (none, [])
  | c :: s =>
    if c = 'Z' ∨ c = 'z' then some (some .utc, s)
    else if c = '+' ∨ c = '-' then do
      let (hours, s) ← pair? 0 23 s
      let s ← char? ':' s
      let (minutes, s) ← pair? 0 59 s
      let offset : Int := (60 * hours + minutes : Nat)
      some (some (.ahead (if c = '-' then -offset else offset)), s)
    else some (none, c :: s)

def daysOf (year month : Nat) : Nat :=
  if month = 2 then
    if year % 4 = 0 ∧ (year % 100 ≠ 0 ∨ year % 400 = 0) then 29 else 28
  else if month ∈ [4, 6, 9, 11] then 30
  else 31

/-- Reads a day from the hyphen after its year on. -/
def day? (year : Nat) (s : List Char) : Option (Day × List Char) := do
  let s ← char? '-' s
  let (month, s) ← pair? 1 12 s
  let s ← char? '-' s
  let (day, s) ← pair? 1 (daysOf year month) s
  some ({ year, month, day }, s)

def startsTime (s : List Char) : Bool :=
  (pair? 0 23 s).any fun (_, rest) => rest.head? == some ':'

/-- Reads a day from the hyphen after its year on, and the time that may follow it after a `T` or a
space. -/
def dated? (year : Nat) (s : List Char) : Option (Date × List Char) := do
  let (day, s) ← day? year s
  match s with
  | c :: t =>
    if (c = 'T' ∨ c = 't' ∨ c = ' ') ∧ startsTime t then do
      let (time, rest) ← time? t
      let (zone, rest) ← zone? rest
      some (.both day time zone, rest)
    else some (.day day, s)
  | [] => some (.day day, [])

end MatchCover.Toml
