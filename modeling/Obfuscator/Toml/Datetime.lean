/-!
# TOML dates and times

A TOML date-time has up to three parts: a date `YYYY-MM-DD`, a time `HH:MM:SS` with an optional
fraction, and an offset, `Z` or `±HH:MM`. A text is read as one of four forms: a date alone, a
time alone (its third character is a colon), or a date and a time joined by `T`, `t` or a space,
then optionally an offset. The month is 1 to 12 and the day 1 to 31, whatever the month; the
hour is at most 24, the minute and the second at most 59. A fraction has at least one digit, of
which the first nine count. Nothing may follow.

Written back, a date-time takes a normal form: `T` between date and time, `Z` in capitals, the
offset's hours always signed (so `-00:00` is `+00:00`), and the fraction cut to nine digits with
its trailing zeros dropped (and dropped whole when it is zero).
-/

namespace Obfuscator
namespace Toml

/-- A calendar date. -/
structure Date where
  year : Nat
  month : Nat
  day : Nat
  deriving DecidableEq, Repr

/-- A time of day, to the nanosecond. -/
structure Time where
  hour : Nat
  minute : Nat
  second : Nat
  nanosecond : Nat
  deriving DecidableEq, Repr

/-- The offset of a time from UTC. -/
inductive Offset where
  | utc
  | custom (hours : Int) (minutes : Nat)
  deriving DecidableEq, Repr

/-- A date, a time, or both, with an optional offset. -/
structure Datetime where
  date : Option Date
  time : Option Time
  offset : Option Offset
  deriving DecidableEq, Repr

namespace Datetime

def digit : List Char → Option (Nat × List Char)
  | c :: rest => if c.isDigit then some (c.toNat - 48, rest) else none
  | [] => none

def twoDigits (cs : List Char) : Option (Nat × List Char) := do
  let (a, cs) ← digit cs
  let (b, cs) ← digit cs
  pure (a * 10 + b, cs)

def expect (c : Char) : List Char → Option (List Char)
  | d :: rest => if d == c then some rest else none
  | [] => none

def readDate (cs : List Char) : Option (Date × List Char) := do
  let (y1, cs) ← twoDigits cs
  let (y2, cs) ← twoDigits cs
  let cs ← expect '-' cs
  let (month, cs) ← twoDigits cs
  let cs ← expect '-' cs
  let (day, cs) ← twoDigits cs
  if month < 1 || month > 12 || day < 1 || day > 31 then none
  else pure (⟨y1 * 100 + y2, month, day⟩, cs)

def nanoseconds (ds : List Char) : Nat :=
  let nine := ds.take 9
  (nine ++ List.replicate (9 - nine.length) '0').foldl (fun n d => n * 10 + (d.toNat - 48)) 0

def readTime (cs : List Char) : Option (Time × List Char) := do
  let (hour, cs) ← twoDigits cs
  let cs ← expect ':' cs
  let (minute, cs) ← twoDigits cs
  let cs ← expect ':' cs
  let (second, cs) ← twoDigits cs
  let (nanosecond, cs) ← match cs with
    | '.' :: rest =>
      let ds := rest.takeWhile Char.isDigit
      if ds.isEmpty then none else some (nanoseconds ds, rest.drop ds.length)
    | _ => some (0, cs)
  if hour > 24 || minute > 59 || second > 59 then none
  else pure (⟨hour, minute, second, nanosecond⟩, cs)

def readOffset (cs : List Char) : Option (Option Offset × List Char) :=
  match cs with
  | [] => some (none, [])
  | 'Z' :: rest | 'z' :: rest => some (some .utc, rest)
  | s :: rest =>
    if s == '+' || s == '-' then do
      let (h, rest) ← twoDigits rest
      let rest ← expect ':' rest
      let (m, rest) ← twoDigits rest
      let hours : Int := if s == '-' then -(h : Int) else h
      pure (some (.custom hours m), rest)
    else none

/-- Reads a date-time; none unless the whole text is one. -/
def parse? (cs : List Char) : Option Datetime := do
  if cs.length < 3 then none
  if cs[2]? == some ':' then
    let (t, rest) ← readTime cs
    if rest.isEmpty then pure ⟨none, some t, none⟩ else none
  else
    let (d, rest) ← readDate cs
    match rest with
    | c :: more =>
      if c == 'T' || c == 't' || c == ' ' then
        let (t, rest) ← readTime more
        let (o, rest) ← readOffset rest
        if rest.isEmpty then pure ⟨some d, some t, o⟩ else none
      else none
    | [] => pure ⟨some d, none, none⟩

def padded (width n : Nat) : String :=
  let ds := Nat.toDigits 10 n
  String.ofList (List.replicate (width - ds.length) '0' ++ ds)

def dateText (d : Date) : String := padded 4 d.year ++ "-" ++ padded 2 d.month ++ "-" ++ padded 2 d.day

def timeText (t : Time) : String :=
  let whole := padded 2 t.hour ++ ":" ++ padded 2 t.minute ++ ":" ++ padded 2 t.second
  if t.nanosecond = 0 then whole
  else
    let frac := ((padded 9 t.nanosecond).toList.reverse.dropWhile (· == '0')).reverse
    whole ++ "." ++ String.ofList frac

def offsetText : Offset → String
  | .utc => "Z"
  | .custom h m => (if h < 0 then "-" else "+") ++ padded 2 h.natAbs ++ ":" ++ padded 2 m

def text (d : Datetime) : String :=
  (d.date.map dateText).getD "" ++
    (match d.date, d.time with
      | some _, some t => "T" ++ timeText t
      | none, some t => timeText t
      | _, none => "") ++
    (d.offset.map offsetText).getD ""

/-- The normal text of a date-time given as text, or the text itself when it is none. -/
def normalize (s : String) : String := ((parse? s.toList).map text).getD s

end Datetime

end Toml
end Obfuscator
