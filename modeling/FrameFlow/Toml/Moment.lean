import FrameFlow.Decimal.Reader

/-! Dates, times of day and moments: how they are read and their one written form. A fraction of
a second counts up to nine places, and offsets are whole minutes. -/
namespace FrameFlow.Toml

structure Date where
  year : Nat
  month : Nat
  day : Nat
deriving DecidableEq, Repr

/-- A time of day. A minute may have a second 60. -/
structure Time where
  hour : Nat
  minute : Nat
  second : Nat
  nanosecond : Nat
deriving DecidableEq, Repr

/-- What a time is counted from. -/
inductive Offset where
  | universal
  /-- So many minutes ahead of universal time. -/
  | ahead (minutes : Int)
deriving DecidableEq, Repr

inductive Moment where
  | date (d : Date)
  | time (t : Time)
  | both (d : Date) (t : Time) (offset : Option Offset)
deriving DecidableEq, Repr

/-- A number of exactly so many digits, no greater than `most`. -/
def field? (count most : Nat) (s : List Char) : Option (Nat × List Char) :=
  let digits := s.take count
  if digits.length = count ∧ digits.all Char.isDigit ∧ Decimal.value digits ≤ most then
    some (Decimal.value digits, s.drop count)
  else none

/-- At least so many digits, with zeros in front. -/
def padded (count n : Nat) : List Char :=
  let digits := (Nat.repr n).toList
  List.replicate (count - digits.length) '0' ++ digits

namespace Date

def isLeap (year : Nat) : Bool := year % 4 == 0 && (year % 100 != 0 || year % 400 == 0)

def daysIn (year month : Nat) : Nat :=
  if month = 2 then if isLeap year then 29 else 28
  else if month = 4 ∨ month = 6 ∨ month = 9 ∨ month = 11 then 30
  else 31

/-- Whether a text starts like a date. -/
def starts (s : List Char) : Bool :=
  match field? 4 9999 s with
  | some (_, '-' :: _) => true
  | _ => false

def read? (s : List Char) : Option (Date × List Char) := do
  let (year, r) ← field? 4 9999 s
  let '-' :: r := r | none
  let (month, r) ← field? 2 12 r
  let '-' :: r := r | none
  let (day, r) ← field? 2 (daysIn year month) r
  if month = 0 ∨ day = 0 then none else some (⟨year, month, day⟩, r)

def render (d : Date) : List Char :=
  padded 4 d.year ++ '-' :: padded 2 d.month ++ '-' :: padded 2 d.day

end Date

namespace Time

/-- Whether a text starts like a time of day. -/
def starts (s : List Char) : Bool :=
  match field? 2 23 s with
  | some (_, ':' :: _) => true
  | _ => false

/-- The places after the point of a second, in nanoseconds; those after the ninth do not count. -/
def fraction : List Char → Nat × List Char
  | '.' :: c :: r =>
    if c.isDigit then
      let places := c :: r.takeWhile Char.isDigit
      (Decimal.value ((places ++ List.replicate 9 '0').take 9), r.dropWhile Char.isDigit)
    else (0, '.' :: c :: r)
  | s => (0, s)

def read? (s : List Char) : Option (Time × List Char) := do
  let (hour, r) ← field? 2 23 s
  let ':' :: r := r | none
  let (minute, r) ← field? 2 59 r
  let ':' :: r := r | none
  let (second, r) ← field? 2 60 r
  let (nanosecond, r) := fraction r
  some (⟨hour, minute, second, nanosecond⟩, r)

/-- A fraction has no zeros at its end. -/
def renderFraction (nanosecond : Nat) : List Char :=
  if nanosecond = 0 then []
  else '.' :: ((padded 9 nanosecond).reverse.dropWhile (· == '0')).reverse

def render (t : Time) : List Char :=
  padded 2 t.hour ++ ':' :: padded 2 t.minute ++ ':' :: padded 2 t.second ++
    renderFraction t.nanosecond

end Time

namespace Offset

/-- The offset of a time, if there is one. -/
def read? : List Char → Option (Option Offset × List Char)
  | [] => some (none, [])
  | c :: r =>
    if c = 'Z' ∨ c = 'z' then some (some .universal, r)
    else if c = '+' ∨ c = '-' then do
      let (hours, r) ← field? 2 23 r
      let ':' :: r := r | none
      let (minutes, r) ← field? 2 59 r
      let all : Int := 60 * hours + minutes
      some (some (.ahead (if c = '-' then -all else all)), r)
    else some (none, c :: r)

/-- No minutes at all are written with a plus. -/
def render : Offset → List Char
  | universal => ['Z']
  | ahead minutes =>
    let all := minutes.natAbs
    (if minutes < 0 then '-' else '+') :: padded 2 (all / 60) ++ ':' :: padded 2 (all % 60)

end Offset

namespace Moment

/-- A time may follow a date after a `T` or a blank. -/
def afterDate? (d : Date) : List Char → Option (Moment × List Char)
  | [] => some (.date d, [])
  | c :: r =>
    if (c = 'T' ∨ c = 't' ∨ c = ' ') ∧ Time.starts r then do
      let (t, r) ← Time.read? r
      let (offset, r) ← Offset.read? r
      some (.both d t offset, r)
    else some (.date d, c :: r)

/-- Whether a text starts like a moment, so that it can be nothing else. -/
def starts (s : List Char) : Bool := Date.starts s || Time.starts s

def read? (s : List Char) : Option (Moment × List Char) :=
  if Date.starts s then (Date.read? s).bind fun (d, r) => afterDate? d r
  else (Time.read? s).map fun (t, r) => (.time t, r)

def render : Moment → String
  | date d => String.ofList d.render
  | time t => String.ofList t.render
  | both d t offset =>
    String.ofList (d.render ++ 'T' :: t.render ++ (offset.map Offset.render).getD [])

end Moment
end FrameFlow.Toml
