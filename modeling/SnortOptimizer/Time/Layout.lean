import Mathlib.Algebra.GroupWithZero.Nat
import Mathlib.Data.List.Basic

/-!
# Reading time stamps

The part of Go's `time.Parse` that layouts without a time zone use. A layout is a list of chunks;
a text is read chunk by chunk and yields a civil time, which a location turns into an instant.

The reader is as lenient as Go's: a space of the layout stands for any run of spaces, the hour and
the chunks without a leading zero may have one digit, and fractional seconds are read after the
seconds even where the layout has none.
-/

namespace SnortOptimizer.Time

inductive Chunk where
  | longYear                       -- `2006`
  | zeroMonth                      -- `01`
  | numMonth                       -- `1`
  | zeroDay                        -- `02`
  | day                            -- `2`
  | hour                           -- `15`
  | hour12                         -- `3`
  | zeroMinute                     -- `04`
  | zeroSecond                     -- `05`
  | fracSecond9                    -- `.999999`
  | pm                             -- `PM`
  | literal (c : Char)
  deriving DecidableEq, Repr

/-- What has been read of a time. -/
structure Civil where
  year : Nat
  month : Nat
  day : Nat
  hour : Nat
  minute : Nat
  second : Nat
  nano : Nat
  deriving DecidableEq, Repr

/-- The variables of `Parse`: the time so far, and whether `PM` or `AM` was read. -/
structure Reading extends Civil where
  pmSet : Bool
  amSet : Bool

def digit (c : Char) : Nat := c.toNat - '0'.toNat

def number (cs : List Char) : Nat := cs.foldl (fun n c => 10 * n + digit c) 0

/-- One or two digits; two of them if `fixed`. -/
def getnum (fixed : Bool) : List Char → Option (Nat × List Char)
  | [] => none
  | c :: rest =>
      if c.isDigit = false then none
      else
        match rest with
        | [] => if fixed then none else some (digit c, [])
        | d :: rest' =>
            if d.isDigit then some (10 * digit c + digit d, rest')
            else if fixed then none else some (digit c, d :: rest')

/-- Like `getnum`, with the range the number must be in. -/
def getnumIn (fixed : Bool) (lo hi : Nat) (value : List Char) : Option (Nat × List Char) :=
  (getnum fixed value).filter fun r => lo ≤ r.1 && r.1 ≤ hi

/-- A point or comma with digits after it, as nanoseconds; more than nine digits are cut off. -/
def readFraction : List Char → Option (Nat × List Char)
  | c :: d :: rest =>
      if (c = '.' ∨ c = ',') ∧ d.isDigit then
        let digits := (d :: rest).takeWhile Char.isDigit
        let kept := digits.take 9
        some (number kept * 10 ^ (9 - kept.length), (d :: rest).drop digits.length)
      else none
  | _ => none

/-- The next chunk of a layout that is not a literal is the fractional second. -/
def fractionFollows (layout : List Chunk) : Bool :=
  (layout.find? fun | .literal _ => false | _ => true) == some .fracSecond9

def readChunk (layout : List Chunk) (t : Reading) (value : List Char) :
    Chunk → Option (Reading × List Char)
  | .longYear =>
      let p := value.take 4
      if p.length = 4 ∧ p.all Char.isDigit then some ({ t with year := number p }, value.drop 4)
      else none
  | .zeroMonth => (getnumIn true 1 12 value).map fun r => ({ t with month := r.1 }, r.2)
  | .numMonth => (getnumIn false 1 12 value).map fun r => ({ t with month := r.1 }, r.2)
  | .zeroDay => (getnum true value).map fun r => ({ t with day := r.1 }, r.2)
  | .day => (getnum false value).map fun r => ({ t with day := r.1 }, r.2)
  | .hour => (getnumIn false 0 23 value).map fun r => ({ t with hour := r.1 }, r.2)
  | .hour12 => (getnumIn false 0 12 value).map fun r => ({ t with hour := r.1 }, r.2)
  | .zeroMinute => (getnumIn true 0 59 value).map fun r => ({ t with minute := r.1 }, r.2)
  | .zeroSecond =>
      (getnumIn true 0 59 value).map fun r =>
        let t := { t with second := r.1 }
        -- a fraction the layout does not ask for is read here
        match (if fractionFollows layout then none else readFraction r.2) with
        | some (nano, rest) => ({ t with nano := nano }, rest)
        | none => (t, r.2)
  | .fracSecond9 =>
      match readFraction value with
      | some (nano, rest) => some ({ t with nano := nano }, rest)
      | none => some (t, value)
  | .pm =>
      if value.take 2 = ['P', 'M'] then some ({ t with pmSet := true }, value.drop 2)
      else if value.take 2 = ['A', 'M'] then some ({ t with amSet := true }, value.drop 2)
      else none
  | .literal c =>
      if c = ' ' then
        if value.head?.any (· ≠ ' ') then none else some (t, value.dropWhile (· = ' '))
      else if value.head? = some c then some (t, value.tail)
      else none

def readLayout : List Chunk → Reading → List Char → Option Reading
  | [], t, value => if value = [] then some t else none
  | chunk :: layout, t, value => do
      let (t, value) ← readChunk layout t value chunk
      readLayout layout t value

def isLeap (year : Nat) : Bool := year % 4 = 0 && (year % 100 ≠ 0 || year % 400 = 0)

def daysIn (month year : Nat) : Nat :=
  match month with
  | 2 => if isLeap year then 29 else 28
  | 4 | 6 | 9 | 11 => 30
  | _ => 31

/-- `time.Parse` up to the choice of a location. -/
def parse (layout : List Chunk) (value : String) : Option Civil := do
  let t ← readLayout layout
    { year := 0, month := 1, day := 1, hour := 0, minute := 0, second := 0, nano := 0
      pmSet := false, amSet := false } value.toList
  let hour :=
    if t.pmSet && decide (t.hour < 12) then t.hour + 12
    else if t.amSet && decide (t.hour = 12) then 0
    else t.hour
  if 1 ≤ t.day ∧ t.day ≤ daysIn t.month t.year then some { t.toCivil with hour := hour } else none

/-- Days from 1970-01-01 to the first of January of a year. -/
def daysBeforeYear (year : Nat) : Int :=
  let y : Int := year - 1
  365 * y + y / 4 - y / 100 + y / 400 - 719162

/-- Days before the first of a month in its year. -/
def daysBeforeMonth (month year : Nat) : Nat :=
  ((List.range (month - 1)).map fun m => daysIn (m + 1) year).sum

/-- The seconds a UTC clock that shows this time has counted since 1970. -/
def Civil.wallSeconds (c : Civil) : Int :=
  (daysBeforeYear c.year + daysBeforeMonth c.month c.year + (c.day - 1)) * 86400
    + c.hour * 3600 + c.minute * 60 + c.second

/-- A time zone: the Unix time at which its clocks show the given wall seconds. -/
abbrev Location := Int → Int

/-- `time.ParseInLocation`, as nanoseconds since 1970. -/
def parseInLocation (layout : List Chunk) (value : String) (loc : Location) : Option Int :=
  (parse layout value).map fun c => loc c.wallSeconds * 1000000000 + c.nano

/-- The instant of the first layout that reads the text. -/
def parseFirst (layouts : List (List Chunk)) (value : String) (loc : Location) : Option Int :=
  layouts.findSome? fun layout => parseInLocation layout value loc

end SnortOptimizer.Time
