import Mathlib.Algebra.Ring.Nat
import Mathlib.Data.List.Basic
import Mathlib.Tactic.Common

namespace P3Portal.Foundation

def isLeap (year : Nat) : Bool := year % 4 = 0 && (year % 100 ≠ 0 || year % 400 = 0)

def daysInMonth (year month : Nat) : Nat :=
  if month = 2 then (if isLeap year then 29 else 28)
  else if month ∈ [4, 6, 9, 11] then 30 else 31

/-- A date lies between the years 1 and 9999. -/
structure Date where
  year : Nat
  month : Nat
  day : Nat
  year_bounds : 1 ≤ year ∧ year ≤ 9999
  month_bounds : 1 ≤ month ∧ month ≤ 12
  day_bounds : 1 ≤ day ∧ day ≤ daysInMonth year month
  deriving DecidableEq

namespace Date

/-- `date(year, month, day)` refuses what is no date. -/
def ofParts (year month day : Nat) : Option Date :=
  if valid : (1 ≤ year ∧ year ≤ 9999) ∧ (1 ≤ month ∧ month ≤ 12) ∧ 1 ≤ day ∧ day ≤ daysInMonth year month then
    some ⟨year, month, day, valid.1, valid.2.1, valid.2.2⟩
  else none

/-- Dates compare by their year, month and day in turn. -/
def rank (date : Date) : Nat := (date.year * 12 + date.month) * 31 + date.day

/-- The day after the last date does not exist. -/
def next (date : Date) : Option Date :=
  if date.day < daysInMonth date.year date.month then ofParts date.year date.month (date.day + 1)
  else if date.month < 12 then ofParts date.year (date.month + 1) 1
  else ofParts (date.year + 1) 1 1

/-- `date + timedelta(days=count)` raises behind the last date. -/
def addDays : Nat → Date → Option Date
  | 0, date => some date
  | count + 1, date => date.next.bind (addDays count)

def digit (number : Nat) : Char := Char.ofNat (48 + number)

def twoDigits (number : Nat) : List Char := [digit (number / 10), digit (number % 10)]

def fourDigits (number : Nat) : List Char := twoDigits (number / 100) ++ twoDigits (number % 100)

/-- The form `YYYY-MM-DD`. -/
def isoformat (date : Date) : String :=
  String.ofList (fourDigits date.year ++ '-' :: (twoDigits date.month ++ '-' :: twoDigits date.day))

def digitOf (character : Char) : Option Nat :=
  if '0' ≤ character ∧ character ≤ '9' then some (character.toNat - 48) else none

/-- So many digits are read from the start of a text. -/
def takeDigits : Nat → Nat → List Char → Option (Nat × List Char)
  | 0, value, text => some (value, text)
  | count + 1, value, character :: rest =>
      (digitOf character).bind fun digit => takeDigits count (value * 10 + digit) rest
  | _ + 1, _, [] => none

/-- The weekday of the first of January, from zero for a Monday. -/
def firstWeekday (year : Nat) : Nat :=
  ((year - 1) * 365 + (year - 1) / 4 - (year - 1) / 100 + (year - 1) / 400) % 7

/-- The week of an ISO year that holds its first Thursday is its first week. -/
def ofIsoWeek (year week day : Nat) : Option Date :=
  let weekday := firstWeekday year
  let long : Bool := weekday = 3 || (weekday = 2 && isLeap year)
  if year < 1 || week < 1 || 53 < week || (week = 53 && !long) || day < 1 || 7 < day then none
  else
    let offset := (week - 1) * 7 + (day - 1) + if 3 < weekday then 7 else 0
    if weekday ≤ offset then (ofParts year 1 1).bind (addDays (offset - weekday))
    else ofParts (year - 1) 12 (32 - (weekday - offset))

/-- A hyphen is skipped where the text uses separators. -/
def separator (used : Bool) (text : List Char) : Option (List Char) :=
  if used then (match text with
    | '-' :: rest => some rest
    | _ => none)
  else some text

/-- `date.fromisoformat` of Python 3.12 reads a calendar date or a week date with or without separators. It looks at
the number of bytes only once. -/
def fromIsoformat (text : String) : Option Date :=
  if (text.toList.map Char.utf8Size).sum ∉ [7, 8, 10] then none
  else do
    let (year, rest) ← takeDigits 4 0 text.toList
    let used := rest.head? = some '-'
    let rest := if used then rest.tail else rest
    match rest with
    | 'W' :: rest =>
        let (week, rest) ← takeDigits 2 0 rest
        if rest = [] then ofIsoWeek year week 1
        else
          let rest ← separator used rest
          let (day, _) ← takeDigits 1 0 rest
          ofIsoWeek year week day
    | rest =>
        let (month, rest) ← takeDigits 2 0 rest
        let rest ← separator used rest
        let (day, _) ← takeDigits 2 0 rest
        ofParts year month day

theorem ofParts_parts (date : Date) : ofParts date.year date.month date.day = some date := by
  rw [ofParts, dif_pos ⟨date.year_bounds, date.month_bounds, date.day_bounds⟩]

theorem ofParts_eq_some {year month day : Nat} {date : Date} (found : ofParts year month day = some date) :
    date.year = year ∧ date.month = month ∧ date.day = day := by
  unfold ofParts at found
  split at found
  · rw [← Option.some.inj found]
    exact ⟨rfl, rfl, rfl⟩
  · cases found

theorem daysInMonth_le (year month : Nat) : daysInMonth year month ≤ 31 := by
  unfold daysInMonth
  split
  · split
    · omega
    · omega
  · split
    · omega
    · omega

/-- The next day is later. -/
theorem rank_next {date after : Date} (found : date.next = some after) : date.rank < after.rank := by
  have short := daysInMonth_le date.year date.month
  have inside := date.day_bounds
  have month := date.month_bounds
  unfold next at found
  split at found
  · obtain ⟨one, two, three⟩ := ofParts_eq_some found
    rw [rank, rank, one, two, three]
    omega
  · split at found
    · obtain ⟨one, two, three⟩ := ofParts_eq_some found
      rw [rank, rank, one, two, three]
      omega
    · obtain ⟨one, two, three⟩ := ofParts_eq_some found
      rw [rank, rank, one, two, three]
      omega

/-- Adding days leads no date back. -/
theorem rank_addDays {count : Nat} {date after : Date} (found : addDays count date = some after) :
    date.rank ≤ after.rank := by
  induction count generalizing date with
  | zero => rw [← Option.some.inj found]
  | succ count ih =>
      obtain ⟨middle, one, rest⟩ := Option.bind_eq_some_iff.mp found
      exact le_trans (le_of_lt (rank_next one)) (ih rest)

theorem digitOf_digit : ∀ number < 10, digitOf (digit number) = some number := by
  decide

/-- Two written digits are read back. -/
theorem takeDigits_two {number : Nat} (small : number < 100) (value count : Nat) (rest : List Char) :
    takeDigits (count + 2) value (twoDigits number ++ rest) = takeDigits count (value * 100 + number) rest := by
  have high := digitOf_digit (number / 10) (by omega)
  have low := digitOf_digit (number % 10) (by omega)
  have value_eq : (value * 10 + number / 10) * 10 + number % 10 = value * 100 + number := by omega
  simp only [twoDigits, List.cons_append, List.nil_append, takeDigits, high, low, Option.bind_some, value_eq]

theorem digit_ascii : ∀ number < 10, (digit number).utf8Size = 1 ∧ digit number ≠ 'W' := by
  decide

theorem twoDigits_size {number : Nat} (small : number < 100) :
    ((twoDigits number).map Char.utf8Size).sum = 2 := by
  have high := (digit_ascii (number / 10) (by omega)).1
  have low := (digit_ascii (number % 10) (by omega)).1
  simp only [twoDigits, List.map_cons, List.map_nil, high, low, List.sum_cons, List.sum_nil, Nat.reduceAdd]

/-- A written date is read back. -/
theorem fromIsoformat_isoformat (date : Date) : fromIsoformat date.isoformat = some date := by
  have years := date.year_bounds
  have months := date.month_bounds
  have days := date.day_bounds
  have short := daysInMonth_le date.year date.month
  have size : ((date.isoformat.toList).map Char.utf8Size).sum = 10 := by
    rw [isoformat, String.toList_ofList, fourDigits]
    simp only [List.map_append, List.map_cons, List.sum_append, List.sum_cons]
    rw [twoDigits_size (by omega), twoDigits_size (by omega), twoDigits_size (by omega), twoDigits_size (by omega)]
    decide
  have year (rest : List Char) : takeDigits 4 0 (fourDigits date.year ++ rest) = some (date.year, rest) := by
    have year_eq : (0 * 100 + date.year / 100) * 100 + date.year % 100 = date.year := by omega
    rw [fourDigits, List.append_assoc, takeDigits_two (by omega), takeDigits_two (by omega), takeDigits, year_eq]
  have month (rest : List Char) : takeDigits 2 0 (twoDigits date.month ++ rest) = some (date.month, rest) := by
    rw [takeDigits_two (by omega), takeDigits, Nat.zero_mul, Nat.zero_add]
  have day : takeDigits 2 0 (twoDigits date.day) = some (date.day, []) := by
    rw [← List.append_nil (twoDigits date.day), takeDigits_two (by omega), takeDigits, Nat.zero_mul, Nat.zero_add]
  have calendar := (digit_ascii (date.month / 10) (by omega)).2
  rw [fromIsoformat, size, if_neg (by decide), isoformat, String.toList_ofList]
  simp only [year, Option.bind_eq_bind, Option.bind_some, List.head?_cons, List.tail_cons, decide_true, if_true]
  split
  · rename_i rest week
    exact absurd (List.cons.inj week).1 calendar
  · simp only [month, separator, if_true, Option.bind_some, day, ofParts_parts]

end Date
end P3Portal.Foundation
