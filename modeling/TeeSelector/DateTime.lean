import TeeSelector.Python

/-! Python's `datetime` as far as the executor uses it: a reading of `datetime.now()` and its `isoformat()`. -/

namespace TeeSelector

/-- A `datetime`, with the ranges Python checks for its fields. --/
structure DateTime where
  year : Nat
  month : Nat
  day : Nat
  hour : Nat
  minute : Nat
  second : Nat
  microsecond : Nat
  year_range : 1 ≤ year ∧ year ≤ 9999
  month_range : 1 ≤ month ∧ month ≤ 12
  day_range : 1 ≤ day ∧ day ≤ 31
  hour_lt : hour < 24
  minute_lt : minute < 60
  second_lt : second < 60
  microsecond_lt : microsecond < 1000000

/-- The last `w` decimal digits of `n`: `f"{n:0{w}d}"` for `n < 10 ^ w`. --/
def digits : Nat → Nat → List Char
  | 0, _ => []
  | w + 1, n => digits w (n / 10) ++ [Char.ofNat (48 + n % 10)]

namespace DateTime

/-- `d.isoformat()`: `YYYY-MM-DDTHH:MM:SS`, then `.ffffff` unless the microseconds are zero. --/
def isoformat (d : DateTime) : List Char :=
  digits 4 d.year ++ '-' :: digits 2 d.month ++ '-' :: digits 2 d.day ++ 'T' :: digits 2 d.hour ++ ':' ::
    digits 2 d.minute ++ ':' :: digits 2 d.second ++
    if d.microsecond = 0 then [] else '.' :: digits 6 d.microsecond

/-- `d.strftime("%Y%m%d_%H%M%S")`. --/
def strftime (d : DateTime) : List Char :=
  digits 4 d.year ++ digits 2 d.month ++ digits 2 d.day ++ '_' :: digits 2 d.hour ++ digits 2 d.minute ++
    digits 2 d.second

/-- The instant `d` stands for, in microseconds on a scale where later instants are larger. --/
def instant (d : DateTime) : Nat :=
  (((((d.year * 13 + d.month) * 32 + d.day) * 24 + d.hour) * 60 + d.minute) * 60 + d.second) * 1000000 +
    d.microsecond

end DateTime

end TeeSelector
