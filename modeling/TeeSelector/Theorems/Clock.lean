import Mathlib.Data.String.Basic
import TeeSelector.DateTime

/-! `isoformat()` texts sort in time order: of two wall clock readings, the later one's text is never less in
    Python's code point order on str, although the `.ffffff` part is left out when the microseconds are zero. -/

namespace TeeSelector

/-! ### Fixed-width digits -/

theorem digitChar_lt {x y : Nat} (hy : y < 10) (lt : x < y) : Char.ofNat (48 + x) < Char.ofNat (48 + y) := by
  show (Char.ofNat (48 + x)).toNat < (Char.ofNat (48 + y)).toNat
  rw [Char.toNat_ofNat_of_lt (by omega), Char.toNat_ofNat_of_lt (by omega)]
  omega

/-- Of two numbers below `10 ^ w`, the smaller one's `w` digits come first, whatever follows them. --/
theorem digits_append_lt : ∀ {w a b : Nat}, a < b → b < Nat.pow 10 w → ∀ s t : List Char,
    digits w a ++ s < digits w b ++ t
  | 0, _, _, hab, hb, _, _ => absurd hb (by show ¬ _ < 1; omega)
  | w + 1, a, b, hab, hb, s, t => by
    have hb : b < Nat.pow 10 w * 10 := hb
    simp only [digits, List.append_assoc, List.singleton_append]
    rcases Nat.lt_or_ge (a / 10) (b / 10) with lt | ge
    · exact digits_append_lt lt (by omega) _ _
    · have same : a / 10 = b / 10 := by omega
      rw [same]
      exact List.Lex.append_left _ (List.Lex.rel
        (digitChar_lt (Nat.mod_lt _ (by decide)) (by omega))) _

/-- The digits of `a ≤ b` followed by `s` and `t` come in order, when `s ≤ t` in case `a = b`. --/
theorem digits_append_le {w a b : Nat} {s t : List Char} (hab : a ≤ b) (hb : b < Nat.pow 10 w)
    (rest : a = b → s ≤ t) : digits w a ++ s ≤ digits w b ++ t := by
  rcases Nat.lt_or_eq_of_le hab with lt | rfl
  · exact le_of_lt (digits_append_lt lt hb s t)
  · rcases lt_or_eq_of_le (rest rfl) with lt | rfl
    · exact le_of_lt (List.Lex.append_left _ lt _)
    · exact le_rfl

/-! ### `isoformat()` -/

/-- A wall clock reading no later than another has an `isoformat()` text that does not come after the other's. --/
theorem isoformat_le_of_instant_le {d e : DateTime} (h : d.instant ≤ e.instant) : d.isoformat ≤ e.isoformat := by
  obtain ⟨-, hY⟩ := e.year_range
  obtain ⟨-, dM⟩ := d.month_range
  obtain ⟨-, eM⟩ := e.month_range
  obtain ⟨-, dD⟩ := d.day_range
  obtain ⟨-, eD⟩ := e.day_range
  have := d.hour_lt; have := e.hour_lt; have := d.minute_lt; have := e.minute_lt
  have := d.second_lt; have := e.second_lt; have := d.microsecond_lt; have := e.microsecond_lt
  simp only [DateTime.instant] at h
  simp only [DateTime.isoformat, List.append_assoc, List.cons_append]
  refine digits_append_le (by omega) (by show _ < 10000; omega) fun _ => List.cons_le_cons _ <|
    digits_append_le (by omega) (by show _ < 100; omega) fun _ => List.cons_le_cons _ <|
    digits_append_le (by omega) (by show _ < 100; omega) fun _ => List.cons_le_cons _ <|
    digits_append_le (by omega) (by show _ < 100; omega) fun _ => List.cons_le_cons _ <|
    digits_append_le (by omega) (by show _ < 100; omega) fun _ => List.cons_le_cons _ <|
    digits_append_le (by omega) (by show _ < 100; omega) fun _ => ?_
  split_ifs with dZero eZero
  · exact le_rfl
  · exact List.nil_le
  · omega
  · have := @digits_append_le 6 d.microsecond e.microsecond [] [] (by omega) (by show _ < 1000000; omega)
      fun _ => le_rfl
    exact List.cons_le_cons _ (by simpa using this)

/-- The same, in `str` order: the later reading's text is not less than the earlier one's. --/
theorem not_isoformat_lt_of_instant_le {d e : DateTime} (h : d.instant ≤ e.instant) :
    ¬ (String.mk e.isoformat < String.mk d.isoformat) := by
  rw [String.lt_iff_toList_lt, not_lt]
  exact isoformat_le_of_instant_le h

end TeeSelector
