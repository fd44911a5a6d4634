import LogOperator.Instant
import LogOperator.Proofs.Text.Numerals
import Mathlib.Algebra.Ring.Nat
import Mathlib.Data.List.TakeWhile
import Mathlib.Data.Option.Basic

/-!
# LogOperator.Proofs.Object.Instants

Points in time and their texts.

* `ofText?_text`: an instant of the calendar is what its text names;
* `isPoint_of_ofText?`: what a text names is an instant of the calendar;
* `ofText?_text_of_ofText?`: so the text of what a text names names the same.
-/

namespace LogOperator

/-! ## Days -/

namespace Date

variable {d : Date} {year : Int} {month day : Nat}

/-- The calendar has a day if it has the month, and the month is long enough. -/
theorem isDay_iff : isDay ⟨year, month, day⟩ = true ↔
    (1 ≤ month ∧ month ≤ 12) ∧ 1 ≤ day ∧ day ≤ daysIn year month := by
  simp only [isDay, Bool.and_eq_true, decide_eq_true_eq, and_assoc]

/-- Every month has between one and thirty-one days. -/
theorem daysIn_mem (year : Int) (month : Nat) : 1 ≤ daysIn year month ∧ daysIn year month ≤ 31 := by
  unfold daysIn
  repeat' split
  all_goals decide

/-- The day after a day of the calendar is one. -/
theorem isDay_next (h : d.isDay = true) : d.next.isDay = true := by
  obtain ⟨year, month, day⟩ := d
  obtain ⟨⟨hone, htwelve⟩, hday, hlast⟩ := isDay_iff.1 h
  unfold next
  split
  · next hlt => exact isDay_iff.2 ⟨⟨hone, htwelve⟩, Nat.le_add_left 1 day, hlt⟩
  split
  · next hlt =>
    exact isDay_iff.2 ⟨⟨Nat.le_add_left 1 month, hlt⟩, Nat.le_refl 1, (daysIn_mem _ _).1⟩
  · exact isDay_iff.2 ⟨by decide, Nat.le_refl 1, (daysIn_mem _ _).1⟩

theorem isDay_previous (h : d.isDay = true) : d.previous.isDay = true := by
  obtain ⟨year, month, day⟩ := d
  obtain ⟨⟨hone, htwelve⟩, hday, hlast⟩ := isDay_iff.1 h
  unfold previous
  split
  · next hlt =>
    exact isDay_iff.2 ⟨⟨hone, htwelve⟩, Nat.le_sub_one_of_lt hlt,
      Nat.le_trans (Nat.sub_le day 1) hlast⟩
  split
  · next hlt =>
    exact isDay_iff.2 ⟨⟨Nat.le_sub_one_of_lt hlt, Nat.le_trans (Nat.sub_le month 1) htwelve⟩,
      (daysIn_mem _ _).1, Nat.le_refl _⟩
  · exact isDay_iff.2 ⟨by decide, by decide, Nat.le_refl 31⟩

end Date

/-! ## Digits -/

namespace Instant

open Text

variable {cs rest ds : List Char} {c : Char} {n width : Nat}

theorem isBlank_of_isDigit (h : c.isDigit = true) : isBlank c = false := by
  have hlow : 48 ≤ c.toNat := (isDigit_iff.1 h).1
  have hhigh : c.toNat ≤ 57 := (isDigit_iff.1 h).2
  rw [Bool.eq_false_iff]
  intro hblank
  simp [isBlank] at hblank
  omega

theorem skipBlanks_cons (h : isBlank c = false) : skipBlanks (c :: cs) = c :: cs := by
  rw [skipBlanks, List.dropWhile_cons_of_neg (by simp [h])]

theorem after?_cons (h : isBlank c = false) : after? c (c :: cs) = some cs := by
  rw [after?, skipBlanks_cons h]
  exact if_pos rfl

/-- Digits are read as far as they go, or as many of them as are asked for. -/
theorem digits?_append {most : Nat} (hds : ∀ c ∈ ds, c.isDigit = true)
    (hn : numeral? 10 ds = some n) (hmost : ds.length ≤ most)
    (hrest : most = ds.length ∨ ∀ c ∈ rest.head?, c.isDigit = false) :
    digits? most (ds ++ rest) = some (n, rest) := by
  have hnone : (rest.take (most - ds.length)).takeWhile Char.isDigit = [] := by
    rcases hrest with rfl | hrest
    · rw [Nat.sub_self]
      rfl
    · cases rest with
      | nil => rw [List.take_nil, List.takeWhile_nil]
      | cons d rest =>
          cases most - ds.length with
          | zero => rfl
          | succ k => rw [List.take_succ_cons, List.takeWhile_cons_of_neg (by simp [hrest d rfl])]
  have htake : ((ds ++ rest).take most).takeWhile Char.isDigit = ds := by
    rw [List.take_append, List.take_of_length_le hmost, List.takeWhile_append_of_pos hds, hnone,
      List.append_nil]
  simp only [digits?, htake, hn, Option.map_some, List.drop_left]

/-! ## Padded numbers -/

/-- A number is written with zeros in front up to its width. -/
theorem toList_padded (width n : Nat) : (padded width n).toList
    = List.replicate (width - (Nat.toDigits 10 n).length) '0' ++ Nat.toDigits 10 n :=
  String.toList_ofList

theorem isDigit_of_mem_padded : ∀ c ∈ (padded width n).toList, c.isDigit = true := by
  rw [toList_padded]
  exact isDigit_of_mem_zeros_toDigits

/-- The zeros do not change the number. -/
theorem numeral?_padded (width n : Nat) : numeral? 10 (padded width n).toList = some n := by
  rw [toList_padded, numeral?_zeros_toDigits]

theorem length_padded (hwidth : 0 < width) (h : n < 10 ^ width) :
    (padded width n).toList.length = width := by
  have hlength := (Nat.length_toDigits_le_iff (by decide) hwidth).2 h
  rw [toList_padded, List.length_append, List.length_replicate, Nat.sub_add_cancel hlength]

theorem exists_padded (width n : Nat) :
    ∃ c cs, (padded width n).toList = c :: cs ∧ c.isDigit = true := by
  cases hpadded : (padded width n).toList with
  | nil =>
      have hnumeral := numeral?_padded width n
      rw [hpadded] at hnumeral
      contradiction
  | cons c cs =>
      exact ⟨c, cs, rfl, isDigit_of_mem_padded c (hpadded ▸ List.mem_cons_self)⟩

theorem skipBlanks_padded : skipBlanks ((padded width n).toList ++ rest)
    = (padded width n).toList ++ rest := by
  obtain ⟨c, cs, hpadded, hdigit⟩ := exists_padded width n
  rw [hpadded, List.cons_append, skipBlanks_cons (isBlank_of_isDigit hdigit)]

/-- A field of two digits is read back if it may be as great. -/
theorem field?_padded {greatest : Nat} (h : n ≤ greatest) (hn : n < 10 ^ 2) :
    field? greatest ((padded 2 n).toList ++ rest) = some (n, rest) := by
  have hlength : (padded 2 n).toList.length = 2 := length_padded (by decide) hn
  rw [field?, skipBlanks_padded, digits?_append isDigit_of_mem_padded (numeral?_padded 2 n)
      (Nat.le_of_eq hlength) (.inl hlength.symm)]
  exact Option.filter_some_pos (by simpa using h)

/-! ## Texts of instants -/

/-- A year without a sign has four digits. -/
theorem year?_of_isDigit (h : c.isDigit = true) :
    year? (c :: cs) = (digits? 4 (c :: cs)).map fun r => ((r.1 : Int), r.2) := by
  rw [year?, skipBlanks_cons (isBlank_of_isDigit h)]
  split
  · next heq =>
    cases heq
    contradiction
  · next heq =>
    cases heq
    contradiction
  · rfl

/-- **A year is read back from its text**, with a sign if it needs one. -/
theorem year?_yearText (year : Int) (rest : List Char) :
    year? ((yearText year).toList ++ '-' :: rest) = some (year, '-' :: rest) := by
  have hrest : ∀ c ∈ ('-' :: rest).head?, c.isDigit = false := by
    intro c hc
    cases hc
    rfl
  -- a year with a sign has as many digits as there are up to the hyphen
  have hsigned : digits? ((padded 4 year.natAbs).toList ++ '-' :: rest).length
      ((padded 4 year.natAbs).toList ++ '-' :: rest) = some (year.natAbs, '-' :: rest) :=
    digits?_append isDigit_of_mem_padded (numeral?_padded _ _)
      (by rw [List.length_append]; exact Nat.le_add_right _ _) (.inr hrest)
  unfold yearText
  split
  · next hneg =>
    rw [String.toList_append, List.append_assoc]
    have habs : -(year.natAbs : Int) = year := by omega
    simp only [year?, show "-".toList = ['-'] from rfl, List.singleton_append,
      skipBlanks_cons (show isBlank '-' = false by decide), hsigned, Option.map_some, habs]
  · next hpos =>
    have habs : (year.natAbs : Int) = year := by omega
    split
    · next hle =>
      have hlength : (padded 4 year.natAbs).toList.length = 4 :=
        length_padded (by decide) (by omega)
      have hdigits : digits? 4 ((padded 4 year.natAbs).toList ++ '-' :: rest)
          = some (year.natAbs, '-' :: rest) :=
        digits?_append isDigit_of_mem_padded (numeral?_padded 4 year.natAbs)
          (Nat.le_of_eq hlength) (.inl hlength.symm)
      obtain ⟨c, cs, hpadded, hdigit⟩ := exists_padded 4 year.natAbs
      rw [hpadded, List.cons_append] at hdigits ⊢
      rw [year?_of_isDigit hdigit, hdigits, Option.map_some, habs]
    · rw [String.toList_append, List.append_assoc]
      simp only [year?, show "+".toList = ['+'] from rfl, List.singleton_append,
        skipBlanks_cons (show isBlank '+' = false by decide), hsigned, Option.map_some, habs]

/-- A day of the calendar is read back from its text. -/
theorem date?_text {d : Date} (h : d.isDay = true) (rest : List Char) :
    date? ((yearText d.year).toList ++ '-' :: ((padded 2 d.month).toList
      ++ '-' :: ((padded 2 d.day).toList ++ rest))) = some (d, rest) := by
  obtain ⟨year, month, day⟩ := d
  obtain ⟨⟨hone, htwelve⟩, hday, hlast⟩ := Date.isDay_iff.1 h
  have hmonth : day ≤ 31 := Nat.le_trans hlast (Date.daysIn_mem year month).2
  have hhyphen : isBlank '-' = false := by decide
  simp only [date?, year?_yearText, after?_cons hhyphen,
    field?_padded htwelve (show month < 10 ^ 2 by omega),
    field?_padded hmonth (show day < 10 ^ 2 by omega), h, if_true, Option.bind_eq_bind,
    Option.bind_some, Option.pure_def]

/-- The instant is on a day of the calendar, in a year that instants lie in, and only the last second of
a minute is one after which another is put in. -/
structure IsPoint (i : Instant) : Prop where
  isDay : i.date.isDay = true
  isYear : isYear i.date.year = true
  second_lt : i.second < 86400
  last_of_inserted : i.inserted = true → i.second % 60 = 59

/-- A time of a day is read back from its text, also in a second that was inserted. -/
theorem time?_text {i : Instant} (h : i.IsPoint) (rest : List Char) :
    time? ((padded 2 (i.second / 3600)).toList ++ ':' :: ((padded 2 (i.second / 60 % 60)).toList
      ++ ':' :: ((padded 2 (i.second % 60 + i.inserted.toNat)).toList ++ 'Z' :: rest)))
      = some ((i.second, i.inserted), 'Z' :: rest) := by
  obtain ⟨date, second, inserted⟩ := i
  have hsecond : second < 86400 := h.second_lt
  have hlast : inserted = true → second % 60 = 59 := h.last_of_inserted
  have hcolon : isBlank ':' = false := by decide
  have hhour : second / 3600 ≤ 23 := by omega
  have hminute : second / 60 % 60 ≤ 59 := by omega
  have hfraction : skipFraction? ('Z' :: rest) = some ('Z' :: rest) := rfl
  have hsum : second / 3600 * 3600 + second / 60 % 60 * 60 + second % 60 = second := by omega
  have hfields : second % 60 + inserted.toNat ≤ 60 ∧ min (second % 60 + inserted.toNat) 59
      = second % 60 ∧ decide (second % 60 + inserted.toNat = 60) = inserted := by
    cases inserted with
    | true =>
        have := hlast rfl
        simp [this]
    | false =>
        simp
        omega
  obtain ⟨hle, hmin, hinserted⟩ := hfields
  simp only [time?, after?_cons hcolon, field?_padded hhour (show _ < 10 ^ 2 by omega),
    field?_padded hminute (show _ < 10 ^ 2 by omega), field?_padded hle (show _ < 10 ^ 2 by omega),
    hfraction, hmin, hinserted, hsum, Option.bind_eq_bind, Option.bind_some, Option.pure_def]

/-- The characters of an instant: the date, a letter, the time and another letter. -/
theorem toList_text (i : Instant) : i.text.toList
    = (yearText i.date.year).toList ++ '-' :: ((padded 2 i.date.month).toList
      ++ '-' :: ((padded 2 i.date.day).toList ++ 'T' :: ((padded 2 (i.second / 3600)).toList
      ++ ':' :: ((padded 2 (i.second / 60 % 60)).toList
      ++ ':' :: ((padded 2 (i.second % 60 + i.inserted.toNat)).toList ++ ['Z']))))) := by
  simp only [text, String.toList_append, List.append_assoc]
  rfl

/-- An instant is what its text names. -/
theorem ofText?_text {i : Instant} (h : i.IsPoint) : ofText? i.text = some i := by
  have hsame : ofSeconds i.date (i.second - 0) i.inserted = i := by
    have hsecond := h.second_lt
    rw [ofSeconds, if_neg (by omega), if_pos (by rw [daySeconds]; omega)]
    rw [Int.sub_zero, Int.toNat_natCast]
  have hoffset : offset? (skipBlanks ['Z']) = some (0, []) := rfl
  rw [ofText?, toList_text, date?_text h.isDay]
  simp only [Option.bind_eq_bind, Option.bind_some, Option.pure_def]
  rw [time?_text h, Option.bind_some, hoffset, Option.bind_some, hsame, h.isYear]
  exact if_pos rfl

/-! ## Instants of texts -/

/-- What is read as a date is a day of the calendar. -/
theorem isDay_of_date? {d : Date} (h : date? cs = some (d, rest)) : d.isDay = true := by
  simp only [date?, Option.bind_eq_bind, Option.bind_eq_some_iff, Option.pure_def] at h
  obtain ⟨year, -, _, -, month, -, _, -, day, -, hday⟩ := h
  split at hday
  · next hday' =>
    cases hday
    exact hday'
  · contradiction

/-- What is read as a field is not greater than it may be. -/
theorem le_of_field? {greatest : Nat} (h : field? greatest cs = some (n, rest)) : n ≤ greatest := by
  simpa using (Option.filter_eq_some_iff.1 h).2

/-- What is read as a time lies within a day; only the last second of a minute is inserted. -/
theorem second_of_time? {second : Nat} {inserted : Bool}
    (h : time? cs = some ((second, inserted), rest)) :
    second < 86400 ∧ (inserted = true → second % 60 = 59) := by
  simp only [time?, Option.bind_eq_bind, Option.bind_eq_some_iff, Option.pure_def,
    Option.some.injEq, Prod.mk.injEq] at h
  obtain ⟨⟨hour, _⟩, hhour, _, -, ⟨minute, _⟩, hminute, _, -, ⟨sec, _⟩, -, _, -,
    ⟨hsum, hinserted⟩, -⟩ := h
  have hhour : hour ≤ 23 := le_of_field? hhour
  have hminute : minute ≤ 59 := le_of_field? hminute
  refine ⟨by omega, fun hins => ?_⟩
  rw [← hinserted, decide_eq_true_iff] at hins
  omega

/-- An offset is a whole number of minutes, and less than a day. -/
theorem offset?_mem {ahead : Int} (h : offset? cs = some (ahead, rest)) :
    (-86400 < ahead ∧ ahead < 86400) ∧ 60 ∣ ahead := by
  have hzero : (-86400 < (0 : Int) ∧ (0 : Int) < 86400) ∧ (60 : Int) ∣ 0 := by decide
  unfold offset? at h
  split at h
  · cases h
    exact hzero
  · cases h
    exact hzero
  split at h
  · cases h
    exact hzero
  simp only [Option.bind_eq_bind, Option.bind_eq_some_iff, Option.pure_def] at h
  obtain ⟨⟨behind, _⟩, -, ⟨hours, _⟩, -, ⟨minutes, _⟩, -, h⟩ := h
  split at h
  · next hlt =>
    cases h
    rw [daySeconds] at hlt
    cases behind
    · rw [if_neg Bool.false_ne_true]
      omega
    · rw [if_pos rfl]
      omega
  · contradiction

/-- So many seconds after the start of a day, in whole minutes before or after a time of the day. -/
theorem isPoint_ofSeconds {d : Date} {second : Nat} {inserted : Bool} {ahead : Int}
    (hday : d.isDay = true) (hsecond : second < 86400)
    (hlast : inserted = true → second % 60 = 59)
    (hahead : (-86400 < ahead ∧ ahead < 86400) ∧ 60 ∣ ahead)
    (hyear : isYear (ofSeconds d (second - ahead) inserted).date.year = true) :
    (ofSeconds d (second - ahead) inserted).IsPoint := by
  unfold ofSeconds daySeconds at *
  split at hyear
  · next hneg =>
    rw [if_pos hneg]
    exact ⟨Date.isDay_previous hday, hyear, by dsimp only; omega,
      fun hins => by have := hlast hins; dsimp only; omega⟩
  next hpos =>
  rw [if_neg hpos]
  split at hyear
  · next hlt =>
    rw [if_pos hlt]
    exact ⟨hday, hyear, by dsimp only; omega, fun hins => by have := hlast hins; dsimp only; omega⟩
  · next hge =>
    rw [if_neg hge]
    exact ⟨Date.isDay_next hday, hyear, by dsimp only; omega,
      fun hins => by have := hlast hins; dsimp only; omega⟩

/-- What a text names is an instant of the calendar. -/
theorem isPoint_of_ofText? {s : String} {i : Instant} (h : ofText? s = some i) : i.IsPoint := by
  simp only [ofText?, Option.bind_eq_bind, Option.bind_eq_some_iff, Option.pure_def] at h
  obtain ⟨⟨date, _⟩, hdate, h⟩ := h
  split at h
  case h_4 => contradiction
  all_goals
    simp only [Option.bind_some, Option.bind_eq_some_iff] at h
    obtain ⟨⟨⟨second, inserted⟩, _⟩, htime, ⟨ahead, _⟩, hoffset, h⟩ := h
    obtain ⟨hsecond, hlast⟩ := second_of_time? htime
    split at h
    · next hyear =>
      cases h
      exact isPoint_ofSeconds (isDay_of_date? hdate) hsecond hlast (offset?_mem hoffset)
        (Bool.and_eq_true_iff.1 hyear).2
    · contradiction

/-- The text of what a text names names the same. -/
theorem ofText?_text_of_ofText? {s : String} {i : Instant} (h : ofText? s = some i) :
    ofText? i.text = some i :=
  ofText?_text (isPoint_of_ofText? h)

end Instant

end LogOperator
