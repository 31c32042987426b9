/-
Dates as texts: the UTC date of a number of seconds since 1970, its rendering in fixed
width, and that such renderings compare as the seconds do.
-/
import IlinkHub.SessionNames

lemma Text.append_lt_append_iff {left right rest others : List Char}
    (hlength : left.length = right.length) :
    left ++ rest < right ++ others ↔ left < right ∨ left = right ∧ rest < others := by
  induction left generalizing right with
  | nil =>
    cases List.length_eq_zero_iff.mp hlength.symm
    simp
  | cons a left ih =>
    obtain ⟨b, right, rfl⟩ := List.exists_of_length_succ right hlength.symm
    rw [List.cons_append, List.cons_append, List.cons_lt_cons_iff, List.cons_lt_cons_iff,
      ih (Nat.succ.inj hlength), List.cons.injEq]
    tauto

lemma Text.fixedDigits_lt_iff {width n m : Nat} (hn : n < 10 ^ width) (hm : m < 10 ^ width) :
    fixedDigits width n < fixedDigits width m ↔ n < m := by
  induction width generalizing n m with
  | zero => simp [fixedDigits]; omega
  | succ width ih =>
    have hn' : n / 10 < 10 ^ width := by omega
    have hm' : m / 10 < 10 ^ width := by omega
    have hdigit : ∀ a < 10, ∀ b < 10, Nat.digitChar a < Nat.digitChar b ↔ a < b := by decide
    have hsame : fixedDigits width (n / 10) = fixedDigits width (m / 10) ↔ n / 10 = m / 10 :=
      ⟨fixedDigits_inj hn' hm', fun h => by rw [h]⟩
    rw [fixedDigits, fixedDigits, append_lt_append_iff (by simp [length_fixedDigits]), ih hn' hm',
      hsame, List.cons_lt_cons_iff,
      hdigit _ (Nat.mod_lt n (by decide)) _ (Nat.mod_lt m (by decide))]
    simp only [List.not_lt_nil, and_false, or_false]
    omega

/-- Two numbers of one width, each followed by the same separator. -/
lemma Text.fixedDigits_append_lt_iff {width n m : Nat} (hn : n < 10 ^ width) (hm : m < 10 ^ width)
    {sep : Char} {rest others : List Char} :
    fixedDigits width n ++ sep :: rest < fixedDigits width m ++ sep :: others ↔
      n < m ∨ n = m ∧ rest < others := by
  have hsame : fixedDigits width n = fixedDigits width m ↔ n = m :=
    ⟨fixedDigits_inj hn hm, fun h => by rw [h]⟩
  rw [append_lt_append_iff (by simp [length_fixedDigits]), fixedDigits_lt_iff hn hm, hsame]
  simp

namespace Calendar

/-- Numbers that are grouped into blocks, one after the other. -/
lemma lt_iff_of_blocks {α : Type*} [LinearOrder α] {start stop : α → Int}
    (hapart : ∀ {a b}, a < b → stop a ≤ start b) {a b : α} {v w : Int}
    (hv : start a ≤ v ∧ v < stop a) (hw : start b ≤ w ∧ w < stop b) :
    v < w ↔ a < b ∨ a = b ∧ v - start a < w - start b := by
  rcases lt_trichotomy a b with hlt | rfl | hgt
  · have hapart := hapart hlt
    exact iff_of_true (by omega) (.inl hlt)
  · simp
  · have hapart := hapart hgt
    refine iff_of_false (by omega) ?_
    rintro (hlt | ⟨rfl, -⟩)
    · exact lt_asymm hlt hgt
    · exact lt_irrefl _ hgt

/-- The leap days of the years from 0 on. -/
def leapDays (year : Int) : Int :=
  (year + 3) / 4 - (year + 99) / 100 + (year + 399) / 400

/-- The day a year begins on, counted from 0000-01-01. -/
def yearStart (year : Int) : Int :=
  365 * year + leapDays year

def isLeap (year : Int) : Bool :=
  decide (yearStart (year + 1) - yearStart year = 366)

/-- The calendar repeats after 400 years. -/
def yearOf (day : Int) : Int :=
  let cycle := day % 146097
  let year := cycle / 365
  400 * (day / 146097) + if cycle % 365 < leapDays year then year - 1 else year

def monthLength (leap : Bool) : Nat → Nat
  | 1 => if leap then 29 else 28
  | 3 | 5 | 8 | 10 => 30
  | _ => 31

/-- The day of the year a month begins on; January is 0. -/
def monthStart (leap : Bool) : Nat → Nat
  | 0 => 0
  | month + 1 => monthStart leap month + monthLength leap month

def monthOf (leap : Bool) (day : Nat) : Nat :=
  Nat.findGreatest (fun month => monthStart leap month ≤ day) 11

lemma yearStart_add (era year : Int) :
    yearStart (400 * era + year) = 146097 * era + yearStart year := by
  have h4 : (400 * era + year + 3) / 4 = 100 * era + (year + 3) / 4 := by omega
  have h100 : (400 * era + year + 99) / 100 = 4 * era + (year + 99) / 100 := by omega
  have h400 : (400 * era + year + 399) / 400 = era + (year + 399) / 400 := by omega
  rw [yearStart, yearStart, leapDays, leapDays]
  omega

lemma yearOf_spec (day : Int) :
    yearStart (yearOf day) ≤ day ∧ day < yearStart (yearOf day + 1) := by
  unfold yearOf
  rw [add_assoc, yearStart_add, yearStart_add]
  split <;> simp only [yearStart, leapDays, sub_add_cancel] at * <;> omega

lemma yearStart_le {year other : Int} (hlt : year < other) :
    yearStart (year + 1) ≤ yearStart other := by
  simp only [yearStart, leapDays]
  omega

lemma yearStart_succ (year : Int) :
    yearStart (year + 1) = yearStart year + (monthStart (isLeap year) 12 : Nat) := by
  have hlength : yearStart (year + 1) = yearStart year + 365 ∨
      yearStart (year + 1) = yearStart year + 366 := by
    simp only [yearStart, leapDays]
    omega
  rcases hlength with hlength | hlength
  · have hleap : isLeap year = false := decide_eq_false (by omega)
    rw [hleap, hlength]
    rfl
  · have hleap : isLeap year = true := decide_eq_true (by omega)
    rw [hleap, hlength]
    rfl

lemma monthStart_le {leap : Bool} {month other : Nat} (hlt : month < other) :
    (monthStart leap (month + 1) : Int) ≤ monthStart leap other :=
  Int.ofNat_le.mpr (monotone_nat_of_le_succ (fun _ => Nat.le_add_right _ _) hlt)

lemma monthOf_spec {leap : Bool} {day : Nat} (hday : day < monthStart leap 12) :
    monthStart leap (monthOf leap day) ≤ day ∧ day < monthStart leap (monthOf leap day + 1) := by
  have hle : monthOf leap day ≤ 11 := Nat.findGreatest_le 11
  refine ⟨@Nat.findGreatest_spec 0 (fun month => monthStart leap month ≤ day) _ 11 (by omega)
    (Nat.zero_le _), ?_⟩
  rcases lt_or_eq_of_le hle with hlt | heq
  · have hnot := @Nat.findGreatest_is_greatest _ (fun month => monthStart leap month ≤ day) _ 11
      (Nat.lt_succ_self (monthOf leap day)) hlt
    exact Nat.lt_of_not_le hnot
  · rw [heq]
    exact hday

lemma monthLength_le (leap : Bool) (month : Nat) : monthLength leap month ≤ 31 := by
  unfold monthLength
  split <;> [split; skip; skip; skip; skip; skip] <;> decide

end Calendar

namespace IlinkHub

open Text Calendar

/-- The day of a time, counted from 0000-01-01. -/
def dayOf (secs : Int) : Int :=
  secs / 86400 + 719528

/-- The day within its year; January 1 is 0. -/
def ordinalOf (day : Int) : Nat :=
  (day - yearStart (yearOf day)).toNat

lemma ordinalOf_lt (day : Int) : ordinalOf day < monthStart (isLeap (yearOf day)) 12 := by
  have hspec := yearOf_spec day
  rw [yearStart_succ] at hspec
  unfold ordinalOf
  omega

lemma day_lt_iff {day other : Int} :
    day < other ↔ yearOf day < yearOf other ∨
      yearOf day = yearOf other ∧ ordinalOf day < ordinalOf other := by
  have hday := yearOf_spec day
  have hother := yearOf_spec other
  rw [lt_iff_of_blocks yearStart_le hday hother, ordinalOf, ordinalOf]
  omega

lemma ordinal_lt_iff {leap : Bool} {day other : Nat} (hday : day < monthStart leap 12)
    (hother : other < monthStart leap 12) :
    day < other ↔ monthOf leap day < monthOf leap other ∨ monthOf leap day = monthOf leap other ∧
      day - monthStart leap (monthOf leap day) < other - monthStart leap (monthOf leap other) := by
  have hday := monthOf_spec hday
  have hother := monthOf_spec hother
  have hblocks := @lt_iff_of_blocks Nat _ (fun month => monthStart leap month)
    (fun month => monthStart leap (month + 1)) monthStart_le (monthOf leap day)
    (monthOf leap other) day other (by omega) (by omega)
  omega

namespace LocalTime

/-- The UTC time of a number of seconds since 1970. -/
def utc (secs : Int) : LocalTime where
  year := yearOf (dayOf secs)
  month := monthOf (isLeap (yearOf (dayOf secs))) (ordinalOf (dayOf secs)) + 1
  day := ordinalOf (dayOf secs) - monthStart (isLeap (yearOf (dayOf secs)))
    (monthOf (isLeap (yearOf (dayOf secs))) (ordinalOf (dayOf secs))) + 1
  hour := (secs % 86400).toNat / 3600
  minute := (secs % 86400).toNat / 60 % 60
  second := (secs % 86400).toNat % 60
  millis := 0
  valid := by
    have hmonth : monthOf (isLeap (yearOf (dayOf secs))) (ordinalOf (dayOf secs)) ≤ 11 :=
      Nat.findGreatest_le 11
    have hspec := monthOf_spec (ordinalOf_lt (dayOf secs))
    have hlength := monthLength_le (isLeap (yearOf (dayOf secs)))
      (monthOf (isLeap (yearOf (dayOf secs))) (ordinalOf (dayOf secs)))
    rw [monthStart] at hspec
    omega

/-- `%Y-%m-%d %H:%M:%S`. -/
def dateTime (time : LocalTime) : List Char :=
  yearDigits time.year ++ '-' :: (fixedDigits 2 time.month ++ '-' :: (fixedDigits 2 time.day ++
    ' ' :: (fixedDigits 2 time.hour ++ ':' :: (fixedDigits 2 time.minute ++ ':' ::
      fixedDigits 2 time.second))))

/-- A year of four digits. -/
def InYears (time : LocalTime) : Prop :=
  0 ≤ time.year ∧ time.year ≤ 9999
deriving Decidable

/-- Earlier, the fields compared from the year on. -/
def Before (time other : LocalTime) : Prop :=
  time.year < other.year ∨ time.year = other.year ∧ (time.month < other.month ∨
    time.month = other.month ∧ (time.day < other.day ∨ time.day = other.day ∧
      (time.hour < other.hour ∨ time.hour = other.hour ∧ (time.minute < other.minute ∨
        time.minute = other.minute ∧ time.second < other.second))))

lemma dateTime_lt_iff {time other : LocalTime} (htime : time.InYears) (hother : other.InYears) :
    time.dateTime < other.dateTime ↔ time.Before other := by
  have hvalid := time.valid
  have hvalid' := other.valid
  unfold InYears at htime hother
  rw [dateTime, dateTime, yearDigits, yearDigits, if_pos htime, if_pos hother,
    fixedDigits_append_lt_iff (by omega) (by omega),
    fixedDigits_append_lt_iff (by omega) (by omega),
    fixedDigits_append_lt_iff (by omega) (by omega),
    fixedDigits_append_lt_iff (by omega) (by omega),
    fixedDigits_append_lt_iff (by omega) (by omega),
    fixedDigits_lt_iff (by omega) (by omega), Before]
  omega

lemma utc_before_iff {secs other : Int} : (utc secs).Before (utc other) ↔ secs < other := by
  have hsecs : secs < other ↔ dayOf secs < dayOf other ∨
      dayOf secs = dayOf other ∧ secs % 86400 < other % 86400 := by
    unfold dayOf
    omega
  have hdays := @day_lt_iff (dayOf secs) (dayOf other)
  have hdays' := @day_lt_iff (dayOf other) (dayOf secs)
  have hord := ordinalOf_lt (dayOf secs)
  have hord' := ordinalOf_lt (dayOf other)
  simp only [Before, utc]
  by_cases hyear : yearOf (dayOf secs) = yearOf (dayOf other)
  · rw [← hyear] at hord' ⊢
    have hmonths := ordinal_lt_iff hord hord'
    have hmonths' := ordinal_lt_iff hord' hord
    omega
  · omega

end LocalTime

end IlinkHub
