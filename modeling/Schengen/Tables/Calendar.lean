import Schengen.Library.Blocks
import Schengen.Library.CheckedArithmetic
import Schengen.Tables.Dates

/-!
# The calendar

`ToJulian` finds the year and the day of the year of a generated date, and `ToYmd` the month and its
day. Years and months are consecutive blocks of days, so the YYDDD numbers are ordered as the days
are.
-/

namespace Schengen.Tables
open Library

namespace TPCHDate

/-! ## The conversions in `std::int32_t` -/

def yearEnd32 (result : Int) : Option Int :=
  (checked 32 (result.tdiv 1000 * 1000)).bind fun start =>
    (checked 32 (start + 365)).bind fun last =>
      checked 32 (last + (if isLeapYear (result.tdiv 1000) then 1 else 0))

def toJulianLoop32 : Nat → Int → Int → Option Int
  | 0, _, _ => none
  | fuel + 1, result, offset =>
    (yearEnd32 result).bind fun yearEnd =>
      (checked 32 (result + offset)).bind fun julian =>
        if julian ≤ yearEnd then some julian
        else
          (checked 32 (yearEnd - result)).bind fun left =>
            (checked 32 (left + 1)).bind fun days =>
              (checked 32 (offset - days)).bind fun offset =>
                (checked 32 (result + 1000)).bind fun result => toJulianLoop32 fuel result offset

def toJulian32 (date : Int) : Option Int :=
  (checked 32 (date - kMinGenerateDate)).bind fun offset =>
    toJulianLoop32 (offset.toNat + 1) kMinGenerateDate offset

def kMonthYearDayStart : List Int := [0, 31, 59, 90, 120, 151, 181, 212, 243, 273, 304, 334, 365]

/-- The entry of the array, if the index lies inside. -/
def monthYearDayStart (month : Int) : Option Int :=
  if 0 ≤ month then kMonthYearDayStart[month.toNat]? else none

def leapYearAdjustment (year month : Int) : Int := if isLeapYear year && 2 ≤ month then 1 else 0

/-- The loop of `ToYmd`; `none` where the fuel runs out. -/
def monthLoop (year day : Int) : Nat → Int → Option Int
  | 0, _ => none
  | fuel + 1, month =>
    (monthYearDayStart month).bind fun start =>
      (checked 32 (start + leapYearAdjustment year month)).bind fun last =>
        if day > last then (checked 32 (month + 1)).bind (monthLoop year day fuel) else some month

/-- Year, month and day. -/
def toYmd (generatedDate : Int) : Option (Int × Int × Int) :=
  (toJulian32 generatedDate).bind fun julian =>
    let day := julian.tmod 1000
    let year := julian.tdiv 1000
    (monthLoop year day kMonthYearDayStart.length 0).bind fun month =>
      (checked 32 (month - 1)).bind fun before =>
        (monthYearDayStart before).bind fun start =>
          (checked 32 (day - start)).bind fun rest =>
            (checked 32 (rest - (if isLeapYear year && month > 2 then 1 else 0))).map fun d =>
              (year, month, d)

/-! ## Years -/

def yearLength (year : Nat) : Nat := 365 + if isLeapYear year then 1 else 0

lemma yearLength_bounds (year : Nat) : 365 ≤ yearLength year ∧ yearLength year ≤ 366 := by
  unfold yearLength
  split <;> decide

lemma yearEnd_eq (year : Nat) : yearEnd ((year : Int) * 1000 + 1) = year * 1000 + yearLength year := by
  rw [yearEnd_newYear, yearLength, add_assoc]
  split <;> rfl

/-- The years from 1992 on. -/
def yearBlock (block : Nat) : Nat := yearLength (92 + block)

/-- The loop finds the year of the day `position`, from any year before it on. -/
lemma toJulianLoop_spec {fuel block offset : Nat} (hfuel : offset < fuel) :
    ∃ block' place, Located yearBlock (blockStart yearBlock block + offset) block' place ∧
      toJulianLoop fuel (((92 + block : Nat) : Int) * 1000 + 1) offset =
        some (((92 + block' : Nat) : Int) * 1000 + 1 + place) := by
  induction fuel generalizing block offset with
  | zero => omega
  | succ fuel ih =>
    have hlength := yearLength_bounds (92 + block)
    rw [toJulianLoop, yearEnd_eq]
    by_cases hinside : offset < yearLength (92 + block)
    · rw [if_pos (by omega)]
      exact ⟨block, offset, ⟨hinside, rfl⟩, rfl⟩
    · obtain ⟨block', place, hlocated, hloop⟩ :=
        @ih (block + 1) (offset - yearLength (92 + block)) (by omega)
      refine ⟨block', place, ?_, ?_⟩
      · rw [blockStart_succ, yearBlock, Nat.add_assoc, Nat.add_sub_cancel' (not_lt.mp hinside)]
          at hlocated
        exact hlocated
      · have hresult : ((92 + block : Nat) : Int) * 1000 + 1 + 1000 =
            ((92 + (block + 1) : Nat) : Int) * 1000 + 1 := by
          push_cast
          omega
        have hoffset : (offset : Int) - (((92 + block : Nat) : Int) * 1000 + yearLength (92 + block) -
            (((92 + block : Nat) : Int) * 1000 + 1) + 1) =
              ((offset - yearLength (92 + block) : Nat) : Int) := by
          omega
        rw [if_neg (by omega), hresult, hoffset, hloop]

/-- The date is day `day` of the year, where the years from 1992 on are counted in days. -/
structure YearDay (date : Int) (year day : Nat) : Prop where
  year_le : 92 ≤ year
  pos : 1 ≤ day
  le_length : day ≤ yearLength year
  days : ((∑ i ∈ Finset.Ico 92 year, yearLength i + (day - 1) : Nat) : Int) = date - kMinGenerateDate

variable {date date' : Int} {year day year' day' : Nat}

lemma yearDay_iff : YearDay date (92 + year) (day + 1) ↔
    kMinGenerateDate ≤ date ∧ Located yearBlock (date - kMinGenerateDate).toNat year day := by
  have hsum := sum_Ico_eq_blockStart yearLength 92 year
  constructor
  · intro h
    have hdays := h.days
    rw [hsum] at hdays
    exact ⟨by omega, h.le_length, by rw [← hdays]; rfl⟩
  · rintro ⟨hmin, h⟩
    have hposition := h.position_eq
    refine ⟨Nat.le_add_right 92 year, Nat.succ_pos day, h.inside, ?_⟩
    rw [hsum]
    change ((blockStart yearBlock year + day : Nat) : Int) = _
    omega

lemma toJulian_eq (h : kMinGenerateDate ≤ date) :
    ∃ year day, YearDay date year day ∧ toJulian date = some (1000 * (year : Int) + day) := by
  obtain ⟨block, place, hlocated, hloop⟩ :=
    @toJulianLoop_spec ((date - kMinGenerateDate).toNat + 1) 0 (date - kMinGenerateDate).toNat
      (Nat.lt_succ_self _)
  have hstart : blockStart yearBlock 0 = 0 := rfl
  rw [hstart, Nat.zero_add] at hlocated
  refine ⟨92 + block, place + 1, yearDay_iff.mpr ⟨h, hlocated⟩, ?_⟩
  rw [Int.toNat_of_nonneg (by omega)] at hloop
  have hjulian : ((92 + block : Nat) : Int) * 1000 + 1 + place =
      1000 * ((92 + block : Nat) : Int) + ((place + 1 : Nat) : Int) := by
    push_cast
    omega
  rw [hjulian] at hloop
  exact hloop

/-- The YYDDD numbers are ordered as the dates are. -/
lemma julian_lt_iff (h : YearDay date year day) (h' : YearDay date' year' day') :
    1000 * year + day < 1000 * year' + day' ↔ date < date' := by
  obtain ⟨block, rfl⟩ := Nat.exists_eq_add_of_le h.year_le
  obtain ⟨block', rfl⟩ := Nat.exists_eq_add_of_le h'.year_le
  obtain ⟨place, rfl⟩ := Nat.exists_eq_succ_of_ne_zero (Nat.pos_iff_ne_zero.mp h.pos)
  obtain ⟨place', rfl⟩ := Nat.exists_eq_succ_of_ne_zero (Nat.pos_iff_ne_zero.mp h'.pos)
  obtain ⟨hmin, hlocated⟩ := yearDay_iff.mp h
  obtain ⟨hmin', hlocated'⟩ := yearDay_iff.mp h'
  have hlength := h.le_length.trans (yearLength_bounds _).2
  have hlength' := h'.le_length.trans (yearLength_bounds _).2
  have hlt := hlocated.lt_iff hlocated'
  omega

/-! ## No overflow -/

/-- The year and the days that are left, weighted with the length of a year: the loop does not
increase them, and they bound every number that it computes. -/
def maxDays : Int := 700000000 - kMinGenerateDate + 365 * 92

lemma toJulianLoop32_eq {fuel block : Nat} {offset : Int} (hoffset : 0 ≤ offset)
    (hmax : 365 * (block : Int) + offset ≤ maxDays) :
    toJulianLoop32 fuel ((block : Int) * 1000 + 1) offset =
      toJulianLoop fuel ((block : Int) * 1000 + 1) offset := by
  induction fuel generalizing block offset with
  | zero => rfl
  | succ fuel ih =>
    unfold maxDays kMinGenerateDate at hmax ih
    obtain ⟨hlow, hhigh⟩ := yearLength_bounds block
    have hyear : ((block : Int) * 1000 + 1).tdiv 1000 = block := by
      rw [Int.tdiv_eq_ediv_of_nonneg (by omega)]
      omega
    have hleap : (block : Int) * 1000 + 365 + (if isLeapYear block then 1 else 0) =
        block * 1000 + yearLength block := by
      rw [← yearEnd_newYear, yearEnd_eq]
    have hend : yearEnd32 ((block : Int) * 1000 + 1) =
        some ((block : Int) * 1000 + yearLength block) := by
      unfold yearEnd32
      rw [hyear, checked_eq ⟨by omega, by omega⟩, Option.bind_some, checked_eq ⟨by omega, by omega⟩,
        Option.bind_some, hleap, checked_eq ⟨by omega, by omega⟩]
    rw [toJulianLoop32, toJulianLoop, hend, Option.bind_some, checked_eq ⟨by omega, by omega⟩,
      Option.bind_some, yearEnd_eq]
    by_cases hlast : (block : Int) * 1000 + 1 + offset ≤ block * 1000 + yearLength block
    · rw [if_pos hlast, if_pos hlast]
    · have hnext : (block : Int) * 1000 + 1 + 1000 = ((block + 1 : Nat) : Int) * 1000 + 1 := by
        push_cast
        omega
      rw [if_neg hlast, if_neg hlast, checked_eq ⟨by omega, by omega⟩, Option.bind_some,
        checked_eq ⟨by omega, by omega⟩, Option.bind_some, checked_eq ⟨by omega, by omega⟩,
        Option.bind_some, checked_eq ⟨by omega, by omega⟩, Option.bind_some, hnext]
      exact ih (by omega) (by push_cast; omega)

lemma toJulian32_eq (h : kMinGenerateDate ≤ date) (hmax : date < 700000000) :
    toJulian32 date = toJulian date := by
  have hstart : kMinGenerateDate = ((92 : Nat) : Int) * 1000 + 1 := rfl
  have hbound : 365 * ((92 : Nat) : Int) + (date - kMinGenerateDate) ≤ maxDays := by
    unfold maxDays
    omega
  have hloop := @toJulianLoop32_eq ((date - kMinGenerateDate).toNat + 1) 92 (date - kMinGenerateDate)
    (by omega) hbound
  rw [← hstart] at hloop
  have hfits : Fits 32 (date - kMinGenerateDate) := by
    unfold kMinGenerateDate at h ⊢
    exact ⟨by omega, by omega⟩
  unfold toJulian32 toJulian
  rw [checked_eq hfits, Option.bind_some, hloop]

/-! ## Months -/

def monthLength (leap : Bool) (month : Nat) : Nat :=
  if month = 2 then 28 + (if leap then 1 else 0)
  else if month = 4 ∨ month = 6 ∨ month = 9 ∨ month = 11 then 30 else 31

/-- The months from January on. -/
def monthBlock (leap : Bool) (block : Nat) : Nat := monthLength leap (1 + block)

/-- The array holds the days before a month without leap day, and the correction adds it. -/
lemma monthYearDayStart_eq : ∀ leap : Bool, ∀ month ≤ 12, monthYearDayStart (month : Nat) =
    some ((blockStart (monthBlock leap) month : Int) - if leap && 2 ≤ month then 1 else 0) := by
  decide

lemma blockStart_monthBlock_twelve (year : Nat) :
    blockStart (monthBlock (isLeapYear year)) 12 = yearLength year := by
  unfold yearLength
  cases isLeapYear year <;> decide

variable {leap : Bool}

lemma blockStart_monthBlock_le {month : Nat} (h : month ≤ 12) :
    blockStart (monthBlock leap) month ≤ 366 := by
  have hmono := blockStart_mono (monthBlock leap) h
  have hlast : blockStart (monthBlock leap) 12 ≤ 366 := by cases leap <;> decide
  exact hmono.trans hlast

/-- The loop stops behind the month of the day. -/
lemma monthLoop_spec {fuel month : Nat} (hleap : isLeapYear year = leap) (hpos : 1 ≤ day)
    (hday : day ≤ blockStart (monthBlock leap) 12) (hfuel : month + fuel = 13)
    (hbefore : ∀ block < month, blockStart (monthBlock leap) block < day) :
    ∃ block < 12, Located (monthBlock leap) (day - 1) block
        (day - 1 - blockStart (monthBlock leap) block) ∧
      monthLoop year day fuel month = some ((block + 1 : Nat) : Int) := by
  induction fuel generalizing month with
  | zero =>
    have hlast := hbefore 12 (by omega)
    omega
  | succ fuel ih =>
    have hmonth : month ≤ 12 := by omega
    have hle := @blockStart_monthBlock_le leap month hmonth
    have hadjust : (blockStart (monthBlock leap) month : Int) - (if leap && 2 ≤ month then 1 else 0) +
        leapYearAdjustment year month = blockStart (monthBlock leap) month := by
      have hfrom : (2 ≤ month) = ((2 : Int) ≤ month) := propext (by omega)
      unfold leapYearAdjustment
      simp only [hleap, hfrom]
      exact Int.sub_add_cancel _ _
    rw [monthLoop, monthYearDayStart_eq leap month hmonth, Option.bind_some, hadjust,
      checked_eq ⟨by omega, by omega⟩, Option.bind_some]
    by_cases hpast : blockStart (monthBlock leap) month < day
    · have hnext : (month : Int) + 1 = ((month + 1 : Nat) : Int) := rfl
      rw [if_pos (by omega), checked_eq ⟨by omega, by omega⟩, Option.bind_some, hnext]
      refine ih (by omega) fun block hblock => ?_
      rcases Nat.lt_succ_iff_lt_or_eq.mp hblock with h | rfl
      · exact hbefore block h
      · exact hpast
    · have hmonth' : month ≠ 0 := by
        rintro rfl
        exact hpast hpos
      obtain ⟨block, rfl⟩ := Nat.exists_eq_add_one_of_ne_zero hmonth'
      have hlow := hbefore block (Nat.lt_succ_self block)
      rw [if_neg (by omega)]
      exact ⟨block, by omega, located_of_mem (by omega) (by omega), rfl⟩

/-- The day of the year is day `d` of month `m`. -/
structure MonthDay (year day m d : Nat) : Prop where
  one_le : 1 ≤ m
  le_twelve : m ≤ 12
  pos : 1 ≤ d
  le_length : d ≤ monthLength (isLeapYear year) m
  days : ∑ i ∈ Finset.Ico 1 m, monthLength (isLeapYear year) i + d = day

lemma toYmd_eq (h : YearDay date year day) (hjulian : toJulian32 date = some (1000 * (year : Int) + day)) :
    ∃ m d : Nat, MonthDay year day m d ∧ toYmd date = some ((year : Int), (m : Int), (d : Int)) := by
  have hlength := h.le_length.trans (yearLength_bounds _).2
  have hday : ((1000 : Int) * year + day).tmod 1000 = day := by
    rw [Int.tmod_eq_emod_of_nonneg (by omega)]
    omega
  have hyear : ((1000 : Int) * year + day).tdiv 1000 = year := by
    rw [Int.tdiv_eq_ediv_of_nonneg (by omega)]
    omega
  obtain ⟨block, hblock, hlocated, hloop⟩ := @monthLoop_spec year day _ 13 0 rfl h.pos
    (h.le_length.trans (blockStart_monthBlock_twelve year).ge) rfl
    (fun block hlt => absurd hlt (Nat.not_lt_zero block))
  have hposition := hlocated.position_eq
  have hinside := hlocated.inside
  have hpos := h.pos
  have hle := @blockStart_monthBlock_le (isLeapYear year) block hblock.le
  generalize hstart : blockStart (monthBlock (isLeapYear year)) block = start at *
  refine ⟨block + 1, day - start, ⟨by omega, by omega, by omega, ?_, ?_⟩, ?_⟩
  · rw [Nat.add_comm block 1]
    change day - start ≤ monthBlock (isLeapYear year) block
    omega
  · rw [Nat.add_comm block 1, sum_Ico_eq_blockStart]
    change blockStart (monthBlock (isLeapYear year)) block + _ = _
    omega
  · have hbefore : ((block + 1 : Nat) : Int) - 1 = block := by omega
    have hadjust : (if isLeapYear year && decide (((block + 1 : Nat) : Int) > 2) then 1 else 0 : Int) =
        if isLeapYear year && decide (2 ≤ block) then 1 else 0 := by
      have hfrom : (((block + 1 : Nat) : Int) > 2) = (2 ≤ block) := propext (by omega)
      simp only [hfrom]
    have hzero : 0 ≤ (if isLeapYear year && decide (2 ≤ block) then 1 else 0 : Int) ∧
        (if isLeapYear year && decide (2 ≤ block) then 1 else 0 : Int) ≤ 1 := by
      split <;> decide
    unfold toYmd
    rw [hjulian, Option.bind_some]
    simp only [hday, hyear]
    change (monthLoop year day 13 ((0 : Nat) : Int)).bind _ = _
    rw [hloop, Option.bind_some, hbefore, checked_eq ⟨by omega, by omega⟩, Option.bind_some,
      monthYearDayStart_eq (isLeapYear year) block hblock.le, Option.bind_some, hadjust, hstart]
    generalize (if isLeapYear year && decide (2 ≤ block) then 1 else 0 : Int) = leapDay at hzero ⊢
    have hd : (day : Int) - (start - leapDay) - leapDay = ((day - start : Nat) : Int) := by omega
    rw [checked_eq ⟨by omega, by omega⟩, Option.bind_some, hd, checked_eq ⟨by omega, by omega⟩]
    rfl

/-- Every date from 1992 on that is small enough for `std::int32_t` is converted into a year and a day
of the year, and into a month and a day of the month; no index leaves the array, and later dates have
larger numbers. -/
theorem calendar (hmin : 92001 ≤ date) (hmax : date < 700000000) :
    ∃ year day m d : Nat, YearDay date year day ∧ MonthDay year day m d ∧
      toJulian32 date = some (1000 * (year : Int) + day) ∧
      toYmd date = some ((year : Int), (m : Int), (d : Int)) ∧
      ∀ date', date < date' → date' < 700000000 →
        ∃ julian, toJulian32 date' = some julian ∧ 1000 * (year : Int) + day < julian := by
  obtain ⟨year, day, hyearDay, hjulian⟩ := toJulian_eq hmin
  rw [← toJulian32_eq hmin hmax] at hjulian
  obtain ⟨m, d, hmonthDay, hymd⟩ := toYmd_eq hyearDay hjulian
  refine ⟨year, day, m, d, hyearDay, hmonthDay, hjulian, hymd, fun date' hlt hmax' => ?_⟩
  have hmin' : kMinGenerateDate ≤ date' := hmin.trans hlt.le
  obtain ⟨year', day', hyearDay', hjulian'⟩ := toJulian_eq hmin'
  have hless := (julian_lt_iff hyearDay hyearDay').mpr hlt
  exact ⟨_, (toJulian32_eq hmin' hmax').trans hjulian', by exact_mod_cast hless⟩

/-- The day behind the leap day of 1996. -/
theorem calendar_leapYear : toYmd 93522 = some (96, 3, 1) ∧
    ∃ year day m d : Nat, YearDay 93522 year day ∧ MonthDay year day m d ∧
      toJulian32 93522 = some (1000 * (year : Int) + day) ∧
      toYmd 93522 = some ((year : Int), (m : Int), (d : Int)) ∧
      ∀ date', 93522 < date' → date' < 700000000 →
        ∃ julian, toJulian32 date' = some julian ∧ 1000 * (year : Int) + day < julian :=
  ⟨by decide, calendar (by decide) (by decide)⟩

/-- A date is in the past up to the one whose number is the current date. -/
lemma isInPast_iff (h : kMinGenerateDate ≤ date) : isInPast date = true ↔ date ≤ 93264 := by
  obtain ⟨year, day, hyearDay, hjulian⟩ := toJulian_eq h
  have hcurrent : YearDay 93264 95 168 := by
    refine ⟨by decide, by decide, by decide, by decide⟩
  have hlt := julian_lt_iff hcurrent hyearDay
  unfold isInPast kCurrentDate
  rw [hjulian, Option.any_some, decide_eq_true_iff]
  omega

end TPCHDate

end Schengen.Tables
