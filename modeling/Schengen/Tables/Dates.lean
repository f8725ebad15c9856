import Mathlib.Tactic.Common

/-!
# Dates

The YYDDD dates of `Common/dates.cpp`. A generated date counts days from 92001 on;
`ToJulian` turns it into year and day of the year.
-/

namespace Schengen.Tables

namespace TPCHDate

def kMinGenerateDate : Int := 92001

def kTotalDateRange : Int := 2557

def kCurrentDate : Int := 95168

def kUnixEpochOffset : Int := 8035

def toUnixEpoch (generatedDate : Int) : Int :=
  (generatedDate - kMinGenerateDate) + kUnixEpochOffset

def isLeapYear (year : Int) : Bool := year.tmod 4 == 0 && year.tmod 100 != 0

def yearEnd (result : Int) : Int :=
  let year := result.tdiv 1000
  year * 1000 + 365 + (if isLeapYear year then 1 else 0)

/-- The loop of `ToJulian`; `none` where the fuel runs out. -/
def toJulianLoop : Nat → Int → Int → Option Int
  | 0, _, _ => none
  | fuel + 1, result, offset =>
    if result + offset ≤ yearEnd result then some (result + offset)
    else toJulianLoop fuel (result + 1000) (offset - (yearEnd result - result + 1))

/-- Every turn of the loop takes at least one day off, so the fuel suffices. -/
def toJulian (date : Int) : Option Int :=
  toJulianLoop ((date - kMinGenerateDate).toNat + 1) kMinGenerateDate (date - kMinGenerateDate)

def isInPast (generatedDate : Int) : Bool :=
  (toJulian generatedDate).any (fun julian => julian ≤ kCurrentDate)

lemma yearEnd_newYear (year : Nat) :
    yearEnd ((year : Int) * 1000 + 1) =
      (year : Int) * 1000 + 365 + (if isLeapYear year then 1 else 0) := by
  have hyear : ((year : Int) * 1000 + 1).tdiv 1000 = year := by
    rw [Int.tdiv_eq_ediv_of_nonneg (by omega)]
    omega
  simp only [yearEnd, hyear]

end TPCHDate

end Schengen.Tables
