import RankLedger.Region

set_option autoImplicit false

/-! # Remaining time in words

A time span is written in days, hours, minutes and seconds in the language of the region. Days and
hours are left out when there are none; minutes only when the label shows seconds and less than a
minute is left below the days; seconds only on request. -/

namespace RankLedger.RemainingLabel

/-- The words for the four units of time. -/
structure Units where
  second : String
  minute : String
  hour : String
  day : String
  deriving DecidableEq, Repr, Inhabited

/-- The words of a region. -/
def units : Region → Units
  | .jp | .cn => ⟨"秒", "分", "小时", "天"⟩
  | .tw => ⟨"秒", "分", "小時", "天"⟩
  | .en => ⟨"s", "m", "h", "d"⟩
  | .kr => ⟨"초", "분", "시간", "일"⟩

/-- A count and its unit. -/
def part (n : Nat) (unit : String) : String := toString n ++ unit

/-- A span of less than a day. -/
def belowDay (u : Units) (showSeconds : Bool) (n : Nat) : String :=
  (if n / 3600 > 0 then part (n / 3600) u.hour else "")
    ++ (if n ≥ 60 ∨ !showSeconds then part (n % 3600 / 60) u.minute else "")
    ++ (if showSeconds then part (n % 60) u.second else "")

/-- A span of so many seconds; less than none counts as none. -/
def render (region : Region) (showSeconds : Bool) (seconds : Int) : String :=
  let n := seconds.toNat
  (if n / 86400 > 0 then part (n / 86400) (units region).day else "")
    ++ belowDay (units region) showSeconds (n % 86400)

end RankLedger.RemainingLabel
