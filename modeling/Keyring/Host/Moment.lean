import Keyring.Text.Numeral

/-!
# Points in time

A log names its file by the day and starts its lines with the time to the second.
-/

namespace Keyring

open Text (lit)

/-- A point in time, as logs write it. -/
structure Moment where
  /-- The day, eight digits. -/
  day : Text
  /-- The day and the time to the second. -/
  stamp : Text
  deriving DecidableEq, Repr

/-- The moment of a date and a time. -/
def Moment.ofFields (year month day hour minute second : Nat) : Moment where
  day := Text.ofNat year ++ Text.ofNatTwoDigits month ++ Text.ofNatTwoDigits day
  stamp :=
    Text.join (lit "-") [Text.ofNat year, Text.ofNatTwoDigits month, Text.ofNatTwoDigits day] ++
      lit " " ++
      Text.join (lit ":")
        [Text.ofNatTwoDigits hour, Text.ofNatTwoDigits minute, Text.ofNatTwoDigits second]

end Keyring
