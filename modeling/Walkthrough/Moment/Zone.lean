import Walkthrough.Moment.Basic

/-!
# Zones

The clock of a machine is that of a zone, which is ahead of universal time by an amount that
changes in the course of a year.  When the clock is put forward or back at midnight, there are days
on which it never shows midnight and days on which it shows it twice.
-/

namespace Walkthrough

/-- A zone, as far as the start of days is concerned. -/
structure Zone where
  /-- By how many seconds the clock is ahead of universal time at midnight, when a day starts;
  nothing if it does not show midnight just once on that day. -/
  ahead? : Date → Option Int

namespace Zone

/-- The zone whose clock shows universal time. -/
def universal : Zone := ⟨fun _ => some 0⟩

/-- The moment at which a day starts in the zone, if there is just one. -/
def midnight? (zone : Zone) (date : Date) : Option Moment :=
  (zone.ahead? date).bind (Moment.of? date 0 0 0 0)

@[simp]
theorem midnight?_universal (date : Date) : universal.midnight? date = some date.midnight :=
  dif_pos ⟨by decide, by decide, by decide, by decide, by decide, date.midnight.universal_mem⟩

end Zone

end Walkthrough
