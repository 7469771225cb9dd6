import Mise.Data

/-!
# Schedule

The cook works through the steps of a recipe one after another on one timeline. A step lasts as
long as its timers keep the cook busy; one that has no timers at all is given a default. Background
tasks start within a step and may outlast it, and the whole recipe takes until the last of them
ends.

## Main definitions

* `Timing`: When a step starts and ends.
* `BackgroundTask`: What runs beside the cook's work.
* `Schedule`: The timeline so far.
* `Schedule.startBackground`, `Schedule.finishStep`: Its progress.
* `Schedule.totalTime`: When everything is over.
-/

namespace Mise

/-- The minutes that a step without any timer is given. -/
def defaultStepMinutes : Float := 2.0

/-- When a step starts and ends, and how long the cook is busy, in minutes. -/
structure Timing where
  start : Float
  finish : Float
  active : Float
  deriving DecidableEq

/-- A timer that runs in the background, with its start counted from that of the step. -/
structure BackgroundTask where
  name : String
  duration : Float
  offset : Float
  deriving DecidableEq

/-- The timeline so far: the minute the cook has reached, the minutes spent working, and when each
    background task ends. -/
structure Schedule where
  cursor : Float
  activeTime : Float
  backgroundEnds : List Float
  deriving DecidableEq

namespace Schedule

/-- The timeline before the first step. -/
def empty : Schedule := ⟨0.0, 0.0, []⟩

/-- Start a background task so many minutes into the current step. -/
def startBackground (s : Schedule) (offset duration : Float) : Schedule :=
  { s with backgroundEnds := s.backgroundEnds ++ [s.cursor + offset + duration] }

/-- How long a step takes whose timers keep the cook busy for the given minutes. A step that does
    nothing but start background tasks takes no time. -/
def stepMinutes (busy : Float) (hasBackground : Bool) : Float :=
  if busy == 0.0 && !hasBackground then defaultStepMinutes else busy

/-- The timing of a step that starts now. -/
def timing (s : Schedule) (busy : Float) (hasBackground : Bool) : Timing :=
  let active := stepMinutes busy hasBackground
  ⟨s.cursor, s.cursor + active, active⟩

/-- The timeline after a step. -/
def finishStep (s : Schedule) (busy : Float) (hasBackground : Bool) : Schedule :=
  let active := stepMinutes busy hasBackground
  { s with cursor := s.cursor + active, activeTime := s.activeTime + active }

/-- When the cook and all background tasks are done. -/
def totalTime (s : Schedule) : Float :=
  s.backgroundEnds.foldl maxNumber s.cursor

end Schedule

/-- A timing as data. -/
def Timing.toData (t : Timing) : Data :=
  .record [("start", Data.ofNumber t.start), ("end", Data.ofNumber t.finish),
    ("activeDuration", Data.ofNumber t.active)]

/-- A background task as data. -/
def BackgroundTask.toData (t : BackgroundTask) : Data :=
  .record [("name", .text t.name), ("duration", Data.ofNumber t.duration),
    ("startOffset", Data.ofNumber t.offset)]

end Mise
