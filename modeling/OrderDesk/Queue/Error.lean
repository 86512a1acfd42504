import OrderDesk.Service
import OrderDesk.Time.Delay

/-!
# Errors of the queue

Why the queue does not take a task or does not hand any out.
-/

namespace OrderDesk

/-- What the queue may answer instead of doing its work. -/
inductive QueueError
  /-- The delay is longer than any span of time there is. -/
  | invalidDelay
  /-- The delay leads out of the calendar. -/
  | delayOutOfRange (delay : Delay)
  /-- The queue does not answer. -/
  | down (service : Service)
  deriving DecidableEq

namespace QueueError

/-- The error in words. -/
def message (e : QueueError) : String :=
  "task queue unavailable: " ++
    match e with
    | .invalidDelay => "invalid delay"
    | .delayOutOfRange delay => "delay of " ++ delay.text ++ " is out of range"
    | .down service => service.name ++ " is down"

end QueueError

end OrderDesk
