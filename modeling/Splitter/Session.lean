import Splitter.Wrap

/-!
# The session sub-protocol

`session.rs`: the frames of the session that is embedded in the `Join` stream, the classification of
an inbound one, and the delay to the next heartbeat.
-/

namespace Splitter

/-- Events extracted from an inbound session frame. -/
inductive SessionEvent
  | established (ttl : SystemTime)
  | heartbeatAck (ttl : SystemTime)
  | closed (error : String)
  deriving DecidableEq

/-- `session::classify`. A frame with a time outside the clock's range panics. -/
def classify (msg : sessionPb.Message) : Result (Option SessionEvent) :=
  match msg.request with
  | some (.established (some ttl) _) => do pure (some (.established (← timestampToSystemTime ttl)))
  | some (.ack (some ttl)) => do pure (some (.heartbeatAck (← timestampToSystemTime ttl)))
  | some (.closed error) => pure (some (.closed error))
  | _ => pure none

/-- `session::wrap`. -/
def wrapSession (request : sessionPb.Request) : pb.JoinMessage :=
  { msg := some (.session { request := some request }) }

/-- `session::heartbeat_frame`, at a reading of the clock. -/
def heartbeatFrame (now : SystemTime) : pb.JoinMessage :=
  wrapSession (.heartbeat (some (systemTimeToTimestamp now)))

/-- `session::closed_frame`. -/
def closedFrame (error : String) : pb.JoinMessage := wrapSession (.closed error)

/-- A third of what is left of the lease, but at least 250 milliseconds and at most 30 seconds. -/
def heartbeatDelay (ttl now : SystemTime) : Duration :=
  let remaining := (ttl.nanos - now.nanos).toNat
  { nanos := max 250000000 (min (remaining / 3) (30 * nanosPerSec))
    bound := by
      unfold nanosPerSec
      omega }

/-- A frame that is classified as a session end is one. -/
theorem classify_eq_closed {msg : sessionPb.Message} {error : String} :
    classify msg = .ok (some (.closed error)) ↔ msg.request = some (.closed error) := by
  unfold classify
  split
  · next ttl _ hreq =>
    rw [hreq]
    cases timestampToSystemTime ttl <;> simp [bind, Except.bind, pure, Except.pure]
  · next ttl hreq =>
    rw [hreq]
    cases timestampToSystemTime ttl <;> simp [bind, Except.bind, pure, Except.pure]
  · next e hreq => simp [hreq, pure, Except.pure]
  · next hnot => simpa [pure, Except.pure] using hnot error

end Splitter
