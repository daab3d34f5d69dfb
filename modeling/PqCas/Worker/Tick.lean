import PqCas.Kem.Modes

/-!
The task `tick` spawns for one delivered stream entry (`main.rs`): decode, handle, acknowledge.
-/

namespace PqCas

structure Delivery where
  stream : String
  id : String
  payload : String
  deriving DecidableEq, Repr

/--
What `serde_json::from_str` makes of a payload.
-/
structure Serde where
  probeJob : String → Except Err ProbeJob
  kemJob : String → Except Err KemJob

namespace tick

variable (serde : Serde) (adapters : AdapterRegistry)

def dispatch (delivery : Delivery) : WorkerM Unit :=
  if delivery.stream = STREAM_PROBE then
    match serde.probeJob delivery.payload with
    | .ok job => probe.handle adapters job
    | .error err => throw s!"undecodable probe job: {err}"
  else if delivery.stream = STREAM_KEM then
    match serde.kemJob delivery.payload with
    | .ok job => kem.handle adapters job
    | .error err => throw s!"undecodable kem job: {err}"
  else
    throw s!"unknown stream {delivery.stream}"

/--
The entry is acknowledged whether the job failed or not; both errors are only logged.
-/
def task (delivery : Delivery) : Prog Op Op.Reply Unit := do
  let _ ← (dispatch serde adapters delivery).run
  let _ ← Prog.perform (Op.ack delivery.stream delivery.id)
  return ()

end tick

end PqCas
