import Mathlib.Tactic.TypeStar

/-!
The status vocabularies of `pqcas-domain`. They are Postgres enums as well as API values.
-/

namespace PqCas

abbrev Uuid := Nat

/--
What `anyhow::Error` carries that anything looks at: its text.
-/
abbrev Err := String

inductive TaskStatus where
  | pending
  | running
  | finished
  | failed
  | cancelled
  deriving DecidableEq, Repr

inductive ExecStatus where
  | queued
  | running
  | finished
  | error
  deriving DecidableEq, Repr

inductive ResultStatus where
  | pending
  | passed
  | failed
  | unsupported
  | disabled
  deriving DecidableEq, Repr

inductive ReportStatus where
  | missing
  | partial_
  | complete
  deriving DecidableEq, Repr

inductive KemRunMode where
  | libraryCompat
  | groupCompat
  | priority
  deriving DecidableEq, Repr

inductive Capability where
  | keyGen
  | sigGen
  | sigVer
  deriving DecidableEq, Repr

namespace Capability

/--
The spelling ACVP itself uses in `prompt.json`.
-/
def acvpMode (c : Capability) : String :=
  match c with
  | .keyGen => "keyGen"
  | .sigGen => "sigGen"
  | .sigVer => "sigVer"

def asStr (c : Capability) : String :=
  match c with
  | .keyGen => "key_gen"
  | .sigGen => "sig_gen"
  | .sigVer => "sig_ver"

end Capability

namespace TaskStatus

def closed (s : TaskStatus) : Bool :=
  s == .finished || s == .failed

end TaskStatus

namespace ExecStatus

/--
The filter `exec_status IN ('queued', 'running')` of the close-out query.
-/
def outstanding (s : ExecStatus) : Bool :=
  s == .queued || s == .running

end ExecStatus

end PqCas
