import Mathlib.Data.List.Basic

/-!
This module contains the error type of the API handlers.
-/

namespace PqCas

namespace api

/--
One error type for every handler. What the database, Redis or a decoder reports is kept as its text.
-/
inductive ApiError where
  | badRequest (msg : String)
  | notFound (what : String)
  | conflict (msg : String)
  | rowNotFound
  | database (err : String)
  | redis (err : String)
  | json (err : String)
  | other (err : String)
  deriving DecidableEq, Repr

def ApiError.intoResponse (err : ApiError) : Nat × String :=
  match err with
  | .badRequest msg => (400, msg)
  | .notFound what => (404, s!"{what} not found")
  | .conflict msg => (409, msg)
  | .rowNotFound => (404, "not found")
  | .database _ | .redis _ | .json _ | .other _ => (500, "internal error")

end api

end PqCas
