import RefNav.Cancellation.TokenSource

/-! # Cancellable jobs

Work awaited under a token runs as a job that the token aborts.  A job is
aborted only where it suspends; one that returns without suspending again counts
as aborted all the same, and one that breaks first has broken.  The listener of
the job is released in every case.
-/

namespace RefNav

/-- A thing that a job does. -/
inductive Work where
  /-- Suspend once. -/
  | suspend
  /-- Cancel the token source. -/
  | cancelSource
  /-- Cancel the caller that awaits the job. -/
  | cancelCaller
  | fail
deriving Repr, DecidableEq

/-- How a job ended. -/
inductive JobEnd where
  | finished
  | broken
  | aborted
deriving Repr, DecidableEq

/-- What the caller of a job sees. -/
inductive JobOutcome where
  | finished
  | broken
  /-- The token caused the end. -/
  | operationCancelled
  /-- The caller itself was cancelled. -/
  | callerCancelled
deriving Repr, DecidableEq

/-- A job under way. -/
structure Job where
  source : TokenSource
  /-- Is the job to be aborted where it suspends next? -/
  doomed : Bool := false
  /-- The things done, in order. -/
  done : List Work := []

namespace Job

/-- Note that a thing is done. -/
def finish (t : Job) (w : Work) : Job :=
  { t with done := t.done ++ [w] }

/-- Do the work of a job to its end. -/
def run : Job → List Work → JobEnd × Job
  | t, [] => (if t.doomed then .aborted else .finished, t)
  | t, .suspend :: rest =>
      if t.doomed then (.aborted, t) else (t.finish .suspend).run rest
  | t, .cancelSource :: rest =>
      let (completed, source) :=
        if t.source.token.cancelled then (true, t.source) else t.source.cancel
      let t := { t with source, doomed := t.doomed || source.aborted }
      if completed then (t.finish .cancelSource).run rest else (.broken, t)
  | t, .cancelCaller :: rest => ({ t with doomed := true }.finish .cancelCaller).run rest
  | t, .fail :: _ => (.broken, t)

end Job

/-- How an awaited job ended, what it did, and the source after it. -/
structure Awaited where
  outcome : JobOutcome
  done : List Work
  source : TokenSource

namespace TokenSource

/-- What the caller sees of the end of a job. -/
def outcomeOf (bound : Bool) (s : TokenSource) : JobEnd → JobOutcome
  | .finished => .finished
  | .broken => .broken
  | .aborted => if bound && s.token.cancelled then .operationCancelled else .callerCancelled

/-- Await work without a token. -/
def awaitUnbound (s : TokenSource) (work : List Work) : Awaited :=
  let (ending, t) := Job.run { source := s } work
  { outcome := outcomeOf false t.source ending, done := t.done, source := t.source }

/-- Await work as a job that the source's token aborts.  Nothing runs if the token
is cancelled already. -/
def awaitBound (s : TokenSource) (work : List Work) : Awaited :=
  if s.token.cancelled then { outcome := .operationCancelled, done := [], source := s }
  else
    let (token, handle) := s.token.register .job
    let (ending, t) := Job.run { source := { s with token := token, aborted := false } } work
    { outcome := outcomeOf true t.source ending
      done := t.done
      source := { t.source with token := t.source.token.release handle, aborted := false } }

end TokenSource

end RefNav
