import RefNav.Cancellation.Token

/-! # Token sources

A source owns a token.  Callers register named callbacks, release their
registrations, cancel the source and dispose of it; a callback may itself do any
of these when it is told, and may break.  A token is cancelled only once, so the
callbacks told by a cancellation find it cancelled already, and whatever they do
ends.
-/

namespace RefNav

/-- Something that a caller does with a token source. -/
inductive Action where
  /-- Register a callback that, when told, does the given actions or else breaks
  before it does any. -/
  | register (name : String) (actions : List Action) (breaks : Bool)
  /-- Release the registration last made under a name. -/
  | unregister (name : String)
  | cancel
  | dispose
  /-- Do nothing. -/
  | look
  /-- Register a callback for the time of a block. -/
  | within (name : String) (body : List Action)
  /-- Dispose of the source after a block. -/
  | scope (body : List Action)
deriving Repr

/-- Who waits for a token. -/
inductive Listener where
  | callback (name : String) (actions : List Action) (breaks : Bool)
  /-- A job that is aborted. -/
  | job
deriving Repr

/-- A token source with the registrations made by name and the names of the
callbacks told so far. -/
structure TokenSource where
  token : Token Listener := {}
  handles : List (String × Registration) := []
  told : List String := []
  /-- Was the job that waits for the token aborted? -/
  aborted : Bool := false
deriving Repr

/-- What became of an action: whether it came to its end, the source at the end of
its block, and the source after it. -/
structure Turn where
  completed : Bool
  inside : TokenSource
  after : TokenSource
deriving Repr

namespace Turn

/-- An action without a block. -/
def plain (completed : Bool) (s : TokenSource) : Turn :=
  { completed, inside := s, after := s }

end Turn

namespace TokenSource

/-- Keep a registration under a name; an older one under the same name is
forgotten. -/
def keep (s : TokenSource) (name : String) (r : Registration) : TokenSource :=
  { s with handles :=
      if (s.handles.lookup name).isSome then
        s.handles.map fun h => if h.1 = name then (name, r) else h
      else s.handles ++ [(name, r)] }

/-- Release a registration. -/
def release (s : TokenSource) (r : Registration) : TokenSource :=
  { s with
    token := s.token.release r
    handles := s.handles.map fun h => if h.2 = r then (h.1, .released) else h }

/-- Release the registration last made under a name. -/
def unregister (s : TokenSource) (name : String) : TokenSource :=
  match s.handles.lookup name with
  | some r => s.release r
  | none => s

/-- Forget all listeners. -/
def dispose (s : TokenSource) : TokenSource :=
  { s with token := s.token.clear }

/-- Note that a callback was told. -/
def tell (s : TokenSource) (name : String) : TokenSource :=
  { s with told := s.told ++ [name] }

/-- Add a callback to a token that is not cancelled. -/
def enrol (s : TokenSource) (name : String) (actions : List Action) (breaks : Bool) :
    TokenSource × Registration :=
  let (token, r) := s.token.register (.callback name actions breaks)
  ({ s with token := token }.keep name r, r)

/-- A released registration under a name, as a callback that was told at once
leaves it. -/
def settle (s : TokenSource) (name : String) : TokenSource :=
  s.keep name .released

end TokenSource

mutual

/-- Carry out an action.  `fire` is what cancelling a token does that is not
cancelled yet. -/
def Action.run (fire : TokenSource → Bool × TokenSource) : Action → TokenSource → Turn
  | .register name actions breaks, s =>
      if s.token.cancelled then
        if breaks then .plain false (s.tell name)
        else
          let (completed, t) := Action.runAll fire actions (s.tell name)
          if completed then .plain true (t.settle name) else .plain false t
      else .plain true (s.enrol name actions breaks).1
  | .unregister name, s => .plain true (s.unregister name)
  | .cancel, s =>
      if s.token.cancelled then .plain true s
      else
        let (completed, t) := fire s
        .plain completed t
  | .dispose, s => .plain true s.dispose
  | .look, s => .plain true s
  | .within name body, s =>
      let (t, r) :=
        if s.token.cancelled then ((s.tell name).settle name, Registration.released)
        else s.enrol name [] false
      let (completed, inside) := Action.runAll fire body t
      { completed, inside, after := inside.release r }
  | .scope body, s =>
      let (completed, inside) := Action.runAll fire body s
      { completed, inside, after := inside.dispose }

/-- Carry out actions until one does not come to its end. -/
def Action.runAll (fire : TokenSource → Bool × TokenSource) :
    List Action → TokenSource → Bool × TokenSource
  | [], s => (true, s)
  | a :: rest, s =>
      let turn := Action.run fire a s
      if turn.completed then Action.runAll fire rest turn.after else (false, turn.after)

end

namespace TokenSource

/-- Cancelling a token that is cancelled does nothing. -/
def quiet (s : TokenSource) : Bool × TokenSource :=
  (true, s)

/-- Tell a listener of a cancelled token. -/
def notify (s : TokenSource) : Listener → Bool × TokenSource
  | .callback name actions breaks =>
      if breaks then (false, s.tell name)
      else Action.runAll quiet actions (s.tell name)
  | .job => (true, { s with aborted := true })

/-- Tell listeners in order until one breaks. -/
def notifyAll : TokenSource → List Listener → Bool × TokenSource
  | s, [] => (true, s)
  | s, l :: rest =>
      let (completed, t) := s.notify l
      if completed then t.notifyAll rest else (false, t)

/-- Cancel the source: its listeners are told in the order of their registration.
A listener that breaks keeps the later ones from being told. -/
def cancel (s : TokenSource) : Bool × TokenSource :=
  let (token, listeners) := s.token.fire
  { s with token := token }.notifyAll listeners

/-- Carry out an action on a source. -/
def perform (s : TokenSource) (a : Action) : Turn :=
  Action.run cancel a s

end TokenSource

end RefNav
