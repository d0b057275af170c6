import SessionNet.Dispatch.Event
import SessionNet.Error

/-!
# Handlers

The application answers events through handlers, at most one for each kind of event. What a handler
does to the server is a list of actions, carried out in order; then it replies, fails or panics. An
action that fails ends the handler with that failure. A handler may answer each of its calls
differently.
-/

namespace SessionNet

/-- What a handler can do besides answering. -/
inductive Action where
  /-- Send a message to a session over its primary transport, or over its datagram path or tunnel.
  -/
  | send (session : SessionId) (message : Message) (datagram : Bool)
  | close (session : SessionId) (reason : CloseReason)
  /-- Start the association of a session, if it has none, and bind an identity to it. -/
  | associate (session : SessionId) (identity : String)
  | unregister (kind : EventKind)
  deriving BEq, Repr

/-- How a handler fails. -/
inductive HandlerFailure where
  | failed (error : NetError)
  | panicked
  deriving DecidableEq, Repr

/-- What a handler does and how it ends. -/
structure Response where
  actions : List Action := []
  outcome : Except HandlerFailure EventReply := .ok .unhandled

/-- A handler: what it does at its `n`-th call, counted from zero, for an event. -/
abbrev Handler := (calls : Nat) → ServerEvent → Response

/-- A handler in the table, with the number of its calls. -/
structure HandlerEntry where
  kind : EventKind
  handler : Handler
  calls : Nat := 0

/-- The handlers by kind of event. -/
structure HandlerTable where
  entries : List HandlerEntry := []

namespace HandlerTable

/-- The handler for a kind of event. -/
def find? (t : HandlerTable) (kind : EventKind) : Option HandlerEntry :=
  t.entries.find? (·.kind == kind)

/-- Whether there is a handler for a kind of event. -/
def isRegistered (t : HandlerTable) (kind : EventKind) : Bool := (t.find? kind).isSome

/-- Set the handler for a kind of event. -/
def register (t : HandlerTable) (kind : EventKind) (handler : Handler) : HandlerTable :=
  ⟨⟨kind, handler, 0⟩ :: t.entries.filter (·.kind != kind)⟩

/-- Remove the handler for a kind of event; says whether there was one. -/
def unregister (t : HandlerTable) (kind : EventKind) : Bool × HandlerTable :=
  (t.isRegistered kind, ⟨t.entries.filter (·.kind != kind)⟩)

/-- Count a call of the handler for a kind of event. -/
def countCall (t : HandlerTable) (kind : EventKind) : HandlerTable :=
  ⟨t.entries.map fun e => if e.kind == kind then { e with calls := e.calls + 1 } else e⟩

end HandlerTable

end SessionNet
