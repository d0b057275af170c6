import SessionNet.Dispatch.Handler

/-!
# Scripted handlers

A handler described by data: what it does at every call, and a reply for each call. A script can be
tied to a flag in the message of the event; without the flag it neither does nor replies anything.
-/

namespace SessionNet

/-- What a script does; what concerns the session or message of an event that has none is left
out. -/
inductive ScriptStep where
  | send (message : Message)
  /-- Send the message of the event back. -/
  | echo (datagram : Bool)
  | close (reason : CloseReason)
  | always (action : Action)
  deriving BEq, Repr

/-- How a script ends. -/
inductive ScriptReply where
  | fixed (outcome : Except HandlerFailure EventReply)
  /-- The identity that a text in the message of the event gives. -/
  | identityAt (key : String)

/-- A description of a handler; the last reply goes for all further calls. -/
structure Script where
  flag? : Option String := none
  steps : List ScriptStep := []
  replies : List ScriptReply := []

def ScriptStep.actions (step : ScriptStep) (event : ServerEvent) : List Action :=
  match step, event.session?, event.message? with
  | .send message, some session, _ => [.send session message false]
  | .echo datagram, some session, some message => [.send session message datagram]
  | .close reason, some session, _ => [.close session reason]
  | .always action, _, _ => [action]
  | _, _, _ => []

def ScriptReply.toOutcome (reply : ScriptReply) (event : ServerEvent) :
    Except HandlerFailure EventReply :=
  match reply with
  | .fixed outcome => outcome
  | .identityAt key => .ok (.identity (event.message?.bind (·.text? key)))

namespace Script

def applies (s : Script) (event : ServerEvent) : Bool :=
  s.flag?.all fun key => (event.message?.bind (·.bool? key)) == some true

/-- The reply at a call, counted from zero. -/
def replyAt? (s : Script) (call : Nat) : Option ScriptReply :=
  s.replies[min call (s.replies.length - 1)]?

def handler (s : Script) : Handler := fun call event =>
  if s.applies event then
    { actions := s.steps.flatMap (·.actions event)
      outcome := (s.replyAt? call).elim (.ok .unhandled) (·.toOutcome event) }
  else {}

end Script

end SessionNet
