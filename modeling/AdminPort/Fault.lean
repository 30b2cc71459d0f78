import AdminPort.Text.Quoted

/-!
# Faults

Why a request, a lookup or a start-up did not succeed. A fault of the client's
making is told apart from every other one: it is answered with its bare reason
and is never counted as an exception.
-/

namespace AdminPort

/-- The public code of a fault. -/
inductive FaultCode where
  | badRequest
  | internal
deriving DecidableEq, Repr

/-- The name under which a code is shown. -/
def FaultCode.name : FaultCode → String
  | .badRequest => "BAD_REQUEST"
  | .internal => "INTERNAL"

/-- The response status that goes with a code. -/
def FaultCode.status : FaultCode → Nat
  | .badRequest => 400
  | .internal => 500

/-- A cause of failure with its reason. -/
inductive Fault where
  | badRequest (reason : String)
  | internal (reason : String)
  | io (reason : String)
  | panicked (reason : String)
deriving DecidableEq, Repr

/-- What a collaborator threw instead of returning: a text, or a value that
cannot be read as one. -/
inductive PanicPayload where
  | text (s : String)
  | unreadable
deriving DecidableEq, Repr

namespace Fault

/-- The full text of a fault: its cause and its reason. -/
def text : Fault → String
  | badRequest reason => "bad request: " ++ reason
  | internal reason => "internal: " ++ reason
  | io reason => "io: " ++ reason
  | panicked reason => "command panicked: " ++ reason

/-- The client is at fault only for a bad request. -/
def isClientFault : Fault → Bool
  | badRequest _ => true
  | _ => false

/-- What a client is told: the bare reason of its own fault, the full text of any other. -/
def clientMessage : Fault → String
  | badRequest reason => reason
  | fault => fault.text

/-- The public code of a fault. -/
def code (fault : Fault) : FaultCode :=
  if fault.isClientFault then .badRequest else .internal

/-- The fault that a panic is turned into. -/
def ofPanic : PanicPayload → Fault
  | .text s => panicked s
  | .unreadable => panicked "unknown panic payload"

/-- The diagnostic form of a fault, with its reason quoted; an input or output
fault shows the state of the system and has no form of its own. -/
def diagnostic? : Fault → Option String
  | badRequest reason => some ("BadRequest(" ++ Text.Quoted.quote reason ++ ")")
  | internal reason => some ("Internal(" ++ Text.Quoted.quote reason ++ ")")
  | panicked reason => some ("Panicked(" ++ Text.Quoted.quote reason ++ ")")
  | io _ => none

end Fault

end AdminPort
