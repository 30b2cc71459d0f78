import AdminPort.Connection.Handle
import AdminPort.Http.Request
import AdminPort.Page

/-!
# Exchanges

A request together with the reply that it has been given so far. A later reply
takes the place of an earlier one; a request without any reply is answered with
a bare failure.
-/

namespace AdminPort

/-- A reply to a request. -/
structure Reply where
  status : Nat
  contentType : String
  body : String
deriving DecidableEq, Repr

/-- What goes back to the client. -/
structure Response where
  status : Nat
  contentType : Option String
  body : String
deriving DecidableEq, Repr

/-- A request on a connection, and its reply if there is one. -/
structure Exchange where
  request : Http.Request
  conn : Handle
  reply : Option Reply := none
deriving DecidableEq, Repr

namespace Reply

/-- Plain text. -/
def plain (body : String) : Reply := ⟨200, "text/plain; charset=UTF-8", body⟩

/-- A page under a status. -/
def page (status : Nat) (body : String) : Reply := ⟨status, "text/html; charset=UTF-8", body⟩

/-- A JSON value. -/
def json (body : String) : Reply := ⟨200, "application/json", body⟩

/-- The answer to an unknown target. -/
def notFound (uri : String) : Reply := page 404 (Page.notFound uri)

/-- The answer to a request that is at fault. -/
def badRequest (reason : String) : Reply := page 400 (Page.badRequest reason)

/-- The answer to a request that failed through no fault of the client. -/
def internalError (fault : Fault) : Reply := page 500 (Page.internalError fault)

end Reply

namespace Exchange

/-- The target of the request as text. -/
def uri (x : Exchange) : String := x.request.uri

/-- The exchange with a reply in place of any earlier one. -/
def send (x : Exchange) (reply : Reply) : Exchange := { x with reply := some reply }

/-- What goes back to the client when the exchange ends here. -/
def response (x : Exchange) : Response :=
  match x.reply with
  | some reply => ⟨reply.status, some reply.contentType, reply.body⟩
  | none => ⟨500, none, ""⟩

end Exchange

end AdminPort
