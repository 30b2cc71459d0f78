import AdminPort.Exchange

/-!
# Commands

A command answers the requests that carry its routing key. Three commands are
built in: stopping the daemon, reporting statistics, and telling the build. Any
other command is a script of actions on the exchange.
-/

namespace AdminPort

/-- A step of a scripted command. -/
inductive Action where
  /-- Replies with plain text. -/
  | plain (text : String)
  /-- Replies with markup as it is. -/
  | html (text : String)
  /-- Replies with JSON as it is. -/
  | json (text : String)
  /-- Replies with a page. -/
  | page (title headline content : String)
  /-- Replies that the target is unknown. -/
  | notFound
  /-- Replies that the request is at fault. -/
  | badRequest (reason : String)
  /-- Replies that the request failed. -/
  | internalError (fault : Fault)
  /-- Replies with what the request was: target, connection, chunked or not. -/
  | echo
  /-- Ends the command with a fault. -/
  | fail (fault : Fault)
  /-- Ends the command with a panic. -/
  | panic (payload : PanicPayload)
deriving DecidableEq, Repr

/-- The text of a truth value. -/
def truthText (b : Bool) : String := if b then "true" else "false"

namespace Action

/-- The reply that an action sends, if it sends one. -/
def reply? (x : Exchange) : Action → Option Reply
  | plain text => some (.plain text)
  | html text => some (.page 200 text)
  | json text => some (.json text)
  | page title headline content => some (.page 200 (Page.html title headline content))
  | notFound => some (.notFound x.uri)
  | badRequest reason => some (.badRequest reason)
  | internalError fault => some (.internalError fault)
  | echo =>
    some (.plain (x.uri ++ " " ++ x.conn.text ++ " " ++ truthText x.request.isChunked))
  | fail _ => none
  | panic _ => none

/-- The fault that an action ends the command with, if it does. -/
def fault? : Action → Option Fault
  | fail fault => some fault
  | panic payload => some (.ofPanic payload)
  | _ => none

/-- The exchange after an action. -/
def perform (x : Exchange) (action : Action) : Exchange :=
  match action.reply? x with
  | some reply => x.send reply
  | none => x

/-- Actions in order, up to the first one that ends the command with a fault. -/
def run : List Action → Exchange → Exchange × Option Fault
  | [], x => (x, none)
  | action :: rest, x =>
    match action.fault? with
    | some fault => (x, some fault)
    | none => run rest (action.perform x)

end Action

/-- A command of the daemon. -/
inductive Command where
  | shutdown
  | stats
  | version
  | script (name : String) (actions : List Action)
deriving DecidableEq, Repr

/-- The routing key of a command. -/
def Command.name : Command → String
  | shutdown => "diediedie"
  | stats => "stats"
  | version => "version"
  | script name _ => name

end AdminPort
