import AdminPort.Exchange
import AdminPort.RoutingKey
import AdminPort.Proofs.Escape

/-!
# The frames of the pages

A page is a frame of markup around a text. The frames are written out here as they go
over the line, apart from the way in which the daemon puts its pages together. All but
two things that stand in a frame are shown there escaped: the reason of a bad request,
which is markup already, and the content that a script writes itself.

Results:
1. `shown_iff`: a text is shown in one way only.
2. `Reason.presents_iff`: so there is one page that presents it for a reason.
3. `response_badRequest`, `response_notFound`, `response_internalError`: the replies of
   the daemon are these pages.
-/

namespace AdminPort

/-- A reply as it goes back to the client. -/
def Reply.response (reply : Reply) : Response :=
  ⟨reply.status, some reply.contentType, reply.body⟩

namespace Page

/-! ## Definitions -/

def mediaType : String := "text/html; charset=UTF-8"

/-- The markup of a page in front of its content. -/
def head (title headline : String) : String :=
  "<!DOCTYPE html><html><head>" ++
    "<meta http-equiv=\"content-type\" content=\"text/html;charset=utf-8\">" ++
    "<title>" ++ title ++ "</title></head><body>" ++
    "<table class=\"tsdadmin\" width=\"100%\"><tr><td><h1>" ++ headline ++
    "</h1></td></tr></table>" ++ "<div id=\"content\">"

/-- The markup of a page behind its content. -/
def foot : String := "</div></body></html>"

/-- The markup of a page about a bad request in front of the reason. -/
def blame : String :=
  head "Bad Request" "Looks like it's your fault this time" ++
    ("<blockquote><h1>Bad Request</h1>Sorry but your request was rejected as being invalid." ++
      "<br/><br/>The reason provided was:<blockquote>")

/-- The markup of a page about a failure in front of its text, under a public code. -/
def trouble (code : String) : String :=
  head "Internal Server Error" "Houston, we have a problem" ++
    ("<blockquote><h1>Internal Server Error</h1>Oops, sorry but your request failed due to a " ++
      "server error.<br/><br/>Error code: " ++ code ++ "<pre>")

/-- Why a page is sent that shows a text. A request of `noSlash` has a target that
begins with something else, one of `noTarget` has none. -/
inductive Reason where
  | unknownKey
  | noSlash
  | noTarget
  | chunked
  | failure
deriving DecidableEq, Repr

namespace Reason

def status : Reason → Nat
  | unknownKey => 404
  | failure => 500
  | _ => 400

def before : Reason → String
  | unknownKey => head "Page Not Found" "Page Not Found" ++ "Sorry, <code>"
  | noSlash => blame ++ "Query doesn't start with a slash: <code>"
  | noTarget => blame ++ "Empty query"
  | chunked => blame ++ "Chunked request not supported."
  | failure => trouble "INTERNAL"

/-- The markup that closes what is open behind the text. -/
def closing : Reason → String
  | unknownKey => "</code> doesn't exist."
  | noSlash => "</code></blockquote></blockquote>"
  | noTarget => "</blockquote></blockquote>"
  | chunked => "</blockquote></blockquote>"
  | failure => "</pre></blockquote>"

def after (reason : Reason) : String := reason.closing ++ foot

/-- The page for a reason that shows a text. -/
def page (reason : Reason) (text : String) : String :=
  reason.before ++ Text.Markup.escape text ++ reason.after

end Reason

/-- `Shown before text after body`: between the two pieces of markup the text stands
escaped, so that it is inert and can be read back. -/
def Shown (before text after body : String) : Prop :=
  ∃ shown : String, body = before ++ shown ++ after ∧ Text.Markup.Inert shown.toList ∧
    Text.Markup.decode shown.toList = text.toList

/-- `reason.Presents text r`: the response is the page for the reason, which shows the text. -/
structure Reason.Presents (reason : Reason) (text : String) (r : Response) : Prop where
  status : r.status = reason.status
  contentType : r.contentType = some mediaType
  body : Shown reason.before text reason.after r.body

/-- The answer to a request that is at fault. The reason stands in it as it is. -/
def blaming (reason : String) : Response :=
  ⟨400, some mediaType, blame ++ reason ++ "</blockquote></blockquote>" ++ foot⟩

/-- The answer that confirms the end of the daemon. -/
def confirmation : Response :=
  ⟨200, some mediaType,
    head "TSD Exiting" "You killed me" ++ "Cleaning up and exiting now." ++ foot⟩

/-! ## Text in a frame -/

section

variable {before text after body : String}

theorem shown_iff : Shown before text after body ↔
    body = before ++ Text.Markup.escape text ++ after := by
  constructor
  · rintro ⟨shown, rfl, inert, read⟩
    have same : Text.Markup.unescape shown = text := by
      rw [Text.Markup.unescape, read, String.ofList_toList]
    rw [← same, Text.Markup.inert_iff.1 inert]
  · rintro rfl
    refine ⟨_, rfl, Text.Markup.inert_escape text, ?_⟩
    rw [Text.Markup.escape, String.toList_ofList, Text.Markup.decode_encode]

theorem Reason.presents_iff {reason : Reason} {r : Response} :
    reason.Presents text r ↔ r = ⟨reason.status, some mediaType, reason.page text⟩ := by
  obtain ⟨status, contentType, body⟩ := r
  rw [Response.mk.injEq, Reason.page, ← shown_iff]
  exact ⟨fun ⟨status, contentType, body⟩ => ⟨status, contentType, body⟩,
    fun ⟨status, contentType, body⟩ => ⟨status, contentType, body⟩⟩

end

/-! ## The replies of the daemon -/

theorem response_page (status : Nat) (title headline content : String) :
    (Reply.page status (html title headline content)).response =
      ⟨status, some mediaType, head title headline ++ content ++ foot⟩ := rfl

theorem response_exiting : (Reply.page 200 exiting).response = confirmation := rfl

theorem response_badRequest (reason : String) :
    (Reply.badRequest reason).response = blaming reason := by
  rw [Reply.badRequest, badRequest, response_page, blaming, blame]
  simp only [String.append_assoc]

theorem response_notFound (uri : String) :
    (Reply.notFound uri).response = ⟨404, some mediaType, Reason.unknownKey.page uri⟩ := by
  rw [Reply.notFound, notFound, response_page]
  simp only [Reason.page, Reason.before, Reason.after, Reason.closing, String.append_assoc]

theorem response_internalError (fault : Fault) :
    (Reply.internalError fault).response =
      ⟨500, some mediaType, trouble fault.code.name ++ Text.Markup.escape fault.text ++
        ("</pre></blockquote>" ++ foot)⟩ := by
  rw [Reply.internalError, internalError, response_page, trouble]
  simp only [String.append_assoc]

/-- A fault that is not the client's has the code of all others. -/
theorem response_failure {fault : Fault} (foreign : fault.isClientFault = false) :
    (Reply.internalError fault).response =
      ⟨500, some mediaType, Reason.failure.page fault.text⟩ := by
  have code : fault.code.name = "INTERNAL" := by simp [Fault.code, foreign, FaultCode.name]
  rw [response_internalError, code]
  rfl

theorem blaming_noSlash (uri : String) : blaming (RoutingKey.noSlashMessage uri) =
    ⟨400, some mediaType, Reason.noSlash.page uri⟩ := by
  have message : RoutingKey.noSlashMessage uri =
      "Query doesn't start with a slash: <code>" ++ Text.Markup.escape uri ++ "</code>" := rfl
  have closing : "</code></blockquote></blockquote>" = "</code>" ++ "</blockquote></blockquote>" :=
    rfl
  simp only [blaming, message, Reason.page, Reason.before, Reason.after, Reason.closing, closing,
    String.append_assoc]

/-- A page whose frame ends in the whole of its message shows no text. -/
theorem blaming_of_before {reason : Reason} {message : String}
    (before : reason.before = blame ++ message)
    (closing : reason.closing = "</blockquote></blockquote>") :
    blaming message = ⟨400, some mediaType, reason.page ""⟩ := by
  have none : Text.Markup.escape "" = "" := rfl
  simp only [blaming, Reason.page, Reason.after, before, closing, none, String.append_empty,
    String.append_assoc]

theorem blaming_noTarget : blaming "Empty query" =
    ⟨400, some mediaType, Reason.noTarget.page ""⟩ := blaming_of_before rfl rfl

theorem blaming_chunked : blaming "Chunked request not supported." =
    ⟨400, some mediaType, Reason.chunked.page ""⟩ := blaming_of_before rfl rfl

end Page

end AdminPort
