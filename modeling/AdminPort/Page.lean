import AdminPort.Fault
import AdminPort.Text.Markup

/-!
# Pages

The pages that the daemon answers with. Text from outside stands in them only
escaped, but for the reason of a bad request, which is markup already.
-/

namespace AdminPort.Page

/-- A page: its title, its headline and its content. -/
def html (title headline content : String) : String :=
  "<!DOCTYPE html><html><head>" ++
    "<meta http-equiv=\"content-type\" content=\"text/html;charset=utf-8\">" ++
    "<title>" ++ title ++ "</title></head><body>" ++
    "<table class=\"tsdadmin\" width=\"100%\"><tr><td><h1>" ++ headline ++
    "</h1></td></tr></table>" ++ "<div id=\"content\">" ++ content ++ "</div></body></html>"

/-- The page for a target that nothing answers to. -/
def notFound (uri : String) : String :=
  html "Page Not Found" "Page Not Found"
    ("Sorry, <code>" ++ Text.Markup.escape uri ++ "</code> doesn't exist.")

/-- The page for a request that is at fault; the reason is markup. -/
def badRequest (reason : String) : String :=
  html "Bad Request" "Looks like it's your fault this time"
    ("<blockquote><h1>Bad Request</h1>Sorry but your request was rejected as being invalid." ++
      "<br/><br/>The reason provided was:<blockquote>" ++ reason ++
      "</blockquote></blockquote>")

/-- The page for a fault that is not the client's. -/
def internalError (fault : Fault) : String :=
  html "Internal Server Error" "Houston, we have a problem"
    ("<blockquote><h1>Internal Server Error</h1>Oops, sorry but your request failed due to a " ++
      "server error.<br/><br/>Error code: " ++ fault.code.name ++ "<pre>" ++
      Text.Markup.escape fault.text ++ "</pre></blockquote>")

/-- The page that confirms the end of the daemon. -/
def exiting : String :=
  html "TSD Exiting" "You killed me" "Cleaning up and exiting now."

end AdminPort.Page
