import AdminPort.Proofs.Course
import AdminPort.Proofs.Frames

/-!
# The reply law

Every request is answered once, and with what. `Answered` lists the answers: the
refusals, the unknown routing key, and the ways in which a command can come out. It
speaks of what the request meets and of the course of the command that is met, not of
the work under way, and it writes out what goes back to the client.

Results:
1. `Ending.fails_iff`, `sends_iff`, `lastReply_iff`: what is written out there is what
   faults and replies come to.
2. `response_of_command`: a command is answered as its course says.
3. `answered_iff`: the answers of `Answered` are exactly the response of a dispatch.
-/

namespace AdminPort

/-! ## Definitions -/

/-- `ending.Fails text`: a command that ends so has failed through no fault of the
client's, and this is the text of the failure. -/
inductive Ending.Fails : Ending → String → Prop
  | internal (reason : String) : Fails (.returned (.internal reason)) ("internal: " ++ reason)
  | io (reason : String) : Fails (.returned (.io reason)) ("io: " ++ reason)
  | panicked (reason : String) :
      Fails (.returned (.panicked reason)) ("command panicked: " ++ reason)
  | thrown (message : String) :
      Fails (.panicked (.text message)) ("command panicked: " ++ message)
  | unreadable : Fails (.panicked .unreadable) "command panicked: unknown panic payload"

/-- `action.Sends request conn r`: the action replies to the request on the connection
with `r`. The page about a failure has the code of the fault, also if a script puts the
fault down to the client. -/
inductive Action.Sends (request : Http.Request) (conn : Handle) : Action → Response → Prop
  | plain (text : String) :
      Sends request conn (.plain text) ⟨200, some "text/plain; charset=UTF-8", text⟩
  | html (text : String) : Sends request conn (.html text) ⟨200, some Page.mediaType, text⟩
  | json (text : String) : Sends request conn (.json text) ⟨200, some "application/json", text⟩
  | page (title headline content : String) :
      Sends request conn (.page title headline content)
        ⟨200, some Page.mediaType, Page.head title headline ++ content ++ Page.foot⟩
  | notFound {r : Response} : Page.Reason.unknownKey.Presents request.uri r →
      Sends request conn .notFound r
  | badRequest (reason : String) : Sends request conn (.badRequest reason) (Page.blaming reason)
  | failure {fault : Fault} {text : String} {r : Response} : (Ending.returned fault).Fails text →
      Page.Reason.failure.Presents text r → Sends request conn (.internalError fault) r
  | blamedFailure {reason body : String} :
      Page.Shown (Page.trouble "BAD_REQUEST") ("bad request: " ++ reason)
        ("</pre></blockquote>" ++ Page.foot) body →
      Sends request conn (.internalError (.badRequest reason)) ⟨500, some Page.mediaType, body⟩
  | echo : Sends request conn .echo
      ⟨200, some "text/plain; charset=UTF-8",
        request.uri ++ " " ++ conn.text ++ " " ++ (if request.isChunked then "true" else "false")⟩

section

variable (setup : Setup) (state : State) (now : UInt64) (request : Http.Request) (conn : Handle)

/-- `LastReply setup state now request conn c r`: the command comes to its end, and the
last reply that it sends is `r`.

* `confirmed`: stopping the daemon is confirmed, if the store is flushed.
* `statistics`: the statistics are plain text, if the text protocol does not panic.
* `buildJson`, `buildText`: the build data are JSON for a target that ends in that word.
* `scripted`: of a script without faults and panics the last action counts. -/
inductive LastReply : Command → Response → Prop
  | confirmed : state.nextFlush = .written → LastReply .shutdown Page.confirmation
  | statistics : (∀ payload, .panic payload ∉ setup.textProtocol) →
      LastReply .stats ⟨200, some "text/plain; charset=UTF-8", setup.statsBody state now⟩
  | buildJson : (∃ front, request.uri = front ++ "json") →
      LastReply .version ⟨200, some "application/json", setup.build.json⟩
  | buildText : (¬ ∃ front, request.uri = front ++ "json") →
      LastReply .version ⟨200, some "text/plain; charset=UTF-8", setup.build.text⟩
  | scripted {name : String} {before : List Action} {last : Action} {r : Response} :
      (∀ action ∈ before ++ [last], action.ending? = none) → last.Sends request conn r →
      LastReply (.script name (before ++ [last])) r

/-- `Answered setup state now request conn r`: the answer to the request is `r`.

* `chunked`, `noTarget`, `noSlash`: the request is refused with a reason, under status
  400. The target is shown in it escaped.
* `unknownKey`: nothing goes by the routing key, and the page shows the target escaped,
  under status 404.
* `rejected`: the command returned a fault of the client's, whose reason is shown as it
  is, under status 400.
* `failed`: the command returned any other fault or panicked, and the page shows the text
  of the failure escaped, under status 500.
* `replied`: the command came to its end, and the last of its replies counts.
* `silent`: the command came to its end and replied nothing, which is a failure too.

In none of the last four cases do the replies before the last word count. -/
inductive Answered : Response → Prop
  | chunked : Meets setup request .chunked →
      Answered (Page.blaming "Chunked request not supported.")
  | noTarget : request.isChunked = false → request.uri = "" →
      Answered (Page.blaming "Empty query")
  | noSlash {r : Response} : request.isChunked = false → request.uri ≠ "" →
      request.uri.toList.head? ≠ some '/' → Page.Reason.noSlash.Presents request.uri r →
      Answered r
  | unknownKey {r : Response} : Meets setup request .unknownKey →
      Page.Reason.unknownKey.Presents request.uri r → Answered r
  | rejected {c : Command} {replies : List Reply} {reason : String} :
      Meets setup request (.command c) →
      c.course setup state now { request, conn } = ⟨replies, .returned (.badRequest reason)⟩ →
      Answered (Page.blaming reason)
  | failed {c : Command} {course : Course} {text : String} {r : Response} :
      Meets setup request (.command c) → c.course setup state now { request, conn } = course →
      course.ending.Fails text → Page.Reason.failure.Presents text r → Answered r
  | replied {c : Command} {r : Response} : Meets setup request (.command c) →
      LastReply setup state now request conn c r → Answered r
  | silent {c : Command} {r : Response} : Meets setup request (.command c) →
      c.course setup state now { request, conn } = ⟨[], .completed⟩ →
      Page.Reason.failure.Presents
        ("internal: command " ++ c.name ++ " completed without a reply") r →
      Answered r

end

/-- The answer to a command of a name that took a course. -/
def Course.answer (name : String) (course : Course) : Response :=
  match course.ending.fault?, course.replies.getLast? with
  | some fault, _ =>
    if fault.isClientFault then (Reply.badRequest fault.clientMessage).response
    else (Reply.internalError fault).response
  | none, some last => last.response
  | none, none => (Reply.internalError (.internal (Work.noReplyMessage name))).response

/-! ## Faults and replies written out -/

theorem Work.text_noReplyMessage (name : String) :
    (Fault.internal (noReplyMessage name)).text =
      "internal: command " ++ name ++ " completed without a reply" :=
  have front : "internal: " ++ "command " = "internal: command " := by simp
  calc "internal: " ++ ("command " ++ name ++ " completed without a reply")
    _ = "internal: " ++ "command " ++ name ++ " completed without a reply" := by
      rw [← String.append_assoc, ← String.append_assoc]
    _ = "internal: command " ++ name ++ " completed without a reply" := by rw [front]

theorem Ending.fails_iff {ending : Ending} {text : String} :
    ending.Fails text ↔
      ∃ fault, ending.fault? = some fault ∧ fault.isClientFault = false ∧ fault.text = text := by
  constructor
  · intro fails
    cases fails <;> exact ⟨_, rfl, rfl, rfl⟩
  · rintro ⟨fault, ended, foreign, rfl⟩
    cases ending with
    | completed => cases ended
    | returned returned =>
      cases ended
      cases fault with
      | badRequest reason => cases foreign
      | internal reason => exact .internal reason
      | io reason => exact .io reason
      | panicked reason => exact .panicked reason
    | panicked payload =>
      cases ended
      cases payload with
      | text message => exact .thrown message
      | unreadable => exact .unreadable

section

variable {setup : Setup} {state : State} {now : UInt64} {request : Http.Request} {conn : Handle}
  {r : Response}

open Page

theorem sends_iff {action : Action} :
    action.Sends request conn r ↔
      ∃ reply, action.reply? { request, conn } = some reply ∧ reply.response = r := by
  constructor
  · intro sends
    cases sends with
    | notFound presents =>
      exact ⟨_, rfl, (response_notFound _).trans (Reason.presents_iff.1 presents).symm⟩
    | badRequest reason => exact ⟨_, rfl, response_badRequest reason⟩
    | failure fails presents =>
      obtain ⟨fault, ended, foreign, rfl⟩ := Ending.fails_iff.1 fails
      cases ended
      exact ⟨_, rfl, (response_failure foreign).trans (Reason.presents_iff.1 presents).symm⟩
    | blamedFailure shown =>
      refine ⟨_, rfl, ?_⟩
      rw [response_internalError, shown_iff.1 shown]
      rfl
    | _ => exact ⟨_, rfl, rfl⟩
  · rintro ⟨reply, replied, rfl⟩
    cases action with
    | fail | panic => cases replied
    | notFound =>
      cases replied
      exact .notFound (Reason.presents_iff.2 (response_notFound _))
    | badRequest reason =>
      cases replied
      rw [response_badRequest]
      exact .badRequest reason
    | internalError fault =>
      cases replied
      cases client : fault.isClientFault with
      | false =>
        have fails : (Ending.returned fault).Fails fault.text :=
          Ending.fails_iff.2 ⟨fault, rfl, client, rfl⟩
        exact .failure fails (Reason.presents_iff.2 (response_failure client))
      | true =>
        cases fault with
        | badRequest reason =>
          rw [response_internalError]
          exact .blamedFailure (shown_iff.2 rfl)
        | _ => cases client
    | _ =>
      cases replied
      constructor

/-- The last reply of a command that comes to its end is what is written out of it. -/
theorem lastReply_iff {c : Command} :
    let course := c.course setup state now { request, conn }
    LastReply setup state now request conn c r ↔
      ∃ last, course.ending = .completed ∧ course.replies.getLast? = some last ∧
        last.response = r := by
  intro course
  constructor
  · intro ends
    cases ends with
    | confirmed written =>
      exact ⟨_, congrArg FlushOutcome.ending written, rfl, response_exiting⟩
    | statistics quiet =>
      have told : course = ⟨[.plain (setup.statsBody state now)], .completed⟩ := by
        simp only [course, Command.course, Setup.reportPanic?_eq_none_iff.2 quiet]
      exact ⟨_, congrArg Course.ending told, congrArg (·.replies.getLast?) told, rfl⟩
    | buildJson asked =>
      exact ⟨_, rfl, rfl, congrArg Reply.response (setup.buildReply_of_json asked)⟩
    | buildText otherwise =>
      exact ⟨_, rfl, rfl, congrArg Reply.response (setup.buildReply_of_text otherwise)⟩
    | scripted runs sends =>
      obtain ⟨reply, replied, rfl⟩ := sends_iff.1 sends
      refine ⟨reply, Action.ending_course_iff.2 runs, ?_, rfl⟩
      simp [course, Command.course, Action.replies_course runs, replied]
  · rintro ⟨last, ended, replied, rfl⟩
    cases c with
    | shutdown =>
      cases replied
      cases flush : state.nextFlush with
      | written => exact .confirmed flush
      | _ => simp [course, Command.course, flush, FlushOutcome.ending] at ended
    | stats =>
      simp only [course, Command.course] at ended replied
      cases panics : setup.reportPanic? with
      | some payload => simp [panics] at ended
      | none =>
        simp only [panics] at replied
        cases replied
        exact .statistics (Setup.reportPanic?_eq_none_iff.1 panics)
    | version =>
      cases replied
      by_cases asked : ∃ front, request.uri = front ++ "json"
      · rw [Exchange.uri, setup.buildReply_of_json asked]
        exact .buildJson asked
      · rw [Exchange.uri, setup.buildReply_of_text asked]
        exact .buildText asked
    | script name actions =>
      have runs := Action.ending_course_iff.1 ended
      simp only [course, Command.course, Action.replies_course runs] at replied
      rcases List.eq_nil_or_concat actions with rfl | ⟨before, action, rfl⟩
      · cases replied
      · rw [List.concat_eq_append] at *
        obtain ⟨reply, sends⟩ := action.exists_reply (runs action (by simp)) { request, conn }
        have same : reply = last := by simpa [sends] using replied
        exact .scripted runs (sends_iff.2 ⟨last, same ▸ sends, rfl⟩)

end

/-! ## The law -/

section

variable {setup : Setup} {clock : Clock} {state : State} {request : Http.Request}
  {conn : Handle} {r : Response}

/-- The answer that a verdict gives to an exchange. -/
theorem response_finish_settle (w : Work) (clock : Clock) (v : Verdict) (elapsed : Duration) :
    ((w.settle clock v).finish elapsed).response =
      match v with
      | .handled => w.exchange.response
      | .noSuchCommand => (Reply.notFound w.exchange.uri).response
      | .failed fault =>
        if fault.isClientFault then (Reply.badRequest fault.clientMessage).response
        else (Reply.internalError fault).response := by
  cases v with
  | failed fault =>
    simp only [Work.settle]
    split <;> rfl
  | _ => rfl

/-- A command is answered as its course says, and by nothing else. -/
theorem response_of_command {c : Command} (met : Meets setup request (.command c)) :
    (dispatch setup clock state request conn).response =
      (c.course setup state clock.now { request, conn }).answer c.name := by
  rw [dispatch_of_command met, response_finish_settle, (Work.run_course _ _ _ _).1]
  dsimp only
  generalize c.course setup state clock.now { request, conn } = course
  rw [Course.verdict, Course.answer]
  cases course.ending.fault? with
  | some fault => rfl
  | none =>
    rcases List.eq_nil_or_concat course.replies with silent | ⟨before, last, replies⟩
    · rw [silent]
      rfl
    · simp [replies, Exchange.sendAll_eq, Exchange.response, Reply.response]

theorem response_of_answered (h : Answered setup state clock.now request conn r) :
    (dispatch setup clock state request conn).response = r := by
  cases h with
  | chunked met =>
    rw [dispatch_of_meets met, ← Page.response_badRequest]
    rfl
  | noTarget plain empty =>
    rw [dispatch_of_meets (.empty plain empty), ← Page.response_badRequest]
    rfl
  | noSlash plain nonempty noSlash presents =>
    rw [dispatch_of_meets (.noSlash plain nonempty noSlash), Page.Reason.presents_iff.1 presents]
    exact (Page.response_badRequest _).trans (Page.blaming_noSlash _)
  | unknownKey met presents =>
    rw [dispatch_of_meets met, Page.Reason.presents_iff.1 presents]
    exact Page.response_notFound _
  | rejected met took =>
    rw [response_of_command met, took, ← Page.response_badRequest]
    rfl
  | failed met took fails presents =>
    obtain ⟨fault, ended, foreign, rfl⟩ := Ending.fails_iff.1 fails
    rw [response_of_command met, took, Page.Reason.presents_iff.1 presents, Course.answer, ended]
    dsimp only
    rw [foreign]
    exact Page.response_failure foreign
  | replied met ends =>
    obtain ⟨last, ended, replied, rfl⟩ := lastReply_iff.1 ends
    rw [response_of_command met, Course.answer, ended, replied]
    rfl
  | silent met took presents =>
    rw [response_of_command met, took, Page.Reason.presents_iff.1 presents,
      ← Work.text_noReplyMessage]
    exact Page.response_failure rfl

/-- A request for the statistics is answered with them, unless the text protocol panics. -/
theorem response_of_stats (met : Meets setup request (.command .stats))
    (quiet : ∀ payload, .panic payload ∉ setup.textProtocol) :
    (dispatch setup clock state request conn).response =
      ⟨200, some "text/plain; charset=UTF-8", setup.statsBody state clock.now⟩ :=
  response_of_answered (.replied met (.statistics quiet))

/-- A request for the build data is answered with them. -/
theorem response_of_version (met : Meets setup request (.command .version)) :
    (dispatch setup clock state request conn).response =
      (setup.buildReply request.uri).response := by
  rw [response_of_command met]
  rfl

theorem exists_answered (setup : Setup) (state : State) (now : UInt64) (request : Http.Request)
    (conn : Handle) : ∃ r, Answered setup state now request conn r := by
  -- any text can be presented
  have page (reason : Page.Reason) (text : String) : ∃ r, reason.Presents text r :=
    ⟨_, Page.Reason.presents_iff.2 rfl⟩
  obtain ⟨e, met⟩ := exists_meets setup request
  cases met with
  | chunked chunked => exact ⟨_, .chunked (.chunked chunked)⟩
  | empty plain empty => exact ⟨_, .noTarget plain empty⟩
  | noSlash plain nonempty noSlash =>
    obtain ⟨r, presents⟩ := page .noSlash request.uri
    exact ⟨r, .noSlash plain nonempty noSlash presents⟩
  | unknownKey plain key unknown =>
    obtain ⟨r, presents⟩ := page .unknownKey request.uri
    exact ⟨r, .unknownKey (.unknownKey plain key unknown) presents⟩
  | @command c plain key mem =>
    have met : Meets setup request (.command c) := .command plain key mem
    -- the ending decides first, then the cause of the fault or the last of the replies
    rcases took : c.course setup state now { request, conn } with ⟨replies, ending⟩
    have failed {fault : Fault} (ended : ending.fault? = some fault)
        (foreign : fault.isClientFault = false) :
        ∃ r, Answered setup state now request conn r := by
      obtain ⟨r, presents⟩ := page .failure fault.text
      exact ⟨r, .failed met took (Ending.fails_iff.2 ⟨fault, ended, foreign, rfl⟩) presents⟩
    cases ending with
    | completed =>
      rcases List.eq_nil_or_concat replies with rfl | ⟨before, last, rfl⟩
      · obtain ⟨r, presents⟩ := page .failure
          ("internal: command " ++ c.name ++ " completed without a reply")
        exact ⟨r, .silent met took presents⟩
      · exact ⟨_, .replied met (lastReply_iff.2 ⟨last, by simp [took], by simp [took], rfl⟩)⟩
    | returned fault =>
      cases fault with
      | badRequest reason => exact ⟨_, .rejected met took⟩
      | _ => exact failed rfl rfl
    | panicked payload => cases payload <;> exact failed rfl rfl

/-- A dispatch has one response, and it is the answer that the rules of `Answered` give. -/
theorem answered_iff :
    Answered setup state clock.now request conn r ↔
      (dispatch setup clock state request conn).response = r := by
  constructor
  · exact response_of_answered
  · rintro rfl
    -- some answer holds, and by the first half it is the response
    obtain ⟨r, h⟩ := exists_answered setup state clock.now request conn
    rwa [response_of_answered h]

end

/-- A daemon with scripts only: "twice" replies twice, "picky" replies and puts a fault
down to the client, "late" replies and panics, and "mute" never replies. -/
def exScripts : Setup :=
  { exSetup with
    table :=
      ⟨[.script "twice" [.plain "first", .json "[2]"],
        .script "picky" [.plain "so far", .fail (.badRequest "not <b>this</b>")],
        .script "late" [.plain "so far", .panic (.text "a < b")], .script "mute" []], by decide⟩ }

/-- One request for each way in which a request is answered, with the page as it goes out. -/
theorem answered_iff_exScripts :
    let answer (request : Http.Request) :=
      (dispatch exScripts exClock (.initial []) request exConn).response
    let page (status : Nat) (title headline content : String) : Response :=
      ⟨status, some "text/html; charset=UTF-8",
        "<!DOCTYPE html><html><head>" ++
          "<meta http-equiv=\"content-type\" content=\"text/html;charset=utf-8\">" ++
          "<title>" ++ title ++ "</title></head><body>" ++
          "<table class=\"tsdadmin\" width=\"100%\"><tr><td><h1>" ++ headline ++
          "</h1></td></tr></table>" ++ "<div id=\"content\">" ++ content ++ "</div></body></html>"⟩
    let blaming (reason : String) : Response :=
      page 400 "Bad Request" "Looks like it's your fault this time"
        ("<blockquote><h1>Bad Request</h1>" ++
          "Sorry but your request was rejected as being invalid." ++
          "<br/><br/>The reason provided was:<blockquote>" ++ reason ++
          "</blockquote></blockquote>")
    let failure (shown : String) : Response :=
      page 500 "Internal Server Error" "Houston, we have a problem"
        ("<blockquote><h1>Internal Server Error</h1>" ++
          "Oops, sorry but your request failed due to a " ++
          "server error.<br/><br/>Error code: " ++ "INTERNAL" ++ "<pre>" ++ shown ++
          "</pre></blockquote>")
    answer { exGet "/twice" with headers := [("Transfer-Encoding", "chunked")] } =
        blaming "Chunked request not supported." ∧
      answer (exGet "a<b") =
        blaming ("Query doesn't start with a slash: <code>" ++ "a&lt;b" ++ "</code>") ∧
      answer (exGet "/a<b") =
        page 404 "Page Not Found" "Page Not Found"
          ("Sorry, <code>" ++ "/a&lt;b" ++ "</code> doesn't exist.") ∧
      answer (exGet "/picky") = blaming "not <b>this</b>" ∧
      answer (exGet "/late") = failure "command panicked: a &lt; b" ∧
      answer (exGet "/twice") = ⟨200, some "application/json", "[2]"⟩ ∧
      answer (exGet "/mute") = failure "internal: command mute completed without a reply" := by
  intro answer page blaming failure
  -- every answer is a reply of the daemon, and as such it has the text above
  have blames (reason : String) : Page.blaming reason = blaming reason :=
    (Page.response_badRequest reason).symm
  have fails {fault : Fault} (foreign : fault.isClientFault = false) :
      (⟨500, some Page.mediaType, Page.Reason.failure.page fault.text⟩ : Response) =
        failure (Text.Markup.escape fault.text) := by
    have code : fault.code.name = "INTERNAL" := by simp [Fault.code, foreign, FaultCode.name]
    rw [← Page.response_failure foreign, Reply.internalError, Page.internalError, code]
    rfl
  have presents (reason : Page.Reason) (text : String) :
      reason.Presents text ⟨reason.status, some Page.mediaType, reason.page text⟩ :=
    Page.Reason.presents_iff.2 rfl
  have key : RoutingKey.ofTarget (exGet "/a<b").uri = .ok "a<b" := by decide +kernel
  have unknown : Meets exScripts (exGet "/a<b") .unknownKey :=
    .unknownKey (by decide +kernel) key (by decide +kernel)
  have picky : Meets exScripts (exGet "/picky") (.command (.script "picky"
      [.plain "so far", .fail (.badRequest "not <b>this</b>")])) := by decide +kernel
  have late : Meets exScripts (exGet "/late") (.command (.script "late"
      [.plain "so far", .panic (.text "a < b")])) := by decide +kernel
  have twice : Meets exScripts (exGet "/twice") (.command (.script "twice"
      ([.plain "first"] ++ [.json "[2]"]))) := by decide +kernel
  have mute : Meets exScripts (exGet "/mute") (.command (.script "mute" [])) := by decide +kernel
  refine ⟨?_, ?_, ?_, ?_, ?_, ?_, ?_⟩
  · exact (answered_iff.1 (.chunked (.chunked (by decide +kernel)))).trans (blames _)
  · have shown : RoutingKey.noSlashMessage (exGet "a<b").uri =
        "Query doesn't start with a slash: <code>" ++ "a&lt;b" ++ "</code>" := by decide +kernel
    have page := presents .noSlash (exGet "a<b").uri
    rw [← shown, ← blames, Page.blaming_noSlash]
    exact answered_iff.1 (.noSlash (by decide +kernel) (by decide +kernel) (by decide +kernel) page)
  · have shown : Text.Markup.escape (exGet "/a<b").uri = "/a&lt;b" := by decide +kernel
    rw [← shown]
    exact (answered_iff.1 (.unknownKey unknown (presents .unknownKey _))).trans
      (Page.response_notFound _).symm
  · exact (answered_iff.1 (.rejected picky rfl)).trans (blames _)
  · have shown : Text.Markup.escape (Fault.panicked "a < b").text =
        "command panicked: a &lt; b" := by decide +kernel
    rw [← shown, ← fails rfl]
    exact answered_iff.1 (.failed late rfl (.thrown "a < b") (presents .failure _))
  · exact answered_iff.1 (.replied twice (.scripted (by decide +kernel) (.json "[2]")))
  · have shown : Text.Markup.escape (Fault.internal (Work.noReplyMessage "mute")).text =
        "internal: command mute completed without a reply" := by decide +kernel
    rw [← shown, ← fails rfl, Work.text_noReplyMessage]
    exact answered_iff.1 (.silent mute rfl (presents .failure _))

end AdminPort
