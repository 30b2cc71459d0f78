import AdminPort.Proofs.Conservation
import AdminPort.Proofs.Frames
import Mathlib.Data.List.DropRight

/-!
# Pages show text from outside as text

With the built-in commands every page that goes out is either the one that
confirms the end of the daemon or one of five frames of markup around a text from
outside, escaped once. The frame is fixed by the reason for the page, the text by
the request, or by the fault that the request ran into. So whoever chooses the
text chooses no markup: pages for the same reason have the same delimiters in the
same order, and the text can be read back from any of them.

Three of the five frames are pages about a bad request, whose reason is written
as it is; the one that shows the target has it escaped on the way there.

Results:
1. `response_of_shows`: a request that is answered with a text gets the frame of its reason.
2. `shows_of_markup`: any other markup is the confirmation.
3. `Reason.cut_page`, `Reason.delimiters_page`: what stands in a frame.
4. `pages_inert`: text from outside brings no markup into the pages.
-/

namespace AdminPort

/-! ## Definitions -/

namespace Page

/-- What stands between the markup in front of the text and the markup behind it. -/
def Reason.cut (reason : Reason) (body : String) : List Char :=
  (body.toList.drop reason.before.length).rdrop reason.after.length

/-- The delimiters of a page, in order. -/
def delimiters (body : String) : List Char :=
  body.toList.filter Text.Markup.isDelimiter

end Page

/-- `Shows setup state request reason text`: the request is to be answered with a
page for the reason that shows the text.

* `unknownKey`, `noSlash`: the text is the target.
* `noTarget`, `chunked`: there is no text.
* `flush`, `report`: the text is that of the fault which the request ran into, when
  the store was flushed or the text protocol asked for its statistics. -/
inductive Shows (setup : Setup) (state : State) (request : Http.Request) :
    Page.Reason → String → Prop
  | unknownKey : Meets setup request .unknownKey →
      Shows setup state request .unknownKey request.uri
  | noSlash : request.isChunked = false → request.uri ≠ "" →
      request.uri.toList.head? ≠ some '/' → Shows setup state request .noSlash request.uri
  | noTarget : request.isChunked = false → request.uri = "" →
      Shows setup state request .noTarget ""
  | chunked : request.isChunked = true → Shows setup state request .chunked ""
  | flush {fault : Fault} : Meets setup request (.command .shutdown) →
      state.nextFlush.fault? = some fault → Shows setup state request .failure fault.text
  | report {payload : PanicPayload} : Meets setup request (.command .stats) →
      setup.reportPanic? = some payload →
      Shows setup state request .failure (Fault.ofPanic payload).text

/-- `BuiltIn setup flushes`: the commands are the built-in ones, and no flush of the
store is put down to the client. -/
structure BuiltIn (setup : Setup) (flushes : List FlushOutcome) : Prop where
  table : setup.table = .builtin
  blameless : ∀ reason, .fails (.badRequest reason) ∉ flushes

/-! ## Frames -/

namespace Page

open Text.Markup

namespace Reason

variable (reason : Reason) (text : String)

theorem toList_page : (reason.page text).toList =
    reason.before.toList ++ encode text.toList ++ reason.after.toList := by
  simp [page, escape]

/-- Between the two pieces of markup stands the text, escaped once. -/
theorem cut_page : reason.cut (reason.page text) = encode text.toList := by
  rw [cut, toList_page, List.append_assoc, ← String.length_toList, List.drop_left,
    ← String.length_toList, List.rdrop_append_length]

theorem delimiters_page : delimiters (reason.page text) =
    reason.before.toList.filter isDelimiter ++ reason.after.toList.filter isDelimiter := by
  have none : (encode text.toList).filter isDelimiter = [] :=
    List.filter_eq_nil_iff.2 fun c mem => by simp [(inert_encode text.toList).delimiters c mem]
  rw [delimiters, toList_page, List.filter_append, List.filter_append, none, List.append_nil]

end Reason

end Page

/-! ## Answers -/

section

variable {setup : Setup} {clock : Clock} {state : State} {request : Http.Request} {conn : Handle}

open Page in
/-- A request that is to be answered with a text is answered with the page for the
reason, unless a flush is put down to the client. -/
theorem response_of_shows {reason : Reason} {text : String}
    (blameless : ∀ blamed, state.nextFlush ≠ .fails (.badRequest blamed))
    (h : Shows setup state request reason text) :
    (dispatch setup clock state request conn).response =
      ⟨reason.status, some mediaType, reason.page text⟩ := by
  cases h with
  | unknownKey met => exact response_of_answered (.unknownKey met (Reason.presents_iff.2 rfl))
  | noSlash plain nonempty noSlash =>
    have page : Reason.noSlash.Presents request.uri _ := Reason.presents_iff.2 rfl
    exact response_of_answered (.noSlash plain nonempty noSlash page)
  | noTarget plain empty =>
    rw [response_of_answered (.noTarget plain empty), blaming_noTarget]
    rfl
  | chunked chunked =>
    rw [response_of_answered (.chunked (.chunked chunked)), blaming_chunked]
    rfl
  | @flush fault met failing =>
    -- a fault of the client's is a bad request, and no flush ends in one
    have foreign : fault.isClientFault = false := by
      rw [← Bool.not_eq_true, StoppingLemmas.isClientFault_iff]
      rintro ⟨blamed, rfl⟩
      exact blameless blamed (StoppingLemmas.fault?_eq_badRequest_iff.1 failing)
    rw [dispatch_of_failedFlush met failing, foreign]
    rfl
  | @report payload met panics =>
    have took : Command.stats.course setup state clock.now { request, conn } =
        ⟨[], .panicked payload⟩ := by
      rw [Command.course, panics]
    have fails : (Ending.panicked payload).Fails (Fault.ofPanic payload).text :=
      Ending.fails_iff.2 ⟨_, rfl, by cases payload <;> rfl, rfl⟩
    exact response_of_answered (.failed met took fails (Reason.presents_iff.2 rfl))

/-- With the built-in commands any answer in markup shows a text or is the
confirmation that the daemon stops. -/
theorem shows_of_markup (builtin : setup.table = .builtin)
    (markup : (dispatch setup clock state request conn).response.contentType =
      some Page.mediaType) :
    (dispatch setup clock state request conn).response = Page.confirmation ∨
      ∃ reason text, Shows setup state request reason text := by
  obtain ⟨e, met⟩ := exists_meets setup request
  cases met with
  | chunked chunked => exact .inr ⟨_, _, .chunked chunked⟩
  | empty plain empty => exact .inr ⟨_, _, .noTarget plain empty⟩
  | noSlash plain nonempty noSlash => exact .inr ⟨_, _, .noSlash plain nonempty noSlash⟩
  | unknownKey plain key unknown => exact .inr ⟨_, _, .unknownKey (.unknownKey plain key unknown)⟩
  | @command c plain key mem =>
    have met : Meets setup request (.command c) := .command plain key mem
    rw [builtin] at mem
    simp only [Table.builtin, List.mem_cons, List.not_mem_nil, or_false] at mem
    rcases mem with rfl | rfl | rfl
    · cases failing : state.nextFlush.fault? with
      | none =>
        rw [dispatch_of_written met failing]
        exact .inl rfl
      | some fault => exact .inr ⟨_, _, .flush met failing⟩
    · cases panics : setup.reportPanic? with
      | some payload => exact .inr ⟨_, _, .report met panics⟩
      | none =>
        -- statistics are plain text
        rw [response_of_stats met (Setup.reportPanic?_eq_none_iff.1 panics)] at markup
        exact absurd (Option.some.inj markup) (by decide)
    · -- build data are plain text or JSON
      rw [response_of_version met, Setup.buildReply] at markup
      split at markup
      · exact absurd (Option.some.inj markup) (show "application/json" ≠ Page.mediaType by decide)
      · exact absurd (Option.some.inj markup)
          (show "text/plain; charset=UTF-8" ≠ Page.mediaType by decide)

end

/-- An admitted request has a target. -/
theorem not_shows_noTarget {setup : Setup} {state : State} {request : Http.Request}
    {method target : String} {headers : List Http.Header} {body text : String}
    (admitted : Http.Request.ofParts? method target headers body = some request) :
    ¬ Shows setup state request .noTarget text := by
  rintro (_ | _ | ⟨-, empty⟩)
  exact Http.Request.uri_ne_empty_of_ofParts? admitted empty

theorem BuiltIn.blameless_run {setup : Setup} {flushes : List FlushOutcome}
    (h : BuiltIn setup flushes) (past : List Step) (blamed : String) :
    ((State.initial flushes).run setup past).nextFlush ≠ .fails (.badRequest blamed) := by
  rw [nextFlush_run, FlushOutcome.scheduled]
  intro fails
  rcases next : flushes[past.countP (Step.callsFlush setup)]? with _ | flush
  · simp [next] at fails
  · rw [next, Option.getD_some] at fails
    exact h.blameless blamed (fails ▸ List.mem_of_getElem? next)

/-! ## Main result -/

/-- Text from outside brings no markup into the pages. With the built-in commands,
and unless a flush of the store is put down to the client, an answer in markup is
the confirmation that the daemon stops or the page for a reason that shows a text.
The text stands between two pieces of markup that go by the reason alone, escaped
once, so that it is inert and can be read back; and all pages for the same reason,
whatever the daemons and their histories are, have the same delimiters. -/
theorem pages_inert {setup : Setup} {flushes : List FlushOutcome} (h : BuiltIn setup flushes)
    (past : List Step) (clock : Clock) (request : Http.Request) (conn : Handle) :
    let state := (State.initial flushes).run setup past
    let response := (dispatch setup clock state request conn).response
    (response.contentType = some Page.mediaType →
        response = Page.confirmation ∨ ∃ reason text, Shows setup state request reason text) ∧
      (∀ reason text, Shows setup state request reason text →
        response.status = reason.status ∧ response.contentType = some Page.mediaType ∧
          response.body = reason.before ++ Text.Markup.escape text ++ reason.after ∧
          Text.Markup.Inert (reason.cut response.body) ∧
          Text.Markup.decode (reason.cut response.body) = text.toList ∧
          ∀ setup' flushes', BuiltIn setup' flushes' → ∀ past' clock' request' conn' text',
            let state' := (State.initial flushes').run setup' past'
            Shows setup' state' request' reason text' →
              Page.delimiters (dispatch setup' clock' state' request' conn').response.body =
                Page.delimiters response.body) ∧
      ∀ method target headers body,
        Http.Request.ofParts? method target headers body = some request →
          ∀ text, ¬ Shows setup state request .noTarget text := by
  intro state response
  refine ⟨shows_of_markup h.table, ?_, fun _ _ _ _ admitted _ => not_shows_noTarget admitted⟩
  intro reason text shows
  have answer : response = _ := response_of_shows (h.blameless_run past) shows
  rw [answer]
  refine ⟨rfl, rfl, rfl, ?_, ?_, ?_⟩
  · rw [reason.cut_page]
    exact Text.Markup.inert_encode text.toList
  · rw [reason.cut_page]
    exact Text.Markup.decode_encode text.toList
  · intro setup' flushes' h' past' clock' request' conn' text' state' shows'
    rw [response_of_shows (h'.blameless_run past') shows', reason.delimiters_page,
      reason.delimiters_page]

/-- The example daemon with the built-in commands alone. -/
def exBuiltIn : Setup := { exSetup with table := .builtin }

/-- A flush that panics with markup puts none of it into the page; the page is like
that of the statistics, which panic with something else. -/
theorem pages_inert_exBuiltIn :
    let flushes := [.panics (.text "<b>&amp;</b>")]
    let state := State.initial flushes
    let stop := (dispatch exBuiltIn exClock state (exGet "/diediedie") exConn).response
    let stats := (dispatch exBuiltIn exClock state (exGet "/stats") exConn).response
    BuiltIn exBuiltIn flushes ∧ stop.status = 500 ∧
      Text.Markup.Inert (Page.Reason.failure.cut stop.body) ∧
      Text.Markup.decode (Page.Reason.failure.cut stop.body) =
        "command panicked: <b>&amp;</b>".toList ∧
      Page.delimiters stats.body = Page.delimiters stop.body := by
  intro flushes state stop stats
  have builtIn : BuiltIn exBuiltIn flushes := ⟨rfl, by simp [flushes]⟩
  have met : Meets exBuiltIn (exGet "/diediedie") (.command .shutdown) := by decide +kernel
  have met' : Meets exBuiltIn (exGet "/stats") (.command .stats) := by decide +kernel
  have shows : Shows exBuiltIn state (exGet "/diediedie") .failure
      (Fault.panicked "<b>&amp;</b>").text := .flush met rfl
  have shows' : Shows exBuiltIn state (exGet "/stats") .failure (Fault.ofPanic .unreadable).text :=
    .report met' rfl
  obtain ⟨-, shown, -⟩ := pages_inert builtIn [] exClock (exGet "/diediedie") exConn
  obtain ⟨status, -, -, inert, recovered, alike⟩ := shown _ _ shows
  exact ⟨builtIn, status, inert, recovered, alike _ _ builtIn [] exClock _ exConn _ shows'⟩

end AdminPort
