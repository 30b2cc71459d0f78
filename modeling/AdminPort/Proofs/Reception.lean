import AdminPort.Front
import AdminPort.Proofs.History
import Mathlib.Data.List.Nodup
import Mathlib.Data.List.Range
import Mathlib.Tactic.SplitIfs

/-!
# Requests and the registrations that they come under

A connection that is accepted holds a registration for as long as it is up, and every
request on it holds the same one until it has returned. A request that comes on no
connection opens a registration of its own and is the only one to hold it. Whoever lets go
of a registration last takes it out of the registry, if the registry has not forgotten it
by then.

Requests may overlap: others arrive, are worked on and return while one is under way, and
connections come and go.

Results:
1. `move_step`: what an event can do, once for all that follows.
2. `registry_served`: a dispatch touches the registry only if it stops the daemon.
3. `sound_move`: registrations, requests and holders keep fitting together.
-/

namespace AdminPort

/-! ## Definitions -/

/-- A registration and who holds it. -/
structure Registration where
  handle : Handle
  /-- The connection that was accepted under it is up. -/
  isUp : Bool
  /-- The connection and the requests that hold it. -/
  holders : Nat
deriving DecidableEq, Repr

/-- What has become of a request. -/
inductive Stage where
  | waiting
  | answered (response : Response)
  | returned (response : Response)
deriving DecidableEq, Repr

/-- The request has returned. -/
def Stage.isReturned : Stage → Bool
  | returned _ => true
  | _ => false

/-- A request that has arrived. -/
structure Visit where
  request : Http.Request
  /-- The handle that it is dispatched under. -/
  conn : Handle
  /-- The place of its registration, in the order in which they were opened. -/
  place : Nat
  /-- It came on no connection and has opened its registration. -/
  isOwn : Bool
  stage : Stage := .waiting
deriving DecidableEq, Repr

/-- What happens at the front. Registrations and requests are counted from 0, in the order
in which they were opened and arrived. -/
inductive Event where
  /-- A connection is accepted. -/
  | accept (peer : Address)
  /-- The connection under a registration ends. -/
  | hangUp (place : Nat)
  /-- A request arrives on the connection under a registration, or on none. -/
  | arrive (request : Http.Request) (place? : Option Nat)
  /-- A request is dispatched. -/
  | work (number : Nat) (clock : Clock)
  /-- A request returns. -/
  | leave (number : Nat)
deriving DecidableEq, Repr

/-- The front with all registrations and requests that there have been. -/
structure Reception where
  front : Front
  registrations : List Registration := []
  visits : List Visit := []
  journal : List Journal.Entry := []
deriving Repr

namespace Reception

/-- A front that nothing has happened at yet. -/
def start (setup : Setup) (flushes : List FlushOutcome) : Reception :=
  { front := { setup, state := .initial flushes } }

/-- A new registration: of a connection, which has a peer, or of a request alone. -/
def register (r : Reception) (peer : Option Address) : Reception × Handle :=
  let (front, handle) := r.front.connect peer
  ({ r with front, registrations := r.registrations ++ [⟨handle, peer.isSome, 1⟩] }, handle)

/-- A new registration of a connection that a client has made. -/
def accept (r : Reception) (peer : Address) : Reception :=
  { (r.register (some peer)).1 with
    journal := r.journal ++ (r.front.accept (some peer)).2.2 }

/-- One holder of a registration fewer. The last one takes it out of the registry. -/
def release (r : Reception) (place : Nat) (registration : Registration) : Reception :=
  let registration := { registration with holders := registration.holders - 1 }
  let r := { r with registrations := r.registrations.set place registration }
  if registration.holders = 0 then { r with front := r.front.disconnect registration.handle }
  else r

/-- One more request. -/
def addVisit (r : Reception) (visit : Visit) : Reception := { r with visits := r.visits ++ [visit] }

/-- A request that has come further. -/
def advance (r : Reception) (number : Nat) (visit : Visit) : Reception :=
  { r with visits := r.visits.set number visit }

/-- What an event leaves behind. An event that cannot happen changes nothing. -/
def step (r : Reception) : Event → Reception
  | .accept peer => r.accept peer
  | .hangUp place =>
    match r.registrations[place]? with
    | some registration =>
      if registration.isUp then r.release place { registration with isUp := false } else r
    | none => r
  | .arrive request none =>
    let (r', conn) := r.register none
    r'.addVisit { request, conn, place := r.registrations.length, isOwn := true }
  | .arrive request (some place) =>
    match r.registrations[place]? with
    | some registration =>
      if registration.isUp then
        let shared := { registration with holders := registration.holders + 1 }
        { r with registrations := r.registrations.set place shared }.addVisit
          { request, conn := registration.handle, place, isOwn := false }
      else r
    | none => r
  | .work number clock =>
    match r.visits[number]? with
    | some visit =>
      if visit.stage = .waiting then
        let served := r.front.serveUnder clock visit.request visit.conn
        { r with front := served.front, journal := r.journal ++ served.journal }.advance number
          { visit with stage := .answered served.response }
      else r
    | none => r
  | .leave number =>
    match r.visits[number]? with
    | some visit =>
      match visit.stage, r.registrations[visit.place]? with
      | .answered response, some registration =>
        (r.advance number { visit with stage := .returned response }).release visit.place
          registration
      | _, _ => r
    | none => r

/-- The reception after events in order. -/
def run (r : Reception) (events : List Event) : Reception := events.foldl step r

/-- The events of a run, each with the reception as it finds it. -/
def trace : Reception → List Event → List (Reception × Event)
  | _, [] => []
  | r, event :: rest => (r, event) :: trace (r.step event) rest

/-- The registry at the front. -/
def registry (r : Reception) : Registry := r.front.state.registry

/-- Every request has returned. -/
def isSettled (r : Reception) : Bool := r.visits.all (·.stage.isReturned)

/-- Whether the connection under a registration is up. -/
def isUpAt (r : Reception) (place : Nat) : Bool := (r.registrations[place]?).any (·.isUp)

/-- The requests under a registration that have not returned. -/
def guests (r : Reception) (place : Nat) : Nat :=
  r.visits.countP fun visit => decide (visit.place = place) && !visit.stage.isReturned

/-- The connections that are up and were not up at a time before, if there was one. -/
def standing (r : Reception) (before : Option Reception) : Nat :=
  r.registrations.zipIdx.countP fun numbered =>
    numbered.1.isUp && !before.any (·.isUpAt numbered.2)

end Reception

namespace Event

/-- A connection is accepted. -/
def isAccept : Event → Bool
  | accept _ => true
  | _ => false

/-- A request arrives on no connection. -/
def isInProcess : Event → Bool
  | arrive _ none => true
  | _ => false

/-- A registration is opened. -/
def opens (event : Event) : Bool := event.isAccept || event.isInProcess

/-- A request is dispatched that stops the daemon. -/
def closes (r : Reception) : Event → Bool
  | work number _ =>
    (r.visits[number]?).any fun visit => decide (visit.stage = .waiting) &&
      decide (Meets r.front.setup visit.request (.command .shutdown))
  | _ => false

end Event

namespace Reception

/-- The reception as the first closing of all connections finds it. -/
def atClosing (r : Reception) (events : List Event) : Option Reception :=
  ((r.trace events).find? fun taken => taken.2.closes taken.1).map (·.1)

end Reception

/-! ## What an event does -/

namespace ReceptionLemmas

/-- `Move r event r'`: what an event can do.

* `accept`, `enter`: a registration is opened, by a connection or by a request.
* `join`: a request comes under the registration of a connection that is up.
* `hangUp`, `leave`: a registration is released, by a connection or by a request.
* `work`: a request is dispatched under its handle.
* `idle`: the event cannot happen. -/
inductive Move (r : Reception) : Event → Reception → Prop
  | accept (peer : Address) : Move r (.accept peer) (r.accept peer)
  | enter (request : Http.Request) :
      Move r (.arrive request none)
        ((r.register none).1.addVisit
          { request, conn := (r.register none).2, place := r.registrations.length, isOwn := true })
  | join {request : Http.Request} {place : Nat} {registration : Registration} :
      r.registrations[place]? = some registration → registration.isUp = true →
      Move r (.arrive request (some place))
        (Reception.addVisit
          { r with
            registrations :=
              r.registrations.set place { registration with holders := registration.holders + 1 } }
          { request, conn := registration.handle, place, isOwn := false })
  | hangUp {place : Nat} {registration : Registration} :
      r.registrations[place]? = some registration → registration.isUp = true →
      Move r (.hangUp place) (r.release place { registration with isUp := false })
  | work {number : Nat} {visit : Visit} {clock : Clock} {served : Served} :
      r.visits[number]? = some visit → visit.stage = .waiting →
      r.front.serveUnder clock visit.request visit.conn = served →
      Move r (.work number clock)
        (Reception.advance { r with front := served.front, journal := r.journal ++ served.journal }
          number { visit with stage := .answered served.response })
  | leave {number : Nat} {visit : Visit} {response : Response} {registration : Registration} :
      r.visits[number]? = some visit → visit.stage = .answered response →
      r.registrations[visit.place]? = some registration →
      Move r (.leave number)
        ((r.advance number { visit with stage := .returned response }).release visit.place
          registration)
  | idle {event : Event} : event.opens = false → event.closes r = false → Move r event r

theorem move_step (r : Reception) (event : Event) : Move r event (r.step event) := by
  cases event with
  | accept peer => exact .accept peer
  | hangUp place =>
    simp only [Reception.step]
    cases found : r.registrations[place]? with
    | none => exact .idle rfl rfl
    | some registration =>
      cases isUp : registration.isUp with
      | true => simpa [isUp] using Move.hangUp found isUp
      | false => simpa [isUp] using Move.idle rfl rfl
  | arrive request place? =>
    cases place? with
    | none => exact .enter request
    | some place =>
      simp only [Reception.step]
      cases found : r.registrations[place]? with
      | none => exact .idle rfl rfl
      | some registration =>
        cases isUp : registration.isUp with
        | true => simpa [isUp] using Move.join found isUp
        | false => simpa [isUp] using Move.idle rfl rfl
  | work number clock =>
    simp only [Reception.step]
    cases found : r.visits[number]? with
    | none => exact .idle rfl (by simp [Event.closes, found])
    | some visit =>
      dsimp only
      split_ifs with waits
      · exact .work found waits rfl
      · exact .idle rfl (by simp [Event.closes, found, waits])
  | leave number =>
    simp only [Reception.step]
    cases found : r.visits[number]? with
    | none => exact .idle rfl rfl
    | some visit =>
      dsimp only
      split
      · next response registration stage under => exact .leave found stage under
      · exact .idle rfl rfl

/-! ## Who holds a registration -/

/-- `Under r visit`: a request has the handle of its registration, which is that of no
connection that is up if the request has opened it itself. -/
def Under (registrations : List Registration) (visit : Visit) : Prop :=
  ∃ registration, registrations[visit.place]? = some registration ∧
    registration.handle = visit.conn ∧ (visit.isOwn = true → registration.isUp = false)

/-- `Sound r`: the registrations and the requests of a front fit together.

* `established`, `numbered`: every registration was opened once and has the number that came
  next.
* `under`: every request is under its registration.
* `alone`: and under one of its own it is alone.
* `holders`: a registration is held by its connection while that is up, and by every request
  under it that has not returned. -/
structure Sound (r : Reception) : Prop where
  established : r.registry.established = UInt64.ofNat r.registrations.length
  numbered : r.registrations.map (·.handle.id) =
    (List.range' 1 r.registrations.length).map UInt64.ofNat
  under : ∀ visit ∈ r.visits, Under r.registrations visit
  alone : ∀ visit ∈ r.visits, visit.isOwn = true → r.visits.countP (·.place = visit.place) = 1
  holders : ∀ place registration, r.registrations[place]? = some registration →
    registration.holders = registration.isUp.toNat + r.guests place

theorem countP_set {α : Type} {l : List α} {i : Nat} {a : α} (h : l[i]? = some a) (b : α)
    (p : α → Bool) : (l.set i b).countP p + (p a).toNat = l.countP p + (p b).toNat := by
  obtain ⟨inside, rfl⟩ := List.getElem?_eq_some_iff.1 h
  have split : l = l.take i ++ l[i] :: l.drop (i + 1) := by
    rw [List.getElem_cons_drop, List.take_append_drop]
  rw [List.set_eq_take_append_cons_drop, if_pos inside]
  conv_rhs => rw [split]
  rw [List.countP_append, List.countP_cons, List.countP_append, List.countP_cons]
  cases p l[i] <;> cases p b <;> simp <;> omega

section

variable {r r' : Reception} {event : Event}

/-- A dispatch closes the registry if it stops the daemon, and touches it in no other case. -/
theorem registry_served (front : Front) (clock : Clock) (request : Http.Request) (conn : Handle) :
    (front.serveUnder clock request conn).front.state.registry =
      if Meets front.setup request (.command .shutdown) then front.state.registry.closeAll.1
      else front.state.registry := by
  have moved := registry_step front.setup front.state (.dispatch clock request conn)
  rw [State.step, Step.registryOp?] at moved
  refine Eq.trans (by rfl) (moved.trans ?_)
  split <;> rfl

theorem Under.place_lt {registrations : List Registration} {visit : Visit}
    (h : Under registrations visit) : visit.place < registrations.length := by
  obtain ⟨_, here, -⟩ := h
  exact (List.getElem?_eq_some_iff.1 here).1

theorem Under.append {registrations : List Registration} {visit : Visit}
    (h : Under registrations visit) (more : List Registration) :
    Under (registrations ++ more) visit := by
  have inside := h.place_lt
  obtain ⟨registration, here, under⟩ := h
  exact ⟨registration, by rwa [List.getElem?_append_left inside], under⟩

theorem Under.set {registrations : List Registration} {visit : Visit}
    (h : Under registrations visit) {place : Nat} {old new : Registration}
    (here : registrations[place]? = some old) (handle : new.handle = old.handle)
    (down : old.isUp = false → new.isUp = false) : Under (registrations.set place new) visit := by
  obtain ⟨registration, there, conn, isOwn⟩ := h
  by_cases same : place = visit.place
  · subst same
    cases here.symm.trans there
    refine ⟨new, List.getElem?_set_self (List.getElem?_eq_some_iff.1 here).1, handle.trans conn, ?_⟩
    exact fun own => down (isOwn own)
  · exact ⟨registration, by rwa [List.getElem?_set_ne same], conn, isOwn⟩

/-- Nobody is under a registration that is not there. -/
theorem countP_place (sound : Sound r) :
    r.visits.countP (·.place = r.registrations.length) = 0 := by
  rw [List.countP_eq_zero]
  intro visit mem
  simpa using Nat.ne_of_lt (sound.under visit mem).place_lt

theorem guests_le (r : Reception) (place : Nat) :
    r.guests place ≤ r.visits.countP (·.place = place) :=
  List.countP_mono_left fun _ _ h => (Bool.and_eq_true_iff.1 h).1

theorem guests_addVisit (r : Reception) (visit : Visit) (place : Nat) :
    (r.addVisit visit).guests place =
      r.guests place + (decide (visit.place = place) && !visit.stage.isReturned).toNat := by
  rw [Reception.guests, Reception.addVisit, List.countP_append, List.countP_singleton]
  cases decide (visit.place = place) && !visit.stage.isReturned <;> rfl

theorem registrations_register (r : Reception) (peer : Option Address) :
    (r.register peer).1.registrations =
      r.registrations ++ [⟨⟨r.registry.nextId, peer⟩, peer.isSome, 1⟩] := rfl

@[simp]
theorem visits_register (r : Reception) (peer : Option Address) :
    (r.register peer).1.visits = r.visits := rfl

theorem numbered_register (sound : Sound r) (peer : Option Address) :
    (r.register peer).1.registrations.map (·.handle.id) =
      (List.range' 1 (r.register peer).1.registrations.length).map UInt64.ofNat := by
  rw [registrations_register, List.map_append, sound.numbered, r.registry.nextId_eq,
    sound.established, List.length_append]
  simp [List.range'_concat, Nat.add_comm 1, UInt64.ofNat_add]

theorem established_register (sound : Sound r) (peer : Option Address) :
    (r.register peer).1.registry.established =
      UInt64.ofNat (r.register peer).1.registrations.length := by
  rw [registrations_register, List.length_append, UInt64.ofNat_add, ← sound.established]
  rfl

theorem sound_accept (sound : Sound r) (peer : Address) : Sound (r.accept peer) where
  established := established_register sound (some peer)
  numbered := numbered_register sound (some peer)
  under visit mem := (sound.under visit mem).append _
  alone := sound.alone
  holders place registration here := by
    rw [Reception.accept, registrations_register, List.getElem?_append,
      List.getElem?_singleton] at here
    split_ifs at here with inside last
    · exact sound.holders place registration here
    · cases here
      have : place = r.registrations.length := by omega
      subst this
      have none := guests_le r r.registrations.length
      rw [countP_place sound] at none
      exact congrArg (1 + ·) (Nat.le_zero.1 none).symm

theorem sound_enter (sound : Sound r) (request : Http.Request) :
    Sound ((r.register none).1.addVisit
      { request, conn := (r.register none).2,
        place := r.registrations.length, isOwn := true }) where
  established := established_register sound none
  numbered := numbered_register sound none
  under visit mem := by
    obtain old | new := List.mem_append.1 mem
    · exact (sound.under visit old).append _
    · cases List.mem_singleton.1 new
      exact ⟨⟨(r.register none).2, false, 1⟩,
        by simp [Reception.addVisit, registrations_register]; rfl, rfl, fun _ => rfl⟩
  alone visit mem isOwn := by
    rw [Reception.addVisit, List.countP_append, List.countP_singleton]
    obtain old | new := List.mem_append.1 mem
    · have before := (sound.under visit old).place_lt
      simpa [(Nat.ne_of_lt before).symm] using sound.alone visit old isOwn
    · cases List.mem_singleton.1 new
      simpa using countP_place sound
  holders place registration here := by
    have new : Reception.guests (r.register none).1 place = r.guests place := rfl
    rw [guests_addVisit, new]
    simp only [Reception.addVisit, registrations_register, List.getElem?_append,
      List.getElem?_singleton] at here
    split_ifs at here with inside last
    · rw [sound.holders place registration here]
      simp [(Nat.ne_of_lt inside).symm]
    · cases here
      have : place = r.registrations.length := by omega
      subst this
      have none := guests_le r r.registrations.length
      rw [countP_place sound] at none
      simp [Nat.le_zero.1 none, Stage.isReturned]

/-- A holder more or fewer: the registration stays what it is, and so do the requests. -/
theorem sound_set {place : Nat} {old new : Registration} (sound : Sound r)
    (here : r.registrations[place]? = some old) (handle : new.handle = old.handle)
    (down : old.isUp = false → new.isUp = false)
    (established : r'.registry.established = r.registry.established)
    (registrations : r'.registrations = r.registrations.set place new)
    (under : ∀ visit ∈ r'.visits, Under r.registrations visit)
    (alone : ∀ visit ∈ r'.visits, visit.isOwn = true →
      r'.visits.countP (·.place = visit.place) = 1)
    (holders : new.holders = new.isUp.toNat + r'.guests place)
    (others : ∀ other, other ≠ place → r'.guests other = r.guests other) : Sound r' where
  established := by rw [established, registrations, List.length_set, sound.established]
  numbered := by
    have same : (r.registrations.map (·.handle.id))[place]? = some new.handle.id := by
      rw [List.getElem?_map, here, handle]
      rfl
    obtain ⟨inside, value⟩ := List.getElem?_eq_some_iff.1 same
    rw [registrations, List.length_set, List.map_set, ← sound.numbered, ← value,
      List.set_getElem_self inside]
  under visit mem := registrations ▸ (under visit mem).set here handle down
  alone := alone
  holders other registration there := by
    rw [registrations] at there
    by_cases same : place = other
    · subst same
      rw [List.getElem?_set_self (List.getElem?_eq_some_iff.1 here).1] at there
      cases there
      exact holders
    · rw [List.getElem?_set_ne same] at there
      rw [others other (Ne.symm same)]
      exact sound.holders other registration there

theorem sound_join (sound : Sound r) {request : Http.Request} {place : Nat}
    {registration : Registration} (here : r.registrations[place]? = some registration)
    (isUp : registration.isUp = true) :
    Sound (Reception.addVisit
      { r with
        registrations :=
          r.registrations.set place { registration with holders := registration.holders + 1 } }
      { request, conn := registration.handle, place, isOwn := false }) := by
  have handle : ({ registration with holders := registration.holders + 1 } : Registration).handle =
      registration.handle := rfl
  refine sound_set sound here handle id rfl rfl ?_ ?_ ?_ ?_
  · intro visit mem
    obtain old | new := List.mem_append.1 mem
    · exact sound.under visit old
    · cases List.mem_singleton.1 new
      exact ⟨registration, here, rfl, nofun⟩
  · intro visit mem isOwn
    obtain old | new := List.mem_append.1 mem
    · -- a registration that is up is no request's own
      obtain ⟨own, there, -, down⟩ := sound.under visit old
      have other : place ≠ visit.place := by
        rintro rfl
        cases here.symm.trans there
        rw [isUp] at down
        cases down isOwn
      rw [Reception.addVisit, List.countP_append, List.countP_singleton,
        if_neg (by simpa using other)]
      exact sound.alone visit old isOwn
    · cases List.mem_singleton.1 new
      cases isOwn
  · rw [guests_addVisit]
    simp [sound.holders place registration here, Stage.isReturned, Nat.add_assoc,
      Reception.guests]
  · intro other ne
    rw [guests_addVisit]
    simp [ne.symm, Reception.guests]

/-- `Same visit visit'`: a request has come further and is otherwise the same. -/
structure Same (visit visit' : Visit) : Prop where
  conn : visit'.conn = visit.conn
  place : visit'.place = visit.place
  isOwn : visit'.isOwn = visit.isOwn

section

variable {number : Nat} {visit visit' : Visit} (here : r.visits[number]? = some visit)
  (same : Same visit visit')

include here same

theorem under_advance (sound : Sound r) :
    ∀ other ∈ r.visits.set number visit', Under r.registrations other := by
  intro other mem
  obtain old | rfl := List.mem_or_eq_of_mem_set mem
  · exact sound.under other old
  · obtain ⟨registration, there, conn, down⟩ := sound.under visit (List.mem_of_getElem? here)
    exact ⟨registration, same.place ▸ there, conn.trans same.conn.symm, same.isOwn ▸ down⟩

theorem countP_advance (place : Nat) :
    (r.visits.set number visit').countP (·.place = place) = r.visits.countP (·.place = place) := by
  have counted := countP_set here visit' fun visit => decide (visit.place = place)
  rw [same.place] at counted
  exact Nat.add_right_cancel counted

theorem alone_advance (sound : Sound r) :
    ∀ other ∈ r.visits.set number visit', other.isOwn = true →
      (r.visits.set number visit').countP (·.place = other.place) = 1 := by
  intro other mem isOwn
  rw [countP_advance here same]
  obtain old | rfl := List.mem_or_eq_of_mem_set mem
  · exact sound.alone other old isOwn
  · rw [same.place]
    exact sound.alone visit (List.mem_of_getElem? here) (same.isOwn ▸ isOwn)

theorem guests_advance (place : Nat) :
    (r.advance number visit').guests place +
        (decide (visit.place = place) && !visit.stage.isReturned).toNat =
      r.guests place + (decide (visit.place = place) && !visit'.stage.isReturned).toNat := by
  have counted := countP_set here visit' fun visit =>
    decide (visit.place = place) && !visit.stage.isReturned
  rw [same.place] at counted
  exact counted

end

theorem sound_work (sound : Sound r) {number : Nat} {visit : Visit} {clock : Clock}
    {served : Served} (here : r.visits[number]? = some visit) (waits : visit.stage = .waiting)
    (took : r.front.serveUnder clock visit.request visit.conn = served) :
    Sound (Reception.advance
      { r with front := served.front, journal := r.journal ++ served.journal } number { visit with stage := .answered served.response }) where
  established := by
    subst took
    refine Eq.trans ?_ sound.established
    refine (congrArg Registry.established (registry_served ..)).trans ?_
    split
    · exact StoppingLemmas.established_closeAll _
    · rfl
  numbered := sound.numbered
  under := under_advance (r := r) here ⟨rfl, rfl, rfl⟩ sound
  alone := alone_advance (r := r) here ⟨rfl, rfl, rfl⟩ sound
  holders place registration there := by
    have same : Same visit { visit with stage := .answered served.response } := ⟨rfl, rfl, rfl⟩
    have moved := guests_advance here same place
    rw [waits] at moved
    exact (sound.holders place registration there).trans
      (congrArg (_ + ·) (Nat.add_right_cancel moved).symm)

/-! ## Releasing -/

section

variable (r : Reception) (place : Nat) (registration : Registration)

@[simp]
theorem registrations_release : (r.release place registration).registrations =
    r.registrations.set place { registration with holders := registration.holders - 1 } := by
  rw [Reception.release]
  split <;> rfl

@[simp]
theorem visits_release : (r.release place registration).visits = r.visits := by
  rw [Reception.release]
  split <;> rfl

theorem guests_release (other : Nat) :
    (r.release place registration).guests other = r.guests other := by
  rw [Reception.guests, visits_release, Reception.guests]

/-- The last holder takes the registration out of the registry. -/
theorem registry_release : (r.release place registration).registry =
    if registration.holders - 1 = 0 then r.registry.drop registration.handle else r.registry := by
  rw [Reception.release]
  split <;> rfl

theorem release_of_last (last : registration.holders - 1 = 0) :
    r.release place registration =
      { r with
        front := r.front.disconnect registration.handle
        registrations := r.registrations.set place { registration with holders := 0 } } := by
  simp [Reception.release, last]

theorem release_of_more (more : registration.holders - 1 ≠ 0) :
    r.release place registration =
      { r with
        registrations :=
          r.registrations.set place { registration with holders := registration.holders - 1 } } :=
  if_neg more

theorem established_release :
    (r.release place registration).registry.established = r.registry.established := by
  rw [registry_release]
  split <;> rfl

end

theorem sound_hangUp (sound : Sound r) {place : Nat} {registration : Registration}
    (here : r.registrations[place]? = some registration) (isUp : registration.isUp = true) :
    Sound (r.release place { registration with isUp := false }) := by
  refine sound_set sound here ?_ (fun _ => ?_) (established_release ..)
    (registrations_release ..) ?_ ?_ ?_ ?_
  · rfl
  · rfl
  · rw [visits_release]
    exact sound.under
  · rw [visits_release]
    exact sound.alone
  · rw [guests_release]
    simp [sound.holders place registration here, isUp]
  · exact fun other _ => guests_release ..

theorem sound_leave (sound : Sound r) {number : Nat} {visit : Visit} {response : Response}
    {registration : Registration} (here : r.visits[number]? = some visit)
    (answered : visit.stage = .answered response)
    (there : r.registrations[visit.place]? = some registration) :
    Sound ((r.advance number { visit with stage := .returned response }).release visit.place
      registration) := by
  have same : Same visit { visit with stage := .returned response } := ⟨rfl, rfl, rfl⟩
  have moved := guests_advance here same
  rw [answered] at moved
  refine sound_set sound there ?_ ?_ (established_release ..) (registrations_release ..) ?_ ?_ ?_ ?_
  · rfl
  · exact id
  · rw [visits_release]
    exact under_advance here same sound
  · rw [visits_release]
    exact alone_advance here same sound
  · have fewer := moved visit.place
    rw [guests_release]
    simp only [sound.holders _ _ there]
    simp [Stage.isReturned] at fewer
    omega
  · intro other ne
    have kept := moved other
    rw [guests_release]
    simpa [ne.symm] using kept

theorem sound_move (sound : Sound r) (move : Move r event r') : Sound r' := by
  cases move with
  | accept peer => exact sound_accept sound peer
  | enter request => exact sound_enter sound request
  | join here isUp => exact sound_join sound here isUp
  | hangUp here isUp => exact sound_hangUp sound here isUp
  | work here waits took => exact sound_work sound here waits took
  | leave here answered there => exact sound_leave sound here answered there
  | idle => exact sound

end

end ReceptionLemmas

end AdminPort
