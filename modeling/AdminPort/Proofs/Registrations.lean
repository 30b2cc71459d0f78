import AdminPort.Proofs.Reception

/-!
# What stays registered

Registrations are shared: by a connection and the requests on it, and they may be forgotten
by the registry while they are held, when the daemon is stopped. So what is open is told in
two parts. A registration that was opened since the first closing is open exactly as long as
somebody holds it; one that was opened before is not.

When all requests have returned only connections hold anything, and the registry counts the
connections that are up and were not up at the first closing. A request that comes on no
connection then finds one more, which is its own.

Results:
1. `open_move`, `open_closing`: what an event does to what is open.
2. `sound_run`, `described_run`: what is open after any events, and since when.
3. `size_of_settled`: how many connections are left when all requests have returned.
4. `run_carried`, `run_inProcess`: a request that nothing comes between is served at the front.
5. `received_run`: the registrations at a front after any events.
-/

namespace AdminPort

/-! ## Definitions -/

namespace Reception

/-- The registrations that were opened before the first closing of all connections. -/
def cut (r : Reception) (events : List Event) : Nat :=
  (r.atClosing events).elim 0 (·.registrations.length)

end Reception

namespace ReceptionLemmas

/-- The handles of registrations that somebody holds. -/
def heldIn (registrations : List Registration) : List Handle :=
  (registrations.filter (0 < ·.holders)).map (·.handle)

section

variable {registrations : List Registration} {place : Nat} {old new : Registration}

/-- A registration that is held as before is held where it was. -/
theorem heldIn_set_of_held (here : registrations[place]? = some old)
    (handle : new.handle = old.handle) (held : 0 < new.holders ↔ 0 < old.holders) :
    heldIn (registrations.set place new) = heldIn registrations := by
  induction registrations generalizing place with
  | nil => rfl
  | cons first rest ih =>
    cases place with
    | zero =>
      cases here
      simp only [heldIn, List.set_cons_zero, List.filter_cons, held]
      split <;> simp [handle]
    | succ place =>
      have later := ih here
      simp only [heldIn, List.set_cons_succ, List.filter_cons] at later ⊢
      split <;> simp [later]

theorem filter_heldIn (fresh : ∀ other ∈ registrations, other.handle.id ≠ old.handle.id) :
    (heldIn registrations).filter (·.id != old.handle.id) = heldIn registrations := by
  rw [List.filter_eq_self]
  intro handle mem
  obtain ⟨other, isIn, rfl⟩ := List.mem_map.1 mem
  simpa using fresh other (List.mem_filter.1 isIn).1

/-- A registration that nobody holds any more is taken out. -/
theorem heldIn_set_of_free (here : registrations[place]? = some old) (free : new.holders = 0)
    (nodup : (registrations.map (·.handle.id)).Nodup) :
    heldIn (registrations.set place new) =
      (heldIn registrations).filter (·.id != old.handle.id) := by
  induction registrations generalizing place with
  | nil => rfl
  | cons first rest ih =>
    obtain ⟨fresh, nodup⟩ := List.nodup_cons.1 nodup
    cases place with
    | zero =>
      cases here
      have others : ∀ other ∈ rest, other.handle.id ≠ old.handle.id := fun other mem same =>
        fresh (List.mem_map.2 ⟨other, mem, same⟩)
      have kept := filter_heldIn others
      have gone : ¬ 0 < new.holders := by omega
      simp only [heldIn, List.set_cons_zero, List.filter_cons, gone, decide_false] at kept ⊢
      by_cases held : 0 < old.holders <;> simp [held, kept]
    | succ place =>
      have later := ih here nodup
      have apart : first.handle.id ≠ old.handle.id := fun same =>
        fresh (List.mem_map.2 ⟨old, List.mem_of_getElem? here, same.symm⟩)
      simp only [heldIn, List.set_cons_succ, List.filter_cons] at later ⊢
      split <;> simp [later, apart]

end

/-! ## What is open -/

/-- `Open r cut`: open are the registrations that somebody holds, from a place on. -/
structure Open (r : Reception) (cut : Nat) : Prop where
  le : cut ≤ r.registrations.length
  connections : r.registry.connections = heldIn (r.registrations.drop cut)

section

variable {r r' : Reception} {event : Event} {cut : Nat}

theorem nodup_ids (sound : Sound r) (few : r.registrations.length < UInt64.size) :
    (r.registrations.map (·.handle.id)).Nodup := by
  rw [sound.numbered]
  refine List.Nodup.map_on ?_ List.nodup_range'
  intro m hm n hn same
  rw [List.mem_range'_1] at hm hn
  have same := congrArg UInt64.toNat same
  rwa [UInt64.toNat_ofNat_of_lt' (by omega), UInt64.toNat_ofNat_of_lt' (by omega)] at same

theorem open_register (isOpen : Open r cut) (peer : Option Address) :
    Open (r.register peer).1 cut where
  le := by
    rw [registrations_register, List.length_append]
    exact Nat.le_add_right_of_le isOpen.le
  connections := by
    rw [registrations_register, List.drop_append_of_le_length isOpen.le, heldIn,
      List.filter_append, List.map_append, ← heldIn, ← isOpen.connections]
    rfl

theorem open_set {place : Nat} {old new : Registration} (isOpen : Open r cut)
    (here : r.registrations[place]? = some old) (handle : new.handle = old.handle)
    (held : 0 < new.holders ↔ 0 < old.holders) (registry : r'.registry = r.registry)
    (registrations : r'.registrations = r.registrations.set place new) : Open r' cut where
  le := by
    rw [registrations, List.length_set]
    exact isOpen.le
  connections := by
    rw [registry, registrations, isOpen.connections, List.drop_set]
    split_ifs with before
    · rfl
    · refine (heldIn_set_of_held ?_ handle held).symm
      rwa [List.getElem?_drop, Nat.add_sub_cancel' (Nat.le_of_not_lt before)]

/-- No later registration has the number of an earlier one. -/
theorem fresh_drop {registrations : List Registration} {place : Nat} {old : Registration}
    (nodup : (registrations.map (·.handle.id)).Nodup) (here : registrations[place]? = some old)
    (before : place < cut) :
    ∀ other ∈ registrations.drop cut, other.handle.id ≠ old.handle.id := by
  intro other mem same
  rw [← List.take_append_drop cut registrations, List.map_append, List.nodup_append] at nodup
  rw [← List.getElem?_take_of_lt before] at here
  exact nodup.2.2 _ (List.mem_map.2 ⟨old, List.mem_of_getElem? here, rfl⟩) _
    (List.mem_map.2 ⟨other, mem, rfl⟩) same.symm

/-- Whoever releases a registration last takes it out, and nobody else. -/
theorem open_release {place : Nat} {old registration : Registration} (isOpen : Open r cut)
    (nodup : (r.registrations.map (·.handle.id)).Nodup)
    (here : r.registrations[place]? = some old) (handle : registration.handle = old.handle)
    (holders : registration.holders = old.holders) : Open (r.release place registration) cut := by
  by_cases last : registration.holders - 1 = 0
  · refine ⟨?_, ?_⟩
    · rw [registrations_release, List.length_set]
      exact isOpen.le
    · rw [registry_release, if_pos last, Registry.drop, isOpen.connections, registrations_release,
        handle, List.drop_set]
      split_ifs with before
      · exact filter_heldIn (fresh_drop nodup here before)
      · refine (heldIn_set_of_free ?_ last ?_).symm
        · rwa [List.getElem?_drop, Nat.add_sub_cancel' (Nat.le_of_not_lt before)]
        · exact nodup.sublist ((List.drop_sublist _ _).map _)
  · refine open_set isOpen here ?_ ?_ ?_ (registrations_release ..)
    · exact handle
    · simp only
      omega
    · rw [registry_release, if_neg last]

theorem closes_work {number : Nat} {visit : Visit} {clock : Clock}
    (here : r.visits[number]? = some visit) (waits : visit.stage = .waiting) :
    (Event.work number clock).closes r =
      decide (Meets r.front.setup visit.request (.command .shutdown)) := by
  simp [Event.closes, here, waits]

/-- The registry after a request has been worked on. -/
theorem registry_work {number : Nat} {visit : Visit} {clock : Clock}
    (here : r.visits[number]? = some visit) (waits : visit.stage = .waiting) :
    (r.front.serveUnder clock visit.request visit.conn).front.state.registry =
      if (Event.work number clock).closes r then r.registry.closeAll.1 else r.registry := by
  rw [registry_served, closes_work here waits]
  simp only [decide_eq_true_eq]
  rfl

/-- The registry is closing from the first closing on. -/
theorem closing_move (move : Move r event r') :
    r'.registry.closing = (r.registry.closing || event.closes r) := by
  cases move with
  | accept | enter | join => exact (Bool.or_false _).symm
  | hangUp | leave =>
    rw [registry_release]
    split <;> exact (Bool.or_false _).symm
  | work here waits took =>
    subst took
    refine (congrArg Registry.closing (registry_work here waits)).trans ?_
    split
    · next closes => rw [closes, Bool.or_true, StoppingLemmas.closing_closeAll]
    · next other => simp [Bool.not_eq_true _ ▸ other]
  | idle _ other => rw [other, Bool.or_false]

/-- What is open is told by the same place, unless everything is closed. -/
theorem open_move (sound : Sound r) (few : r.registrations.length < UInt64.size)
    (isOpen : Open r cut) (move : Move r event r')
    (notFirst : event.closes r = true → r.registry.closing = true) : Open r' cut := by
  have nodup := nodup_ids sound few
  cases move with
  | accept =>
    obtain ⟨le, connections⟩ := open_register isOpen (some _)
    exact ⟨le, connections⟩
  | enter =>
    obtain ⟨le, connections⟩ := open_register isOpen none
    exact ⟨le, connections⟩
  | @join _ _ registration here isUp =>
    have held : 0 < registration.holders := by
      rw [sound.holders _ _ here, isUp]
      exact Nat.add_pos_left Nat.one_pos _
    refine open_set isOpen here ?_ ?_ rfl rfl
    · rfl
    · exact iff_of_true (Nat.succ_pos _) held
  | hangUp here isUp => exact open_release isOpen nodup here rfl rfl
  | work here waits took =>
    subst took
    refine ⟨isOpen.le, Eq.trans ?_ isOpen.connections⟩
    refine (congrArg Registry.connections (registry_work here waits)).trans ?_
    split
    · next closes => rw [Registry.closeAll_of_closing (notFirst closes)]
    · rfl
  | leave here answered there =>
    refine open_release (r := r.advance _ _) ?_ nodup there rfl rfl
    exact ⟨isOpen.le, isOpen.connections⟩
  | idle => exact isOpen

/-- The first closing leaves nothing open that was there before. -/
theorem open_closing (move : Move r event r') (closes : event.closes r = true)
    (first : r.registry.closing = false) :
    Open r' r.registrations.length ∧ r'.registrations = r.registrations := by
  cases move with
  | work here waits took =>
    subst took
    refine ⟨⟨Nat.le_refl _, ?_⟩, rfl⟩
    refine (congrArg Registry.connections (registry_work here waits)).trans ?_
    rw [if_pos closes, StoppingLemmas.connections_closeAll, first]
    exact (congrArg heldIn List.drop_length).symm
  | idle _ other =>
    rw [closes] at other
    cases other
  | _ => cases closes

/-- What has become of the connections since a time before.

* `le`: registrations are only added.
* `isUp`: no connection comes back up. -/
structure Since (before r : Reception) : Prop where
  le : before.registrations.length ≤ r.registrations.length
  isUp : ∀ place < before.registrations.length,
    r.isUpAt place = true → before.isUpAt place = true

theorem Since.trans {a b c : Reception} (first : Since a b) (later : Since b c) : Since a c where
  le := first.le.trans later.le
  isUp place inside up := first.isUp place inside (later.isUp place (inside.trans_le first.le) up)

theorem since_append {more : List Registration}
    (registrations : r'.registrations = r.registrations ++ more) : Since r r' where
  le := by
    rw [registrations, List.length_append]
    exact Nat.le_add_right _ _
  isUp place inside := by
    rw [Reception.isUpAt, registrations, List.getElem?_append_left inside]
    exact id

theorem since_set {place : Nat} {old new : Registration}
    (here : r.registrations[place]? = some old)
    (registrations : r'.registrations = r.registrations.set place new)
    (down : old.isUp = false → new.isUp = false) : Since r r' where
  le := by rw [registrations, List.length_set]
  isUp other inside := by
    rw [Reception.isUpAt, Reception.isUpAt, registrations]
    by_cases same : place = other
    · subst same
      rw [List.getElem?_set_self inside, here]
      intro up
      by_contra wasDown
      exact absurd up (by simp [down (by simpa using wasDown)])
    · rw [List.getElem?_set_ne same]
      exact id

theorem since_move (move : Move r event r') : Since r r' := by
  cases move with
  | accept peer => exact since_append (registrations_register r (some peer))
  | enter request => exact since_append (registrations_register r none)
  | join here => exact since_set here rfl id
  | hangUp here => exact since_set here (registrations_release ..) fun _ => rfl
  | leave _ _ there => exact since_set there (registrations_release ..) id
  | work | idle => exact ⟨Nat.le_refl _, fun _ _ => id⟩

theorem setup_move (move : Move r event r') : r'.front.setup = r.front.setup := by
  cases move with
  | hangUp | leave =>
    rw [Reception.release]
    split <;> rfl
  | work here waits took =>
    subst took
    rfl
  | _ => rfl

theorem length_move (move : Move r event r') :
    r'.registrations.length = r.registrations.length + event.opens.toNat := by
  cases move with
  | accept peer => exact List.length_append
  | enter request => exact List.length_append
  | join => exact List.length_set
  | hangUp | leave => rw [registrations_release]; exact List.length_set
  | work => rfl
  | idle other => rw [other]; rfl

end

/-! ## Runs -/

section

variable (setup : Setup) (flushes : List FlushOutcome)

theorem sound_start : Sound (Reception.start setup flushes) where
  established := rfl
  numbered := rfl
  under _ mem := absurd mem List.not_mem_nil
  alone _ mem := absurd mem List.not_mem_nil
  holders _ _ here := by cases here

variable (r : Reception) (events : List Event) (event : Event)

theorem run_concat : r.run (events ++ [event]) = (r.run events).step event := by
  simp [Reception.run]

theorem trace_concat :
    r.trace (events ++ [event]) = r.trace events ++ [(r.run events, event)] := by
  induction events generalizing r with
  | nil => rfl
  | cons first rest ih =>
    rw [List.cons_append, Reception.trace, ih, Reception.trace, List.cons_append]
    rfl

theorem atClosing_concat : r.atClosing (events ++ [event]) =
    (r.atClosing events).or
      (if event.closes (r.run events) then some (r.run events) else none) := by
  rw [Reception.atClosing, trace_concat, List.find?_append, Option.map_or, Reception.atClosing,
    List.find?_singleton]
  split <;> rfl

theorem cut_concat : r.cut (events ++ [event]) =
    if (r.atClosing events).isNone && event.closes (r.run events) then
      (r.run events).registrations.length
    else r.cut events := by
  rw [Reception.cut, atClosing_concat, Reception.cut]
  cases r.atClosing events with
  | some before => rfl
  | none => cases event.closes (r.run events) <;> rfl

end

/-- `Described r closed cut`: a front as a run leaves it, which was closed at a time before if
it was closed at all.

* `closing`: the registry is closing exactly if it has been closed.
* `since`: registrations were added since, and no connection has come back up. -/
structure Described (setup : Setup) (r : Reception) (closed : Option Reception) (cut : Nat) :
    Prop where
  setup : r.front.setup = setup
  sound : Sound r
  isOpen : Open r cut
  closing : r.registry.closing = closed.isSome
  since : ∀ before, closed = some before → Since before r

theorem sound_run (setup : Setup) (flushes : List FlushOutcome) (events : List Event) :
    let r := (Reception.start setup flushes).run events
    Sound r ∧ r.registrations.length = events.countP Event.opens := by
  intro r
  induction events using List.reverseRecOn with
  | nil => exact ⟨sound_start setup flushes, rfl⟩
  | append_singleton events event ih =>
    obtain ⟨sound, length⟩ := ih
    have move := move_step ((Reception.start setup flushes).run events) event
    refine ⟨by simpa only [r, run_concat] using sound_move sound move, ?_⟩
    simp only [r, run_concat]
    rw [length_move move, length, List.countP_append, List.countP_singleton]
    cases event.opens <;> rfl

theorem described_run (setup : Setup) (flushes : List FlushOutcome) (events : List Event)
    (few : events.countP Event.opens < UInt64.size) :
    let start := Reception.start setup flushes
    Described setup (start.run events) (start.atClosing events) (start.cut events) := by
  intro start
  induction events using List.reverseRecOn with
  | nil => exact ⟨rfl, sound_start setup flushes, ⟨Nat.le_refl _, rfl⟩, rfl, nofun⟩
  | append_singleton events event ih =>
    rw [List.countP_append] at few
    have fewBefore := Nat.lt_of_le_of_lt (Nat.le_add_right _ _) few
    have described := ih fewBefore
    have short : (start.run events).registrations.length < UInt64.size :=
      (sound_run setup flushes events).2 ▸ fewBefore
    have move := move_step (start.run events) event
    rw [run_concat, atClosing_concat, cut_concat]
    refine ⟨(setup_move move).trans described.setup, sound_move described.sound move, ?_, ?_, ?_⟩
    · cases closed : start.atClosing events with
      | some before =>
        have closing := described.closing.trans (congrArg Option.isSome closed)
        exact open_move described.sound short described.isOpen move fun _ => closing
      | none =>
        have closing := described.closing.trans (congrArg Option.isSome closed)
        cases closes : event.closes (start.run events) with
        | true => exact (open_closing move closes closing).1
        | false =>
          exact open_move described.sound short described.isOpen move
            fun other => by rw [closes] at other; cases other
    · rw [closing_move move, described.closing, Option.isSome_or]
      cases event.closes (start.run events) <;> rfl
    · intro before found
      cases closed : start.atClosing events with
      | some earlier =>
        rw [closed] at found
        cases found
        exact (described.since before closed).trans (since_move move)
      | none =>
        rw [closed, Option.none_or] at found
        split at found
        · cases found
          exact since_move move
        · cases found

/-- As long as no number has come around, registrations are numbered from 1. -/
theorem toNat_numbered {r : Reception} (sound : Sound r)
    (few : r.registrations.length < UInt64.size) :
    r.registrations.map (·.handle.id.toNat) = List.range' 1 r.registrations.length := by
  have numbers := congrArg (List.map UInt64.toNat) sound.numbered
  rw [List.map_map, List.map_map] at numbers
  refine numbers.trans ((List.map_congr_left fun n mem => ?_).trans (List.map_id _))
  rw [List.mem_range'_1] at mem
  exact UInt64.toNat_ofNat_of_lt' (by omega)

/-! ## What is left when all requests have returned -/

section

variable {r before : Reception}

theorem countP_zipIdx (l : List Registration) (p : Registration → Bool) (n : Nat) :
    (l.zipIdx n).countP (fun numbered => p numbered.1) = l.countP p := by
  conv_rhs => rw [← List.zipIdx_map_fst n l, List.countP_map]
  rfl

theorem standing_none : r.standing none = r.registrations.countP (·.isUp) := by
  simpa [Reception.standing] using countP_zipIdx r.registrations (·.isUp) 0

/-- What was not up before and is now was accepted since. -/
theorem standing_some (since : Since before r) :
    r.standing (some before) =
      (r.registrations.drop before.registrations.length).countP (·.isUp) := by
  rw [Reception.standing]
  conv_lhs => rw [← List.take_append_drop before.registrations.length r.registrations,
    List.zipIdx_append, List.countP_append]
  have earlier : ((r.registrations.take before.registrations.length).zipIdx).countP
      (fun numbered => numbered.1.isUp && !(some before).any (·.isUpAt numbered.2)) = 0 := by
    rw [List.countP_eq_zero]
    rintro ⟨registration, place⟩ mem
    have here : (r.registrations.take before.registrations.length)[place]? = some registration :=
      List.mk_mem_zipIdx_iff_getElem?.1 mem
    have inside := (List.getElem?_eq_some_iff.1 here).1
    rw [List.length_take, Nat.lt_min] at inside
    rw [List.getElem?_take_of_lt inside.1] at here
    have wasUp := since.isUp place inside.1
    rw [Reception.isUpAt, here] at wasUp
    simpa using wasUp
  rw [earlier, Nat.zero_add, ← countP_zipIdx _ _ (0 + _)]
  refine List.countP_congr ?_
  rintro ⟨registration, place⟩ mem
  have beyond := List.le_snd_of_mem_zipIdx mem
  rw [List.length_take, Nat.min_eq_left since.le, Nat.zero_add] at beyond
  simp [Reception.isUpAt, List.getElem?_eq_none beyond]

/-- Requests that have returned hold nothing. -/
theorem holders_of_settled (sound : Sound r) (settled : r.isSettled = true) {place : Nat}
    {registration : Registration} (here : r.registrations[place]? = some registration) :
    registration.holders = registration.isUp.toNat := by
  have none : r.guests place = 0 := by
    rw [Reception.guests, List.countP_eq_zero]
    intro visit mem
    simp [List.all_eq_true.1 settled visit mem]
  rw [sound.holders place registration here, none, Nat.add_zero]

theorem length_heldIn_of_settled (sound : Sound r) (settled : r.isSettled = true) (cut : Nat) :
    (heldIn (r.registrations.drop cut)).length =
      (r.registrations.drop cut).countP (·.isUp) := by
  rw [heldIn, List.length_map, ← List.countP_eq_length_filter]
  refine List.countP_congr fun registration mem => ?_
  obtain ⟨place, here⟩ := List.mem_iff_getElem?.1 (List.mem_of_mem_drop mem)
  rw [holders_of_settled sound settled here]
  cases registration.isUp <;> simp

end

/-! ## Registrations of requests -/

section

variable {r : Reception} {cut : Nat}

/-- A request that has returned was the only one under its own registration. -/
theorem guests_of_own (sound : Sound r) {visit : Visit} (mem : visit ∈ r.visits)
    (isOwn : visit.isOwn = true) (returned : visit.stage.isReturned = true) :
    r.guests visit.place = 0 := by
  have alone := sound.alone visit mem isOwn
  have apart := Latency.countP_add_countP r.visits
    (p := fun other => decide (other.place = visit.place) && !other.stage.isReturned)
    (q := fun other => decide (other.place = visit.place) && other.stage.isReturned)
    fun other waits => by simp_all
  have whole : r.visits.countP (fun other =>
      (decide (other.place = visit.place) && !other.stage.isReturned) ||
        (decide (other.place = visit.place) && other.stage.isReturned)) = 1 := by
    rw [← alone]
    refine List.countP_congr fun other _ => ?_
    cases other.stage.isReturned <;> simp
  have here : 0 < r.visits.countP (fun other =>
      decide (other.place = visit.place) && other.stage.isReturned) :=
    List.countP_pos_iff.2 ⟨visit, mem, by simp [returned]⟩
  rw [Reception.guests]
  omega

/-- A registration that nobody holds is not open. -/
theorem notMem_of_free (sound : Sound r) (few : r.registrations.length < UInt64.size)
    (isOpen : Open r cut) {place : Nat} {registration : Registration}
    (here : r.registrations[place]? = some registration) (free : registration.holders = 0) :
    registration.handle ∉ r.registry.connections := by
  rw [isOpen.connections, heldIn]
  intro mem
  obtain ⟨other, isHeld, same⟩ := List.mem_map.1 mem
  obtain ⟨isIn, held⟩ := List.mem_filter.1 isHeld
  have identical := List.inj_on_of_nodup_map (nodup_ids sound few) (List.mem_of_mem_drop isIn)
    (List.mem_of_getElem? here) (congrArg Handle.id same)
  subst identical
  simp [free] at held

theorem notMem_of_own (sound : Sound r) (few : r.registrations.length < UInt64.size)
    (isOpen : Open r cut) {visit : Visit} (mem : visit ∈ r.visits) (isOwn : visit.isOwn = true)
    (returned : visit.stage.isReturned = true) : visit.conn ∉ r.registry.connections := by
  obtain ⟨registration, here, conn, down⟩ := sound.under visit mem
  rw [← conn]
  refine notMem_of_free sound few isOpen here ?_
  rw [sound.holders visit.place registration here, down isOwn,
    guests_of_own sound mem isOwn returned]
  rfl

end

/-- When all requests have returned, open are the connections that were accepted since. -/
theorem size_of_settled {setup : Setup} {r : Reception} {closed : Option Reception}
    (described : Described setup r closed (closed.elim 0 (·.registrations.length)))
    (settled : r.isSettled = true) : r.registry.size = r.standing closed := by
  rw [Registry.size, described.isOpen.connections,
    length_heldIn_of_settled described.sound settled]
  cases closed with
  | none => exact standing_none.symm
  | some before => exact (standing_some (described.since before rfl)).symm

theorem size_le {r : Reception} {cut : Nat} (isOpen : Open r cut) :
    r.registry.size ≤ r.registrations.length := by
  rw [Registry.size, isOpen.connections, heldIn, List.length_map]
  exact (List.filter_sublist.trans (List.drop_sublist _ _)).length_le

/-! ## A request that nothing comes between -/

section

variable (r : Reception) (request : Http.Request) (clock : Clock)

/-- A request that is waiting is worked on and returns, and a holder of its registration is
one fewer. -/
theorem run_work_leave (visits : List Visit) {conn : Handle} {place : Nat} {isOwn : Bool}
    {registration : Registration}
    (last : r.visits = visits ++ [⟨request, conn, place, isOwn, .waiting⟩])
    (here : r.registrations[place]? = some registration) :
    let served := r.front.serveUnder clock request conn
    r.run [.work visits.length clock, .leave visits.length] =
      Reception.release
        { front := served.front
          registrations := r.registrations
          visits := visits ++ [⟨request, conn, place, isOwn, .returned served.response⟩]
          journal := r.journal ++ served.journal } place registration := by
  intro served
  have worked : r.step (.work visits.length clock) =
      { front := served.front
        registrations := r.registrations
        visits := visits ++ [⟨request, conn, place, isOwn, .answered served.response⟩]
        journal := r.journal ++ served.journal } := by
    simp [Reception.step, Reception.advance, last, served]
  rw [Reception.run, List.foldl_cons, worked, List.foldl_cons, List.foldl_nil]
  simp [Reception.step, Reception.advance, here]

/-- A request that comes on no connection is served under a registration that is opened for it
and gone with it. -/
theorem run_inProcess :
    let served := r.front.serve clock request none
    let conn : Handle := ⟨r.registry.established + 1, none⟩
    r.run [.arrive request none, .work r.visits.length clock, .leave r.visits.length] =
      { front := served.front
        registrations := r.registrations ++ [⟨conn, false, 0⟩]
        visits := r.visits ++
          [⟨request, conn, r.registrations.length, true, .returned served.response⟩]
        journal := r.journal ++ served.journal } := by
  intro served conn
  have next : (r.register none).2 = conn := congrArg (Handle.mk · none) r.registry.nextId_eq
  rw [← next]
  have here : ((r.register none).1.addVisit
      { request, conn := (r.register none).2,
        place := r.registrations.length, isOwn := true }).registrations[r.registrations.length]? =
      some ⟨(r.register none).2, false, 1⟩ := by
    simp [Reception.addVisit, registrations_register]
    rfl
  refine (run_work_leave _ request clock r.visits rfl here).trans ?_
  rw [release_of_last _ _ _ rfl]
  refine congrArg (fun registrations => Reception.mk _ registrations _ _) ?_
  simp [Reception.addVisit, registrations_register]

/-- A request on a connection is served under the registration of the connection, which it
leaves as it was. -/
theorem run_carried (sound : Sound r) {place : Nat} {registration : Registration}
    (here : r.registrations[place]? = some registration) (isUp : registration.isUp = true) :
    let served := r.front.serve clock request (some registration.handle)
    r.run [.arrive request (some place), .work r.visits.length clock, .leave r.visits.length] =
      { front := served.front
        registrations := r.registrations
        visits := r.visits ++
          [⟨request, registration.handle, place, false, .returned served.response⟩]
        journal := r.journal ++ served.journal } := by
  intro served
  obtain ⟨inside, value⟩ := List.getElem?_eq_some_iff.1 here
  have held : registration.holders + 1 - 1 ≠ 0 := by
    rw [sound.holders place registration here, isUp]
    simp
  let shared : Registration := { registration with holders := registration.holders + 1 }
  have arrived : r.step (.arrive request (some place)) =
      Reception.addVisit { r with registrations := r.registrations.set place shared }
        { request, conn := registration.handle, place, isOwn := false } := by
    simp [Reception.step, here, isUp, shared]
  have there : (r.registrations.set place shared)[place]? = some shared :=
    List.getElem?_set_self inside
  rw [Reception.run, List.foldl_cons, arrived, ← Reception.run]
  refine (run_work_leave _ request clock r.visits rfl there).trans ?_
  have restored : (r.registrations.set place shared).set place registration = r.registrations := by
    rw [List.set_set, ← value, List.set_getElem_self inside]
  rw [release_of_more _ _ _ held]
  exact congrArg (fun registrations => Reception.mk _ registrations _ _) restored

end

/-! ## What is told of the connections -/

section

/-- The statistics begin with the number of open connections. -/
theorem exists_statsBody (setup : Setup) (state : State) (now : UInt64)
    (few : state.registry.size < UInt64.size) :
    ∃ rest, setup.statsBody state now =
      Stats.lineText (setup.statsBase ++ ".connectionmgr.connections") now.toNat
        state.registry.size [("host", setup.statsHost)] ++ rest := by
  rw [Setup.statsBody_eq_written, Setup.statsCalls, Registry.stats]
  simp only [List.cons_append, List.append_assoc]
  rw [Stats.written_hostTag, Stats.written_record _ _ _ _ _ few]
  refine ⟨_, congrArg (· ++ _) ?_⟩
  rw [List.nil_append, Stats.inForce_singleton, String.append_assoc]
  rfl

/-- Stopping the daemon writes down the number of open connections, if it is the first to. -/
theorem closing_mem_iff {setup : Setup} {clock : Clock} {state : State} {request : Http.Request}
    {conn : Handle} (met : Meets setup request (.command .shutdown)) (count : Nat) :
    .closingConnections count ∈ (dispatch setup clock state request conn).journal ↔
      state.registry.closing = false ∧ count = state.registry.size := by
  have closed : .closingConnections count ∈ state.registry.closeAll.2 ↔
      state.registry.closing = false ∧ count = state.registry.size := by
    cases h : state.registry.closing <;> simp [Registry.closeAll, h]
  cases h : state.nextFlush.fault? with
  | none =>
    rw [dispatch_of_written met h, ← closed]
    simp [PointStore.flush]
  | some fault =>
    rw [dispatch_of_failedFlush met h, ← closed]
    cases fault.isClientFault <;> simp

end

end ReceptionLemmas

open ReceptionLemmas

/-- `Received events r`: how requests and connections have been registered at a front.

* `opened`, `numbered`: every connection that is accepted and every request that comes on none
  opens one registration, which has the next number, and nothing else opens any.
* `under`: a request is dispatched under the handle of its registration.
* `carried`: a request on a connection is served under the registration of the connection. It
  opens none and leaves that one as it was.
* `inProcess`: a request on none is served under a registration of its own. -/
structure Received (events : List Event) (r : Reception) : Prop where
  opened : r.registry.established =
    UInt64.ofNat (events.countP Event.isAccept + events.countP Event.isInProcess)
  numbered : r.registrations.map (·.handle.id) =
    (List.range' 1 (events.countP Event.isAccept + events.countP Event.isInProcess)).map
      UInt64.ofNat
  under : ∀ visit ∈ r.visits, ∃ registration,
    r.registrations[visit.place]? = some registration ∧ registration.handle = visit.conn
  carried : ∀ request clock place (registration : Registration),
    r.registrations[place]? = some registration → registration.isUp = true →
    let served := r.front.serve clock request (some registration.handle)
    r.run [.arrive request (some place), .work r.visits.length clock, .leave r.visits.length] =
      { front := served.front
        registrations := r.registrations
        visits := r.visits ++
          [⟨request, registration.handle, place, false, .returned served.response⟩]
        journal := r.journal ++ served.journal }
  inProcess : ∀ request clock,
    let served := r.front.serve clock request none
    let conn : Handle := ⟨r.registry.established + 1, none⟩
    r.run [.arrive request none, .work r.visits.length clock, .leave r.visits.length] =
      { front := served.front
        registrations := r.registrations ++ [⟨conn, false, 0⟩]
        visits := r.visits ++
          [⟨request, conn, r.registrations.length, true, .returned served.response⟩]
        journal := r.journal ++ served.journal }

/-- `Balanced setup events r closed`: what is open at a front as long as no number is given
twice. The front was closed for the first time as it was at a time before, if at all.

* `opened`, `numbered`: the registrations are counted and numbered from 1.
* `gone`: the registration of a request on no connection is not open once the request has
  returned, whatever the answer was.
* `connections`: open are the registrations that somebody holds, but for those that were opened
  before the first closing.
* `settled`: when all requests have returned, open are the connections that are up and were not
  up at the first closing.
* `told`: the statistics tell a request on none of one more.
* `logged`: and so does the journal, if the request is the first to stop the daemon. -/
structure Balanced (setup : Setup) (events : List Event) (r : Reception)
    (closed : Option Reception) : Prop where
  opened : r.registry.established.toNat =
    events.countP Event.isAccept + events.countP Event.isInProcess
  numbered : r.registrations.map (·.handle.id.toNat) =
    List.range' 1 (events.countP Event.isAccept + events.countP Event.isInProcess)
  gone : ∀ visit ∈ r.visits, visit.isOwn = true → visit.stage.isReturned = true →
    visit.conn ∉ r.registry.connections
  connections : r.registry.connections =
    ((r.registrations.drop (closed.elim 0 (·.registrations.length))).filter (0 < ·.holders)).map
      (·.handle)
  settled : r.isSettled = true → r.registry.size = r.standing closed
  told : r.isSettled = true → ∀ request clock, Meets setup request (.command .stats) →
    (∀ payload, .panic payload ∉ setup.textProtocol) →
    ∃ rest, (r.front.serve clock request none).response =
      ⟨200, some "text/plain; charset=UTF-8",
        Stats.lineText (setup.statsBase ++ ".connectionmgr.connections") clock.now.toNat
          (r.standing closed + 1) [("host", setup.statsHost)] ++ rest⟩
  logged : r.isSettled = true → ∀ request clock, Meets setup request (.command .shutdown) →
    ∀ count, .closingConnections count ∈ (r.front.serve clock request none).journal ↔
      closed = none ∧ count = r.standing closed + 1

/-- Connections and requests that come on none are counted together as openings. -/
theorem countP_opens (events : List Event) :
    events.countP Event.opens = events.countP Event.isAccept + events.countP Event.isInProcess := by
  refine (Latency.countP_add_countP events fun event isAccept => ?_).symm
  cases event with
  | accept => rfl
  | _ => cases isAccept

section

variable {setup : Setup} {r : Reception} {closed : Option Reception}
  (described : Described setup r closed (closed.elim 0 (·.registrations.length)))
  (settled : r.isSettled = true)

include described settled

/-- A request that comes on no connection is one more. -/
theorem size_connect :
    (r.front.connect none).1.state.registry.size = r.standing closed + 1 := by
  rw [← size_of_settled described settled]
  exact List.length_append

variable (request : Http.Request) (clock : Clock)

theorem response_inProcess (few : r.registrations.length + 1 < UInt64.size)
    (met : Meets setup request (.command .stats))
    (quiet : ∀ payload, .panic payload ∉ setup.textProtocol) :
    ∃ rest, (r.front.serve clock request none).response =
      ⟨200, some "text/plain; charset=UTF-8",
        Stats.lineText (setup.statsBase ++ ".connectionmgr.connections") clock.now.toNat
          (r.standing closed + 1) [("host", setup.statsHost)] ++ rest⟩ := by
  let state := (r.front.connect none).1.state
  have size : state.registry.size = _ := size_connect described settled
  have small : state.registry.size < UInt64.size := by
    rw [size, ← size_of_settled described settled]
    exact Nat.lt_of_le_of_lt (Nat.succ_le_succ (size_le described.isOpen)) few
  obtain ⟨rest, body⟩ := exists_statsBody setup state clock.now small
  have answered : (dispatch setup clock state request ⟨r.registry.nextId, none⟩).response =
      _ := response_of_stats met quiet
  rw [body, size, ← described.setup] at answered
  exact ⟨rest, described.setup ▸ answered⟩

theorem journal_inProcess (met : Meets setup request (.command .shutdown)) (count : Nat) :
    .closingConnections count ∈ (r.front.serve clock request none).journal ↔
      closed = none ∧ count = r.standing closed + 1 := by
  let state := (r.front.connect none).1.state
  have size : state.registry.size = _ := size_connect described settled
  have closing : state.registry.closing = closed.isSome := described.closing
  have journal : (r.front.serve clock request none).journal =
      (dispatch setup clock state request ⟨r.registry.nextId, none⟩).journal := by
    rw [← described.setup]
    rfl
  rw [journal, closing_mem_iff met, closing, size]
  cases closed <;> simp

end

theorem balanced_run (setup : Setup) (flushes : List FlushOutcome) (events : List Event)
    (few : events.countP Event.opens + 1 < UInt64.size) :
    let start := Reception.start setup flushes
    Balanced setup events (start.run events) (start.atClosing events) := by
  intro start
  obtain ⟨sound, length⟩ := sound_run setup flushes events
  have described : Described setup (start.run events) (start.atClosing events)
      (start.cut events) := described_run setup flushes events (Nat.lt_of_succ_lt few)
  rw [Reception.cut] at described
  rw [countP_opens] at length few
  have short : (start.run events).registrations.length < UInt64.size :=
    length ▸ Nat.lt_of_succ_lt few
  exact {
    opened := by rw [sound.established, length, UInt64.toNat_ofNat_of_lt' (by omega)]
    numbered := length ▸ toNat_numbered sound short
    gone := fun visit mem isOwn returned =>
      notMem_of_own sound short described.isOpen mem isOwn returned
    connections := described.isOpen.connections
    settled := size_of_settled described
    told := fun settled request clock met quiet =>
      response_inProcess described settled request clock (length ▸ few) met quiet
    logged := fun settled request clock met =>
      journal_inProcess described settled request clock met }

/-- The front under any events. What is open is told as long as these open fewer registrations
than there are numbers. -/
theorem received_run (setup : Setup) (flushes : List FlushOutcome) (events : List Event) :
    let start := Reception.start setup flushes
    Received events (start.run events) ∧
      (events.countP Event.opens + 1 < UInt64.size →
        Balanced setup events (start.run events) (start.atClosing events)) := by
  intro start
  refine ⟨?_, balanced_run setup flushes events⟩
  obtain ⟨sound, length⟩ := sound_run setup flushes events
  rw [countP_opens] at length
  exact {
    opened := length ▸ sound.established
    numbered := length ▸ sound.numbered
    under := fun visit mem => by
      obtain ⟨registration, here, conn, -⟩ := sound.under visit mem
      exact ⟨registration, here, conn⟩
    carried := fun request clock _ _ here isUp => run_carried _ request clock sound here isUp
    inProcess := run_inProcess _ }

/-- A peer by its port. -/
def exPeer (port : UInt16) : Address := .v4 ⟨127, 0, 0, 1⟩ port

/-- A request that comes on no connection stops the daemon while another one is under way, and
its flush panics. A third connection is accepted later, and one of the first two ends. -/
def exEvents : List Event :=
  [.accept (exPeer 1), .accept (exPeer 2), .arrive (exGet "/version") (some 0),
    .arrive (exGet "/diediedie") none, .work 1 exClock, .accept (exPeer 3), .leave 1, .hangUp 1,
    .work 0 exClock, .leave 0]

theorem received_run_exEvents :
    let r := (Reception.start exTelling [.panics .unreadable]).run exEvents
    exEvents.countP Event.opens + 1 < UInt64.size ∧ r.isSettled = true ∧
      r.registry.established.toNat = 4 ∧ r.registry.connections = [⟨4, exPeer 3⟩] ∧
      ∃ rest, (r.front.serve exClock (exGet "/stats") none).response =
        ⟨200, some "text/plain; charset=UTF-8",
          "tsd.connectionmgr.connections 1700000001 2 host=h\n" ++ rest⟩ := by
  intro r
  have few : exEvents.countP Event.opens + 1 < UInt64.size := by decide
  have settled : r.isSettled = true := by decide +kernel
  have quiet : ∀ payload, .panic payload ∉ exTelling.textProtocol := by simp [exTelling]
  have met : Meets exTelling (exGet "/stats") (.command .stats) := by decide +kernel
  have balanced := (received_run exTelling [.panics .unreadable] exEvents).2 few
  have standing : r.standing ((Reception.start exTelling [.panics .unreadable]).atClosing
      exEvents) = 1 := by decide +kernel
  obtain ⟨rest, answered⟩ := balanced.told settled (exGet "/stats") exClock met quiet
  refine ⟨few, settled, balanced.opened, by decide +kernel, rest, answered.trans ?_⟩
  rw [standing]
  have line : Stats.lineText (exTelling.statsBase ++ ".connectionmgr.connections")
      exClock.now.toNat (1 + 1) [("host", exTelling.statsHost)] =
        "tsd.connectionmgr.connections 1700000001 2 host=h\n" := by decide +kernel
  rw [line]

end AdminPort
