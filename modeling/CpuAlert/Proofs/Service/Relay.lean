import CpuAlert.Api.Stream
import CpuAlert.Proofs.Service.Refinement
import Mathlib.Data.List.Nodup

/-!
# What the stream tells of a snapshot

The service's loop and the task that sends to a client are two receivers of one
broadcast, and nothing orders them. The task receives a snapshot, looks at the
status, and sends both as one message. By then the loop may not have come to this
snapshot, or it may already be further. So a message has the status as of the last
snapshot that had been evaluated when the task looked, and it is the status of its
own snapshot exactly if that was this one.

A receiver that falls behind what the broadcast holds goes on with the oldest
snapshot that is left. Callers may do anything beside the two but evaluate
snapshots themselves.

## Main definitions

* `Relay` — a watch in which the loop and a client receive the same broadcast
* `Relay.step`, `Relay.play` — one move, and several
* `Relay.IsSound` — everybody goes by the book

## Main results

* `Relay.IsSound.step` — every move leaves a relay sound
* `Relay.message_as_of` — which status a message has
-/

namespace CpuAlert

open CpuAlert.Stream (messageOf)
open Time (Instant)

/-! ## Messages -/

namespace Relay

variable {ι : Type} {l : Live} {past past' : List (Happening (Actor ι))} {readOnly : Bool}
  {snapshot : Snapshot}

/-- The message has the status as of some moment. -/
def Tells (l : Live) (past : List (Happening (Actor ι))) (readOnly : Bool) (snapshot : Snapshot)
    (message : Json.Value) : Prop :=
  ∃ before now, before <+: past ∧
    message = messageOf snapshot ((l.replay before).status.seenAt now readOnly)

/-- What is left to do for a message: everything, or the task has looked at some
moment and then reads the clock, or it has the message. -/
inductive Prepares (l : Live) (past : List (Happening (Actor ι))) (readOnly : Bool)
    (snapshot : Snapshot) : Program Json.Value → Prop
  | begins : Prepares l past readOnly snapshot (Stream.message readOnly snapshot)
  | looked (before : List (Happening (Actor ι))) (h : before <+: past) :
    Prepares l past readOnly snapshot (.step .clock fun now =>
      .pure (messageOf snapshot ((l.replay before).status.seenAt now readOnly)))
  | ready (message : Json.Value) (h : Tells l past readOnly snapshot message) :
    Prepares l past readOnly snapshot (.pure message)

theorem Tells.mono {message : Json.Value} (h : Tells l past readOnly snapshot message)
    (hpast : past <+: past') : Tells l past' readOnly snapshot message := by
  obtain ⟨before, now, hbefore, hmessage⟩ := h
  exact ⟨before, now, hbefore.trans hpast, hmessage⟩

/-- What a message tells, of a service that has been started: the status as of a
moment, with the time of the last snapshot that had been evaluated and the level
that an evaluator of its own comes to. -/
theorem Tells.status {message : Json.Value} (h : Tells l past readOnly snapshot message)
    (hexplains : l.Explains past) (hshown : l.IsShown) (hfresh : l.evaluator = .fresh)
    (hnever : l.status.lastEvaluatedAt = none) :
    ∃ before status, before <+: past ∧ message = messageOf snapshot status ∧
      status.lastEvaluatedAt =
        (evaluations l.inForce before).getLast?.map (·.snapshot.time) ∧
      status.Shows ((evaluations l.inForce before).map (·.sample)) := by
  obtain ⟨before, now, hbefore, hmessage⟩ := h
  obtain ⟨later, hlater⟩ := hbefore
  have hexplains' : l.Explains before := (Live.explains_append.mp (hlater ▸ hexplains)).1
  refine ⟨before, _, ⟨later, hlater⟩, hmessage, ?_, ?_⟩
  · exact (l.lastEvaluatedAt_replay before).trans (by rw [hnever, Option.or_none])
  · exact (Live.shows_replay hshown hfresh hexplains').seenAt now readOnly

theorem Prepares.mono {p : Program Json.Value} (h : Prepares l past readOnly snapshot p)
    (hpast : past <+: past') : Prepares l past' readOnly snapshot p := by
  cases h with
  | begins => exact .begins
  | looked before h => exact .looked before (h.trans hpast)
  | ready message h => exact .ready message (h.mono hpast)

/-- What is sent for a snapshot, as a tree of effects. -/
theorem message_eq (readOnly : Bool) (snapshot : Snapshot) :
    Stream.message readOnly snapshot = .step .look fun live => .step .clock fun now =>
      .pure (messageOf snapshot (live.status.seenAt now readOnly)) :=
  rfl

/-- The task only looks around, and what it sees is the status at this moment. -/
theorem Prepares.begin {e : Effect} {next : e.Reply → Program Json.Value}
    (h : Prepares l past readOnly snapshot (.step e next)) {w : World}
    (hlive : w.live = l.replay past) :
    ∃ reply, w.begin e = (.done reply, w) ∧ Prepares l past readOnly snapshot (next reply) := by
  generalize hp : Program.step e next = p at h
  cases h with
  | begins =>
    rw [message_eq] at hp
    cases hp
    exact ⟨w.live, rfl, hlive ▸ .looked past List.prefix_rfl⟩
  | looked before hbefore =>
    cases hp
    exact ⟨w.wall, rfl, .ready _ ⟨before, w.wall, hbefore, rfl⟩⟩
  | ready message => cases hp

end Relay

/-! ## A broadcast with two receivers -/

/-- What a receiver gets next of what has been published, and where it goes on, if
the broadcast holds so many snapshots: from what is lost, with the oldest that is
left. -/
def Relay.next? (held : Nat) (published : List Snapshot) (place : Nat) :
    Option (Snapshot × Nat) :=
  let place := max place (published.length - held)
  published[place]?.map fun snapshot => (snapshot, place + 1)

/-- A watch in which the loop and a client receive the same broadcast: what has been
published, how far the two are, what the client's task is about to send, and what it
has sent. -/
structure Relay (ι : Type) where
  watch : Watch ι
  published : List Snapshot := []
  loopPlace : Nat := 0
  clientPlace : Nat := 0
  sending : Option (Snapshot × Program Json.Value) := none
  sent : List (Snapshot × Json.Value) := []

namespace Relay

/-- What can happen. -/
inductive Move (ι : Type)
  /-- A snapshot is published. -/
  | publish (snapshot : Snapshot)
  /-- The loop receives a snapshot and evaluates it. -/
  | take
  /-- The client's task receives a snapshot. -/
  | receive
  /-- The client's task goes on with its message, and sends it in the end. -/
  | advance
  /-- Something as in every session. -/
  | choose (c : Choice (Actor ι))
  /-- The loop turns to its cleanup. -/
  | cleanUp

variable {ι : Type} [DecidableEq ι]

/-- Nothing has been published. -/
def start (s : Service) (operations : ι → Operation) (w : World) : Relay ι where
  watch := .start s operations w

/-- One move, if it can be made. -/
def step (s : Service) (held : Nat) (readOnly : Bool) (r : Relay ι) :
    Move ι → Option (Relay ι)
  | .publish snapshot => some { r with published := r.published ++ [snapshot] }
  | .take => do
    let (snapshot, loopPlace) ← next? held r.published r.loopPlace
    let watch ← r.watch.step s (.take snapshot)
    return { r with watch, loopPlace }
  | .receive => do
    if r.sending.isSome then none
    let (snapshot, clientPlace) ← next? held r.published r.clientPlace
    return { r with clientPlace, sending := some (snapshot, Stream.message readOnly snapshot) }
  | .advance =>
    match r.sending with
    | none => none
    | some (snapshot, .pure message) =>
      some { r with sending := none, sent := r.sent ++ [(snapshot, message)] }
    | some (snapshot, .step e next) =>
      match r.watch.world.begin e with
      | (.done reply, world) =>
        some { r with
          watch := { r.watch with world }
          sending := some (snapshot, next reply) }
      | (.waiting _ _ _, _) => none
  | .choose c => (r.watch.step s (.choose c)).map fun watch => { r with watch }
  | .cleanUp => (r.watch.step s .cleanUp).map fun watch => { r with watch }

/-- Several moves, one after the other. -/
def play (s : Service) (held : Nat) (readOnly : Bool) :
    List (Move ι) → Relay ι → Option (Relay ι)
  | [], r => some r
  | m :: ms, r => (r.step s held readOnly m).bind (play s held readOnly ms)

/-! ## What is true of a relay at any time -/

/-- What is received comes after what has been received. -/
theorem sublist_next {got published : List Snapshot} {held place place' : Nat}
    {snapshot : Snapshot} (hgot : got.Sublist (published.take place))
    (hnext : next? held published place = some (snapshot, place')) :
    (got ++ [snapshot]).Sublist (published.take place') := by
  simp only [next?] at hnext
  obtain ⟨x, hx, heq⟩ := Option.map_eq_some_iff.mp hnext
  obtain ⟨rfl, rfl⟩ := Prod.mk.inj heq
  -- it goes on where it was, or further on if snapshots are lost
  rw [List.take_add_one, hx, Option.toList_some]
  refine .append (hgot.trans ?_) (.refl _)
  exact (List.take_prefix_take_left (Nat.le_max_left ..)).sublist

/-- Everybody goes by the book: the watch is sound, the loop and the client receive
what has been published in order, and every message has the status as of some
moment. -/
structure IsSound (s : Service) (operations : ι → Operation) (l : Live) (readOnly : Bool)
    (r : Relay ι) : Prop where
  watch : ∃ taken, r.watch.IsSound s operations l taken ∧
    taken.Sublist (r.published.take r.loopPlace)
  received : (r.sent.map Prod.fst ++ (r.sending.map Prod.fst).toList).Sublist
    (r.published.take r.clientPlace)
  sending : ∀ x ∈ r.sending, Prepares l r.watch.past readOnly x.1 x.2
  sent : ∀ x ∈ r.sent, Tells l r.watch.past readOnly x.1 x.2

section

variable {s : Service} {operations : ι → Operation} {l : Live} {held : Nat} {readOnly : Bool}
  {r r' : Relay ι}

theorem isSound_start (s : Service) (operations : ι → Operation) (w : World) (readOnly : Bool) :
    (start s operations w).IsSound s operations w.live readOnly where
  watch := ⟨[], Watch.isSound_start s operations w, List.nil_sublist _⟩
  received := List.nil_sublist _
  sending := fun x hx => by cases hx
  sent := fun x hx => by cases hx

theorem IsSound.publish (h : r.IsSound s operations l readOnly) (snapshot : Snapshot) :
    { r with published := r.published ++ [snapshot] }.IsSound s operations l readOnly := by
  obtain ⟨taken, hwatch, htaken⟩ := h.watch
  have hlonger (n : Nat) : (r.published.take n).Sublist ((r.published ++ [snapshot]).take n) := by
    rw [List.take_append]
    exact List.sublist_append_left ..
  exact {
    watch := ⟨taken, hwatch, htaken.trans (hlonger _)⟩
    received := h.received.trans (hlonger _)
    sending := h.sending
    sent := h.sent }

/-- A move of the watch leaves the relay sound if the loop is where it takes the next
snapshot from. -/
theorem IsSound.ofWatch (h : r.IsSound s operations l readOnly) {m : CpuAlert.Move ι}
    {watch : Watch ι} {loopPlace : Nat} (hstep : r.watch.step s m = some watch)
    (hplace : ∀ taken : List Snapshot, taken.Sublist (r.published.take r.loopPlace) →
      (taken ++ CpuAlert.Move.taken [m]).Sublist (r.published.take loopPlace)) :
    { r with watch, loopPlace }.IsSound s operations l readOnly := by
  obtain ⟨taken, hwatch, htaken⟩ := h.watch
  -- what is told of the past stays true of a longer one
  have hpast := Watch.past_prefix_of_step hstep
  exact {
    watch := ⟨_, hwatch.step hstep, hplace taken htaken⟩
    received := h.received
    sending := fun x hx => (h.sending x hx).mono hpast
    sent := fun x hx => (h.sent x hx).mono hpast }

theorem IsSound.receive (h : r.IsSound s operations l readOnly) (hidle : r.sending = none)
    {snapshot : Snapshot} {clientPlace : Nat}
    (hnext : next? held r.published r.clientPlace = some (snapshot, clientPlace)) :
    { r with clientPlace, sending := some (snapshot, Stream.message readOnly snapshot) }.IsSound
      s operations l readOnly := by
  have hreceived := h.received
  rw [hidle, Option.map_none, Option.toList_none, List.append_nil] at hreceived
  refine ⟨h.watch, sublist_next hreceived hnext, ?_, h.sent⟩
  rintro x ⟨⟩
  exact .begins

/-- The task has its message, and sends it. -/
theorem IsSound.send (h : r.IsSound s operations l readOnly) {snapshot : Snapshot}
    {message : Json.Value} (hready : r.sending = some (snapshot, .pure message)) :
    { r with sending := none, sent := r.sent ++ [(snapshot, message)] }.IsSound
      s operations l readOnly := by
  have hreceived := h.received
  rw [hready] at hreceived
  refine ⟨h.watch, ?_, ?_, fun x hx => ?_⟩
  · rw [List.map_append, List.append_assoc]
    exact hreceived
  · rintro x ⟨⟩
  · rcases List.mem_append.mp hx with hx | hx
    · exact h.sent x hx
    · cases List.mem_singleton.mp hx
      cases h.sending _ hready with
      | ready message htells => exact htells

/-- The task has still to look around, and changes nothing by it. -/
theorem IsSound.look (h : r.IsSound s operations l readOnly) {snapshot : Snapshot} {e : Effect}
    {next : e.Reply → Program Json.Value} (hbusy : r.sending = some (snapshot, .step e next)) :
    ∃ reply, r.watch.world.begin e = (.done reply, r.watch.world) ∧
      { r with sending := some (snapshot, next reply) }.IsSound s operations l readOnly := by
  obtain ⟨taken, hwatch, htaken⟩ := h.watch
  obtain ⟨reply, hbegin, hnext⟩ := (h.sending _ hbusy).begin hwatch.isReplay.live
  have hreceived := h.received
  rw [hbusy] at hreceived
  refine ⟨reply, hbegin, ⟨taken, hwatch, htaken⟩, hreceived, ?_, h.sent⟩
  rintro x ⟨⟩
  exact hnext

/-- Every move leaves a relay sound. -/
theorem IsSound.step (h : r.IsSound s operations l readOnly) {m : Move ι}
    (hstep : r.step s held readOnly m = some r') : r'.IsSound s operations l readOnly := by
  have hsame (taken : List Snapshot) (htaken : taken.Sublist (r.published.take r.loopPlace)) :
      (taken ++ []).Sublist (r.published.take r.loopPlace) := by
    rwa [List.append_nil]
  cases m with
  | publish snapshot => exact Option.some.inj hstep ▸ h.publish snapshot
  | take =>
    obtain ⟨⟨snapshot, loopPlace⟩, hnext, hrest⟩ := Option.bind_eq_some_iff.mp hstep
    obtain ⟨watch, htake, hdone⟩ := Option.bind_eq_some_iff.mp hrest
    obtain rfl := Option.some.inj hdone
    exact h.ofWatch htake fun taken htaken => sublist_next htaken hnext
  | receive =>
    simp only [Relay.step] at hstep
    split at hstep
    · cases hstep
    · rename_i hidle
      obtain ⟨⟨snapshot, clientPlace⟩, hnext, hdone⟩ := Option.bind_eq_some_iff.mp hstep
      obtain rfl := Option.some.inj hdone
      exact h.receive (Option.not_isSome_iff_eq_none.mp hidle) hnext
  | advance =>
    simp only [Relay.step] at hstep
    split at hstep
    · cases hstep
    · rename_i hready
      exact Option.some.inj hstep ▸ h.send hready
    · rename_i hbusy
      obtain ⟨reply, hbegin, hlook⟩ := h.look hbusy
      rw [hbegin] at hstep
      exact Option.some.inj hstep ▸ hlook
  | choose c =>
    obtain ⟨watch, hwatch, rfl⟩ := Option.map_eq_some_iff.mp hstep
    exact h.ofWatch hwatch hsame
  | cleanUp =>
    obtain ⟨watch, hwatch, rfl⟩ := Option.map_eq_some_iff.mp hstep
    exact h.ofWatch hwatch hsame

/-- A relay is sound at any time. -/
theorem IsSound.play {ms : List (Move ι)} (h : r.IsSound s operations l readOnly)
    (hplay : r.play s held readOnly ms = some r') : r'.IsSound s operations l readOnly := by
  induction ms generalizing r with
  | nil => exact Option.some.inj hplay ▸ h
  | cons m ms ih =>
    obtain ⟨u, hu, hrest⟩ := Option.bind_eq_some_iff.mp hplay
    exact ih (h.step hu) hrest

/-- If callers evaluate nothing, what has been evaluated has been published. -/
theorem IsSound.mem_published (h : r.IsSound s operations l readOnly)
    (hothers : ∀ i snapshot, operations i ≠ .observe snapshot) {f : InForce}
    {before : List (Happening (Actor ι))} (hbefore : before <+: r.watch.past)
    {e : Evaluation (Actor ι)} (he : e ∈ evaluations f before) : e.snapshot ∈ r.published := by
  obtain ⟨taken, hwatch, htaken⟩ := h.watch
  obtain ⟨later, hlater⟩ := hbefore
  have hmem : e ∈ r.watch.evaluations f := by
    rw [Watch.evaluations, ← hlater, evaluations_append]
    exact List.mem_append_left _ he
  -- somebody has evaluated it, and that can only be the loop
  have hloop : e.actor = .loop := by
    rcases hwatch.actor hmem with hloop | ⟨i, -, hi⟩
    · exact hloop
    · exact absurd hi (hothers i _)
  have htakenBy : e.snapshot ∈ taken := by
    rw [← hwatch.evaluationsBy_loop f]
    exact List.mem_map_of_mem (List.mem_filter.mpr ⟨hmem, by simp [hloop]⟩)
  exact List.mem_of_mem_take (htaken.subset htakenBy)

/-- Let callers do anything beside the loop and the client but evaluate snapshots,
and let no two snapshots have the same time. The client is sent messages for
published snapshots, in order. Every message has the status as of some moment: it
tells the time of the last snapshot that had been evaluated, and the level after all
of them. So it has the status of its own snapshot exactly if this was the last one
evaluated by then. -/
theorem message_as_of (s : Service) (operations : ι → Operation) (held : Nat)
    (readOnly : Bool) {config : Config} {record : SealedCredentials} {deadline : Option Instant}
    {now : Instant} {w : World} (hlive : w.live = s.initial config record deadline now)
    (hothers : ∀ i snapshot, operations i ≠ .observe snapshot) {moves : List (Move ι)}
    {r : Relay ι} (hplay : (start s operations w).play s held readOnly moves = some r)
    (hdistinct : (r.published.map (·.time)).Nodup) :
    (r.sent.map Prod.fst).Sublist r.published ∧
    ∀ x ∈ r.sent, ∃ before status, before <+: r.watch.past ∧ x.2 = messageOf x.1 status ∧
      let es := evaluations w.live.inForce before
      (∀ e ∈ es, e.snapshot ∈ r.published) ∧
      status.lastEvaluatedAt = es.getLast?.map (·.snapshot.time) ∧
      status.Shows (es.map (·.sample)) ∧
      (status.lastEvaluatedAt = some x.1.time ↔ es.getLast?.map (·.snapshot) = some x.1) := by
  have h := (isSound_start s operations w readOnly).play hplay
  have hsent : (r.sent.map Prod.fst).Sublist r.published :=
    ((List.sublist_append_left ..).trans h.received).trans (List.take_sublist ..)
  refine ⟨hsent, fun x hx => ?_⟩
  obtain ⟨taken, hwatch, -⟩ := h.watch
  obtain ⟨before, status, hbefore, hmessage, htime, hshows⟩ :=
    (h.sent x hx).status hwatch.isReplay.explains (hlive ▸ ⟨rfl, rfl, rfl, rfl⟩) (hlive ▸ rfl)
      (hlive ▸ rfl)
  have hpublished (e) (he : e ∈ evaluations w.live.inForce before) :
      e.snapshot ∈ r.published := h.mem_published hothers hbefore he
  refine ⟨before, status, hbefore, hmessage, hpublished, htime, hshows, ?_⟩
  rw [htime]
  constructor
  · intro htold
    obtain ⟨e, he, hsame⟩ := Option.map_eq_some_iff.mp htold
    -- both have been published, and only one snapshot has this time
    have hx' : x.1 ∈ r.published := hsent.subset (List.mem_map_of_mem hx)
    have heq : e.snapshot = x.1 :=
      List.inj_on_of_nodup_map hdistinct (hpublished e (List.mem_of_getLast? he)) hx' hsame
    rw [he, Option.map_some, heq]
  · intro hlast
    obtain ⟨e, he, hsame⟩ := Option.map_eq_some_iff.mp hlast
    rw [he, Option.map_some, hsame]

end

/-! ## A message that comes too late -/

/-- A quiet processor, at the beginning. -/
def calmReading : Snapshot := ⟨.epoch, 10⟩

/-- A busy one, ten seconds later. -/
def busyReading : Snapshot := ⟨Watch.tenSeconds, 95⟩

/-- Both are published, and the loop evaluates both before the client's task looks
at the status for the first of them. -/
def lateLook : List (Move (Fin 0)) :=
  [.publish calmReading, .publish busyReading, .receive, .take, .take, .advance, .advance,
    .advance]

/-- A service without channels. -/
def bareService : Service := .ofOptions {}

/-- Its world when it has just been started with a configuration under which a busy
processor is critical at once. -/
def bareWorld : World :=
  { Delivery.quiet with live := bareService.initial { criticalWindow := 0 } {} none .epoch }

/-- The status once both have been evaluated. -/
def busyStatus : Status where
  currentState := .critical
  lastCpuPercent := 95
  lastEvaluatedAt := some busyReading.time
  lastCriticalAt := some busyReading.time

theorem play_lateLook :
    ((start bareService Fin.elim0 bareWorld).play bareService 2 false lateLook).map
        (fun r => (r.published, r.sent)) =
      some ([calmReading, busyReading], [(calmReading, messageOf calmReading busyStatus)]) :=
  rfl

/-- Whatever status makes the same message is critical and not of the calm reading. -/
theorem tells_of_messageOf_eq {status : Status}
    (h : messageOf calmReading status = messageOf calmReading busyStatus) :
    status.currentState = .critical ∧ status.lastEvaluatedAt.isSome ∧
      status.lastEvaluatedAt ≠ some calmReading.time := by
  simp only [messageOf, Status.toJson, Json.Value.object.injEq, List.cons.injEq, Prod.mk.injEq,
    true_and, and_true, List.append_assoc, List.cons_append, List.nil_append] at h
  obtain ⟨hlevel, -, htime, -⟩ := h
  have hname : status.currentState.name = Level.critical.name := Json.Value.text.inj hlevel
  refine ⟨?_, ?_, fun hcalm => ?_⟩
  · have hfound := congrArg Level.ofName? hname
    rw [Level.ofName?_name, Level.ofName?_name] at hfound
    exact Option.some.inj hfound
  · cases hnone : status.lastEvaluatedAt with
    | none =>
      rw [hnone] at htime
      cases htime
    | some t => rfl
  · rw [hcalm] at htime
    have hwritten : Time.Rfc3339.write .fewest .letter calmReading.time ≠
        Time.Rfc3339.write .fewest .letter busyReading.time := by decide +kernel
    exact hwritten (Json.Value.text.inj htime)

/-- The loop was ahead when the task looked: the message for the calm reading has the
status of the busy one. -/
theorem message_as_of_lateLook :
    ∃ r, (start bareService Fin.elim0 bareWorld).play bareService 2 false lateLook = some r ∧
      (r.published.map (·.time)).Nodup ∧ (r.sent.map Prod.fst).Sublist r.published ∧
      r.sent.map Prod.fst = [calmReading] ∧
      ∃ before, before <+: r.watch.past ∧
        (evaluations bareWorld.live.inForce before).getLast?.map (·.snapshot) =
          some busyReading := by
  obtain ⟨r, hplay, heq⟩ := Option.map_eq_some_iff.mp play_lateLook
  obtain ⟨hpublished, hsent⟩ := Prod.mk.inj heq
  have hdistinct : (r.published.map (·.time)).Nodup := by
    rw [hpublished]
    decide +kernel
  obtain ⟨hsublist, htells⟩ := message_as_of bareService Fin.elim0 2 false rfl (fun i => i.elim0)
    hplay hdistinct
  refine ⟨r, hplay, hdistinct, hsublist, by rw [hsent]; rfl, ?_⟩
  obtain ⟨before, status, hbefore, hmessage, hmem, htime, -, hown⟩ :=
    htells _ (hsent ▸ List.mem_singleton.mpr rfl)
  obtain ⟨-, hsome, hcalm⟩ := tells_of_messageOf_eq hmessage.symm
  refine ⟨before, hbefore, ?_⟩
  -- something has been evaluated, and it is not the calm reading
  rw [htime] at hsome
  obtain ⟨e, he⟩ := Option.isSome_iff_exists.mp (Option.isSome_map.symm.trans hsome)
  have hlast := hmem e (List.mem_of_getLast? he)
  rw [he] at hown ⊢
  rw [hpublished] at hlast
  rcases List.mem_cons.mp hlast with hfirst | hsecond
  · exact absurd (hown.mpr (congrArg some hfirst)) hcalm
  · exact congrArg some (List.mem_singleton.mp hsecond)

/-- So messages are not always with the status of their own snapshot: this one tells
neither its time nor the level after it, which is none. -/
theorem message_crossed :
    ∃ r, (start bareService Fin.elim0 bareWorld).play bareService 2 false lateLook = some r ∧
      (r.published.map (·.time)).Nodup ∧
      (bareWorld.live.evaluate calmReading).2.status.currentState = .none ∧
      ∃ x ∈ r.sent, x.1 = calmReading ∧ ∀ status, x.2 = messageOf x.1 status →
        status.lastEvaluatedAt ≠ some x.1.time ∧ status.currentState = .critical := by
  obtain ⟨r, hplay, heq⟩ := Option.map_eq_some_iff.mp play_lateLook
  obtain ⟨hpublished, hsent⟩ := Prod.mk.inj heq
  refine ⟨r, hplay, by rw [hpublished]; decide +kernel, rfl, _,
    hsent ▸ List.mem_singleton.mpr rfl, rfl, fun status hsame => ?_⟩
  obtain ⟨hlevel, -, hcalm⟩ := tells_of_messageOf_eq hsame.symm
  exact ⟨hcalm, hlevel⟩

end Relay

end CpuAlert
