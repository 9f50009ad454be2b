import CpuAlert.Proofs.Service.Refinement

/-!
# What is recorded

Whoever handles notifications sends each of them through the channels and then
has it recorded, with what became of it, before the next one. So at any time the
first of them are recorded, once each, and the others not at all; and when it is
over, all are recorded. A test is recorded once after its sends, and nobody else
records anything.

## Main definitions

* `drafts` — the events that were to be recorded
* `SoFar` — how far one list has come with another
* `Service.eventOf` — the event that a notification becomes
* `Service.Records` — what is done for notifications from beginning to end
* `Service.Handles` — how far somebody has come with them
* `Service.Tests` — what is done for a test

## Main results

* `Program.Leaves.bind_cases` — how far a program of two parts has come
* `Service.handles_of_leaves` — whoever handles notifications
* `Service.tests_of_leaves` — whoever sends a test
* `Watch.drafts_loop`, `Watch.IsSound.drafts_caller` — everybody else
-/

namespace CpuAlert

open Time (Instant)

/-! ## Programs of two parts -/

/-- One program after the other has come as far as into the first one, or the first
one has returned and the second one has begun. -/
theorem Program.Leaves.bind_cases {κ α β : Type} {p : Program α} {f : α → Program β}
    {hs : List (Happening κ)} {q : Program β} (h : (p.bind f).Leaves hs q) :
    (∃ e next, p.Leaves hs (.step e next) ∧ q = (Program.step e next).bind f) ∨
      ∃ a hs₁ hs₂, hs = hs₁ ++ hs₂ ∧ p.Leaves hs₁ (.pure a) ∧ (f a).Leaves hs₂ q := by
  induction p generalizing hs with
  | pure a => exact .inr ⟨a, [], hs, rfl, .refl _, h⟩
  | step e next ih =>
    rcases h.step_cases with ⟨rfl, rfl⟩ | ⟨i, r, hs', rfl, hrest⟩
    · exact .inl ⟨e, next, .refl _, rfl⟩
    · rcases ih r hrest with ⟨e', next', hfirst, rfl⟩ | ⟨a, hs₁, hs₂, rfl, hfirst, hsecond⟩
      · exact .inl ⟨e', next', .step hfirst, rfl⟩
      · exact .inr ⟨a, _, hs₂, rfl, .step hfirst, hsecond⟩

/-! ## Events -/

/-- The event that the store is asked to record, if it is asked that. -/
def Effect.draft? : Effect → Option Event.Draft
  | .ask (.append draft) => some draft
  | _ => none

/-- The effect records no event. -/
abbrev Effect.IsUnrecorded (e : Effect) : Prop := e.draft? = none

theorem Effect.allowsAttempts_isUnrecorded : AllowsAttempts IsUnrecorded :=
  ⟨fun _ => rfl, rfl⟩

/-- The events that were to be recorded, in order. -/
def drafts {κ : Type} (hs : List (Happening κ)) : List Event.Draft :=
  hs.filterMap (·.effect.draft?)

section

variable {κ : Type} {hs hs' : List (Happening κ)}

@[simp] theorem drafts_nil : drafts ([] : List (Happening κ)) = [] := rfl

@[simp] theorem drafts_append : drafts (hs ++ hs') = drafts hs ++ drafts hs' :=
  List.filterMap_append

@[simp] theorem drafts_cons_append (i : κ) (draft : Event.Draft) (answer) :
    drafts (⟨i, .ask (.append draft), answer⟩ :: hs) = draft :: drafts hs := rfl

/-- A program that records nothing has recorded nothing. -/
theorem Program.Leaves.drafts_eq_nil {α : Type} {p q : Program α} (h : p.Leaves hs q)
    (hp : p.Uses Effect.IsUnrecorded) : drafts hs = [] :=
  List.filterMap_eq_nil_iff.mpr (h.uses hp).1

end

/-- What a notification is about: the trigger, and the time of its snapshot. -/
def Pending.cause (p : Pending) : Trigger × Instant := (p.trigger, p.time)

/-- What an event is about. -/
def Event.Draft.cause (d : Event.Draft) : Trigger × Instant :=
  (⟨d.level, d.cpuPercent⟩, d.createdAt)

/-- The one is the beginning of the other, and when it is over, all of it. -/
def SoFar {α : Type} (xs ys : List α) (isOver : Prop) : Prop := xs <+: ys ∧ (isOver → xs = ys)

theorem SoFar.refl {α : Type} (xs : List α) (isOver : Prop) : SoFar xs xs isOver :=
  ⟨List.prefix_rfl, fun _ => rfl⟩

theorem SoFar.mono {α : Type} {xs ys : List α} {isOver isOver' : Prop} (h : SoFar xs ys isOver)
    (hover : isOver' → isOver) : SoFar xs ys isOver' :=
  ⟨h.1, fun h' => h.2 (hover h')⟩

namespace Service

variable {κ α β : Type} {s : Service} {p : Pending} {ps : List Pending} {hs : List (Happening κ)}

/-- What is sent for a notification. -/
def messageOf (s : Service) (p : Pending) : String :=
  alertMessage p.trigger.level s.hostname p.trigger.cpuPercent p.time

/-- A notification goes through the channels. -/
def notifying (s : Service) (p : Pending) : Program (List ChannelOutcome) :=
  Delivery.notify s.channels p.config p.credentials p.trigger.level (s.messageOf p)

/-- The event that a notification becomes, with what became of it in the
channels. -/
def eventOf (s : Service) (p : Pending) (channels : List ChannelOutcome) : Event.Draft where
  level := p.trigger.level
  message := s.messageOf p
  cpuPercent := p.trigger.cpuPercent
  channels := channels
  createdAt := p.time

@[simp] theorem cause_eventOf (s : Service) (p : Pending) (channels : List ChannelOutcome) :
    (s.eventOf p channels).cause = p.cause := rfl

theorem notifying_isUnrecorded (s : Service) (p : Pending) :
    (s.notifying p).Uses Effect.IsUnrecorded :=
  Delivery.through_uses Effect.allowsAttempts_isUnrecorded (fun _ _ => rfl) _

/-- Several notifications, one after the other. -/
theorem deliverAll_cons_bind (s : Service) (p : Pending) (ps : List Pending)
    (f : Unit → Program β) :
    (s.deliverAll (p :: ps)).bind f =
      (s.notifying p).bind fun channels =>
        .step (.ask (.append (s.eventOf p channels))) fun _ => (s.deliverAll ps).bind f := by
  show (((s.notifying p).bind fun channels =>
    .step (.ask (.append (s.eventOf p channels))) fun _ => .pure ()).bind
      fun _ => s.deliverAll ps).bind f = _
  rw [Program.bind_assoc', Program.bind_assoc']
  rfl

/-! ## Handling notifications -/

/-- What is done for some notifications, from beginning to end: each goes through
the channels, and then an event with what became of it is to be recorded. -/
inductive Records (s : Service) : List Pending → List (Happening κ) → Prop
  | nil : Records s [] []
  | cons {p : Pending} {ps : List Pending} {hs hs' : List (Happening κ)}
      {channels : List ChannelOutcome} {i : κ} {answer : Except StoreError Int}
      (first : (s.notifying p).Leaves hs (.pure channels)) (rest : Records s ps hs') :
    Records s (p :: ps) (hs ++ ⟨i, .ask (.append (s.eventOf p channels)), answer⟩ :: hs')

/-- For every notification there is one event, which is about the same. -/
theorem Records.map_cause (h : s.Records ps hs) :
    (CpuAlert.drafts hs).map (·.cause) = ps.map (·.cause) := by
  induction h with
  | nil => rfl
  | cons first rest ih =>
    rw [drafts_append, first.drafts_eq_nil (s.notifying_isUnrecorded _), drafts_cons_append,
      List.nil_append, List.map_cons, List.map_cons, ih, cause_eventOf]

/-- How far somebody has come with some notifications: the first of them are done,
and of the next one nothing is recorded yet. When it is over, all are done. -/
def Handles (s : Service) (ps : List Pending) (hs : List (Happening κ)) (isOver : Prop) : Prop :=
  ∃ done todo hs₁ hs₂, ps = done ++ todo ∧ hs = hs₁ ++ hs₂ ∧ s.Records done hs₁ ∧
    CpuAlert.drafts hs₂ = [] ∧ (isOver → todo = [] ∧ hs₂ = [])

theorem Handles.mono {isOver isOver' : Prop} (h : s.Handles ps hs isOver)
    (hover : isOver' → isOver) : s.Handles ps hs isOver' := by
  obtain ⟨done, todo, hs₁, hs₂, hps, hhs, hrecords, hnone, hend⟩ := h
  exact ⟨done, todo, hs₁, hs₂, hps, hhs, hrecords, hnone, fun h => hend (hover h)⟩

/-- Nothing is recorded yet. -/
theorem handles_of_drafts_eq_nil {isOver : Prop} (h : CpuAlert.drafts hs = [])
    (hover : ¬ isOver) : s.Handles ps hs isOver :=
  ⟨[], ps, [], hs, rfl, rfl, .nil, h, fun h => absurd h hover⟩

/-- Another notification before the others. -/
theorem Handles.cons {isOver : Prop} (h : s.Handles ps hs isOver) {hs' : List (Happening κ)}
    {channels : List ChannelOutcome} (hfirst : (s.notifying p).Leaves hs' (.pure channels)) (i : κ)
    (answer : Except StoreError Int) :
    s.Handles (p :: ps) (hs' ++ ⟨i, .ask (.append (s.eventOf p channels)), answer⟩ :: hs)
      isOver := by
  obtain ⟨done, todo, hs₁, hs₂, rfl, rfl, hrecords, hnone, hover⟩ := h
  have hrecords' : s.Records (p :: done)
      (hs' ++ ⟨i, .ask (.append (s.eventOf p channels)), answer⟩ :: hs₁) := hrecords.cons hfirst
  refine ⟨p :: done, todo, _, hs₂, rfl, ?_, hrecords', hnone, hover⟩
  rw [List.append_assoc, List.cons_append]

/-- Whoever handles notifications and then returns has come this far. -/
theorem handles_of_leaves {b : β} {q : Program β}
    (h : ((s.deliverAll ps).bind fun _ => .pure b).Leaves hs q) :
    s.Handles ps hs (∃ b', q = .pure b') := by
  induction ps generalizing hs with
  | nil =>
    obtain ⟨rfl, -⟩ := h.eq_of_pure
    exact ⟨[], [], [], [], rfl, rfl, .nil, rfl, fun _ => ⟨rfl, rfl⟩⟩
  | cons p ps ih =>
    rw [deliverAll_cons_bind] at h
    have hunder {e : Effect} {next : e.Reply → Program β} :
        ¬ ∃ b', Program.step e next = .pure b' := by
      rintro ⟨_, ⟨⟩⟩
    -- the first notification is still under way, or about to be recorded, or it is done
    rcases h.bind_cases with ⟨e, next, hfirst, rfl⟩ | ⟨channels, hs₁, hs₂, rfl, hfirst, hrest⟩
    · exact handles_of_drafts_eq_nil (hfirst.drafts_eq_nil (s.notifying_isUnrecorded p)) hunder
    · rcases hrest.step_cases with ⟨rfl, rfl⟩ | ⟨i, answer, hs', rfl, hothers⟩
      · rw [List.append_nil]
        exact handles_of_drafts_eq_nil (hfirst.drafts_eq_nil (s.notifying_isUnrecorded p)) hunder
      · exact (ih hothers).cons hfirst i answer

/-- What is recorded is about the first of the notifications, and when it is over,
about all of them. -/
theorem Handles.map_cause {isOver : Prop} (h : s.Handles ps hs isOver) :
    SoFar ((CpuAlert.drafts hs).map (·.cause)) (ps.map (·.cause)) isOver := by
  obtain ⟨done, todo, hs₁, hs₂, rfl, rfl, hrecords, hnone, hover⟩ := h
  rw [drafts_append, hnone, List.append_nil, hrecords.map_cause, List.map_append]
  refine ⟨List.prefix_append _ _, fun h => ?_⟩
  rw [(hover h).1, List.map_nil, List.append_nil]

/-! ## Tests -/

/-- The event of a test. -/
def testEvent (s : Service) (now : Instant) (channels : List ChannelOutcome) : Event.Draft where
  level := .test
  message := testMessage s.hostname now
  cpuPercent := 0
  channels := channels
  createdAt := now

/-- A test goes through the channels. -/
def testing (s : Service) (live : Live) (now : Instant) : Program (List ChannelOutcome) :=
  Delivery.notify s.channels live.config live.credentials .test (testMessage s.hostname now)

theorem testing_isUnrecorded (s : Service) (live : Live) (now : Instant) :
    (s.testing live now).Uses Effect.IsUnrecorded :=
  Delivery.through_uses Effect.allowsAttempts_isUnrecorded (fun _ _ => rfl) _

/-- What is done for a test, with its result: it is refused if both channels are
off; otherwise it goes through the channels, and then an event is to be
recorded. -/
inductive Tests (s : Service) : List (Happening κ) → Except ServiceError Event → Prop
  | refused {i : κ} {live : Live}
      (hoff : live.config.telegramEnabled = false ∧ live.config.emailEnabled = false) :
    Tests s [⟨i, .look, live⟩] (.error .channelsDisabled)
  | sent {i j k : κ} {live : Live} {now : Instant} {channels : List ChannelOutcome}
      {hs : List (Happening κ)} {answer : Except StoreError Int}
      (hon : live.config.telegramEnabled = true ∨ live.config.emailEnabled = true)
      (hsends : (s.testing live now).Leaves hs (.pure channels)) :
    Tests s (⟨i, .look, live⟩ :: ⟨j, .clock, now⟩ :: (hs ++
        [⟨k, .ask (.append (s.testEvent now channels)), answer⟩]))
      ((answer.mapError .persistence).map (s.testEvent now channels).numbered)

/-- One event is to be recorded for a test, or none. -/
theorem Tests.drafts_eq {r : Except ServiceError Event} (h : s.Tests hs r) :
    CpuAlert.drafts hs = [] ∨ ∃ now channels, CpuAlert.drafts hs = [s.testEvent now channels] := by
  cases h with
  | refused => exact .inl rfl
  | @sent _ _ k _ now channels hs answer _ hsends =>
    refine .inr ⟨now, channels, ?_⟩
    show CpuAlert.drafts (hs ++ [⟨k, .ask (.append (s.testEvent now channels)), answer⟩]) = _
    rw [drafts_append, hsends.drafts_eq_nil (s.testing_isUnrecorded _ _)]
    rfl

/-- A test as a tree of effects. -/
theorem sendTest_bind (s : Service) (f : Except ServiceError Event → Program β) :
    s.sendTest.bind f = .step .look fun live =>
      if live.config.telegramEnabled = false ∧ live.config.emailEnabled = false then
        f (.error .channelsDisabled)
      else .step .clock fun now => (s.testing live now).bind fun channels =>
        .step (.ask (.append (s.testEvent now channels))) fun answer =>
          f ((answer.mapError .persistence).map (s.testEvent now channels).numbered) := by
  refine congrArg (Program.step _) (funext fun live => ?_)
  by_cases hoff : live.config.telegramEnabled = false ∧ live.config.emailEnabled = false
  · have hoff' : ¬ live.config.telegramEnabled = true ∧ ¬ live.config.emailEnabled = true := by
      simpa using hoff
    simp only [Program.pure_bind', if_pos hoff, if_pos hoff']
    rfl
  · have hon' : ¬ (¬ live.config.telegramEnabled = true ∧ ¬ live.config.emailEnabled = true) := by
      simpa using hoff
    simp only [Program.pure_bind', if_neg hoff, if_neg hon']
    refine congrArg (Program.step _) (funext fun now => ?_)
    show ((s.testing live now).bind _).bind f = _
    rw [Program.bind_assoc']
    refine congrArg (Program.bind _) (funext fun channels => ?_)
    refine congrArg (Program.step _) (funext fun answer => ?_)
    cases answer <;> rfl

/-- Whoever sends a test has recorded nothing yet, or has returned and done what is
done for a test. -/
theorem tests_of_leaves {f : Except ServiceError Event → β} {q : Program β}
    (h : (s.sendTest.bind fun r => .pure (f r)).Leaves hs q) :
    (CpuAlert.drafts hs = [] ∧ ¬ ∃ b, q = .pure b) ∨ ∃ r, s.Tests hs r ∧ q = .pure (f r) := by
  have hunder {e : Effect} {next : e.Reply → Program β} :
      ¬ ∃ b, Program.step e next = .pure b := by
    rintro ⟨_, ⟨⟩⟩
  rw [sendTest_bind] at h
  rcases h.step_cases with ⟨rfl, rfl⟩ | ⟨i, live, hs', rfl, hlooked⟩
  · exact .inl ⟨rfl, hunder⟩
  split at hlooked
  · rename_i hoff
    obtain ⟨rfl, rfl⟩ := hlooked.eq_of_pure
    exact .inr ⟨_, .refused hoff, rfl⟩
  rename_i hon
  rcases hlooked.step_cases with ⟨rfl, rfl⟩ | ⟨j, now, hs', rfl, htimed⟩
  · exact .inl ⟨rfl, hunder⟩
  -- the refusal is over with the look; past it, the record is the last effect
  rcases htimed.bind_cases with ⟨e, next, hsends, rfl⟩ | ⟨channels, hs₁, hs₂, rfl, hsends, hrest⟩
  · exact .inl ⟨hsends.drafts_eq_nil (s.testing_isUnrecorded live now), hunder⟩
  have hnone : CpuAlert.drafts hs₁ = [] := hsends.drafts_eq_nil (s.testing_isUnrecorded live now)
  rcases hrest.step_cases with ⟨rfl, rfl⟩ | ⟨k, answer, hs', rfl, hdone⟩
  · rw [List.append_nil]
    exact .inl ⟨hnone, hunder⟩
  · obtain ⟨rfl, rfl⟩ := hdone.eq_of_pure
    have hon' : live.config.telegramEnabled = true ∨ live.config.emailEnabled = true := by
      rw [not_and_or] at hon
      simpa using hon
    exact .inr ⟨_, .sent hon' hsends, rfl⟩

end Service

/-! ## Everybody in a watch -/

theorem Effect.allowsOthers_isUnrecorded : AllowsOthers IsUnrecorded where
  acquire := rfl
  release := rfl
  look := rfl
  clock := rfl
  draw := rfl
  commit _ _ _ := rfl
  mute _ := rfl
  write c hc := by
    cases c with
    | append draft => exact hc.elim
    | _ => rfl
  claimCleanup _ := rfl
  endCleanup := rfl
  list _ := rfl
  deleteBefore _ := rfl
  health := rfl

/-- Whoever has nothing left but a result has returned. -/
theorem Running.rest_eq_pure_iff {α : Type} {r : Running α} {a : α} :
    r.rest = .pure a ↔ r = .ready (.pure a) := by
  cases r with
  | ready p => simp [Running.rest]
  | waiting => simp [Running.rest]

namespace Watch

variable {ι : Type} [DecidableEq ι] {s : Service} {operations : ι → Operation} {l : Live}
  {taken : List Snapshot} {t t' : Watch ι} {i : ι}

/-- What every move preserves holds after every play. -/
theorem play_induction (inv : Watch ι → Prop)
    (hchoose : ∀ {t : Watch ι} {u}, inv t → t.toSession.Steps u → inv { t with toSession := u })
    (htake : ∀ {t : Watch ι} snapshot, inv t → inv (t.took s snapshot))
    (hsweep : ∀ {t : Watch ι}, inv t → inv (t.swept s)) {ms : List (Move ι)} (h : inv t)
    (hplay : t.play s ms = some t') : inv t' := by
  induction ms generalizing t with
  | nil => exact Option.some.inj hplay ▸ h
  | cons m ms ih =>
    obtain ⟨u, hu, hrest⟩ := Option.bind_eq_some_iff.mp hplay
    refine ih ?_ hrest
    cases m with
    | choose c =>
      obtain ⟨v, hv, rfl⟩ := Option.map_eq_some_iff.mp hu
      exact hchoose h (Session.steps_of_step hv)
    | take snapshot =>
      simp only [Watch.step] at hu
      split at hu
      · exact Option.some.inj hu ▸ htake snapshot h
      · cases hu
    | cleanUp =>
      simp only [Watch.step] at hu
      split at hu
      · exact Option.some.inj hu ▸ hsweep h
      · cases hu

/-- The loop itself records nothing. -/
theorem drafts_loop {w : World} {ms : List (Move ι)}
    (hplay : (start s operations w).play s ms = some t) : drafts (t.deeds .loop) = [] := by
  -- what is left to the loop belongs to a cleanup
  refine (play_induction (t := start s operations w)
    (fun t => drafts (t.deeds .loop) = [] ∧ (t.running .loop).rest.Uses Effect.IsUnrecorded)
    (fun {t u} h hstep => ?_) (fun {t} snapshot h => ⟨?_, h.2⟩) (fun {t} h => ⟨h.1, ?_⟩)
    ⟨rfl, trivial⟩ hplay).1
  · obtain ⟨hs, hdeeds, hleaves⟩ := hstep.leaves .loop
    refine ⟨?_, (hleaves.uses h.2).2⟩
    show drafts (u.deeds .loop) = []
    rw [hdeeds, drafts_append, h.1, hleaves.drafts_eq_nil h.2, List.append_nil]
  · rw [deeds_took_loop, drafts_append, h.1]
    rfl
  · rw [running_swept, Function.update_self]
    exact .bind (Service.cleanup_uses (fun _ => rfl) rfl rfl fun _ => rfl) fun _ => trivial

/-- A delivery handles a single notification. -/
theorem delivering_eq_deliverAll (s : Service) (p : Pending) :
    delivering s (some p) = (s.deliverAll [p]).bind fun _ => .pure none := by
  have hone : s.deliverAll [p] = s.deliver p := Program.bind_pure' _
  rw [hone]
  rfl

/-- A delivery handles its notification. -/
theorem IsSound.handles_delivery (h : t.IsSound s operations l taken) {n : Nat} {p : Pending}
    (hp : t.begun[n]? = some p) :
    s.Handles [p] (t.deeds (.delivery n)) (t.HasReturned (.delivery n) none) := by
  have hfollows := h.deliveries n
  rw [hp, delivering_eq_deliverAll] at hfollows
  exact (Service.handles_of_leaves hfollows).mono fun hreturned =>
    ⟨none, Running.rest_eq_pure_iff.mpr hreturned⟩

/-- Whoever asked for an evaluation has done nothing yet, or handles what came out
of it. -/
theorem IsSound.handles_caller (h : t.IsSound s operations l taken) (f : InForce)
    {snapshot : Snapshot} (hi : operations i = .observe snapshot) :
    t.deeds (.caller i) = [] ∨
    ∃ e hs, t.evaluationsBy f (.caller i) = [e] ∧ e.snapshot = snapshot ∧
      t.deeds (.caller i) = ⟨.caller i, .evaluate snapshot, e.pending⟩ :: hs ∧
      s.Handles e.pending hs (∃ r, t.HasReturned (.caller i) r) := by
  rcases h.answered hi with ⟨hnone, -⟩ | ⟨pending, hs, hdeeds, hleaves⟩
  · exact .inl hnone
  · obtain ⟨e, he, hsnapshot, rfl⟩ := evaluationsBy_caller hdeeds hleaves f
    refine .inr ⟨e, hs, he, hsnapshot, hdeeds, (Service.handles_of_leaves hleaves).mono ?_⟩
    rintro ⟨r, hreturned⟩
    exact ⟨r, Running.rest_eq_pure_iff.mpr hreturned⟩

/-- Whoever asked for a test has recorded nothing yet, or has got the result. -/
theorem IsSound.tests_caller (h : t.IsSound s operations l taken) (hi : operations i = .sendTest) :
    (drafts (t.deeds (.caller i)) = [] ∧ ¬ ∃ r, t.HasReturned (.caller i) r) ∨
    ∃ r, s.Tests (t.deeds (.caller i)) r ∧ t.HasReturned (.caller i) (some (.sendTest r)) := by
  have hfollows := h.calls i
  have hcalling : calling s .sendTest =
      s.sendTest.bind fun r => .pure (some (.sendTest r)) := Program.bind_assoc' ..
  rw [hi, hcalling] at hfollows
  rcases Service.tests_of_leaves hfollows with ⟨hnone, hrest⟩ | ⟨r, htests, hrest⟩
  · refine .inl ⟨hnone, ?_⟩
    rintro ⟨r, hreturned⟩
    exact hrest ⟨r, Running.rest_eq_pure_iff.mpr hreturned⟩
  · exact .inr ⟨r, htests, Running.rest_eq_pure_iff.mp hrest⟩

/-- Any other caller records nothing. -/
theorem IsSound.drafts_caller (h : t.IsSound s operations l taken)
    (hobserve : ∀ snapshot, operations i ≠ .observe snapshot) (htest : operations i ≠ .sendTest) :
    drafts (t.deeds (.caller i)) = [] :=
  (h.calls i).drafts_eq_nil (.bind
    (Operation.others_use Effect.allowsOthers_isUnrecorded s hobserve htest) fun _ => trivial)

end Watch

end CpuAlert
