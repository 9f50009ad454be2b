import Mathlib.Algebra.GroupWithZero.Nat
import CpuAlert.Proofs.Program.Run

/-!
# The attempts of one channel

As long as nothing cancels deliveries, how the attempts of a channel go depends
on nothing but how often it was tried: each of them is for the same message.
That is the script of the channel. The attempts end with the first one that
settles the matter, or when there are no delays left.

Attempts count from zero here, so a channel whose attempt `k` was the last one
was tried `k + 1` times.

## Main definitions

* `World.IsCalm` — nothing cancels deliveries
* `World.script` — how the attempts of a channel go
* `Delivery.notice` — what every channel is asked to deliver
* `Delivery.Settles` — the attempt that settles the matter
* `Delivery.onset` — when an attempt begins
* `Delivery.IsDelivered` — what has to be said of a message in one channel
* `Effect.AllowsAttempts` — what every attempt may do beside sending

## Main results

* `Delivery.run_tries` — the attempts of a channel in a calm world
* `Delivery.onset_add_duration` — how long they take together
* `Delivery.through_uses` — who is asked to send, and what
-/

namespace CpuAlert

/-- Nothing cancels deliveries in this world, neither now nor later. -/
structure World.IsCalm (w : World) : Prop where
  notCancelled : w.isCancelled = false
  nothingPlanned : w.planned = none

/-- How the attempts of a channel at its place go, one after the other, if it is
asked for the same message every time. -/
def World.script (w : World) (o : Notice) (c : Channel × Nat) (i : Nat) : Attempt :=
  c.1.attempt (w.sentBy c.2 ++ List.replicate i o) o

namespace Attempt

/-- How long the attempt takes, in milliseconds. -/
def duration (a : Attempt) : Nat := min a.lasts World.longestWait

/-- No other attempt follows: it was successful, or it was cancelled. -/
def IsFinal (a : Attempt) : Prop := a.outcome = .ok () ∨ a.outcome = .error .cancelled

end Attempt

/-! ## A calm world -/

namespace World

variable {w : World}

/-- What became of a world in which channels were asked to send, the oldest
first, and nothing else happened. -/
def later (w : World) (sends : List Sending) (uptime waits : Nat) : World :=
  { w with sent := sends.reverse ++ w.sent, uptime, waits }

theorem IsCalm.later (hw : w.IsCalm) (sends : List Sending) (uptime waits : Nat) :
    (w.later sends uptime waits).IsCalm :=
  ⟨hw.1, hw.2⟩

@[simp] theorem uptime_later (sends : List Sending) (uptime waits : Nat) :
    (w.later sends uptime waits).uptime = uptime := rfl

@[simp] theorem later_nil : w.later [] w.uptime w.waits = w := rfl

@[simp] theorem later_later (sends sends' : List Sending) (uptime uptime' waits waits' : Nat) :
    (w.later sends uptime waits).later sends' uptime' waits' =
      w.later (sends ++ sends') uptime' waits' := by
  simp only [later, List.reverse_append, List.append_assoc]

/-- What a place is asked to send later comes after what it was asked before. -/
theorem sentBy_later (sends : List Sending) (uptime waits place : Nat) :
    (w.later sends uptime waits).sentBy place =
      w.sentBy place ++ (sends.filter (·.place = place)).map (·.notice) := by
  simp only [sentBy, later, List.reverse_append, List.reverse_reverse, List.filter_append,
    List.map_append]

/-- What one place was asked to send does not concern the others. -/
theorem sentBy_later_of_ne {place : Nat} {sends : List Sending}
    (h : ∀ s ∈ sends, s.place ≠ place) (uptime waits : Nat) :
    (w.later sends uptime waits).sentBy place = w.sentBy place := by
  have hnone : sends.filter (·.place = place) = [] := by simpa using h
  rw [sentBy_later, hnone, List.map_nil, List.append_nil]

theorem script_later_of_ne {c : Channel × Nat} {sends : List Sending}
    (h : ∀ s ∈ sends, s.place ≠ c.2) (o : Notice) (uptime waits : Nat) :
    (w.later sends uptime waits).script o c = w.script o c :=
  funext fun i => by rw [script, sentBy_later_of_ne h, script]

theorem sentBy_later_singleton (place : Nat) (name : String) (o : Notice)
    (time uptime waits : Nat) :
    (w.later [⟨place, name, o, time⟩] uptime waits).sentBy place = w.sentBy place ++ [o] := by
  simp [sentBy_later]

/-- After one attempt the script goes on with the next. -/
theorem script_later_singleton (o : Notice) (c : Channel × Nat) (name : String)
    (time uptime waits i : Nat) :
    (w.later [⟨c.2, name, o, time⟩] uptime waits).script o c i = w.script o c (i + 1) := by
  simp only [script, sentBy_later_singleton, List.append_assoc, List.singleton_append,
    List.replicate_succ]

/-- An attempt takes its time and has its outcome. -/
theorem perform_send (hw : w.IsCalm) {o : Notice} {c : Channel × Nat}
    (hfires : (w.script o c 0).fires = false) :
    ∃ waits, w.perform (.send c.2 c.1 o) =
      ((w.script o c 0).outcome,
        w.later [⟨c.2, c.1.name, o, w.uptime⟩] (w.uptime + (w.script o c 0).duration) waits) := by
  have hscript : c.1.attempt (w.sentBy c.2) o = w.script o c 0 := by
    simp only [script, List.replicate_zero, List.append_nil]
  -- an attempt that takes no time is not waited for
  by_cases hlasts : (w.script o c 0).lasts = 0
  · refine ⟨w.waits, ?_⟩
    simp [perform, begin, hw.1, hscript, hlasts, finishSend, hfires, later, Attempt.duration]
  · refine ⟨w.waits + 1, ?_⟩
    simp [perform, begin, hw.1, hw.2, hscript, hlasts, finishSend, hfires, later, wait,
      Attempt.duration]

/-- A pause takes its time, unless it is too long for the clock. -/
theorem perform_pause (hw : w.IsCalm) {milliseconds : Nat} (h : milliseconds ≤ longestWait) :
    ∃ waits, w.perform (.pause milliseconds) =
      (false, w.later [] (w.uptime + milliseconds) waits) := by
  by_cases hzero : milliseconds = 0
  · refine ⟨w.waits, ?_⟩
    rw [hzero, Nat.add_zero, later_nil]
    simp [perform, begin, hw.1]
  · refine ⟨w.waits + 1, ?_⟩
    simp [perform, begin, hw.1, hw.2, hzero, later, wait, Nat.min_eq_left h]

@[simp] theorem perform_isCancelled : w.perform .isCancelled = (w.isCancelled, w) := rfl

end World

/-! ## One channel -/

namespace Delivery

/-- What every channel is asked to deliver. -/
def notice (config : Config) (credentials : Credentials) (level : Level) (message : String) :
    Notice :=
  ⟨config, credentials.trimmed, level, message⟩

/-- This one of the first attempts is successful or cancelled, and none before
it is. -/
structure Settles (σ : Nat → Attempt) (n k : Nat) : Prop where
  lt : k < n
  isFinal : (σ k).IsFinal
  before : ∀ i < k, ¬ (σ i).IsFinal

/-- When an attempt begins, in milliseconds after the first one: a delay after
the end of the one before it. -/
def onset (σ : Nat → Attempt) (delays : List Nat) : Nat → Nat
  | 0 => 0
  | i + 1 => onset σ delays i + (σ i).duration + delays.getD i 0 * millisPerSecond

/-- What a channel is asked to send in its first attempts from a time on. -/
def sendsOf (σ : Nat → Attempt) (delays : List Nat) (o : Notice) (c : Channel × Nat)
    (time attempts : Nat) : List Sending :=
  (List.range attempts).map fun i => ⟨c.2, c.1.name, o, time + onset σ delays i⟩

theorem place_of_mem_sendsOf {σ : Nat → Attempt} {delays : List Nat} {o : Notice}
    {c : Channel × Nat} {time attempts : Nat} {s : Sending}
    (h : s ∈ sendsOf σ delays o c time attempts) : s.place = c.2 := by
  obtain ⟨i, -, rfl⟩ := List.mem_map.mp h
  rfl

/-- What has to be said of a message in one channel with so many attempts at
most. -/
structure IsDelivered (σ : Nat → Attempt) (n : Nat) (r : ChannelOutcome) : Prop where
  attempts_of_settles : ∀ k, Settles σ n k → r.attempts = k + 1
  attempts_of_not_settles : (¬ ∃ k, Settles σ n k) → r.attempts = n
  success_iff : r.success = true ↔ ∃ k, Settles σ n k ∧ (σ k).outcome = .ok ()
  errorMessage_eq_none_iff : r.errorMessage = none ↔ r.success = true
  errorMessage_of_error :
    ∀ e, (σ (r.attempts - 1)).outcome = .error e → r.errorMessage = some e.message

/-- What became of a message whose last attempt had this outcome. -/
def concluded (name : String) (attempts : Nat) : Except SendError Unit → ChannelOutcome
  | .ok () => { channel := name, success := true, attempts }
  | .error e => failed name attempts e

@[simp] theorem channel_concluded (name : String) (attempts : Nat)
    (outcome : Except SendError Unit) : (concluded name attempts outcome).channel = name := by
  cases outcome <;> rfl

@[simp] theorem attempts_concluded (name : String) (attempts : Nat)
    (outcome : Except SendError Unit) : (concluded name attempts outcome).attempts = attempts := by
  cases outcome <;> rfl

/-- Attempts end here: with one that settles the matter, or for want of delays. -/
structure IsLast (σ : Nat → Attempt) (n k : Nat) : Prop where
  lt : k < n
  before : ∀ i < k, ¬ (σ i).IsFinal
  isFinal_or : (σ k).IsFinal ∨ k + 1 = n

variable {σ : Nat → Attempt} {n k : Nat}

/-- If the last attempt is final it settles the matter, and otherwise nothing does. -/
theorem IsLast.settles_iff (h : IsLast σ n k) {j : Nat} :
    Settles σ n j ↔ j = k ∧ (σ k).IsFinal := by
  constructor
  · intro hj
    -- before the last attempt none is final, and after it there is none
    rcases Nat.lt_trichotomy j k with hlt | rfl | hgt
    · exact absurd hj.isFinal (h.before j hlt)
    · exact ⟨rfl, hj.isFinal⟩
    · rcases h.isFinal_or with hfinal | hn
      · exact absurd hfinal (hj.before k hgt)
      · exact absurd hj.lt (by omega)
  · rintro ⟨rfl, hfinal⟩
    exact ⟨h.lt, hfinal, h.before⟩

theorem IsLast.isDelivered (h : IsLast σ n k) (name : String) :
    IsDelivered σ n (concluded name (k + 1) (σ k).outcome) where
  attempts_of_settles j hj := by rw [attempts_concluded, (h.settles_iff.mp hj).1]
  attempts_of_not_settles hnone := by
    rw [attempts_concluded]
    exact h.isFinal_or.resolve_left fun hfinal => hnone ⟨k, h.settles_iff.mpr ⟨rfl, hfinal⟩⟩
  success_iff := by
    have hok : (∃ j, Settles σ n j ∧ (σ j).outcome = .ok ()) ↔ (σ k).outcome = .ok () := by
      constructor
      · rintro ⟨j, hj, hout⟩
        rwa [(h.settles_iff.mp hj).1] at hout
      · exact fun hout => ⟨k, h.settles_iff.mpr ⟨rfl, .inl hout⟩, hout⟩
    rw [hok]
    cases (σ k).outcome <;> simp [concluded, failed]
  errorMessage_eq_none_iff := by cases (σ k).outcome <;> simp [concluded, failed]
  errorMessage_of_error e he := by
    rw [attempts_concluded, Nat.add_sub_cancel] at he
    rw [he]
    rfl

/-- After the first attempt, the rest is the same law for the rest of the script. -/
theorem IsLast.succ (hfirst : ¬ (σ 0).IsFinal) (h : IsLast (fun i => σ (i + 1)) n k) :
    IsLast σ (n + 1) (k + 1) where
  lt := Nat.succ_lt_succ h.lt
  before
    | 0, _ => hfirst
    | i + 1, hi => h.before i (Nat.lt_of_succ_lt_succ hi)
  isFinal_or := h.isFinal_or.imp_right (congrArg Nat.succ)

/-- When an attempt begins, seen from the end of the first pause. -/
theorem onset_cons_succ (delay : Nat) (delays : List Nat) (i : Nat) :
    onset σ (delay :: delays) (i + 1) =
      (σ 0).duration + delay * millisPerSecond + onset (fun j => σ (j + 1)) delays i := by
  induction i with
  | zero => simp [onset]
  | succ i ih =>
    rw [onset, ih, onset, List.getD_cons_succ]
    omega

/-- All that a channel takes up to the end of an attempt: the attempts and the
delays between them. -/
theorem onset_add_duration (delays : List Nat) (k : Nat) :
    onset σ delays k + (σ k).duration =
      ((List.range (k + 1)).map fun i => (σ i).duration).sum +
        (delays.take k).sum * millisPerSecond := by
  induction k with
  | zero => simp [onset]
  | succ k ih =>
    have htake : (delays.take (k + 1)).sum = (delays.take k).sum + delays.getD k 0 := by
      rw [List.take_add_one, List.sum_append, List.getD_eq_getElem?_getD]
      cases delays[k]? <;> simp
    rw [onset, ih, htake, List.range_succ (n := k + 1), List.map_append, List.sum_append,
      Nat.add_mul]
    simp only [List.map_cons, List.map_nil, List.sum_cons, List.sum_nil]
    omega

/-! ## What a run of the attempts does -/

theorem sendsOf_succ (o : Notice) (c : Channel × Nat) (delay : Nat) (delays : List Nat)
    (time attempts : Nat) :
    sendsOf σ (delay :: delays) o c time (attempts + 1) =
      ⟨c.2, c.1.name, o, time⟩ :: sendsOf (fun j => σ (j + 1)) delays o c
        (time + (σ 0).duration + delay * millisPerSecond) attempts := by
  rw [sendsOf, List.range_succ_eq_map, List.map_cons, List.map_map]
  refine congrArg (List.cons _) (List.map_congr_left fun i _ => ?_)
  simp only [Function.comp_apply, onset_cons_succ, Nat.add_assoc]

/-- The program of the last attempt. -/
theorem tries_nil_eq (c : Channel × Nat) (o : Notice) (made : Nat) :
    tries c.2 c.1 o made [] =
      .step (.send c.2 c.1 o) fun r => .pure (concluded c.1.name (made + 1) r) := by
  refine congrArg (Program.step _) (funext fun r => ?_)
  cases r <;> rfl

/-- What follows an attempt that was not the last one. -/
def retry (place : Nat) (channel : Channel) (o : Notice) (made pause : Nat)
    (pauses : List Nat) : Program ChannelOutcome :=
  .step (.pause (pause * millisPerSecond)) fun cut =>
    if cut then .pure (failed channel.name (made + 1) .cancelled)
    else tries place channel o (made + 1) pauses

/-- The program of an attempt that need not be the last one. -/
theorem tries_cons_eq (c : Channel × Nat) (o : Notice) (made pause : Nat) (pauses : List Nat) :
    ∃ next, tries c.2 c.1 o made (pause :: pauses) = .step (.send c.2 c.1 o) next ∧
      ∀ a : Attempt,
        (a.IsFinal → next a.outcome = .pure (concluded c.1.name (made + 1) a.outcome)) ∧
        (¬ a.IsFinal → next a.outcome = retry c.2 c.1 o made pause pauses) := by
  refine ⟨_, rfl, fun ⟨_, _, outcome⟩ => ⟨?_, fun h => ?_⟩⟩
  · rintro (rfl | rfl) <;> rfl
  · rcases outcome with e | _
    · cases e with
      | cancelled => exact absurd (.inr rfl) h
      | _ => rfl
    · exact absurd (.inl rfl) h

section

variable {w : World} (hw : w.IsCalm) {o : Notice} {c : Channel × Nat}
  (hfires : (w.script o c 0).fires = false)

include hw hfires

/-- An attempt that is the last one in any case. -/
theorem run_tries_nil (made : Nat) :
    ∃ waits, (tries c.2 c.1 o made []).run w =
      (concluded c.1.name (made + 1) (w.script o c 0).outcome,
        w.later [⟨c.2, c.1.name, o, w.uptime⟩] (w.uptime + (w.script o c 0).duration) waits) := by
  obtain ⟨waits, hsend⟩ := World.perform_send hw hfires
  refine ⟨waits, ?_⟩
  rw [tries_nil_eq, Program.run_step, hsend]
  rfl

/-- An attempt after which no other is needed. -/
theorem run_tries_of_isFinal (hfinal : (w.script o c 0).IsFinal) (made pause : Nat)
    (pauses : List Nat) :
    ∃ waits, (tries c.2 c.1 o made (pause :: pauses)).run w =
      (concluded c.1.name (made + 1) (w.script o c 0).outcome,
        w.later [⟨c.2, c.1.name, o, w.uptime⟩] (w.uptime + (w.script o c 0).duration) waits) := by
  obtain ⟨waits, hsend⟩ := World.perform_send hw hfires
  obtain ⟨next, htries, hnext⟩ := tries_cons_eq c o made pause pauses
  refine ⟨waits, ?_⟩
  rw [htries, Program.run_step, hsend, (hnext _).1 hfinal]
  rfl

/-- An attempt that is followed by others, after a pause: they are the attempts
of a world that is one attempt on in the script. -/
theorem run_tries_of_not_isFinal (hfinal : ¬ (w.script o c 0).IsFinal) (made : Nat) {pause : Nat}
    (hpause : pause * millisPerSecond ≤ World.longestWait) (pauses : List Nat) :
    ∃ w' : World, w'.IsCalm ∧ w'.script o c = (fun i => w.script o c (i + 1)) ∧
      w'.uptime = w.uptime + (w.script o c 0).duration + pause * millisPerSecond ∧
      (∀ sends uptime waits, w'.later sends uptime waits =
        w.later (⟨c.2, c.1.name, o, w.uptime⟩ :: sends) uptime waits) ∧
      (tries c.2 c.1 o made (pause :: pauses)).run w =
        (tries c.2 c.1 o (made + 1) pauses).run w' := by
  obtain ⟨waits, hsend⟩ := World.perform_send hw hfires
  obtain ⟨waits', hslept⟩ := World.perform_pause (hw.later _ _ waits) hpause
  obtain ⟨next, htries, hnext⟩ := tries_cons_eq c o made pause pauses
  rw [World.later_later, World.uptime_later, List.append_nil] at hslept
  refine ⟨_, hw.later .., funext (World.script_later_singleton o c c.1.name w.uptime _ waits'),
    rfl, fun sends uptime waits => World.later_later .., ?_⟩
  rw [htries, Program.run_step, hsend, (hnext _).2 hfinal, retry, Program.run_step, hslept]
  rfl

end

/-- In a calm world the attempts go on to the last one, each at its time. Of the
delays, only those before the tail are pauses. -/
theorem run_tries {w : World} (hw : w.IsCalm) (o : Notice) (c : Channel × Nat) (made : Nat)
    (pauses tail : List Nat) (hfires : ∀ i ≤ pauses.length, (w.script o c i).fires = false)
    (hpauses : ∀ d ∈ pauses, d * millisPerSecond ≤ World.longestWait) :
    ∃ k waits, IsLast (w.script o c) (pauses.length + 1) k ∧
      (tries c.2 c.1 o made pauses).run w =
        (concluded c.1.name (made + (k + 1)) (w.script o c k).outcome,
          w.later (sendsOf (w.script o c) (pauses ++ tail) o c w.uptime (k + 1))
            (w.uptime + (onset (w.script o c) (pauses ++ tail) k + (w.script o c k).duration))
            waits) := by
  have hfirst := hfires 0 (Nat.zero_le _)
  induction pauses generalizing w made with
  | nil =>
    obtain ⟨waits, hrun⟩ := run_tries_nil hw hfirst made
    exact ⟨0, waits, ⟨Nat.zero_lt_one, nofun, .inr rfl⟩, by simpa [sendsOf, onset] using hrun⟩
  | cons pause pauses ih =>
    by_cases hfinal : (w.script o c 0).IsFinal
    · obtain ⟨waits, hrun⟩ := run_tries_of_isFinal hw hfirst hfinal made pause pauses
      exact ⟨0, waits, ⟨Nat.succ_pos _, nofun, .inl hfinal⟩, by simpa [sendsOf, onset] using hrun⟩
    · obtain ⟨w', hcalm, hscript, huptime, hlater, hrest⟩ := run_tries_of_not_isFinal hw hfirst
        hfinal made (hpauses pause List.mem_cons_self) pauses
      -- the law for the rest of the script, counted from its second attempt
      have hfires' : ∀ i ≤ pauses.length, (w'.script o c i).fires = false := fun i hi =>
        hscript ▸ hfires (i + 1) (Nat.succ_le_succ hi)
      obtain ⟨k, waits, hlast, hrun⟩ := ih hcalm (made + 1) hfires'
        (fun d hd => hpauses d (List.mem_cons_of_mem _ hd)) (hfires' 0 (Nat.zero_le _))
      rw [hscript] at hlast
      refine ⟨k + 1, waits, hlast.succ hfinal, (hrest.trans hrun).trans ?_⟩
      rw [hlater, hscript, huptime, List.cons_append, sendsOf_succ, onset_cons_succ]
      simp only [Nat.add_assoc, Nat.add_comm 1]

end Delivery

/-! ## What attempts do -/

/-- What every attempt may do beside sending: wait, and ask for a cancellation. -/
structure Effect.AllowsAttempts (allowed : Effect → Prop) : Prop where
  pause : ∀ milliseconds, allowed (.pause milliseconds)
  isCancelled : allowed .isCancelled

section

open Program (perform)

variable {allowed : Effect → Prop} (hallowed : Effect.AllowsAttempts allowed)

include hallowed

namespace Delivery

/-- The attempts of a channel send to nobody else, and it is this channel that
they say something of. -/
theorem tries_meets {place : Nat} {channel : Channel} {o : Notice}
    (hsend : allowed (.send place channel o)) (made : Nat) (pauses : List Nat) :
    (tries place channel o made pauses).Meets allowed (fun _ _ => True)
      (·.channel = channel.name) := by
  induction pauses generalizing made with
  | nil =>
    refine .bind (Program.Uses.perform hsend) fun r _ => ?_
    cases r <;> exact rfl
  | cons pause pauses ih =>
    refine .bind (Program.Uses.perform hsend) fun r _ => ?_
    cases r with
    | ok _ => exact rfl
    | error e =>
      have hretry : Program.Meets allowed (fun _ _ => True) (·.channel = channel.name) (do
          if ← perform (.pause (pause * millisPerSecond)) then
            return failed channel.name (made + 1) .cancelled
          else tries place channel o (made + 1) pauses) := by
        refine .bind (Program.Uses.perform (hallowed.pause _)) fun cut _ => ?_
        cases cut with
        | true => exact rfl
        | false => exact ih (made + 1)
      cases e with
      | cancelled => exact rfl
      | _ => exact hretry

theorem tries_uses {place : Nat} {channel : Channel} {o : Notice}
    (hsend : allowed (.send place channel o)) (made : Nat) (pauses : List Nat) :
    (tries place channel o made pauses).Uses allowed :=
  (tries_meets hallowed hsend made pauses).mono (fun _ h => h) fun _ _ => trivial

/-- Only these channels are asked to send, and only this. -/
theorem through_uses {o : Notice} {channels : List (Channel × Nat)}
    (hsend : ∀ c ∈ channels, allowed (.send c.2 c.1 o)) (pauses : List Nat) :
    (through o pauses channels).Uses allowed := by
  induction channels with
  | nil => exact trivial
  | cons c rest ih =>
    obtain ⟨hfirst, hrest⟩ := List.forall_mem_cons.mp hsend
    refine .bind (tries_uses hallowed hfirst ..) fun result => ?_
    refine .bind (.perform hallowed.isCancelled) fun cut => ?_
    cases cut with
    | true => exact trivial
    | false => exact .bind (ih hrest) fun _ => trivial

end Delivery

end

end CpuAlert
