import CpuAlert.Proofs.Delivery.Attempts

/-!
# The course of a delivery

Without a cancellation, a message goes through every enabled channel, and the
channels take turns: each begins at the moment the last attempt of the one
before it has ended. What a channel was asked to send is nobody else's business,
so all channels can be judged by the scripts they had at the beginning.

## Main definitions

* `Delivery.InTurn` — the course of a message through several channels
* `Delivery.elapsed` — what one channel takes

## Main results

* `Delivery.notify_course` — a message through every enabled channel in a calm
  world
-/

namespace CpuAlert

theorem Config.schedule_ne_nil (c : Config) : c.schedule ≠ [] := by
  simp only [Config.schedule]
  split
  · decide
  · rename_i h
    simpa [List.isEmpty_iff] using h

namespace Delivery

/-- The course of a message through channels with these scripts, from a time on:
what became of it in every channel, what the channels were asked to send, and
when the last of them ended. -/
inductive InTurn (σ : Channel × Nat → Nat → Attempt) (o : Notice) (delays : List Nat) :
    Nat → List (Channel × Nat) → List ChannelOutcome → List Sending → Nat → Prop
  | nil (time : Nat) : InTurn σ o delays time [] [] [] time
  | cons {time end_ : Nat} {c : Channel × Nat} {cs : List (Channel × Nat)} {r : ChannelOutcome}
      {rs : List ChannelOutcome} {sends : List Sending} {last : Nat}
      (hname : r.channel = c.1.name) (hr : IsDelivered (σ c) delays.length r)
      (hlast : r.attempts = last + 1)
      (hrest : InTurn σ o delays (time + (onset (σ c) delays last + (σ c last).duration)) cs rs
        sends end_) :
      InTurn σ o delays time (c :: cs) (r :: rs)
        (sendsOf (σ c) delays o c time (last + 1) ++ sends) end_

/-- What one channel takes in milliseconds: all its attempts and the delays
between them. -/
def elapsed (σ : Nat → Attempt) (delays : List Nat) (attempts : Nat) : Nat :=
  ((List.range attempts).map fun i => (σ i).duration).sum +
    (delays.take (attempts - 1)).sum * millisPerSecond

namespace InTurn

variable {σ : Channel × Nat → Nat → Attempt} {o : Notice} {delays : List Nat} {time end_ : Nat}
  {cs : List (Channel × Nat)} {rs : List ChannelOutcome} {sends : List Sending}

/-- There is one result for every channel, in their order. -/
theorem map_channel (h : InTurn σ o delays time cs rs sends end_) :
    rs.map (·.channel) = cs.map (·.1.name) := by
  induction h with
  | nil => rfl
  | cons hname _ _ _ ih => rw [List.map_cons, List.map_cons, hname, ih]

/-- No time passes beside the attempts and the delays between them. -/
theorem end_eq (h : InTurn σ o delays time cs rs sends end_) :
    end_ = time + ((cs.zip rs).map fun x => elapsed (σ x.1) delays x.2.attempts).sum := by
  induction h with
  | nil => rfl
  | cons _ _ hlast _ ih =>
    rw [ih, onset_add_duration, List.zip_cons_cons, List.map_cons, List.sum_cons, elapsed, hlast,
      Nat.add_sub_cancel, Nat.add_assoc]

end InTurn

/-! ## Several channels -/

/-- The program of several channels. -/
theorem through_cons_eq (o : Notice) (pauses : List Nat) (c : Channel × Nat)
    (cs : List (Channel × Nat)) :
    through o pauses (c :: cs) = (tries c.2 c.1 o 0 pauses).bind fun r =>
      .step .isCancelled fun cut =>
        if cut then .pure [r] else (through o pauses cs).bind fun rs => .pure (r :: rs) := by
  refine congrArg (Program.bind _) (funext fun r => congrArg (Program.step _) (funext fun b => ?_))
  cases b <;> rfl

/-- In a calm world the channels take turns. -/
theorem run_through {w : World} (hw : w.IsCalm) {σ : Channel × Nat → Nat → Attempt} (o : Notice)
    {cs : List (Channel × Nat)} (hplaces : (cs.map Prod.snd).Nodup)
    (hscript : ∀ c ∈ cs, w.script o c = σ c) {pauses : List Nat} (last : Nat)
    (hfires : ∀ c ∈ cs, ∀ i ≤ pauses.length, (σ c i).fires = false)
    (hpauses : ∀ d ∈ pauses, d * millisPerSecond ≤ World.longestWait) :
    ∃ rs sends end_ waits, (through o pauses cs).run w = (rs, w.later sends end_ waits) ∧
      InTurn σ o (pauses ++ [last]) w.uptime cs rs sends end_ := by
  induction cs generalizing w with
  | nil => exact ⟨[], [], w.uptime, w.waits, rfl, .nil _⟩
  | cons c cs ih =>
    have hown := hscript c List.mem_cons_self
    obtain ⟨k, waits, hlast, hrun⟩ := run_tries hw o c 0 pauses [last]
      (hown ▸ hfires c List.mem_cons_self) hpauses
    rw [hown, Nat.zero_add] at hrun
    rw [hown] at hlast
    rw [List.map_cons, List.nodup_cons] at hplaces
    obtain ⟨w', hw'⟩ : ∃ w', w' = w.later (sendsOf (σ c) (pauses ++ [last]) o c w.uptime (k + 1))
      (w.uptime + (onset (σ c) (pauses ++ [last]) k + (σ c k).duration)) waits := ⟨_, rfl⟩
    have hcalm : w'.IsCalm := hw' ▸ hw.later ..
    have hlater := fun sends end_ waits' => World.later_later (w := w)
      (sendsOf (σ c) (pauses ++ [last]) o c w.uptime (k + 1)) sends
      (w.uptime + (onset (σ c) (pauses ++ [last]) k + (σ c k).duration)) end_ waits waits'
    rw [← hw'] at hrun hlater
    -- no other channel stands at this one's place, so the other scripts are as before
    have hscript' : ∀ c' ∈ cs, w'.script o c' = σ c' := fun c' hc' => by
      rw [← hscript c' (List.mem_cons_of_mem _ hc'), hw']
      refine World.script_later_of_ne (fun s hs hplace => hplaces.1 ?_) o _ _
      rw [← place_of_mem_sendsOf hs, hplace]
      exact List.mem_map_of_mem hc'
    obtain ⟨rs, sends, end_, waits', hrest, hturn⟩ := ih hcalm hplaces.2 hscript'
      fun c' hc' => hfires c' (List.mem_cons_of_mem _ hc')
    have huptime : w'.uptime =
      w.uptime + (onset (σ c) (pauses ++ [last]) k + (σ c k).duration) := hw' ▸ rfl
    have hlength : pauses.length + 1 = (pauses ++ [last]).length := by simp
    refine ⟨concluded c.1.name (k + 1) (σ c k).outcome :: rs, _, end_, waits', ?_,
      .cons (channel_concluded ..) (hlength ▸ hlast.isDelivered _) (attempts_concluded ..)
        (huptime ▸ hturn)⟩
    rw [through_cons_eq, Program.run_bind, hrun, Program.run_step, World.perform_isCancelled,
      hcalm.notCancelled, if_neg Bool.false_ne_true, Program.run_bind, hrest, hlater]
    rfl

/-- The enabled channels keep their order. -/
theorem map_fst_enabled (channels : List Channel) (config : Config) :
    (enabled channels config).map Prod.fst = channels.filter (·.isEnabled config) := by
  calc (enabled channels config).map Prod.fst
    _ = (channels.zipIdx.map Prod.fst).filter (·.isEnabled config) := by
      rw [List.filter_map]
      rfl
    _ = channels.filter (·.isEnabled config) := by rw [List.zipIdx_map_fst]

/-- Every channel has a place of its own. -/
theorem nodup_places (channels : List Channel) (config : Config) :
    ((enabled channels config).map Prod.snd).Nodup := by
  have hsublist : ((enabled channels config).map Prod.snd).Sublist (channels.zipIdx.map Prod.snd) :=
    List.filter_sublist.map _
  refine hsublist.nodup ?_
  rw [List.zipIdx_map_snd]
  exact List.nodup_range'

/-- In a calm world a message goes through every enabled channel, in their order
and one at a time; each is tried as its script and the delays say, and the time
is that of the attempts and of the delays between them. -/
theorem notify_course (channels : List Channel) (config : Config) (credentials : Credentials)
    (level : Level) (message : String) {w : World} (hw : w.IsCalm)
    (hfires : ∀ c ∈ enabled channels config, ∀ i < config.schedule.length,
      (w.script (notice config credentials level message) c i).fires = false)
    (hdelays : ∀ d ∈ config.schedule, d * millisPerSecond ≤ World.longestWait) :
    ∃ results sends end_ waits,
      (notify channels config credentials level message).run w =
        (results, w.later sends end_ waits) ∧
      results.map (·.channel) = (channels.filter (·.isEnabled config)).map (·.name) ∧
      InTurn (w.script (notice config credentials level message))
        (notice config credentials level message) config.schedule w.uptime
        (enabled channels config) results sends end_ ∧
      end_ = w.uptime + (((enabled channels config).zip results).map fun x =>
        elapsed (w.script (notice config credentials level message) x.1) config.schedule
          x.2.attempts).sum := by
  have hschedule := List.dropLast_concat_getLast config.schedule_ne_nil
  have hlength : config.schedule.dropLast.length < config.schedule.length := by
    have hpos := List.length_pos_iff.mpr config.schedule_ne_nil
    rw [List.length_dropLast]
    omega
  obtain ⟨results, sends, end_, waits, hrun, hturn⟩ := run_through hw
    (notice config credentials level message) (nodup_places channels config) (fun _ _ => rfl)
    (config.schedule.getLast config.schedule_ne_nil)
    (fun c hc i hi => hfires c hc i (Nat.lt_of_le_of_lt hi hlength))
    (fun d hd => hdelays d (List.dropLast_subset _ hd))
  rw [hschedule] at hturn
  refine ⟨results, sends, end_, waits, hrun, ?_, hturn, hturn.end_eq⟩
  rw [hturn.map_channel, ← map_fst_enabled, List.map_map]
  rfl

/-- A channel that needs two attempts. -/
def hesitant : Channel where
  name := "hesitant"
  isEnabled _ := true
  attempt past _ :=
    { lasts := 200, outcome := if past.isEmpty then .error (.httpStatus 502) else .ok () }

/-- A channel that is not enabled. -/
def idle : Channel where
  name := "idle"
  isEnabled _ := false
  attempt _ _ := {}

/-- A channel that never works. -/
def broken : Channel where
  name := "broken"
  isEnabled _ := true
  attempt _ _ := { lasts := 100, outcome := .error (.smtp "connection refused") }

/-- A world in which nothing has been sent. -/
def quiet : World where
  store := .memory {}
  wall := .epoch
  nonces _ := .error "no randomness"

/-- Two delays allow two attempts, with the first of the delays between them. -/
theorem notify_course_hesitant :
    let config : Config := { retryDelays := [2, 7] }
    let channels := [hesitant, idle, broken]
    quiet.IsCalm ∧
    (∀ c ∈ enabled channels config, ∀ i < config.schedule.length,
      (quiet.script (notice config {} .warning "load") c i).fires = false) ∧
    (∀ d ∈ config.schedule, d * millisPerSecond ≤ World.longestWait) ∧
    ∃ sends end_ waits, (notify channels config {} .warning "load").run quiet =
      ([{ channel := "hesitant", success := true, attempts := 2 },
        { channel := "broken", attempts := 2,
          errorMessage := some "smtp send failed: connection refused" }],
        quiet.later sends end_ waits) ∧
      end_ = (200 + 2000 + 200) + (100 + 2000 + 100) := by
  intro config channels
  have hcalm : quiet.IsCalm := ⟨rfl, rfl⟩
  have hfires : ∀ c ∈ enabled channels config, ∀ i < config.schedule.length,
      (quiet.script (notice config {} .warning "load") c i).fires = false := by
    intro c hc i _
    have hpair : c = (hesitant, 0) ∨ c = (broken, 2) := by
      have hc' : c ∈ [(hesitant, 0), (broken, 2)] := hc
      simpa using hc'
    rcases hpair with rfl | rfl <;> rfl
  have hdelays : ∀ d ∈ config.schedule, d * millisPerSecond ≤ World.longestWait := by decide
  obtain ⟨results, sends, end_, waits, hrun, -, -, hend⟩ :=
    notify_course channels config {} .warning "load" hcalm hfires hdelays
  have hresults : results = [{ channel := "hesitant", success := true, attempts := 2 },
      { channel := "broken", attempts := 2,
        errorMessage := some "smtp send failed: connection refused" }] :=
    (congrArg Prod.fst hrun).symm
  subst hresults
  exact ⟨hcalm, hfires, hdelays, sends, end_, waits, hrun, hend.trans (by decide +kernel)⟩

end Delivery

end CpuAlert
