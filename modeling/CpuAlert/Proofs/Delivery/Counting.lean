import CpuAlert.Proofs.Delivery.Cancellation
import CpuAlert.Proofs.Program.Turns

/-!
# What is counted as an attempt

A result says how many attempts were made. What is counted is that an attempt was
due. If deliveries have been cancelled when it is due, the channel is not asked
any more, but the attempt has been counted. Then it is the last one of the
delivery, and the result says that it was cancelled. All other results count what
the channel was asked to send.

## Main definitions

* `Turn.due`, `Turn.refused` — how often an attempt was due, and too late
* `World.began` — how often a channel was asked to send
* `Delivery.IsTally`, `Delivery.AreTallies` — results beside the turns they took

## Main results

* `Program.takes_iff_passes` — every way to the end takes turns
* `Program.Takes.due_eq` — what was due was sent, or it was too late for it
* `Delivery.tries_takes`, `Delivery.through_takes` — what is counted
* `Delivery.notify_attempts` — the attempts in the results of a message
* `Delivery.notify_of_isCancelled` — a delivery that begins after a cancellation
* `Delivery.notify_overcounts` — they are not always what was sent
-/

namespace CpuAlert

/-! ## Turns -/

namespace Turn

/-- Deliveries had been cancelled when its turn came. -/
def isLate (t : Turn) : Bool := t.world.isCancelled

/-- An attempt at this place is due. -/
def isAttemptAt (place : Nat) (t : Turn) : Bool :=
  match t.effect with
  | .send p _ _ => p == place
  | _ => false

/-- How often an attempt at this place was due. -/
def due (turns : List Turn) (place : Nat) : Nat := turns.countP (isAttemptAt place)

/-- How often it was too late for it. -/
def refused (turns : List Turn) (place : Nat) : Nat :=
  turns.countP fun t => t.isAttemptAt place && t.isLate

variable {turns turns' : List Turn} {place : Nat} {w : World}

@[simp] theorem due_nil : due [] place = 0 := rfl

@[simp] theorem refused_nil : refused [] place = 0 := rfl

@[simp] theorem due_append : due (turns ++ turns') place = due turns place + due turns' place :=
  List.countP_append ..

@[simp] theorem refused_append :
    refused (turns ++ turns') place = refused turns place + refused turns' place :=
  List.countP_append ..

@[simp] theorem due_cons_send {p : Nat} {channel : Channel} {o : Notice} :
    due (⟨w, .send p channel o⟩ :: turns) place =
      due turns place + if p = place then 1 else 0 := by
  simp [due, List.countP_cons, isAttemptAt]

@[simp] theorem refused_cons_send {p : Nat} {channel : Channel} {o : Notice} :
    refused (⟨w, .send p channel o⟩ :: turns) place =
      refused turns place + if p = place ∧ w.isCancelled = true then 1 else 0 := by
  simp [refused, List.countP_cons, isAttemptAt, isLate]

@[simp] theorem due_cons_pause {milliseconds : Nat} :
    due (⟨w, .pause milliseconds⟩ :: turns) place = due turns place := rfl

@[simp] theorem refused_cons_pause {milliseconds : Nat} :
    refused (⟨w, .pause milliseconds⟩ :: turns) place = refused turns place := rfl

@[simp] theorem due_cons_isCancelled :
    due (⟨w, .isCancelled⟩ :: turns) place = due turns place := rfl

@[simp] theorem refused_cons_isCancelled :
    refused (⟨w, .isCancelled⟩ :: turns) place = refused turns place := rfl

theorem refused_le_due (turns : List Turn) (place : Nat) :
    refused turns place ≤ due turns place :=
  List.countP_mono_left fun _ _ h => (Bool.and_eq_true .. ▸ h).1

/-- Where no attempt was due, none was too late. -/
theorem refused_eq_zero (h : due turns place = 0) : refused turns place = 0 :=
  Nat.eq_zero_of_le_zero (h ▸ refused_le_due turns place)

end Turn

open Turn (due refused)

/-! ## Turns beside a cancellation -/

theorem World.meanwhile_refl (w : World) : w.Meanwhile w := .inl rfl

/-- Every way to the end takes turns with those who may cancel. -/
theorem Program.takes_iff_passes {α : Type} {p : Program α} {w v : World} {a : α} :
    (∃ turns, p.Takes World.Meanwhile w turns a v) ↔ p.Passes w (.pure a) v := by
  constructor
  · rintro ⟨turns, h⟩
    induction h with
    | pure a h => exact .here _ h
    | step h _ ih => exact .step h ih
  · intro h
    induction p generalizing w with
    | pure b =>
      obtain ⟨rfl, hv⟩ := passes_pure h
      exact ⟨[], .pure _ hv⟩
    | step e next ih =>
      obtain ⟨w', hw', hrest⟩ := passes_step h
      obtain ⟨turns, hturns⟩ := ih _ hrest
      exact ⟨_, .step hw' hturns⟩

/-! ## What is sent -/

namespace World

variable {w v : World}

/-- How often the channel at this place was asked to send. -/
def timesSent (w : World) (place : Nat) : Nat := w.sent.countP (·.place = place)

theorem Meanwhile.sent_eq (h : w.Meanwhile v) : v.sent = w.sent := by
  rcases h with rfl | rfl <;> rfl

theorem Meanwhile.isCancelled_eq_true (h : w.Meanwhile v) (hw : w.isCancelled = true) :
    v.isCancelled = true := by
  rw [h.eq_of_isCancelled hw, hw]

theorem Meanwhile.isCancelled_eq_false (h : w.Meanwhile v) (hv : v.isCancelled = false) :
    w.isCancelled = false := by
  rcases h with rfl | rfl
  · exact hv
  · cases hv

theorem sent_finishSend (a : Attempt) (w : World) : (finishSend a w).2.sent = w.sent := by
  simp only [finishSend]
  split <;> rfl

theorem sent_await {ρ : Type} {finish : World → ρ × World}
    (hfinish : ∀ u : World, (finish u).2.sent = u.sent) (w : World) (milliseconds : Nat)
    (cancelled : ρ) : (w.await milliseconds finish cancelled).2.sent = w.sent := by
  simp only [await]
  split
  · rfl
  · rw [hfinish]

theorem sent_perform_send (h : w.isCancelled = false) (place : Nat) (channel : Channel)
    (o : Notice) :
    (w.perform (.send place channel o)).2.sent =
      ⟨place, channel.name, o, w.uptime⟩ :: w.sent := by
  rw [perform_send_eq h]
  split
  · rw [sent_finishSend, sending]
  · rw [sent_await (sent_finishSend _), sending]

theorem sent_perform_pause (w : World) (milliseconds : Nat) :
    (w.perform (.pause milliseconds)).2.sent = w.sent := by
  by_cases h : w.isCancelled = true
  · rw [perform_pause_of_isCancelled h]
  · rw [perform_pause_eq (eq_false_of_ne_true h)]
    split
    · rfl
    · rw [sent_await fun _ => rfl]

/-- How often it was asked on the way from one world to the other. -/
def began (w v : World) (place : Nat) : Nat := v.timesSent place - w.timesSent place

/-- Unless it is too late, the channel whose turn it is is asked to send. -/
theorem timesSent_perform (w : World) {e : Effect} (he : e.IsAttempt) (place : Nat) :
    (w.perform e).2.timesSent place + refused [⟨w, e⟩] place =
      w.timesSent place + due [⟨w, e⟩] place := by
  cases e with
  | send p channel o =>
    rcases h : w.isCancelled with _ | _
    · rw [timesSent, sent_perform_send h, List.countP_cons]
      simp [timesSent, h]
    · rw [perform_send_of_isCancelled h]
      simp [h]
  | pause milliseconds => rw [timesSent, sent_perform_pause]; rfl
  | isCancelled => rfl
  | _ => exact he.elim

end World

/-- What was due and not too late has been sent. -/
theorem Program.Takes.timesSent {α : Type} {p : Program α} {w v : World} {turns : List Turn}
    {a : α} (h : p.Takes World.Meanwhile w turns a v) (hp : p.Uses Effect.IsAttempt) (place : Nat) :
    v.timesSent place + refused turns place = w.timesSent place + due turns place := by
  induction h with
  | pure a h => rw [World.timesSent, h.sent_eq]; rfl
  | @step e next w w' v turns a h hrest ih =>
    have hfirst := w'.timesSent_perform hp.1 place
    have hothers := ih (hp.2 _ trivial)
    have hsame : w'.timesSent place = w.timesSent place := by
      rw [World.timesSent, h.sent_eq, World.timesSent]
    rw [← List.singleton_append, Turn.refused_append, Turn.due_append]
    omega

/-- So what was due was sent, or it was too late for it. -/
theorem Program.Takes.due_eq {α : Type} {p : Program α} {w v : World} {turns : List Turn}
    {a : α} (h : p.Takes World.Meanwhile w turns a v) (hp : p.Uses Effect.IsAttempt) (place : Nat) :
    due turns place = w.began v place + refused turns place := by
  have hsent := h.timesSent hp place
  have hle := Turn.refused_le_due turns place
  rw [World.began]
  omega

/-! ## The attempts of one channel -/

namespace Delivery

open World (perform_send_of_isCancelled perform_pause_of_isCancelled)

/-- The result of a channel counts the attempts that were due, beside those made
before. All of them were its own, and at most one was too late, after which the
result says that it was cancelled. -/
structure IsTally (c : Channel × Nat) (made : Nat) (turns : List Turn) (r : ChannelOutcome)
    (v : World) : Prop where
  channel : r.channel = c.1.name
  attempts : r.attempts = made + due turns c.2
  others : ∀ place, place ≠ c.2 → due turns place = 0
  tooLate : refused turns c.2 = 0 ∨
    refused turns c.2 = 1 ∧ r = failed c.1.name r.attempts .cancelled ∧ v.isCancelled = true

section

variable {c : Channel × Nat} {made : Nat} {o : Notice} {turns : List Turn} {r : ChannelOutcome}
  {u u' v : World}

/-- An attempt that was due in time, and no other after it. -/
theorem IsTally.last (hu : u.isCancelled = false) (hchannel : r.channel = c.1.name)
    (hattempts : r.attempts = made + 1) (hturns : ∀ place, due turns place = 0) :
    IsTally c made (⟨u, .send c.2 c.1 o⟩ :: turns) r v where
  channel := hchannel
  attempts := by simp [hattempts, hturns]
  others place h := by simp [Ne.symm h, hturns]
  tooLate := by simp [Turn.refused_eq_zero (hturns c.2), hu]

/-- An attempt that was too late. -/
theorem IsTally.late (hu : u.isCancelled = true) (hv : v.isCancelled = true) :
    IsTally c made [⟨u, .send c.2 c.1 o⟩] (failed c.1.name (made + 1) .cancelled) v where
  channel := rfl
  attempts := by simp [failed]
  others place h := by simp [Ne.symm h]
  tooLate := .inr ⟨by simp [hu], rfl, hv⟩

/-- An attempt that was due in time, a pause, and other attempts. -/
theorem IsTally.cons (h : IsTally c (made + 1) turns r v) (hu : u.isCancelled = false)
    (milliseconds : Nat) :
    IsTally c made (⟨u, .send c.2 c.1 o⟩ :: ⟨u', .pause milliseconds⟩ :: turns) r v where
  channel := h.channel
  attempts := by simp [h.attempts, Nat.add_assoc, Nat.add_comm]
  others place hplace := by simp [Ne.symm hplace, h.others place hplace]
  tooLate := by simpa [hu] using h.tooLate

end

/-- What is counted of the attempts of one channel. -/
theorem tries_takes {c : Channel × Nat} {o : Notice} {made : Nat} {pauses : List Nat}
    {w v : World} {turns : List Turn} {r : ChannelOutcome}
    (h : (tries c.2 c.1 o made pauses).Takes World.Meanwhile w turns r v) :
    IsTally c made turns r v := by
  induction pauses generalizing w made turns with
  | nil =>
    rw [tries_nil_eq] at h
    obtain ⟨u, rest, -, rfl, hrest⟩ := Program.takes_step h
    obtain ⟨rfl, rfl, hv⟩ := Program.takes_pure hrest
    rcases hlate : u.isCancelled with _ | _
    · exact .last hlate (channel_concluded ..) (attempts_concluded ..) fun _ => rfl
    · rw [perform_send_of_isCancelled hlate] at hv ⊢
      exact .late hlate (hv.isCancelled_eq_true hlate)
  | cons pause pauses ih =>
    obtain ⟨next, htries, hnext⟩ := tries_cons_eq c o made pause pauses
    rw [htries] at h
    obtain ⟨u, rest, -, rfl, hrest⟩ := Program.takes_step h
    obtain ⟨hfinal, hretry⟩ := hnext { outcome := (u.perform (.send c.2 c.1 o)).1 }
    rcases hlate : u.isCancelled with _ | _
    · by_cases hlast : ({ outcome := (u.perform (.send c.2 c.1 o)).1 } : Attempt).IsFinal
      · rw [hfinal hlast] at hrest
        obtain ⟨rfl, rfl, -⟩ := Program.takes_pure hrest
        exact .last hlate (channel_concluded ..) (attempts_concluded ..) fun _ => rfl
      · rw [hretry hlast, retry] at hrest
        obtain ⟨u', rest, -, rfl, hafter⟩ := Program.takes_step hrest
        rcases hcut : (u'.perform (.pause (pause * millisPerSecond))).1 with _ | _
        · rw [hcut, if_neg Bool.false_ne_true] at hafter
          exact (ih hafter).cons hlate _
        · -- no attempt is due after a pause that was cut short
          rw [hcut, if_pos rfl] at hafter
          obtain ⟨rfl, rfl, -⟩ := Program.takes_pure hafter
          exact .last hlate rfl rfl fun _ => rfl
    · rw [perform_send_of_isCancelled hlate] at hfinal hrest
      rw [hfinal (.inr rfl)] at hrest
      obtain ⟨rfl, rfl, hv⟩ := Program.takes_pure hrest
      exact .late hlate (hv.isCancelled_eq_true hlate)

/-! ## The attempts of a message -/

/-- The results of the first channels count the attempts that were due, and for
the other channels none was due. -/
structure AreTallies (cs : List (Channel × Nat)) (turns : List Turn) (rs : List ChannelOutcome)
    (v : World) : Prop where
  length_le : rs.length ≤ cs.length
  counted : ∀ x ∈ cs.zip rs, x.2.channel = x.1.1.name ∧ x.2.attempts = due turns x.1.2
  others : ∀ place, place ∉ (cs.take rs.length).map Prod.snd → due turns place = 0
  tooLate : (∀ place, refused turns place = 0) ∨
    ∃ c, cs[rs.length - 1]? = some c ∧
      rs.getLast? = some (failed c.1.name (due turns c.2) .cancelled) ∧
      refused turns c.2 = 1 ∧ (∀ place, place ≠ c.2 → refused turns place = 0) ∧
      v.isCancelled = true

section

variable {c : Channel × Nat} {cs : List (Channel × Nat)} {first third : List Turn}
  {r : ChannelOutcome} {rs : List ChannelOutcome} {u v' v : World}

/-- A delivery that ends with its first channel. -/
theorem AreTallies.single (h : IsTally c 0 first r u)
    (huv : u.isCancelled = true → v.isCancelled = true) (cs : List (Channel × Nat)) (u' : World) :
    AreTallies (c :: cs) (first ++ [⟨u', .isCancelled⟩]) [r] v where
  length_le := Nat.le_add_left ..
  counted := by simp [h.channel, h.attempts]
  others place hplace := by simpa using h.others place (by simpa using hplace)
  tooLate := by
    have hothers : ∀ place, place ≠ c.2 → refused first place = 0 :=
      fun place hplace => Turn.refused_eq_zero (h.others place hplace)
    rcases h.tooLate with hzero | ⟨hone, hr, hu⟩
    · left
      intro place
      by_cases hplace : place = c.2
      · simpa [hplace] using hzero
      · simpa using hothers place hplace
    · right
      refine ⟨c, rfl, ?_, by simpa using hone, fun place hplace => ?_, huv hu⟩
      · rw [h.attempts] at hr
        simpa using hr
      · simpa using hothers place hplace

/-- A delivery that goes on after its first channel. -/
theorem AreTallies.cons (h : IsTally c 0 first r u) (hu : u.isCancelled = false)
    (hrest : AreTallies cs third rs v') (hv : v'.Meanwhile v)
    (hplaces : ((c :: cs).map Prod.snd).Nodup) (u' : World) :
    AreTallies (c :: cs) (first ++ ⟨u', .isCancelled⟩ :: third) (r :: rs) v := by
  rw [List.map_cons, List.nodup_cons] at hplaces
  have hfirst : ∀ place, refused first place = 0 := by
    intro place
    by_cases hplace : place = c.2
    · refine hplace ▸ h.tooLate.resolve_right fun hlate => ?_
      exact absurd (hu.symm.trans hlate.2.2) Bool.false_ne_true
    · exact Turn.refused_eq_zero (h.others place hplace)
  have hown : due third c.2 = 0 :=
    hrest.others c.2 fun hmem => hplaces.1 (List.map_subset _ (List.take_subset ..) hmem)
  have hothers : ∀ c' ∈ cs, due first c'.2 = 0 := fun c' hc' =>
    h.others c'.2 fun heq => hplaces.1 (heq ▸ List.mem_map_of_mem hc')
  refine ⟨Nat.succ_le_succ hrest.length_le, ?_, ?_, ?_⟩
  · rw [List.zip_cons_cons, List.forall_mem_cons]
    refine ⟨⟨h.channel, by simp [h.attempts, hown]⟩, fun x hx => ?_⟩
    obtain ⟨hchannel, hattempts⟩ := hrest.counted x hx
    exact ⟨hchannel, by simp [hattempts, hothers x.1 (List.of_mem_zip hx).1]⟩
  · intro place hplace
    rw [List.length_cons, List.take_succ_cons, List.map_cons, List.mem_cons, not_or] at hplace
    simp [h.others place hplace.1, hrest.others place hplace.2]
  · rcases hrest.tooLate with hzero | ⟨c', hc', hlast, hone, hother, hv'⟩
    · exact .inl fun place => by simp [hfirst, hzero]
    · right
      have hne : rs ≠ [] := by
        rintro rfl
        cases hlast
      have hlength : (r :: rs).length - 1 = (rs.length - 1) + 1 := by
        have hpos := List.length_pos_iff.mpr hne
        simp only [List.length_cons]
        omega
      have hmem : c' ∈ cs := List.mem_of_getElem? hc'
      refine ⟨c', ?_, ?_, by simp [hfirst, hone], fun place hplace => ?_,
        hv.isCancelled_eq_true hv'⟩
      · rw [hlength, List.getElem?_cons_succ, hc']
      · rw [List.getLast?_cons_of_ne_nil hne, hlast]
        simp [hothers c' hmem]
      · simp [hfirst, hother place hplace]

end

/-- What is counted of the attempts of several channels. -/
theorem through_takes {o : Notice} {pauses : List Nat} {cs : List (Channel × Nat)}
    (hplaces : (cs.map Prod.snd).Nodup) {w v : World} {turns : List Turn}
    {rs : List ChannelOutcome} (h : (through o pauses cs).Takes World.Meanwhile w turns rs v) :
    AreTallies cs turns rs v := by
  induction cs generalizing w v turns rs with
  | nil =>
    obtain ⟨rfl, rfl, -⟩ := Program.takes_pure h
    exact ⟨Nat.le_refl _, nofun, fun _ _ => rfl, .inl fun _ => rfl⟩
  | cons c cs ih =>
    rw [through_cons_eq] at h
    obtain ⟨r, u, first, second, rfl, hfirst, hsecond⟩ := Program.takes_bind World.meanwhile_refl h
    obtain ⟨u', rest, hu', rfl, hrest⟩ := Program.takes_step hsecond
    have htally := tries_takes hfirst
    rw [World.perform_isCancelled] at hrest
    rcases hcancelled : u'.isCancelled with _ | _
    · rw [hcancelled, if_neg Bool.false_ne_true] at hrest
      obtain ⟨rs', v', third, fourth, rfl, hthrough, hend⟩ :=
        Program.takes_bind World.meanwhile_refl hrest
      obtain ⟨rfl, rfl, hv⟩ := Program.takes_pure hend
      rw [List.append_nil]
      have hu := hu'.isCancelled_eq_false hcancelled
      exact .cons htally hu (ih hplaces.tail hthrough) hv hplaces u'
    · rw [hcancelled, if_pos rfl] at hrest
      obtain ⟨rfl, rfl, hv⟩ := Program.takes_pure hrest
      exact .single htally (fun _ => hv.isCancelled_eq_true hcancelled) cs u'

variable {channels : List Channel} {config : Config} {credentials : Credentials} {level : Level}
  {message : String} {w v : World} {turns : List Turn} {rs : List ChannelOutcome}

/-- An attempt that is due after a cancellation is counted. -/
theorem run_tries_of_isCancelled (hw : w.isCancelled = true) (c : Channel × Nat) (o : Notice)
    (made : Nat) (pauses : List Nat) :
    (tries c.2 c.1 o made pauses).run w = (failed c.1.name (made + 1) .cancelled, w) := by
  cases pauses with
  | nil =>
    rw [tries_nil_eq, Program.run_step, perform_send_of_isCancelled hw]
    rfl
  | cons pause pauses =>
    obtain ⟨next, htries, hnext⟩ := tries_cons_eq c o made pause pauses
    have hfinal := (hnext { outcome := .error .cancelled }).1 (.inr rfl)
    rw [htries, Program.run_step, perform_send_of_isCancelled hw, hfinal]
    rfl

/-- A delivery that begins after a cancellation sends nothing. Its first channel
has a result all the same, with one attempt. -/
theorem notify_of_isCancelled (hw : w.isCancelled = true)
    (h : (notify channels config credentials level message).Passes w (.pure rs) v) :
    v = w ∧ rs = (enabled channels config).head?.toList.map
      fun c => failed c.1.name 1 .cancelled := by
  have huses : (notify channels config credentials level message).Uses Effect.IsAttempt :=
    through_uses Effect.allowsAttempts_isAttempt (fun _ _ => trivial) _
  obtain ⟨hv, hrun⟩ := h.eq_of_isCancelled huses hw
  refine ⟨hv, ?_⟩
  rw [notify] at hrun
  cases hchannels : enabled channels config with
  | nil =>
    rw [hchannels] at hrun
    exact (congrArg Prod.fst hrun).symm
  | cons c cs =>
    rw [hchannels, through_cons_eq, Program.run_bind, run_tries_of_isCancelled hw,
      Program.run_step, World.perform_isCancelled, hw] at hrun
    exact (congrArg Prod.fst hrun).symm

/-- Every result counts how often its channel was asked to send, and one attempt
more if deliveries had been cancelled when an attempt of the channel was due.
That happens once at most, and the last result says so. So the results count
exactly what was sent if and only if no attempt was due after a cancellation. A
delivery that begins after one sends nothing, and if it has a channel at all, counts
one attempt of the first. -/
theorem notify_attempts
    (h : (notify channels config credentials level message).Takes World.Meanwhile w turns rs v) :
    rs.length ≤ (enabled channels config).length ∧
      (∀ x ∈ (enabled channels config).zip rs, x.2.channel = x.1.1.name ∧
        x.2.attempts = w.began v x.1.2 + refused turns x.1.2) ∧
      (∀ place, place ∉ ((enabled channels config).take rs.length).map Prod.snd →
        w.began v place = 0) ∧
      ((∀ place, refused turns place = 0) ∨
        ∃ c, (enabled channels config)[rs.length - 1]? = some c ∧
          rs.getLast? = some (failed c.1.name (w.began v c.2 + 1) .cancelled) ∧
          refused turns c.2 = 1 ∧ (∀ place, place ≠ c.2 → refused turns place = 0) ∧
          v.isCancelled = true) ∧
      ((∀ x ∈ (enabled channels config).zip rs, x.2.attempts = w.began v x.1.2) ↔
        ∀ place, refused turns place = 0) ∧
      (w.isCancelled = true →
        v = w ∧ rs = (enabled channels config).head?.toList.map
          fun c => failed c.1.name 1 .cancelled) := by
  have huses : (notify channels config credentials level message).Uses Effect.IsAttempt :=
    through_uses Effect.allowsAttempts_isAttempt (fun _ _ => trivial) _
  have hdue := h.due_eq huses
  obtain ⟨hlength, hcounted, hothers, hlate⟩ := through_takes (nodup_places channels config) h
  have hcounted' : ∀ x ∈ (enabled channels config).zip rs, x.2.channel = x.1.1.name ∧
      x.2.attempts = w.began v x.1.2 + refused turns x.1.2 :=
    fun x hx => hdue x.1.2 ▸ hcounted x hx
  have hlate' : (∀ place, refused turns place = 0) ∨
      ∃ c, (enabled channels config)[rs.length - 1]? = some c ∧
        rs.getLast? = some (failed c.1.name (w.began v c.2 + 1) .cancelled) ∧
        refused turns c.2 = 1 ∧ (∀ place, place ≠ c.2 → refused turns place = 0) ∧
        v.isCancelled = true := by
    refine hlate.imp_right fun ⟨c, hc, hlast, hone, hother, hv⟩ => ⟨c, hc, ?_, hone, hother, hv⟩
    rw [hlast, hdue, hone]
  have hfired (hw : w.isCancelled = true) :
      v = w ∧ rs = (enabled channels config).head?.toList.map
        fun c => failed c.1.name 1 .cancelled :=
    notify_of_isCancelled hw (Program.takes_iff_passes.mp ⟨turns, h⟩)
  refine ⟨hlength, hcounted', fun place hplace => ?_, hlate',
    ⟨fun hexact => ?_, fun hzero x hx => ?_⟩, hfired⟩
  · have hnone := hdue place
    rw [hothers place hplace] at hnone
    omega
  · refine hlate'.resolve_right fun ⟨c, hc, hlast, _⟩ => ?_
    -- the last result belongs to this channel, and counts too much
    rw [List.getLast?_eq_getElem?] at hlast
    have hmem := List.mem_of_getElem? (List.getElem?_zip_eq_some.mpr ⟨hc, hlast⟩ :
      ((enabled channels config).zip rs)[rs.length - 1]? = some (c, _))
    have hattempts : w.began v c.2 + 1 = w.began v c.2 := hexact _ hmem
    omega
  · rw [(hcounted' x hx).2, hzero, Nat.add_zero]

/-- The only attempt of a delivery that begins after a cancellation was too
late. -/
theorem notify_attempts_fired :
    ∃ turns, (notify [hesitant] {} {} .warning "load").Takes World.Meanwhile quiet.fire turns
        [failed "hesitant" 1 .cancelled] quiet.fire ∧
      quiet.fire.began quiet.fire 0 = 0 ∧ refused turns 0 = 1 := by
  have hrun : (notify [hesitant] {} {} .warning "load").run quiet.fire =
      ([failed "hesitant" 1 .cancelled], quiet.fire) := rfl
  have hpasses := (notify [hesitant] {} {} .warning "load").passes_run quiet.fire
  rw [hrun] at hpasses
  obtain ⟨turns, hturns⟩ := Program.takes_iff_passes.mpr hpasses
  have hcounted := (notify_attempts hturns).2.1 ((hesitant, 0), failed "hesitant" 1 .cancelled)
    (List.mem_singleton.mpr rfl)
  have hbegan : quiet.fire.began quiet.fire 0 = 0 := rfl
  refine ⟨turns, hturns, hbegan, ?_⟩
  have hattempts : 1 = quiet.fire.began quiet.fire 0 + refused turns 0 := hcounted.2
  omega

/-- Attempts do not always count what was sent. -/
theorem notify_overcounts :
    ¬ ∀ (channels : List Channel) (config : Config) (credentials : Credentials) (level : Level)
      (message : String) (w v : World) (rs : List ChannelOutcome),
      (notify channels config credentials level message).Passes w (.pure rs) v →
      ∀ x ∈ (enabled channels config).zip rs, x.2.attempts = w.began v x.1.2 := by
  intro h
  have hrun : (notify [hesitant] {} {} .warning "load").run quiet.fire =
      ([failed "hesitant" 1 .cancelled], quiet.fire) := rfl
  have hpasses := (notify [hesitant] {} {} .warning "load").passes_run quiet.fire
  rw [hrun] at hpasses
  have hattempts : 1 = quiet.fire.began quiet.fire 0 :=
    h _ _ _ _ _ _ _ _ hpasses ((hesitant, 0), failed "hesitant" 1 .cancelled)
      (List.mem_singleton.mpr rfl)
  exact absurd hattempts (by decide)

end Delivery

end CpuAlert
