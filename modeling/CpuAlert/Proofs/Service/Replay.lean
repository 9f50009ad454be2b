import CpuAlert.Proofs.Evaluator.Sendings
import CpuAlert.Proofs.Service.Operations

/-!
# The live state as a replay

Three effects act on the live state: an update comes into force, a silence begins
or ends, or a snapshot is evaluated. So it can be worked out again from what has
happened, and for every evaluation it is known what was in force at its moment.
Fed with these, an evaluator of its own comes to the same triggers and to the
same state.

## Main definitions

* `Live.after`, `Live.replay` — what effects do to the live state
* `Live.Explains` — the replies are those of the replay
* `Evaluation`, `evaluations` — the evaluations with what was in force
* `Status.Shows` — the status tells what an evaluator of its own would

## Main results

* `World.applies_begin` — what an effect does to the live state
* `Session.Steps.isReplay` — the live state is always the replay
* `Live.run_evaluations` — the replay evaluates like an evaluator of its own
* `Live.lastEvaluatedAt_replay` — the time that the status tells
-/

namespace CpuAlert

open Time (Instant)

/-! ## Effects on the live state -/

namespace Live

/-- The live state after an effect. -/
def after (l : Live) : Effect → Live
  | .commit config credentials record => l.commit config credentials record
  | .mute deadline => l.mute deadline
  | .evaluate snapshot => (l.evaluate snapshot).2
  | .acquire | .release | .look | .ask _ | .clock | .draw | .claimCleanup _ | .endCleanup
  | .send _ _ _ | .pause _ | .isCancelled => l

/-- The reply to an effect is the one that the live state gives, if it is for
the live state to say. -/
def Expects (l : Live) : (e : Effect) → e.Reply → Prop
  | .look, reply => reply = l
  | .evaluate snapshot, pending => pending = (l.evaluate snapshot).1
  | .acquire, _ | .release, _ | .ask _, _ | .commit _ _ _, _ | .mute _, _ | .clock, _ | .draw, _
  | .claimCleanup _, _ | .endCleanup, _ | .send _ _ _, _ | .pause _, _ | .isCancelled, _ => True

/-- Only snapshots move the evaluator. -/
theorem evaluator_after {e : Effect} (h : e.IsSide) (l : Live) :
    (l.after e).evaluator = l.evaluator := by
  cases e with
  | evaluate snapshot => exact h.elim
  | _ => rfl

variable {κ : Type}

/-- The live state after what has happened. -/
def replay (l : Live) (hs : List (Happening κ)) : Live :=
  hs.foldl (fun l h => l.after h.effect) l

/-- The replies are those of the replay. -/
def Explains (l : Live) : List (Happening κ) → Prop
  | [] => True
  | h :: hs => l.Expects h.effect h.reply ∧ (l.after h.effect).Explains hs

theorem replay_append (l : Live) (hs hs' : List (Happening κ)) :
    l.replay (hs ++ hs') = (l.replay hs).replay hs' :=
  List.foldl_append

theorem explains_append {l : Live} {hs hs' : List (Happening κ)} :
    l.Explains (hs ++ hs') ↔ l.Explains hs ∧ (l.replay hs).Explains hs' := by
  induction hs generalizing l with
  | nil => exact (iff_of_eq (true_and _)).symm
  | cons h hs ih =>
    simp only [List.cons_append, Explains, ih, and_assoc]
    rfl

/-- Whoever looks is shown the replay up to that moment. -/
theorem Explains.look_eq {l live : Live} {hs hs' : List (Happening κ)} {i : κ}
    (h : l.Explains (hs ++ ⟨i, .look, live⟩ :: hs')) : live = l.replay hs := by
  obtain ⟨-, hlook, -⟩ := explains_append.mp h
  exact hlook

end Live

/-- An effect that is not for the live state to answer, and leaves it alone. -/
def Effect.IsAside (e : Effect) : Prop := ∀ l : Live, l.after e = l ∧ ∀ r, l.Expects e r

namespace World

/-- An effect that begins like this does all it does to the live state at once,
or does nothing to it, also when it ends. -/
def Applies (w : World) (e : Effect) (x : Progress e.Reply × World) : Prop :=
  match x.1 with
  | .done r => x.2.live = w.live.after e ∧ w.live.Expects e r
  | .waiting _ finish _ =>
    x.2.live = w.live ∧ e.IsAside ∧ ∀ v : World, (finish v).2.live = v.live

theorem live_finishSend (a : Attempt) (w : World) : (finishSend a w).2.live = w.live := by
  unfold finishSend
  split <;> rfl

/-- Only attempts and pauses are waited for, and they leave the live state
alone. -/
theorem applies_begin (w : World) (e : Effect) : w.Applies e (w.begin e) := by
  cases e with
  | acquire | release | commit | mute | clock | draw | endCleanup | isCancelled =>
    exact ⟨rfl, trivial⟩
  | look | evaluate => exact ⟨rfl, rfl⟩
  | ask call => exact ⟨w.ask_live call, trivial⟩
  | claimCleanup interval =>
    simp only [begin]
    split <;> exact ⟨rfl, trivial⟩
  | send place channel notice =>
    simp only [begin]
    split
    · exact ⟨rfl, trivial⟩
    · split
      · exact ⟨live_finishSend _ _, trivial⟩
      · exact ⟨rfl, fun _ => ⟨rfl, fun _ => trivial⟩, live_finishSend _⟩
  | pause milliseconds =>
    simp only [begin]
    split
    · exact ⟨rfl, trivial⟩
    · split
      · exact ⟨rfl, trivial⟩
      · exact ⟨rfl, fun _ => ⟨rfl, fun _ => trivial⟩, fun _ => rfl⟩

/-- The live state after a whole effect, and what it replies. -/
theorem applies_perform (w : World) (e : Effect) :
    (w.perform e).2.live = w.live.after e ∧ w.live.Expects e (w.perform e).1 := by
  have happlies := w.applies_begin e
  simp only [perform]
  generalize w.begin e = x at happlies
  obtain ⟨progress, v⟩ := x
  cases progress with
  | done reply => exact happlies
  | waiting end_ finish cancelled =>
    obtain ⟨hlive, haside, hfinish⟩ := happlies
    -- what is waited for says nothing about the live state
    have hkept := (haside w.live).1
    simp only
    split
    · exact ⟨(hkept.trans hlive.symm).symm, (haside _).2 _⟩
    · exact ⟨(hfinish _).trans (hkept.trans hlive.symm).symm, (haside _).2 _⟩

end World

namespace Session

variable {κ α : Type} [DecidableEq κ] {l : Live} {t t' : Session κ α}

/-- The live state of the session is the replay of its past from a live state,
and nothing that is waited for will change that. -/
structure IsReplay (l : Live) (t : Session κ α) : Prop where
  live : t.world.live = l.replay t.past
  explains : l.Explains t.past
  aside : ∀ i e finish cancelled next, t.running i = .waiting e finish cancelled next →
    e.IsAside ∧ ∀ v, (finish v).2.live = v.live

theorem IsReplay.record (h : t.IsReplay l) (i : κ) {e : Effect} {reply : e.Reply} {w : World}
    (next : e.Reply → Program α) (hreply : t.world.live.Expects e reply)
    (hlive : w.live = t.world.live.after e) : (t.record i e reply next w).IsReplay l where
  live := by
    rw [Session.record, Live.replay_append, ← h.live]
    exact hlive
  explains := Live.explains_append.mpr ⟨h.explains, h.live ▸ hreply, trivial⟩
  aside j e' finish cancelled next' hj := by
    by_cases hji : j = i
    · subst hji
      cases running_record_self.symm.trans hj
    · exact h.aside j e' finish cancelled next' ((running_record_of_ne hji).symm.trans hj)

/-- Every step keeps up the replay. -/
theorem Steps.isReplay (hstep : t.Steps t') (h : t.IsReplay l) : t'.IsReplay l := by
  cases hstep with
  | done i e next reply w hready _ hbegin =>
    have happlies := t.world.applies_begin e
    rw [hbegin] at happlies
    exact h.record i next happlies.2 happlies.1
  | wait i e next end_ finish cancelled w hready _ hbegin =>
    have happlies := t.world.applies_begin e
    rw [hbegin] at happlies
    refine ⟨happlies.1.trans h.live, h.explains, fun j e' finish' cancelled' next' hj => ?_⟩
    by_cases hji : j = i
    · subst hji
      cases (Function.update_self ..).symm.trans hj
      exact happlies.2
    · exact h.aside j e' finish' cancelled' next' ((Function.update_of_ne hji ..).symm.trans hj)
  -- what has been waited for says nothing about the live state
  | finish i e finish cancelled next hwaiting =>
    obtain ⟨haside, hlive⟩ := h.aside i e finish cancelled next hwaiting
    have hkept := (haside t.world.live).1
    exact h.record i next ((haside _).2 _) ((hlive _).trans hkept.symm)
  | cut i e finish cancelled next hwaiting =>
    obtain ⟨haside, -⟩ := h.aside i e finish cancelled next hwaiting
    exact h.record i next ((haside _).2 _) (haside _).1.symm
  | turn | cancel => exact ⟨h.live, h.explains, h.aside⟩

end Session

/-! ## Evaluations -/

/-- What is in force after an effect. -/
def InForce.after (f : InForce) : Effect → InForce
  | .commit config credentials record => { f with config, credentials, record }
  | .mute deadline => { f with deadline }
  | .evaluate _ | .acquire | .release | .look | .ask _ | .clock | .draw | .claimCleanup _
  | .endCleanup | .send _ _ _ | .pause _ | .isCancelled => f

/-- What is in force after what has happened. -/
def InForce.replay {κ : Type} (f : InForce) (hs : List (Happening κ)) : InForce :=
  hs.foldl (fun f h => f.after h.effect) f

theorem Live.inForce_after (l : Live) (e : Effect) : (l.after e).inForce = l.inForce.after e := by
  cases e <;> rfl

theorem Live.inForce_replay {κ : Type} (l : Live) (hs : List (Happening κ)) :
    (l.replay hs).inForce = l.inForce.replay hs := by
  induction hs generalizing l with
  | nil => rfl
  | cons h hs ih => exact (ih _).trans (congrArg (InForce.replay · hs) (l.inForce_after h.effect))

/-- The evaluation of a snapshot: by whom, with what in force, and the
notifications that came out. -/
structure Evaluation (κ : Type) where
  actor : κ
  snapshot : Snapshot
  inForce : InForce
  pending : List Pending

namespace Evaluation

variable {κ : Type}

/-- The reading that was evaluated: at the time of the snapshot, and silenced if
the silence in force ends after it. -/
def sample (e : Evaluation κ) : Sample where
  time := e.snapshot.time
  cpuPercent := e.snapshot.cpuPercent
  config := e.inForce.config
  silenced := silenceHolds e.inForce.deadline e.snapshot.time

/-- The triggers that came out. -/
def triggers (e : Evaluation κ) : List Trigger := e.pending.map (·.trigger)

end Evaluation

section

variable {κ : Type} {l : Live} {hs : List (Happening κ)}

/-- The evaluation that something is which happened, if it is one. -/
def Happening.evaluation? (f : InForce) : Happening κ → Option (Evaluation κ)
  | ⟨i, .evaluate snapshot, pending⟩ => some ⟨i, snapshot, f, pending⟩
  | _ => none

/-- The evaluations in what has happened, in order, each with what was in force
at its moment. -/
def evaluations (f : InForce) : List (Happening κ) → List (Evaluation κ)
  | [] => []
  | h :: hs => (h.evaluation? f).toList ++ evaluations (f.after h.effect) hs

/-- The snapshot that was evaluated when something happened, with what came
out. -/
def Happening.evaluated? : Happening κ → Option (Snapshot × List Pending)
  | ⟨_, .evaluate snapshot, pending⟩ => some (snapshot, pending)
  | _ => none

theorem Happening.evaluated?_eq_none {h : Happening κ} (hside : h.effect.IsSide) :
    h.evaluated? = none := by
  obtain ⟨i, e, reply⟩ := h
  cases e with
  | evaluate snapshot => exact hside.elim
  | _ => rfl

theorem evaluations_append (f : InForce) (hs hs' : List (Happening κ)) :
    evaluations f (hs ++ hs') = evaluations f hs ++ evaluations (f.replay hs) hs' := by
  induction hs generalizing f with
  | nil => rfl
  | cons h hs ih =>
    rw [List.cons_append, evaluations, ih, evaluations, List.append_assoc]
    rfl

/-- The evaluations by somebody are those among what it has done. -/
theorem evaluations_by [DecidableEq κ] (f : InForce) (hs : List (Happening κ)) (a : κ) :
    ((evaluations f hs).filter (·.actor = a)).map (fun e => (e.snapshot, e.pending)) =
      (hs.filter (·.caller = a)).filterMap (·.evaluated?) := by
  induction hs generalizing f with
  | nil => rfl
  | cons h hs ih =>
    rw [evaluations, List.filter_append, List.map_append, ih, ← List.singleton_append,
      List.filter_append, List.filterMap_append]
    congr 1
    obtain ⟨i, e, reply⟩ := h
    cases e <;> by_cases hi : i = a <;> simp [Happening.evaluation?, Happening.evaluated?, hi]

/-- What a live state answers to a snapshot is what its evaluator answers to the
reading, with what is in force. -/
theorem Live.evaluate_fst (l : Live) (snapshot : Snapshot) :
    (l.evaluate snapshot).1 = (l.evaluator.evaluate (l.sample snapshot)).1.map fun trigger =>
      ⟨trigger, l.inForce.config, l.inForce.credentials, snapshot.time⟩ := rfl

/-- The evaluator fed with the readings of a replay comes to the same triggers
and to the same state. -/
theorem Live.run_evaluations (h : l.Explains hs) :
    l.evaluator.run ((evaluations l.inForce hs).map (·.sample)) =
      ((evaluations l.inForce hs).map (·.triggers), (l.replay hs).evaluator) := by
  induction hs generalizing l with
  | nil => rfl
  | cons x hs ih =>
    obtain ⟨hreply, hrest⟩ := h
    have htail := ih hrest
    rw [Live.inForce_after] at htail
    obtain ⟨i, e, reply⟩ := x
    cases e with
    | evaluate snapshot =>
      have hevaluations : evaluations l.inForce (⟨i, .evaluate snapshot, reply⟩ :: hs) =
        ⟨i, snapshot, l.inForce, reply⟩ :: evaluations l.inForce hs := rfl
      have hreply : reply = (l.evaluate snapshot).1 := hreply
      have htriggers : reply.map (·.trigger) = (l.evaluator.evaluate (l.sample snapshot)).1 := by
        rw [hreply, Live.evaluate_fst, List.map_map]
        exact List.map_id _
      -- the evaluator answers this reading, and goes on with the rest
      rw [hevaluations, List.map_cons, List.map_cons, Evaluation.triggers, htriggers]
      exact congrArg (fun r => (_ :: r.1, r.2)) htail
    | _ => exact htail

/-- The status tells what an evaluator of its own would, fed with these
readings: the level, and the last notification of each. -/
structure Status.Shows (st : Status) (ss : List Sample) : Prop where
  currentState : st.currentState = (Evaluator.fresh.run ss).2.active
  lastWarningAt : st.lastWarningAt = (Evaluator.sendings .warning ss).getLast?
  lastCriticalAt : st.lastCriticalAt = (Evaluator.sendings .critical ss).getLast?
  lastRecoveryAt : st.lastRecoveryAt = (Evaluator.sendings .recovery ss).getLast?

/-- The status is that of the evaluator. -/
def Live.IsShown (l : Live) : Prop :=
  l.status.currentState = l.evaluator.active ∧ l.status.lastWarningAt = l.evaluator.lastWarningAt ∧
    l.status.lastCriticalAt = l.evaluator.lastCriticalAt ∧
    l.status.lastRecoveryAt = l.evaluator.lastRecoveryAt

theorem Live.IsShown.replay (h : l.IsShown) (hs : List (Happening κ)) : (l.replay hs).IsShown := by
  induction hs generalizing l with
  | nil => exact h
  | cons x hs ih =>
    have hafter : (l.after x.effect).IsShown := by
      cases x.effect with
      | evaluate snapshot => exact ⟨rfl, rfl, rfl, rfl⟩
      | _ => exact h
    exact ih hafter

/-- Whatever has happened, the status tells what an evaluator of its own would. -/
theorem Live.shows_replay (hshown : l.IsShown) (hfresh : l.evaluator = .fresh)
    (h : l.Explains hs) :
    (l.replay hs).status.Shows ((evaluations l.inForce hs).map (·.sample)) := by
  have hrun := Live.run_evaluations h
  rw [hfresh] at hrun
  have hevaluator : (l.replay hs).evaluator =
      (Evaluator.fresh.run ((evaluations l.inForce hs).map (·.sample))).2 := by rw [hrun]
  obtain ⟨hstate, hwarning, hcritical, hrecovery⟩ := hshown.replay hs
  rw [hevaluator] at hstate hwarning hcritical hrecovery
  exact ⟨hstate, hwarning.trans (Evaluator.lastAt_run .warning _),
    hcritical.trans (Evaluator.lastAt_run .critical _),
    hrecovery.trans (Evaluator.lastAt_run .recovery _)⟩

/-- The status tells the time of the last snapshot that was evaluated, or what it
told in the beginning. -/
theorem Live.lastEvaluatedAt_replay (l : Live) (hs : List (Happening κ)) :
    (l.replay hs).status.lastEvaluatedAt =
      ((evaluations l.inForce hs).getLast?.map (·.snapshot.time)).or l.status.lastEvaluatedAt := by
  induction hs generalizing l with
  | nil => rfl
  | cons x hs ih =>
    have htail := ih (l.after x.effect)
    rw [Live.inForce_after] at htail
    rw [evaluations, List.getLast?_append, Option.map_or, Option.or_assoc]
    refine htail.trans (congrArg _ ?_)
    -- only an evaluation has a time to tell
    obtain ⟨i, e, reply⟩ := x
    cases e <;> rfl

/-- Every notification carries what was in force when it was decided, and the
time of the snapshot. -/
theorem Live.carries_evaluations (h : l.Explains hs) {e : Evaluation κ}
    (he : e ∈ evaluations l.inForce hs) :
    e.pending = e.triggers.map fun trigger =>
      ⟨trigger, e.inForce.config, e.inForce.credentials, e.snapshot.time⟩ := by
  induction hs generalizing l with
  | nil => cases he
  | cons x hs ih =>
    obtain ⟨hreply, hrest⟩ := h
    have htail := ih hrest
    rw [Live.inForce_after] at htail
    obtain ⟨i, e', reply⟩ := x
    cases e' with
    | evaluate snapshot =>
      have hreply : reply = (l.evaluate snapshot).1 := hreply
      rcases List.mem_cons.mp he with rfl | he
      · rw [Evaluation.triggers, hreply, Live.evaluate_fst, List.map_map, List.map_map]
        rfl
      · exact htail he
    | _ => exact htail he

end

end CpuAlert
