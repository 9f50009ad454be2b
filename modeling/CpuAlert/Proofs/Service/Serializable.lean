import CpuAlert.Proofs.Service.Serial
import Mathlib.Data.Fin.VecNotation

/-!
# A service with several callers

The operations of a service, in any session that starts in agreement with the
store: its mutations are serializable and none is lost, the store agrees with
what is in force whenever the lock is free, and every view shows what one of the
mutations has left.

## Main definitions

* `Operation.Mutes` — what an operation sets the end of the silence to

## Main results

* `Session.serializable` — the mutations of a session, one after the other
-/

namespace CpuAlert

open Time (Instant)

namespace Operation

/-- An operation that does not lock is a bystander. -/
theorem program_uses_of_not_isLocking (s : Service) {op : Operation}
    (hop : ¬ (op.program s).IsLocking) : (op.program s).Uses Effect.IsBystander := by
  by_cases hmutation : op.IsMutation
  · rcases mutation_cases s hmutation with hlocking | ⟨r, hr⟩
    · exact absurd hlocking hop
    · rw [hr]
      exact trivial
  · exact program_uses s hmutation

/-- Only mutations lock. -/
theorem isMutation_of_isLocking {s : Service} {op : Operation} (hop : (op.program s).IsLocking) :
    op.IsMutation := by
  by_contra hmutation
  obtain ⟨body, hprogram, -⟩ := hop
  have huses := program_uses s hmutation
  rw [hprogram] at huses
  exact huses.1

/-- What an operation sets the end of the silence to and returns when the clock on
the wall shows this. -/
inductive Mutes (now : Instant) : Operation → Option Instant → Outcome → Prop
  | silence {minutes : Int} (h : 1 ≤ minutes ∧ minutes ≤ Service.maxSilence) :
    Mutes now (.silence minutes) (some (Service.silenceEnd now minutes))
      (.silence (.ok (Service.silenceEnd now minutes)))
  | endSilence : Mutes now .endSilence none (.endSilence (.ok ()))

/-- On its own it leaves that in force and stored. -/
theorem Mutes.run {s : Service} {op : Operation} {now : Instant} {deadline : Option Instant}
    {r : Outcome} {w : World} {c : Standing} (h : op.Mutes now deadline r) (hw : w.Stands c) :
    ((op.program s).run { w with wall := now }).1 = r ∧
      ((op.program s).run { w with wall := now }).2.Stands (Service.muted c deadline) := by
  cases h with
  | silence hminutes =>
    refine (Service.leads_silenceLocked _ now Outcome.silence).run_acquire ?_ hw
    rw [program, Service.silence, if_pos hminutes]
    exact Service.locked_bind ..
  | endSilence =>
    exact (Service.leads_setDeadline none Outcome.endSilence).run_acquire
      (Service.locked_bind ..) hw

/-- A silence of another length does not take the lock. -/
theorem minutes_of_isLocking {s : Service} {minutes : Int}
    (h : ((silence minutes).program s).IsLocking) : 1 ≤ minutes ∧ minutes ≤ Service.maxSilence := by
  by_contra hnot
  obtain ⟨body, hprogram, -⟩ := h
  rw [program, Service.silence, if_neg hnot] at hprogram
  cases hprogram

end Operation

namespace Session

variable {ι : Type} [DecidableEq ι]

namespace IsSound

variable {s : Service} {operations : ι → Operation} {w : World} {t : Session ι Outcome}
  {before after : List ι} {i : ι} {r : Outcome}

/-- What those who took the lock first leave on their own is stored. -/
theorem exists_stands_before (h : t.IsSound (fun i => (operations i).program s) w)
    (hagrees : w.store.Keeps w.live.inForce.kept) (hwrites : w.AcceptsWrites)
    (horder : t.order = before ++ after) :
    ∃ c, (w.afterEach (fun i => (operations i).program s) t.reading before).Stands c ∧ c.Agrees :=
  World.exists_stands_afterEach _ t.reading w (World.stands_standing hagrees hwrites) rfl
    fun _ hi => h.isLocking_of_mem (horder ▸ List.mem_append_left after hi)

/-- Whoever sets the end of the silence in its turn does no more than that, and returns
what it should. -/
theorem mutes (h : t.IsSound (fun i => (operations i).program s) w)
    (hagrees : w.store.Keeps w.live.inForce.kept) (hwrites : w.AcceptsWrites)
    (horder : t.order = before ++ i :: after) {deadline : Option Instant}
    (hmutes : (operations i).Mutes (t.reading i) deadline r) :
    let serial := w.afterEach (fun i => (operations i).program s) t.reading
    (serial (before ++ [i])).live.inForce = { (serial before).live.inForce with deadline } ∧
      ∀ r', t.HasReturned i r' → r' = r := by
  intro serial
  obtain ⟨c, hstands, -⟩ := h.exists_stands_before hagrees hwrites horder
  obtain ⟨hresult, hafter⟩ := hmutes.run hstands
  have hforce : (serial (before ++ [i])).live.inForce = { c.inForce with deadline } :=
    (congrArg (·.live.inForce) (World.afterEach_append_singleton ..)).trans hafter.inForce
  rw [hforce, hstands.inForce]
  exact ⟨rfl, fun r' hr' => (h.result_eq horder hr').trans hresult⟩

/-- A mutation returns once it has had its turn, unless it is refused at once. -/
theorem mem_order_or_eq_pure (h : t.IsSound (fun i => (operations i).program s) w)
    {choices : List (Choice ι)}
    (hplay : (start w fun i => (operations i).program s).play choices = some t)
    (hi : (operations i).IsMutation) (hr : t.HasReturned i r) :
    i ∈ t.order ∨ (operations i).program s = .pure r := by
  rcases Operation.mutation_cases s hi with hlocking | ⟨r', hr'⟩
  · exact .inl (h.mem_order_of_hasReturned hlocking hr)
  · have hrefused : (start w fun i => (operations i).program s).HasReturned i r' :=
      congrArg Running.ready hr'
    have hstill : t.HasReturned i r' :=
      play_induction (·.HasReturned i r') (fun h hstep => hstep.hasReturned h) hrefused hplay
    cases hr.symm.trans hstill
    exact .inr hr'

/-- When the lock is free, those who took it have left what they leave on their own. -/
theorem agrees_of_free (h : t.IsSound (fun i => (operations i).program s) w)
    (hlock : t.world.locked = false) :
    let serial := w.afterEach (fun i => (operations i).program s) t.reading t.order
    t.world.live.inForce = serial.live.inForce ∧
      serial.store.Keeps t.world.live.inForce.kept ∧
      t.world.store.Keeps t.world.live.inForce.kept := by
  cases h.matches_reading with
  | free c _ hworld hserial hagrees _ =>
    have hkept : c.kept = t.world.live.inForce.kept := by rw [hworld.inForce, hagrees]
    exact ⟨hworld.inForce.trans hserial.inForce.symm, hkept ▸ hserial.kept, hkept ▸ hworld.kept⟩
  | held _ _ _ _ _ _ _ hheld => simp [hlock] at hheld

end IsSound

/-- Whatever the callers of a service do at the same time, its mutations behave
as if each had run on its own, one after the other, in the order in which they
took the lock, and had read the clock when it did. What a silence does on its own
is no more than to set the end of the silence, in force and in the store. -/
theorem serializable (s : Service) (operations : ι → Operation) (w : World)
    (hfree : w.locked = false) (hagrees : w.store.Keeps w.live.inForce.kept)
    (hwrites : w.AcceptsWrites) (choices : List (Choice ι)) (t : Session ι Outcome)
    (hplay : (start w fun i => (operations i).program s).play choices = some t) :
    let programs := fun i => (operations i).program s
    let serial := w.afterEach programs t.reading
    -- each mutation takes its turn once, and returns what it returns on its own
    (t.order.Nodup ∧ ∀ i ∈ t.order, (operations i).IsMutation) ∧
    (∀ i r, (operations i).IsMutation → t.HasReturned i r →
      i ∈ t.order ∨ programs i = .pure r) ∧
    (∀ before i after r, t.order = before ++ i :: after → t.HasReturned i r →
      r = ((programs i).run { serial before with wall := t.reading i }).1) ∧
    -- what they leave on their own is stored, and a silence has the end it should have
    (∀ before after, t.order = before ++ after →
      (serial before).store.Keeps (serial before).live.inForce.kept) ∧
    (∀ before i after, t.order = before ++ i :: after →
      (∀ minutes, operations i = .silence minutes →
        (1 ≤ minutes ∧ minutes ≤ 1440) ∧
        (serial (before ++ [i])).live.inForce = { (serial before).live.inForce with
          deadline := some (Service.silenceEnd (t.reading i) minutes) } ∧
        ∀ r, t.HasReturned i r →
          r = .silence (.ok (Service.silenceEnd (t.reading i) minutes))) ∧
      (operations i = .endSilence →
        (serial (before ++ [i])).live.inForce =
          { (serial before).live.inForce with deadline := none } ∧
        ∀ r, t.HasReturned i r → r = .endSilence (.ok ()))) ∧
    -- when the lock is free, they have left what they leave on their own
    (t.world.locked = false →
      t.world.live.inForce = (serial t.order).live.inForce ∧
      (serial t.order).store.Keeps t.world.live.inForce.kept ∧
      t.world.store.Keeps t.world.live.inForce.kept) ∧
    ((∀ i, ∃ r, t.HasReturned i r) → t.world.locked = false) ∧
    -- every view shows what was in force after some of them
    ∀ i readOnly r, operations i = .view readOnly → t.HasReturned i r →
      ∃ k ≤ t.order.length,
        r = .view ((serial (t.order.take k)).live.inForce.view s readOnly) := by
  intro programs serial
  have hstart : (start w programs).IsSound programs w :=
    isSound_start (fun i => Operation.program_uses_of_not_isLocking s) hfree hagrees hwrites
  have hsound : t.IsSound programs w := isSound_of_play hstart hplay
  refine ⟨⟨hsound.nodup, fun i hi => ?_⟩, fun i r hi hr => hsound.mem_order_or_eq_pure hplay hi hr,
    fun before i after r horder hr => hsound.result_eq horder hr, fun before after horder => ?_,
    fun before i after horder => ⟨fun minutes hi => ?_, fun hi => ?_⟩, hsound.agrees_of_free,
    fun hall => ?_, fun i readOnly r hi hr => ?_⟩
  · exact Operation.isMutation_of_isLocking (hsound.isLocking_of_mem hi)
  · obtain ⟨c, hstands, hc⟩ := hsound.exists_stands_before hagrees hwrites horder
    rw [hstands.inForce, ← hc]
    exact hstands.kept
  · have hlocking : ((operations i).program s).IsLocking :=
      hsound.isLocking_of_mem (horder ▸ List.mem_append_right before List.mem_cons_self)
    have hminutes := Operation.minutes_of_isLocking (hi ▸ hlocking)
    exact ⟨hminutes, hsound.mutes hagrees hwrites horder (hi ▸ .silence hminutes)⟩
  · exact hsound.mutes hagrees hwrites horder (hi ▸ .endSilence)
  · by_contra hlock
    obtain ⟨i, hi⟩ := hsound.exists_of_locked (by simpa using hlock)
    obtain ⟨r, hr⟩ := hall i
    exact hi r hr
  · have hprogram : programs i = .step .look fun l => .pure (.view (l.inForce.view s readOnly)) :=
      congrArg (Operation.program s) hi
    rcases glimpses_of_play (fun f => .view (f.view s readOnly)) hstart hprogram hplay with
      hready | ⟨f, hreturned, hshows⟩
    · cases hr.symm.trans hready
    · cases hr.symm.trans hreturned
      obtain ⟨k, hk, rfl⟩ := hshows t.reading hsound.allows_reading
      exact ⟨k, hk, rfl⟩

/-- A world in which nothing has happened. -/
def untouched : World where
  store := .memory {}
  wall := .epoch
  nonces _ := .error "no randomness"

/-- Somebody changes the cooldown, somebody else ends the silence, and a third
caller looks while the update is being stored. -/
def threeCallers : Fin 3 → Operation := ![.update { cooldown := some 0 }, .endSilence, .view false]

/-- The third caller sees the cooldown from before; in the end the new one is in
force and stored. -/
theorem serializable_threeCallers :
    ∃ t : Session (Fin 3) Outcome,
      (start untouched fun i => (threeCallers i).program (.ofOptions {})).play
        ([0, 0, 0, 2, 0, 0, 0, 1, 1, 1, 1].map .go) = some t ∧
      t.order = [0, 1] ∧ t.world.live.config.cooldown = 0 ∧
      t.world.store.Keeps t.world.live.inForce.kept ∧
      ∃ v, t.HasReturned 2 (.view v) ∧ v.config.cooldown = 1800 := by
  obtain ⟨t, hplay, horder, hlock, hcooldown, hview⟩ : ∃ t : Session (Fin 3) Outcome,
      (start untouched fun i => (threeCallers i).program (.ofOptions {})).play
        ([0, 0, 0, 2, 0, 0, 0, 1, 1, 1, 1].map .go) = some t ∧
      t.order = [0, 1] ∧ t.world.locked = false ∧ t.world.live.config.cooldown = 0 ∧
      ∃ v, t.HasReturned 2 (.view v) ∧ v.config.cooldown = 1800 :=
    ⟨_, rfl, rfl, rfl, rfl, _, rfl, rfl⟩
  have hagrees : untouched.store.Keeps untouched.live.inForce.kept :=
    Backend.keeps_memory_iff.mpr ⟨rfl, rfl, rfl⟩
  obtain ⟨-, -, -, -, -, hfree, -⟩ := serializable (.ofOptions {}) threeCallers untouched rfl
    hagrees (fun _ _ _ => rfl) _ t hplay
  exact ⟨t, hplay, horder, hcooldown, (hfree hlock).2.2, hview⟩

end Session

end CpuAlert
