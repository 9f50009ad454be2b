import CpuAlert.Proofs.Service.Operations

/-!
# Mutations are serializable

However the callers of a service take turns, its mutations behave as if each had
run on its own, one after the other, in the order in which they took the lock.
In between, whoever looks sees what one of them has left in force.

The invariant compares the world with the one that the mutations on their own
lead to. While nobody holds the lock, both stand the same, and the store agrees
with what is in force. While somebody does, the world stands at a point from
which the rest of its program leads to the other.

What a mutation on its own reads from the clock is what it has read in the
session. Of the walls that are given to the mutations only those count that
agree with all readings so far. A caller that has not read the clock yet may
still read anything.

## Main definitions

* `Program.IsLocking` — the programs that do everything under the lock
* `Session.Allows` — walls that agree with all readings
* `Session.Matches` — the session compared with mutations on their own
* `Session.IsSound` — the invariant

## Main results

* `Session.IsSound.steps` — a step preserves the invariant
* `Session.isSound_of_play` — so it holds whatever is chosen
-/

namespace CpuAlert

open Program (Leads Lands)
open Time (Instant)

/-- A program that takes the lock, holds it to its end, and lands in agreement
with the store. -/
def Program.IsLocking {α : Type} (p : Program α) : Prop :=
  ∃ body, p = .step .acquire (fun _ => body) ∧ ∀ t c, c.Agrees → Lands (some t) body c

/-- What is left of a bystander's program. -/
def Running.IsBystander {α : Type} : Running α → Prop
  | .ready p => p.Uses Effect.IsBystander
  | .waiting e finish _ next =>
    e.IsBystander ∧ (∀ v : World, v.Spares (finish v).2) ∧
      ∀ r, (next r).Uses Effect.IsBystander

/-- A bystander does not take the lock. -/
theorem Effect.IsBystander.isAcquire_eq_false {e : Effect} (h : e.IsBystander) :
    e.isAcquire = false := by
  cases e with
  | acquire => exact h.elim
  | _ => rfl

namespace World

variable {ι α : Type} (programs : ι → Program α) (walls : ι → Instant) (w : World)

/-- The run of one more program on its own. -/
theorem afterEach_append_singleton (order : List ι) (i : ι) :
    w.afterEach programs walls (order ++ [i]) =
      ((programs i).run { w.afterEach programs walls order with wall := walls i }).2 := by
  simp only [afterEach, List.foldl_append, List.foldl_cons, List.foldl_nil]

/-- Programs that lock, on their own and one after the other, leave agreement. -/
theorem exists_stands_afterEach {c : Standing} (hw : w.Stands c) (hagrees : c.Agrees)
    {order : List ι} (horder : ∀ i ∈ order, (programs i).IsLocking) :
    ∃ c', (w.afterEach programs walls order).Stands c' ∧ c'.Agrees := by
  induction order generalizing w c with
  | nil => exact ⟨c, hw, hagrees⟩
  | cons i order ih =>
    obtain ⟨⟨body, hprogram, hlands⟩, hrest⟩ := List.forall_mem_cons.mp horder
    obtain ⟨r, c', hleads, hagrees'⟩ := hlands (walls i) c hagrees
    exact ih _ (hleads.run_acquire hprogram hw).2 hagrees' hrest

end World

namespace Session

variable {ι α : Type} {programs : ι → Program α} {walls : ι → Instant} {w₀ : World}
  {t t' : Session ι α} {i j : ι}

/-- The walls agree with what those who took the lock have read. -/
def Allows [DecidableEq ι] (t : Session ι α) (walls : ι → Instant) : Prop :=
  ∀ i ∈ t.order, ∀ x ∈ t.readings i, x = walls i

/-- Walls that agree with the readings after a step did so before. -/
theorem Allows.of_steps [DecidableEq ι] (hwalls : t'.Allows walls) (h : t.Steps t') :
    t.Allows walls :=
  fun i hi x hx => hwalls i (h.order_prefix.subset hi) x ((h.readings_prefix i).subset hx)

/-- Those in the list have the results that they get on their own, one after the
other. -/
def HaveReturned (t : Session ι α) (programs : ι → Program α) (walls : ι → Instant) (w₀ : World)
    (done : List ι) : Prop :=
  ∀ before i after, done = before ++ i :: after →
    t.HasReturned i
      ((programs i).run { w₀.afterEach programs walls before with wall := walls i }).1

/-- The session compared with the programs that took the lock, on their own and
one after the other. -/
inductive Matches [DecidableEq ι] (t : Session ι α) (programs : ι → Program α) (walls : ι → Instant)
    (w₀ : World) : Prop
  /-- Nobody holds the lock. -/
  | free (c : Standing) (hlock : t.world.locked = false) (hworld : t.world.Stands c)
      (hserial : (w₀.afterEach programs walls t.order).Stands c) (hagrees : c.Agrees)
      (hdone : t.HaveReturned programs walls w₀ t.order)
  /-- The last one to take the lock holds it. -/
  | held (done : List ι) (i : ι) (p : Program α) (now : Option Instant) (a c c' : Standing)
      (hlock : t.world.locked = true) (horder : t.order = done ++ [i])
      (hrunning : t.running i = .ready p)
      (hbefore : (w₀.afterEach programs walls done).Stands a) (hworld : t.world.Stands c)
      (hleads : Leads now p c
        ((programs i).run { w₀.afterEach programs walls done with wall := walls i }).1 c')
      (hafter : (w₀.afterEach programs walls t.order).Stands c') (hagrees : c'.Agrees)
      (hforce : c.inForce = a.inForce ∨ c.inForce = c'.inForce)
      (hclock : ∀ x, now = some x → x = walls i ∧ t.readings i = [])
      (hdone : t.HaveReturned programs walls w₀ done)

/-- What holds at any time in a session. -/
structure IsSound [DecidableEq ι] (t : Session ι α) (programs : ι → Program α) (w₀ : World) :
    Prop where
  /-- Who has not taken the lock has not begun. -/
  idle (i : ι) (hi : (programs i).IsLocking) (horder : i ∉ t.order) :
    t.running i = .ready (programs i) ∧ t.readings i = []
  /-- The others stay bystanders. -/
  bystander (i : ι) (hi : ¬ (programs i).IsLocking) : (t.running i).IsBystander ∧ i ∉ t.order
  nodup : t.order.Nodup
  /-- Who takes the lock reads the clock at most once. -/
  once (i : ι) (hi : (programs i).IsLocking) : (t.readings i).length ≤ 1
  matches_ (walls : ι → Instant) (h : t.Allows walls) : t.Matches programs walls w₀

theorem HaveReturned.congr {done : List ι} (h : t.HaveReturned programs walls w₀ done)
    (hrunning : ∀ i ∈ done, t'.running i = t.running i) :
    t'.HaveReturned programs walls w₀ done := by
  intro before i after hdone
  have hi : i ∈ done := by simp [hdone]
  exact (hrunning i hi).trans (h before i after hdone)

/-- One more has returned. -/
theorem HaveReturned.append_singleton {done : List ι} (h : t.HaveReturned programs walls w₀ done)
    (hi : t.HasReturned i
      ((programs i).run { w₀.afterEach programs walls done with wall := walls i }).1) :
    t.HaveReturned programs walls w₀ (done ++ [i]) := by
  intro before j after hsplit
  rcases List.eq_nil_or_concat after with rfl | ⟨after, k, rfl⟩
  · obtain ⟨rfl, hji⟩ := List.append_inj' hsplit rfl
    cases hji
    exact hi
  · rw [List.concat_eq_append, ← List.cons_append, ← List.append_assoc] at hsplit
    exact h before j after (List.append_inj' hsplit rfl).1

/-- Whoever has returned cannot go on. -/
theorem HaveReturned.not_ready {done : List ι} (h : t.HaveReturned programs walls w₀ done)
    (hi : i ∈ done) {e : Effect} {next : e.Reply → Program α} :
    t.running i ≠ .ready (.step e next) := by
  obtain ⟨before, after, hdone⟩ := List.append_of_mem hi
  rw [h before i after hdone]
  rintro ⟨⟩

theorem HaveReturned.not_waiting {done : List ι} (h : t.HaveReturned programs walls w₀ done)
    (hi : i ∈ done) {e : Effect} {finish : World → e.Reply × World} {cancelled : e.Reply}
    {next : e.Reply → Program α} : t.running i ≠ .waiting e finish cancelled next := by
  obtain ⟨before, after, hdone⟩ := List.append_of_mem hi
  rw [h before i after hdone]
  rintro ⟨⟩

/-- The holder of the lock has not returned. -/
theorem not_hasReturned_of_leads {p : Program α} {now : Option Instant} {c c' : Standing} {r a : α}
    (hleads : Leads now p c r c') (hrunning : t.running i = .ready p) : ¬ t.HasReturned i a := by
  intro ha
  cases hrunning.symm.trans ha
  cases hleads

/-- Somebody takes the lock. Nobody held it, and the program lands from where the world
stands. -/
theorem Matches.acquire [DecidableEq ι] (h : t.Matches programs walls w₀)
    (hfree : t.world.locked = false) (horder : i ∉ t.order) (hnone : t.readings i = [])
    {body : Program α} (hprogram : programs i = .step .acquire fun _ => body)
    (hlands : ∀ now c, c.Agrees → Lands (some now) body c) {next : Unit → Program α}
    (hbody : next () = body) :
    (t.record i .acquire () next { t.world with locked := true }).Matches programs walls w₀ := by
  have horder' : (t.record i .acquire () next { t.world with locked := true }).order =
      t.order ++ [i] := order_record
  cases h with
  | held _ _ _ _ _ _ _ hlock => simp [hfree] at hlock
  | free c _ hworld hserial hagrees hdone =>
    obtain ⟨r, c', hleads, hagrees'⟩ := hlands (walls i) c hagrees
    -- the same program, alone in the world that the others have left
    obtain ⟨hresult, hafter⟩ := hleads.run_acquire hprogram hserial
    refine .held t.order i body (some (walls i)) c c c' rfl horder' ?_ hserial
      (hworld.of_eq rfl rfl rfl rfl rfl) ?_ ?_ hagrees' (.inl rfl) (fun x hx => ?_)
      (hdone.congr fun j hj => ?_)
    · rw [running_record_self, hbody]
    · rw [hresult]
      exact hleads
    · rw [horder', World.afterEach_append_singleton]
      exact hafter
    · refine ⟨(Option.some.inj hx).symm, ?_⟩
      rw [readings_record_self, hnone]
      rfl
    · exact running_record_of_ne fun hji => horder (hji ▸ hj)

/-- The holder of the lock goes on. It still leads to the same end, or it has given the
lock back and returned. -/
theorem Matches.advance [DecidableEq ι] (h : t.Matches programs walls w₀) (hi : i ∈ t.order)
    {e : Effect} {next : e.Reply → Program α} (hready : t.running i = .ready (.step e next))
    {reply : e.Reply} {w : World} (hbegin : t.world.begin e = (.done reply, w))
    (hwalls : (t.record i e reply next w).Allows walls) :
    (t.record i e reply next w).Matches programs walls w₀ := by
  have hothers {done : List ι} (hdone : t.HaveReturned programs walls w₀ done) :
      (t.record i e reply next w).HaveReturned programs walls w₀ done := by
    refine hdone.congr fun j hj => running_record_of_ne ?_
    rintro rfl
    exact hdone.not_ready hj hready
  cases h with
  | free c _ _ _ _ hdone => exact absurd hready (hdone.not_ready hi)
  | held done j p now a c c' hlock horder hrunning hbefore hworld hleads hafter hagrees hforce
      hclock hdone =>
    obtain rfl : i = j := by
      rw [horder, List.mem_append, List.mem_singleton] at hi
      exact hi.resolve_left fun hmem => hdone.not_ready hmem hready
    cases hrunning.symm.trans hready
    -- a reading that happens now is among those that the walls agree with
    have hwall : ∀ x, now = some x → e = .clock → t.world.wall = x := by
      rintro x hx rfl
      cases hbegin
      have hmem : t.world.wall ∈ (t.record i .clock t.world.wall next t.world).readings i := by
        rw [readings_record_self]
        exact List.mem_append_right _ (List.mem_singleton_self _)
      have hkeeps : i ∈ (t.record i .clock t.world.wall next t.world).order := by
        rw [order_record]
        exact List.mem_append_left _ hi
      exact (hwalls i hkeeps _ hmem).trans (hclock x hx).1.symm
    obtain ⟨reply', w', hbegin', hacquire, -, hstep⟩ := hleads.step hworld hwall
    cases hbegin.symm.trans hbegin'
    have horder' : (t.record i e reply next w).order = t.order :=
      order_record_of_isAcquire_eq_false hacquire
    rcases hstep with ⟨hreturn, hw, rfl, hunlocked, -⟩ |
      ⟨now', d, hnext, hw, hlock', hforce', hread⟩
    · refine .free c hunlocked hw (horder' ▸ hafter) hagrees ?_
      rw [horder', horder]
      refine (hothers hdone).append_singleton ?_
      rw [HasReturned, running_record_self, hreturn]
    · refine .held done i (next reply) now' a d c' (hlock'.trans hlock) (horder'.trans horder)
        running_record_self hbefore hw hnext (horder' ▸ hafter) hagrees ?_ (fun x hx => ?_)
        (hothers hdone)
      · rcases hforce' with hsame | hsame
        · exact hforce.imp hsame.trans hsame.trans
        · exact .inr hsame
      · rcases hread with ⟨rfl, hnone⟩ | ⟨rfl, -⟩
        · rw [readings_record_self, hnone]
          exact ⟨(hclock x hx).1, by simp [(hclock x hx).2]⟩
        · cases hx

namespace IsSound

variable [DecidableEq ι]

theorem isLocking_of_mem (h : t.IsSound programs w₀) (hi : i ∈ t.order) :
    (programs i).IsLocking := by
  by_contra hnot
  exact (h.bystander i hnot).2 hi

/-- The readings themselves are walls that agree with them. -/
theorem allows_reading (h : t.IsSound programs w₀) : t.Allows t.reading := by
  intro i hi x hx
  have honce := h.once i (h.isLocking_of_mem hi)
  rw [reading]
  generalize t.readings i = readings at hx honce ⊢
  obtain _ | ⟨y, _ | ⟨z, rest⟩⟩ := readings
  · cases hx
  · exact List.mem_singleton.mp hx
  · exact absurd honce (by simp)

theorem matches_reading (h : t.IsSound programs w₀) : t.Matches programs t.reading w₀ :=
  h.matches_ t.reading h.allows_reading

/-- Who has taken the lock never waits for anything else. -/
theorem not_waiting (h : t.IsSound programs w₀) (hi : (programs i).IsLocking) {e : Effect}
    {finish : World → e.Reply × World} {cancelled : e.Reply} {next : e.Reply → Program α} :
    t.running i ≠ .waiting e finish cancelled next := by
  by_cases horder : i ∈ t.order
  · cases h.matches_reading with
    | free c _ _ _ _ hdone => exact hdone.not_waiting horder
    | held done j p _ _ _ _ _ hdoneOrder hrunning _ _ _ _ _ _ _ hdone =>
      rw [hdoneOrder, List.mem_append, List.mem_singleton] at horder
      rcases horder with hmem | rfl
      · exact hdone.not_waiting hmem
      · rw [hrunning]
        rintro ⟨⟩
  · rw [(h.idle i hi horder).1]
    rintro ⟨⟩

/-- What leaves everything standing, and the programs that lock where they are,
preserves the invariant. -/
theorem of_spares (h : t.IsSound programs w₀) (hworld : t.world.Spares t'.world)
    (horder : t'.order = t.order)
    (hlocking : ∀ j, (programs j).IsLocking →
      t'.running j = t.running j ∧ t'.readings j = t.readings j)
    (hbystander : ∀ j, ¬ (programs j).IsLocking → (t'.running j).IsBystander) :
    t'.IsSound programs w₀ where
  idle j hj hmem := by
    rw [(hlocking j hj).1, (hlocking j hj).2]
    exact h.idle j hj (horder ▸ hmem)
  bystander j hj := ⟨hbystander j hj, horder ▸ (h.bystander j hj).2⟩
  nodup := horder ▸ h.nodup
  once j hj := (hlocking j hj).2 ▸ h.once j hj
  matches_ walls hwalls := by
    have hsame (j : ι) (hj : j ∈ t.order) := hlocking j (h.isLocking_of_mem hj)
    have hallows : t.Allows walls := by
      intro j hj x hx
      refine hwalls j (horder ▸ hj) x ?_
      rwa [(hsame j hj).2]
    cases h.matches_ walls hallows with
    | free c hlock hstands hserial hagrees hdone =>
      refine .free c (hworld.2.trans hlock) (hworld.1 c hstands) (horder ▸ hserial) hagrees ?_
      exact horder ▸ hdone.congr fun j hj => (hsame j hj).1
    | held done j p now a c c' hlock hdoneOrder hrunning hbefore hstands hleads hafter hagrees
        hforce hclock hdone =>
      have hj : j ∈ t.order := by simp [hdoneOrder]
      refine .held done j p now a c c' (hworld.2.trans hlock) (horder.trans hdoneOrder)
        ((hsame j hj).1.trans hrunning) hbefore (hworld.1 c hstands) hleads (horder ▸ hafter)
        hagrees hforce (fun x hx => ?_) (hdone.congr fun k hk => (hsame k ?_).1)
      · rw [(hsame j hj).2]
        exact hclock x hx
      · simp [hdoneOrder, hk]

/-- An effect of a bystander has its reply. -/
theorem record_bystander (h : t.IsSound programs w₀) (hi : ¬ (programs i).IsLocking)
    {e : Effect} (he : e.IsBystander) {reply : e.Reply} {next : e.Reply → Program α} {w : World}
    (hnext : (next reply).Uses Effect.IsBystander) (hw : t.world.Spares w) :
    (t.record i e reply next w).IsSound programs w₀ := by
  refine h.of_spares hw ?_ (fun j hj => ?_) fun j hj => ?_
  · exact order_record_of_isAcquire_eq_false he.isAcquire_eq_false
  · have hne : j ≠ i := by rintro rfl; exact hi hj
    exact ⟨running_record_of_ne hne, readings_record_of_ne hne⟩
  · by_cases hne : j = i
    · subst hne
      rw [running_record_self]
      exact hnext
    · rw [running_record_of_ne hne]
      exact (h.bystander j hj).1

/-- A bystander begins to wait. -/
theorem wait_bystander (h : t.IsSound programs w₀) (hi : ¬ (programs i).IsLocking)
    {e : Effect} (he : e.IsBystander) {finish : World → e.Reply × World} {cancelled : e.Reply}
    {next : e.Reply → Program α} {w : World} (hfinish : ∀ v : World, v.Spares (finish v).2)
    (hnext : ∀ r, (next r).Uses Effect.IsBystander) (hw : t.world.Spares w) :
    IsSound { t with
      world := w
      running := Function.update t.running i (.waiting e finish cancelled next) }
      programs w₀ := by
  refine h.of_spares hw rfl (fun j hj => ?_) fun j hj => ?_
  · have hne : j ≠ i := by rintro rfl; exact hi hj
    exact ⟨Function.update_of_ne hne .., rfl⟩
  · by_cases hne : j = i
    · subst hne
      simp only [Function.update_self]
      exact ⟨he, hfinish, hnext⟩
    · simp only [Function.update_of_ne hne]
      exact (h.bystander j hj).1

/-- Somebody takes the lock. -/
theorem acquire (h : t.IsSound programs w₀) (hi : (programs i).IsLocking) (horder : i ∉ t.order)
    (hfree : t.world.locked = false) {next : Unit → Program α}
    (hready : t.running i = .ready (.step .acquire next)) :
    (t.record i .acquire () next { t.world with locked := true }).IsSound programs w₀ := by
  obtain ⟨hidle, hnone⟩ := h.idle i hi horder
  obtain ⟨body, hprogram, hlands⟩ := hi
  have horder' : (t.record i .acquire () next { t.world with locked := true }).order =
      t.order ++ [i] := order_record
  have hreadings (j : ι) :
      (t.record i .acquire () next { t.world with locked := true }).readings j = t.readings j := by
    by_cases hne : j = i
    · subst hne
      rw [readings_record_self]
      exact List.append_nil _
    · exact readings_record_of_ne hne
  have hbody : next () = body := by
    have heq := hidle.symm.trans hready
    rw [hprogram] at heq
    cases heq
    rfl
  have hne {j : ι} (hj : j ∉ t.order ++ [i]) : j ≠ i ∧ j ∉ t.order := by
    simpa [not_or, and_comm] using hj
  refine ⟨fun j hj hmem => ?_, fun j hj => ?_, ?_, fun j hj => ?_, fun walls hwalls => ?_⟩
  -- to the others nothing happens but that the order grows
  · obtain ⟨hji, hmem⟩ := hne (horder' ▸ hmem)
    rw [running_record_of_ne hji, hreadings]
    exact h.idle j hj hmem
  · have hji : j ≠ i := by rintro rfl; exact hj ⟨body, hprogram, hlands⟩
    rw [running_record_of_ne hji, horder']
    obtain ⟨hbystander, hmem⟩ := h.bystander j hj
    exact ⟨hbystander, by simp [hmem, hji]⟩
  · rw [horder']
    exact List.nodup_append.mpr ⟨h.nodup, by simp, by rintro j hj _ hi' rfl; simp_all⟩
  · rw [hreadings]
    exact h.once j hj
  · have hbefore := hwalls.of_steps (Steps.done i .acquire next () _ hready hfree rfl)
    exact (h.matches_ walls hbefore).acquire hfree horder hnone hprogram hlands hbody

/-- Where the holder of the lock is led to. -/
theorem leads (h : t.IsSound programs w₀) (hi : i ∈ t.order) {e : Effect}
    {next : e.Reply → Program α} (hready : t.running i = .ready (.step e next)) :
    ∃ now c r c', Leads now (.step e next) c r c' ∧ t.world.Stands c ∧
      ∀ x, now = some x → t.world.wall = x ∧ t.readings i = [] := by
  cases h.matches_reading with
  | free c _ _ _ _ hdone => exact absurd hready (hdone.not_ready hi)
  | held done j p now a c c' _ horder hrunning _ hworld hleads _ _ _ hclock hdone =>
    rw [horder, List.mem_append, List.mem_singleton] at hi
    rcases hi with hmem | rfl
    · exact absurd hready (hdone.not_ready hmem)
    · cases hrunning.symm.trans hready
      refine ⟨now, c, _, c', hleads, hworld, fun x hx => ?_⟩
      obtain ⟨hwall, hnone⟩ := hclock x hx
      exact ⟨by rw [hwall, reading, hnone, List.headD_nil], hnone⟩

/-- The holder of the lock goes on. -/
theorem advance (h : t.IsSound programs w₀) (hi : i ∈ t.order) {e : Effect}
    {next : e.Reply → Program α} (hready : t.running i = .ready (.step e next))
    (hfree : e.isHeldUp t.world = false) {reply : e.Reply} {w : World}
    (hbegin : t.world.begin e = (.done reply, w)) :
    (t.record i e reply next w).IsSound programs w₀ := by
  have hlocking := h.isLocking_of_mem hi
  obtain ⟨now, c, r, c', hleads, hstands, hnow⟩ := h.leads hi hready
  obtain ⟨reply', w', hbegin', hacquire, -, hread⟩ :=
    hleads.step hstands fun x hx _ => (hnow x hx).1
  cases hbegin.symm.trans hbegin'
  have horder' : (t.record i e reply next w).order = t.order :=
    order_record_of_isAcquire_eq_false hacquire
  have hne {j : ι} (hj : ¬ (programs j).IsLocking ∨ j ∉ t.order) : j ≠ i := by
    rintro rfl
    exact hj.elim (absurd hlocking) (absurd hi)
  refine ⟨fun j hj hmem => ?_, fun j hj => ?_, horder' ▸ h.nodup, fun j hj => ?_,
    fun walls hwalls => ?_⟩
  · rw [horder'] at hmem
    rw [running_record_of_ne (hne (.inr hmem)), readings_record_of_ne (hne (.inr hmem))]
    exact h.idle j hj hmem
  · rw [running_record_of_ne (hne (.inl hj)), horder']
    exact h.bystander j hj
  · by_cases hji : j = i
    · subst hji
      rw [readings_record_self]
      -- it reads the clock only if it may, and then it has not done so before
      rcases hread with ⟨-, -, -, -, hnone⟩ | ⟨now', d, -, -, -, -, ⟨-, hnone⟩ | ⟨-, hsome⟩⟩
      · simpa [hnone] using h.once j hj
      · simpa [hnone] using h.once j hj
      · obtain ⟨x, hx⟩ := Option.isSome_iff_exists.mp hsome
        rw [(hnow x hx).2]
        cases e.reading? reply <;> simp
    · rw [readings_record_of_ne hji]
      exact h.once j hj
  · have hbefore := hwalls.of_steps (Steps.done i e next reply w hready hfree hbegin)
    exact (h.matches_ walls hbefore).advance hi hready hbegin hwalls

/-- The first effect of a program that locks takes the lock. -/
theorem eq_acquire (h : t.IsSound programs w₀) (hi : (programs i).IsLocking) (horder : i ∉ t.order)
    {e : Effect} {next : e.Reply → Program α} (hready : t.running i = .ready (.step e next)) :
    e = .acquire := by
  obtain ⟨body, hprogram, -⟩ := id hi
  have heq := (h.idle i hi horder).1.symm.trans hready
  rw [hprogram] at heq
  cases heq
  rfl

/-- A step preserves the invariant. -/
theorem steps (h : t.IsSound programs w₀) (hstep : t.Steps t') : t'.IsSound programs w₀ := by
  -- whoever goes on either locks, before its turn or in it, or is a bystander
  cases hstep with
  | done i e next reply w hready hfree hbegin =>
    by_cases hi : (programs i).IsLocking
    · by_cases horder : i ∈ t.order
      · exact h.advance horder hready hfree hbegin
      · obtain rfl := h.eq_acquire hi horder hready
        cases hbegin
        exact h.acquire hi horder hfree hready
    · have hrest := (h.bystander i hi).1
      rw [hready] at hrest
      have hspares := t.world.isSparedBy_begin hrest.1
      rw [hbegin] at hspares
      exact h.record_bystander hi hrest.1 (hrest.2 reply trivial) hspares.1
  | wait i e next end_ finish cancelled w hready hfree hbegin =>
    by_cases hi : (programs i).IsLocking
    · by_cases horder : i ∈ t.order
      · obtain ⟨now, c, r, c', hleads, hstands, hnow⟩ := h.leads horder hready
        obtain ⟨reply, w', hdone, -⟩ := hleads.step hstands fun x hx _ => (hnow x hx).1
        cases hbegin.symm.trans hdone
      · obtain rfl := h.eq_acquire hi horder hready
        cases hbegin
    · have hrest := (h.bystander i hi).1
      rw [hready] at hrest
      have hspares := t.world.isSparedBy_begin hrest.1
      rw [hbegin] at hspares
      exact h.wait_bystander hi hrest.1 hspares.2 (fun r => hrest.2 r trivial) hspares.1
  | finish i e finish cancelled next hwaiting =>
    have hi : ¬ (programs i).IsLocking := fun hi => h.not_waiting hi hwaiting
    have hrest := (h.bystander i hi).1
    rw [hwaiting] at hrest
    exact h.record_bystander hi hrest.1 (hrest.2.2 _) (hrest.2.1 t.world)
  | cut i e finish cancelled next hwaiting =>
    have hi : ¬ (programs i).IsLocking := fun hi => h.not_waiting hi hwaiting
    have hrest := (h.bystander i hi).1
    rw [hwaiting] at hrest
    exact h.record_bystander hi hrest.1 (hrest.2.2 _) (.refl _)
  | turn wall uptime =>
    exact h.of_spares (World.spares_of_eq rfl rfl rfl rfl rfl rfl) rfl
      (fun j _ => ⟨rfl, rfl⟩) fun j hj => (h.bystander j hj).1
  | cancel =>
    exact h.of_spares t.world.spares_fire rfl (fun j _ => ⟨rfl, rfl⟩)
      fun j hj => (h.bystander j hj).1

/-! ## What callers get -/

/-- A program that locks returns only once it has had its turn. -/
theorem mem_order_of_hasReturned (h : t.IsSound programs w₀) (hi : (programs i).IsLocking)
    {a : α} (ha : t.HasReturned i a) : i ∈ t.order := by
  by_contra horder
  obtain ⟨body, hprogram, -⟩ := id hi
  have heq := (h.idle i hi horder).1.symm.trans ha
  rw [hprogram] at heq
  cases heq

/-- A program that locks returns what it returns on its own. -/
theorem result_eq (h : t.IsSound programs w₀) {before after : List ι} {a : α}
    (horder : t.order = before ++ i :: after) (ha : t.HasReturned i a) :
    a = ((programs i).run
      { w₀.afterEach programs t.reading before with wall := t.reading i }).1 := by
  cases h.matches_reading with
  | free _ _ _ _ _ hdone =>
    cases ha.symm.trans (hdone before i after horder)
    rfl
  | held done j p now _ c c' _ hdoneOrder hrunning _ _ hleads _ _ _ _ hdone =>
    rw [hdoneOrder] at horder
    rcases List.eq_nil_or_concat after with rfl | ⟨after, k, rfl⟩
    · obtain ⟨-, hji⟩ := List.append_inj' horder rfl
      cases hji
      exact absurd ha (not_hasReturned_of_leads hleads hrunning)
    · rw [List.concat_eq_append, ← List.cons_append, ← List.append_assoc] at horder
      cases ha.symm.trans (hdone before i after (List.append_inj' horder rfl).1)
      rfl

/-- Somebody who has not returned holds the lock as long as it is held. -/
theorem exists_of_locked (h : t.IsSound programs w₀) (hlock : t.world.locked = true) :
    ∃ i, ∀ a, ¬ t.HasReturned i a := by
  cases h.matches_reading with
  | free _ hfree => simp [hlock] at hfree
  | held done i p now _ c c' _ _ hrunning _ _ hleads =>
    exact ⟨i, fun a => not_hasReturned_of_leads hleads hrunning⟩

end IsSound

/-! ## Reachable sessions -/

variable [DecidableEq ι]

/-- The invariant holds at the beginning. -/
theorem isSound_start (hprograms : ∀ i, ¬ (programs i).IsLocking →
      (programs i).Uses Effect.IsBystander) (hfree : w₀.locked = false)
    (hagrees : w₀.store.Keeps w₀.live.inForce.kept) (hwrites : w₀.AcceptsWrites) :
    (start w₀ programs).IsSound programs w₀ where
  idle i hi horder := ⟨rfl, rfl⟩
  bystander i hi := ⟨hprograms i hi, List.not_mem_nil⟩
  nodup := List.nodup_nil
  once i hi := Nat.zero_le _
  matches_ walls hwalls := by
    have hstands := World.stands_standing hagrees hwrites
    refine .free _ hfree hstands hstands rfl fun before i after hnil => ?_
    exact absurd hnil (by simp [order, start])

/-- The invariant holds whatever is chosen. -/
theorem isSound_of_play (h : (start w₀ programs).IsSound programs w₀) {choices : List (Choice ι)}
    (hplay : (start w₀ programs).play choices = some t) : t.IsSound programs w₀ :=
  play_induction (·.IsSound programs w₀) IsSound.steps h hplay

/-! ## What the others see -/

/-- This was in force after some of those who took the lock. -/
def Shows (t : Session ι α) (programs : ι → Program α) (walls : ι → Instant) (w₀ : World)
    (f : InForce) : Prop :=
  ∃ k ≤ t.order.length, f = (w₀.afterEach programs walls (t.order.take k)).live.inForce

/-- What is in force has been left by one of those who took the lock. -/
theorem Matches.shows (h : t.Matches programs walls w₀) :
    t.Shows programs walls w₀ t.world.live.inForce := by
  cases h with
  | free c _ hworld hserial =>
    refine ⟨t.order.length, Nat.le_refl _, ?_⟩
    rw [List.take_length, hworld.inForce, hserial.inForce]
  | held done i p now a c c' _ horder _ hbefore hworld _ hafter _ hforce =>
    -- the holder has not put anything into force yet, or it already has
    rcases hforce with hforce | hforce
    · refine ⟨done.length, by simp [horder], ?_⟩
      rw [horder, List.take_left, hworld.inForce, hforce, hbefore.inForce]
    · refine ⟨t.order.length, Nat.le_refl _, ?_⟩
      rw [List.take_length, hworld.inForce, hforce, hafter.inForce]

theorem Shows.of_steps {f : InForce} (h : t.Shows programs walls w₀ f) (hstep : t.Steps t') :
    t'.Shows programs walls w₀ f := by
  obtain ⟨k, hk, hf⟩ := h
  obtain ⟨rest, hrest⟩ := hstep.order_prefix
  refine ⟨k, Nat.le_trans hk hstep.order_prefix.length_le, ?_⟩
  rw [← hrest, List.take_append_of_le_length hk, hf]

/-- A caller that looks once has still to look, or has seen what was in force
after some of those who took the lock. -/
def Glimpses (t : Session ι α) (programs : ι → Program α) (w₀ : World) (i : ι)
    (see : InForce → α) : Prop :=
  t.running i = .ready (.step .look fun l => .pure (see l.inForce)) ∨
    ∃ f, t.HasReturned i (see f) ∧ ∀ walls, t.Allows walls → t.Shows programs walls w₀ f

theorem Glimpses.steps {see : InForce → α} (hsound : t.IsSound programs w₀)
    (h : t.Glimpses programs w₀ i see) (hstep : t.Steps t') : t'.Glimpses programs w₀ i see := by
  rcases h with hready | ⟨f, hreturned, hshows⟩
  · rcases hstep.running_cases i with hsame | ⟨e, next, hready', hbegun⟩ | ⟨_, _, _, _, hwaiting⟩
    · exact .inl (hsame.trans hready)
    · cases hready.symm.trans hready'
      rcases hbegun with ⟨reply, w, hbegin, hreturned⟩ | ⟨_, _, _, _, hbegin⟩
      · cases hbegin
        exact .inr ⟨t.world.live.inForce, hreturned, fun walls hwalls =>
          (hsound.matches_ walls (hwalls.of_steps hstep)).shows.of_steps hstep⟩
      · cases hbegin
    · cases hready.symm.trans hwaiting
  · exact .inr ⟨f, hstep.hasReturned hreturned,
      fun walls hwalls => (hshows walls (hwalls.of_steps hstep)).of_steps hstep⟩

theorem glimpses_of_play (see : InForce → α) (h : (start w₀ programs).IsSound programs w₀)
    (hi : programs i = .step .look fun l => .pure (see l.inForce)) {choices : List (Choice ι)}
    (hplay : (start w₀ programs).play choices = some t) : t.Glimpses programs w₀ i see := by
  have hstart : (start w₀ programs).Glimpses programs w₀ i see := .inl (congrArg Running.ready hi)
  exact (play_induction (fun t => t.IsSound programs w₀ ∧ t.Glimpses programs w₀ i see)
    (fun h hstep => ⟨h.1.steps hstep, h.2.steps h.1 hstep⟩) ⟨h, hstart⟩ hplay).2

end Session

end CpuAlert
