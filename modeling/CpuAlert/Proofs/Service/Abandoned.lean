import CpuAlert.Proofs.Service.Leaving
import CpuAlert.Proofs.Service.Restart
import CpuAlert.Proofs.Service.Serializable

/-!
# Sessions in which calls are abandoned

A mutation that is abandoned after it has written something leaves what is kept
beside something else in force, and an update even leaves a new configuration beside
an old record.

What is in force and what is kept can nevertheless be accounted for. Whenever the
lock is free, those who took it have returned or left, one after the other, and
each has brought about one of a few things. They are in step as long as nobody has
left with the lock, and no update has failed to store what it should.

## Main definitions

* `Account` — what several mutations have brought about
* `Session.IsAccounted` — the invariant

## Main results

* `Session.IsAccounted.steps` — a step preserves the invariant
* `Session.accounted` — what is in force and what is kept
* `Session.torn_by_leaving` — an update that is abandoned between its writes
-/

namespace CpuAlert

/-! ## Sessions -/

/-- What those who took the lock have brought about, one after the other, each with
its result unless it left. -/
inductive Account {ι : Type} (s : Service) (errands : ι → Errand) (c₀ : Sides) :
    List (ι × Option Outcome) → Sides → Prop
  | nil : Account s errands c₀ [] c₀
  | snoc {ends : List (ι × Option Outcome)} {c c' : Sides} (h : Account s errands c₀ ends c)
      (i : ι) (r : Option Outcome) (hbrings : Operation.Brings s c (errands i).operation r c') :
    Account s errands c₀ (ends ++ [(i, r)]) c'

namespace Account

variable {ι : Type} {s : Service} {errands : ι → Errand} {c₀ c : Sides}
  {ends : List (ι × Option Outcome)}

theorem inStep (h : Account s errands c₀ ends c) (hc : c₀.InStep)
    (hends : ∀ x ∈ ends, ∃ a, x.2 = some a ∧ ¬ a.FailsToStore) : c.InStep := by
  induction h with
  | nil => exact hc
  | snoc h i r hbrings ih =>
    simp only [List.forall_mem_append, List.forall_mem_singleton] at hends
    exact hbrings.inStep (ih hends.1) hends.2

end Account

namespace Session

variable {ι : Type} {s : Service} {errands : ι → Errand} {c₀ : Sides}
  {t t' : Session ι (Option Outcome)} {i : ι}

/-- These have returned, or left. -/
def HaveEnded (t : Session ι (Option Outcome)) (ends : List (ι × Option Outcome)) : Prop :=
  ∀ x ∈ ends, t.HasReturned x.1 x.2

theorem HaveEnded.congr {ends : List (ι × Option Outcome)} (h : t.HaveEnded ends)
    (hsame : ∀ j ∈ ends.map Prod.fst, t'.running j = t.running j) : t'.HaveEnded ends :=
  fun x hx => (hsame x.1 (List.mem_map_of_mem hx)).trans (h x hx)

/-- Whoever can go on is somebody else. -/
theorem HaveEnded.not_mem {ends : List (ι × Option Outcome)} (h : t.HaveEnded ends) {e : Effect}
    {next : e.Reply → Program (Option Outcome)} (hready : t.running i = .ready (.step e next)) :
    i ∉ ends.map Prod.fst := by
  intro hmem
  obtain ⟨x, hx, rfl⟩ := List.mem_map.mp hmem
  cases (h x hx).symm.trans hready

theorem HaveEnded.record [DecidableEq ι] {ends : List (ι × Option Outcome)} (h : t.HaveEnded ends)
    {e : Effect} {reply : e.Reply} {next : e.Reply → Program (Option Outcome)} {w : World}
    (hready : t.running i = .ready (.step e next)) : (t.record i e reply next w).HaveEnded ends :=
  h.congr fun _ hj => running_record_of_ne fun hji => h.not_mem hready (hji ▸ hj)

/-- What is left to somebody who has not taken the lock. -/
inductive IsIdle (s : Service) (op : Operation) : Running (Option Outcome) → Prop
  /-- It stays a bystander. -/
  | bystander {p : Program (Option Outcome)} (hp : p.Uses Effect.IsBystander) :
    IsIdle s op (.ready p)
  | waiting {e : Effect} {finish : World → e.Reply × World} {cancelled : e.Reply}
      {next : e.Reply → Program (Option Outcome)} (he : e.IsBystander)
      (hnext : ∀ r, (next r).Uses Effect.IsBystander)
      (hends : ∀ v : World, v.Acts e (finish v).1 (finish v).2 ∧ v.Acts e cancelled v) :
    IsIdle s op (.waiting e finish cancelled next)
  /-- It is about to take the lock. -/
  | entrant {body : Program Outcome} (patience : Option Nat)
      (hbody : ∀ c, body.Yields (Operation.Brings s c op) c) :
    IsIdle s op (.ready (.step .acquire fun _ => body.leaving patience (some .release)))

/-- The sides of the world, accounted for by those who took the lock. -/
inductive Balances (t : Session ι (Option Outcome)) (s : Service) (errands : ι → Errand)
    (c₀ : Sides) : Prop
  /-- Nobody holds the lock. -/
  | free (ends : List (ι × Option Outcome)) (c : Sides) (hlock : t.world.locked = false)
      (horder : t.order = ends.map Prod.fst) (hends : t.HaveEnded ends)
      (haccount : Account s errands c₀ ends c) (hsides : t.world.HasSides c)
  /-- The last one to take the lock holds it. -/
  | held (ends : List (ι × Option Outcome)) (i : ι) (c c' : Sides) (p : Program Outcome)
      (patience : Option Nat) (hlock : t.world.locked = true)
      (horder : t.order = ends.map Prod.fst ++ [i]) (hends : t.HaveEnded ends)
      (haccount : Account s errands c₀ ends c) (hsides : t.world.HasSides c')
      (hrunning : t.running i = .ready (p.leaving patience (some .release)))
      (hyields : p.Yields (Operation.Brings s c (errands i).operation) c')

/-- What holds at any time in a session in which calls may be abandoned. -/
structure IsAccounted (t : Session ι (Option Outcome)) (s : Service) (errands : ι → Errand)
    (c₀ : Sides) : Prop where
  idle (i : ι) (hi : i ∉ t.order) : IsIdle s (errands i).operation (t.running i)
  balances : t.Balances s errands c₀

/-- The invariant holds at the beginning. -/
theorem isAccounted_start (s : Service) (errands : ι → Errand) {w : World}
    (hfree : w.locked = false) (hsides : w.HasSides c₀) :
    (start w fun i => (errands i).program s).IsAccounted s errands c₀ := by
  refine ⟨fun i _ => ?_, .free [] c₀ hfree rfl (List.forall_mem_nil _) .nil hsides⟩
  show IsIdle s (errands i).operation (.ready ((errands i).program s))
  by_cases hop : (errands i).operation.IsMutation
  · rcases Operation.program_of_isMutation s hop with ⟨body, hprogram, hbody⟩ | ⟨r, hr⟩
    · rw [Errand.program, hprogram, Program.leaving]
      split
      · exact .bystander trivial
      · exact .entrant _ hbody.yields
    · rw [Errand.program, hr]
      exact .bystander trivial
  · exact .bystander ((Operation.program_uses s hop).leaving _ (by simp))

namespace IsAccounted

/-- Who has taken the lock has returned, or goes on with the lock. -/
theorem running_of_mem (h : t.IsAccounted s errands c₀) (hi : i ∈ t.order) :
    (∃ r, t.HasReturned i r) ∨
      ∃ (p : Program Outcome) (patience : Option Nat),
        t.running i = .ready (p.leaving patience (some .release)) := by
  have hreturned {ends : List (ι × Option Outcome)} (hmem : i ∈ ends.map Prod.fst)
      (hends : t.HaveEnded ends) : ∃ r, t.HasReturned i r := by
    obtain ⟨x, hx, rfl⟩ := List.mem_map.mp hmem
    exact ⟨x.2, hends x hx⟩
  cases h.balances with
  | free ends c _ horder hends => exact .inl (hreturned (horder ▸ hi) hends)
  | held ends j _ _ p patience _ horder hends _ _ hrunning =>
    rw [horder, List.mem_append, List.mem_singleton] at hi
    rcases hi with hmem | rfl
    · exact .inl (hreturned hmem hends)
    · exact .inr ⟨p, patience, hrunning⟩

/-- Only a bystander waits for the end of an effect. -/
theorem of_waiting (h : t.IsAccounted s errands c₀) {e : Effect}
    {finish : World → e.Reply × World} {cancelled : e.Reply}
    {next : e.Reply → Program (Option Outcome)}
    (hwaiting : t.running i = .waiting e finish cancelled next) :
    i ∉ t.order ∧ e.IsBystander ∧ (∀ r, (next r).Uses Effect.IsBystander) ∧
      ∀ v : World, v.Acts e (finish v).1 (finish v).2 ∧ v.Acts e cancelled v := by
  have hi : i ∉ t.order := by
    intro hi
    rcases h.running_of_mem hi with ⟨r, hr⟩ | ⟨p, patience, hrunning⟩
    · cases hr.symm.trans hwaiting
    · cases hrunning.symm.trans hwaiting
  have hidle := h.idle i hi
  rw [hwaiting] at hidle
  cases hidle with
  | waiting he hnext hends => exact ⟨hi, he, hnext, hends⟩

/-- What leaves both sides, the lock and whoever has taken it as they are preserves
the invariant. -/
theorem of_idle (h : t.IsAccounted s errands c₀)
    (hsides : ∀ c, t.world.HasSides c → t'.world.HasSides c)
    (hlocked : t'.world.locked = t.world.locked) (horder : t'.order = t.order)
    (hsame : ∀ j ∈ t.order, t'.running j = t.running j)
    (hidle : ∀ j ∉ t.order, IsIdle s (errands j).operation (t'.running j)) :
    t'.IsAccounted s errands c₀ := by
  refine ⟨fun j hj => hidle j (horder ▸ hj), ?_⟩
  cases h.balances with
  | free ends c hlock hdone hends haccount hc =>
    exact .free ends c (hlocked.trans hlock) (horder.trans hdone)
      (hends.congr fun j hj => hsame j (hdone ▸ hj)) haccount (hsides c hc)
  | held ends j c c' p patience hlock hdone hends haccount hc hrunning hyields =>
    have hmem : j ∈ t.order := by simp [hdone]
    exact .held ends j c c' p patience (hlocked.trans hlock) (horder.trans hdone)
      (hends.congr fun k hk => hsame k (hdone ▸ List.mem_append_left _ hk)) haccount
      (hsides c' hc) ((hsame j hmem).trans hrunning) hyields

variable [DecidableEq ι]

/-- Whoever has not taken the lock is idle while others go on. -/
theorem idle_record (h : t.IsAccounted s errands c₀) {e : Effect} {reply : e.Reply}
    {next : e.Reply → Program (Option Outcome)} {w : World} {j : ι} (hj : j ∉ t.order)
    (hji : j ≠ i) :
    IsIdle s (errands j).operation ((t.record i e reply next w).running j) := by
  rw [running_record_of_ne hji]
  exact h.idle j hj

/-- An effect of a bystander has its reply. -/
theorem record_bystander (h : t.IsAccounted s errands c₀) (hi : i ∉ t.order) {e : Effect}
    (he : e.IsBystander) {reply : e.Reply} {next : e.Reply → Program (Option Outcome)} {w : World}
    (hnext : (next reply).Uses Effect.IsBystander) (hmoves : t.world.Moves e reply w) :
    (t.record i e reply next w).IsAccounted s errands c₀ := by
  have hlock : e.lock t.world.locked = t.world.locked := by
    cases e with
    | acquire | release => exact he.elim
    | _ => rfl
  refine h.of_idle (fun c hc => hmoves.hasSides he hc) (hmoves.locked.trans hlock) ?_
    (fun j hj => running_record_of_ne fun hji => hi (hji ▸ hj)) fun j hj => ?_
  · exact order_record_of_isAcquire_eq_false he.isAcquire_eq_false
  · by_cases hji : j = i
    · subst hji
      rw [running_record_self]
      exact .bystander hnext
    · exact h.idle_record hj hji

/-- Somebody takes the lock. -/
theorem acquire (h : t.IsAccounted s errands c₀) (hfree : t.world.locked = false)
    {body : Program Outcome} (patience : Option Nat)
    (hbody : ∀ c, body.Yields (Operation.Brings s c (errands i).operation) c)
    (hready : t.running i =
      .ready (.step .acquire fun _ => body.leaving patience (some .release))) :
    (t.record i .acquire () (fun _ => body.leaving patience (some .release))
      { t.world with locked := true }).IsAccounted s errands c₀ := by
  have horder : (t.record i .acquire () (fun _ => body.leaving patience (some .release))
      { t.world with locked := true }).order = t.order ++ [i] := order_record
  refine ⟨fun j hj => ?_, ?_⟩
  · obtain ⟨hj, hji⟩ : j ∉ t.order ∧ j ≠ i := by simpa [horder, not_or] using hj
    exact h.idle_record hj hji
  · cases h.balances with
    | held _ _ _ _ _ _ hlock => simp [hfree] at hlock
    | free ends c _ hdone hends haccount hsides =>
      refine .held ends i c c body patience rfl (horder.trans (by rw [hdone]))
        (hends.record hready) haccount ⟨hsides.inForce, hsides.kept⟩ running_record_self (hbody c)

/-- The holder of the lock goes on, or gives it back. -/
theorem advance (h : t.IsAccounted s errands c₀) (hi : i ∈ t.order) {e : Effect}
    {next : e.Reply → Program (Option Outcome)} (hready : t.running i = .ready (.step e next)) :
    (∀ reply w, t.world.begin e = (.done reply, w) →
      (t.record i e reply next w).IsAccounted s errands c₀) ∧
    ∀ end_ finish cancelled w, t.world.begin e ≠ (.waiting end_ finish cancelled, w) := by
  cases h.balances with
  | free ends c _ horder hends => exact absurd (horder ▸ hi) (hends.not_mem hready)
  | held ends j c c' p patience hlock horder hends haccount hsides hrunning hyields =>
    have hmem : i ∈ ends.map Prod.fst ∨ i = j := by simpa [horder] using hi
    obtain rfl := hmem.resolve_left (hends.not_mem hready)
    have hidle {reply : e.Reply} {w : World} (he : e.isAcquire = false) (j : ι)
        (hj : j ∉ (t.record i e reply next w).order) :
        IsIdle s (errands j).operation ((t.record i e reply next w).running j) := by
      rw [order_record_of_isAcquire_eq_false he] at hj
      exact h.idle_record hj fun hji => hj (hji ▸ hi)
    -- what it has brought about so far is told by its program, wherever it leaves
    rcases hyields.leaving (Running.ready.inj (hrunning.symm.trans hready)) with
      ⟨rfl, hdone⟩ | ⟨he, hnext⟩
    · refine ⟨fun reply w hbegin => ⟨hidle rfl, ?_⟩, by rintro _ _ _ _ ⟨⟩⟩
      cases hbegin
      obtain ⟨a, ha, hbrings⟩ := hdone ()
      refine .free (ends ++ [(i, a)]) c' rfl ?_ ?_ (haccount.snoc i a hbrings)
        ⟨hsides.inForce, hsides.kept⟩
      · rw [order_record_of_isAcquire_eq_false rfl, horder, List.map_append]
        rfl
      · refine List.forall_mem_append.mpr ⟨hends.record hready, List.forall_mem_singleton.mpr ?_⟩
        exact running_record_self.trans (congrArg Running.ready ha)
    · have hacquire := he.isAcquire_eq_false
      refine ⟨fun reply w hbegin => ⟨hidle hacquire, ?_⟩, fun _ _ _ _ => he.begin_ne_waiting⟩
      have hmoves := World.moves_of_begin_done he.leavesOpen hbegin
      obtain ⟨hreply, hafter⟩ := hmoves.sides c' hsides
      obtain ⟨p', patience', hrest, hyields'⟩ := hnext reply hreply
      exact .held ends i c _ p' patience' (hmoves.locked.trans ((he.lock_eq _).trans hlock))
        ((order_record_of_isAcquire_eq_false hacquire).trans horder) (hends.record hready) haccount
        hafter (running_record_self.trans (congrArg Running.ready hrest)) hyields'

/-- A step preserves the invariant. -/
theorem steps (h : t.IsAccounted s errands c₀) (hstep : t.Steps t') :
    t'.IsAccounted s errands c₀ := by
  -- whoever goes on holds the lock already, or is a bystander, or takes the lock now
  cases hstep with
  | done i e next reply w hready hfree hbegin =>
    by_cases hi : i ∈ t.order
    · exact (h.advance hi hready).1 reply w hbegin
    · have hidle := h.idle i hi
      rw [hready] at hidle
      cases hidle with
      | bystander hp =>
        exact h.record_bystander hi hp.1 (hp.2 reply trivial)
          (World.moves_of_begin_done hp.1.leavesOpen hbegin)
      | entrant patience hbody =>
        cases hbegin
        exact h.acquire hfree patience hbody hready
  | wait i e next end_ finish cancelled w hready hfree hbegin =>
    by_cases hi : i ∈ t.order
    · exact ((h.advance hi hready).2 _ _ _ _ hbegin).elim
    · have hidle := h.idle i hi
      rw [hready] at hidle
      cases hidle with
      | entrant => cases hbegin
      | bystander hp =>
        obtain ⟨hbeside, hacts⟩ := World.acts_of_begin_waiting hbegin
        refine h.of_idle (fun c hc => hbeside.hasSides hc) hbeside.locked rfl
          (fun j hj => Function.update_of_ne (by rintro rfl; exact hi hj) ..) fun j hj => ?_
        by_cases hji : j = i
        · subst hji
          simp only [Function.update_self]
          exact .waiting hp.1 (fun r => hp.2 r trivial) hacts
        · simp only [Function.update_of_ne hji]
          exact h.idle j hj
  | finish i e finish cancelled next hwaiting =>
    obtain ⟨hi, he, hnext, hends⟩ := h.of_waiting hwaiting
    exact h.record_bystander hi he (hnext _) (hends t.world).1.moves
  | cut i e finish cancelled next hwaiting =>
    obtain ⟨hi, he, hnext, hends⟩ := h.of_waiting hwaiting
    exact h.record_bystander hi he (hnext _) (hends t.world).2.moves
  | turn | cancel =>
    exact h.of_idle (fun _ hc => ⟨hc.inForce, hc.kept⟩) rfl rfl (fun _ _ => rfl) h.idle

end IsAccounted

/-! ## What is left behind -/

variable [DecidableEq ι]

/-- However calls are abandoned, the lock is given back, and when it is free, what is
in force and what the store keeps are what those who took it have brought about, one
after the other. If none of them has left, and no update has failed to store
something, the store keeps what is in force. A service that is started on the store
then has in force what the store keeps. -/
theorem accounted (s : Service) (errands : ι → Errand) (w : World) (hfree : w.locked = false)
    (hagrees : w.store.Keeps w.live.inForce.kept) (choices : List (Choice ι))
    (t : Session ι (Option Outcome))
    (hplay : (start w fun i => (errands i).program s).play choices = some t) :
    ((∀ i, ∃ r, t.HasReturned i r) → t.world.locked = false) ∧
    (t.world.locked = false →
      ∃ (ends : List (ι × Option Outcome)) (c : Sides),
        (t.order = ends.map Prod.fst ∧ t.HaveEnded ends) ∧
        Account s errands ⟨w.live.inForce, w.live.inForce.kept⟩ ends c ∧
        (t.world.live.inForce = c.inForce ∧ t.world.store.Keeps c.kept) ∧
        ((∀ x ∈ ends, ∃ a, x.2 = some a ∧ ¬ a.FailsToStore) →
          t.world.store.Keeps t.world.live.inForce.kept) ∧
        ∀ (o : Service.Options) (v : World), v.store = t.world.store → v.AcceptsLoads →
          ∃ v', v.start o = (.ok (.ofOptions o), v') ∧
            v'.live =
              let k := v.store.readBack v.wall c.kept
              (Service.ofOptions o).initial k.config k.record k.deadline v.wall) := by
  have hsound : t.IsAccounted s errands ⟨w.live.inForce, w.live.inForce.kept⟩ :=
    play_induction (·.IsAccounted s errands _) IsAccounted.steps
      (isAccounted_start s errands hfree ⟨rfl, hagrees⟩) hplay
  refine ⟨fun hall => ?_, fun hlock => ?_⟩
  · cases hsound.balances with
    | free _ _ hlock => exact hlock
    | held _ i _ _ p patience _ _ _ _ _ hrunning hyields =>
      obtain ⟨r, hr⟩ := hall i
      exact absurd (Running.ready.inj (hrunning.symm.trans hr)) (hyields.leaving_ne_pure r)
  · cases hsound.balances with
    | held _ _ _ _ _ _ hheld => simp [hlock] at hheld
    | free ends c _ horder hends haccount hsides =>
      refine ⟨ends, c, ⟨horder, hends⟩, haccount, ⟨hsides.inForce, hsides.kept⟩, fun hall => ?_,
        fun o v hstore hloads => ?_⟩
      · have hstep : c.kept = c.inForce.kept := haccount.inStep rfl hall
        rw [hsides.inForce, ← hstep]
        exact hsides.kept
      · have hkept : v.store.Keeps c.kept := hstore ▸ hsides.kept
        obtain ⟨v', hbegun, hlive, -⟩ := World.start_of_loads o hloads (hkept.config v.wall)
          (hkept.record v.wall) (hkept.deadline v.wall)
        exact ⟨v', hbegun, hlive⟩

/-- Somebody changes the cooldown, and leaves when the configuration has been stored;
somebody else ends the silence. -/
def impatient : Fin 2 → Errand :=
  ![{ operation := .update { cooldown := some 0 }, patience := some 3 },
    { operation := .endSilence }]

/-- In the end the new cooldown is kept, and the old one is in force. -/
theorem accounted_impatient :
    ∃ t : Session (Fin 2) (Option Outcome),
      (start untouched fun i => (impatient i).program (.ofOptions {})).play
        ([0, 0, 0, 0, 1, 1, 1, 1].map .go) = some t ∧
      t.world.locked = false ∧
      ∃ (ends : List (Fin 2 × Option Outcome)) (c : Sides), ends.map Prod.fst = [0, 1] ∧
        Account (.ofOptions {}) impatient ⟨untouched.live.inForce, untouched.live.inForce.kept⟩
          ends c ∧
        c.inForce.config.cooldown = 1800 ∧ c.kept.config.cooldown = 0 := by
  obtain ⟨t, hplay, horder, hall, hcooldown, m, hstore, hkept⟩ :
      ∃ t : Session (Fin 2) (Option Outcome),
        (start untouched fun i => (impatient i).program (.ofOptions {})).play
          ([0, 0, 0, 0, 1, 1, 1, 1].map .go) = some t ∧
        t.order = [0, 1] ∧ (∀ i, ∃ r, t.HasReturned i r) ∧ t.world.live.config.cooldown = 1800 ∧
        ∃ m, t.world.store = .memory m ∧ m.config.cooldown = 0 :=
    ⟨_, rfl, rfl, Fin.forall_fin_two.mpr ⟨⟨_, rfl⟩, ⟨_, rfl⟩⟩, rfl, _, rfl, rfl⟩
  have hagrees : untouched.store.Keeps untouched.live.inForce.kept :=
    Backend.keeps_memory_iff.mpr ⟨rfl, rfl, rfl⟩
  obtain ⟨hgiven, hthen⟩ :=
    accounted (.ofOptions {}) impatient untouched rfl hagrees _ t hplay
  obtain ⟨ends, c, ⟨hends, -⟩, haccount, ⟨hinForce, hkeeps⟩, -⟩ := hthen (hgiven hall)
  rw [hstore] at hkeeps
  refine ⟨t, hplay, hgiven hall, ends, c, hends.symm.trans horder, haccount, ?_, ?_⟩
  · exact (congrArg (·.config.cooldown) hinForce).symm.trans hcooldown
  · exact (congrArg Config.cooldown (Backend.keeps_memory_iff.mp hkeeps).1).symm.trans hkept

/-- Somebody changes the cooldown and the address, and leaves when the configuration
has been stored. -/
def disconnected : Fin 1 → Errand :=
  ![{ operation := .update { cooldown := some 0, gmailAddress := some "ops@example.com" }
      patience := some 3 }]

/-- In agreement before, the lock is free again afterwards, and nothing new is in
force. But the new configuration is kept, with the record from before, while an update
that takes place stores a record with the new address. A service that is started then
has the new configuration and the old record. -/
theorem torn_by_leaving :
    untouched.store.Keeps untouched.live.inForce.kept ∧
    ∃ t : Session (Fin 1) (Option Outcome),
      (start untouched fun i => (disconnected i).program (.ofOptions {})).play
        ([0, 0, 0, 0].map .go) = some t ∧
      t.world.locked = false ∧ t.HasReturned 0 none ∧ t.world.live = {} ∧
      t.world.store.Keeps ⟨{ cooldown := 0 }, {}, none⟩ ∧
      ¬ t.world.store.Keeps t.world.live.inForce.kept ∧
      (∀ config credentials record,
        (Service.ofOptions {}).IsTarget
          { cooldown := some 0, gmailAddress := some "ops@example.com" } {} config credentials
          record →
        config = { cooldown := 0 } ∧ record.gmailAddress = "ops@example.com") ∧
      ∃ v, t.world.start {} = (.ok (.ofOptions {}), v) ∧ v.live.config = { cooldown := 0 } ∧
        v.live.record = {} := by
  refine ⟨Backend.keeps_memory_iff.mpr ⟨rfl, rfl, rfl⟩, _, rfl, rfl, rfl, rfl,
    Backend.keeps_memory_iff.mpr ⟨rfl, rfl, rfl⟩, fun hkeeps => ?_,
    fun config credentials record h => ⟨h.config_eq, h.storedAddress⟩, _, rfl, rfl, rfl⟩
  have hcooldown : (0 : Int) = 1800 :=
    congrArg Config.cooldown (Backend.keeps_memory_iff.mp hkeeps).1
  exact absurd hcooldown (by decide)

end Session

end CpuAlert
