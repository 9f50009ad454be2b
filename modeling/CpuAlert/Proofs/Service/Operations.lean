import CpuAlert.Proofs.Delivery.Attempts
import CpuAlert.Proofs.Service.Standing
import CpuAlert.Proofs.Service.Update

/-!
# What operations are to each other

An operation either is a mutation, and then it does everything under the lock
and lands in agreement with the store, or it is a bystander, and then it leaves
everything standing. A silence of an impossible length does nothing at all.

## Main definitions

* `Operation.Body` — what a mutation does once it has the lock

## Main results

* `Operation.mutation_cases` — what a mutation does
* `Operation.program_uses` — what the others do
* `Operation.others_use` — who neither evaluates a snapshot nor sends a test
-/

namespace CpuAlert

open Program (Lands Leads perform)
open Time (Instant)

variable {s : Service} {c : Standing} {now : Option Instant}

/-! ## Mutations -/

namespace Service

/-- A program with the lock, with something done to its result. -/
theorem locked_bind {α β : Type} (p : Program α) (f : α → β) :
    ((locked p).bind fun a => .pure (f a)) =
      .step .acquire fun _ => p.bind fun a => .step .release fun _ => .pure (f a) := by
  rw [locked_eq, Program.step_bind]
  exact congrArg (Program.step .acquire) (funext fun _ => Program.bind_assoc' _ _ _)

/-- What an update leads to depends on what is in force alone. -/
theorem target_congr {u : Config.Update} {l l' : Live} (h : l.inForce = l'.inForce) :
    s.target u l = s.target u l' := by
  obtain ⟨hconfig, hcredentials, hrecord, -⟩ := InForce.mk.inj h
  simp only [target, hconfig, hcredentials, hrecord]

/-- Storing a usable configuration and a record leads on to what comes after. -/
theorem lands_persist {α : Type} {before config : Config} {record : SealedCredentials}
    {f : Except ServiceError Unit → Program α} (husable : config.violation? = none)
    (h : Lands now (f (.ok ())) { c with kept := { c.kept with config, record } }) :
    Lands now ((persist before config record).bind f) c := by
  rw [persist_eq]
  refine .write trivial husable inferInstance () ?_
  exact .write trivial trivial inferInstance () h

/-- An update lands in agreement. -/
theorem lands_updateLocked {α : Type} {u : Config.Update} (f : Except ServiceError View → α)
    (hc : c.Agrees) :
    Lands now ((s.updateLocked u).bind fun r => .step .release fun _ => .pure (f r)) c := by
  rw [updateLocked_eq, Program.step_bind]
  refine .look (fun l l' hl => ?_) fun l hl => ?_
  · obtain ⟨hconfig, -⟩ := InForce.mk.inj hl
    simp only [target_congr hl, hconfig]
  · rw [Program.bind_assoc']
    refine .draws (target_meets l) fun r n hr => ?_
    have hconfig : l.config = c.inForce.config := congrArg InForce.config hl
    cases r with
    | error e => exact .release _ hc
    | ok t =>
      obtain ⟨config, credentials, record⟩ := t
      have husable : config.violation? = none := hr.usable
      simp only [Program.bind_assoc']
      refine lands_persist husable (.commit _ ?_)
      -- the silence is still the one that the store agreed with
      have hdeadline : c.kept.deadline = c.inForce.deadline := congrArg Store.Kept.deadline hc
      exact Store.Kept.mk.injEq .. ▸ ⟨rfl, rfl, hdeadline⟩

/-- Setting the end of a silence as a tree of effects. -/
theorem setDeadline_eq (deadline : Option Instant) :
    setDeadline deadline =
      .step (.ask (.writeSilence deadline)) fun
        | .error e => .pure (.error (.persistence e))
        | .ok () => .step (.mute deadline) fun _ => .pure (.ok ()) := by
  refine congrArg (Program.step _) (funext fun a => ?_)
  cases a <;> rfl

/-- This stands when the end of the silence has been set. -/
def muted (c : Standing) (deadline : Option Instant) : Standing :=
  { c with inForce := { c.inForce with deadline }, kept := { c.kept with deadline } }

theorem muted_agrees (hc : c.Agrees) (deadline : Option Instant) : (muted c deadline).Agrees :=
  congrArg (fun k : Store.Kept => Store.Kept.mk k.config k.record deadline) hc

/-- The end of the silence is stored, and comes into force. -/
theorem leads_setDeadline {α : Type} (deadline : Option Instant)
    (f : Except ServiceError Unit → α) :
    Leads now ((setDeadline deadline).bind fun r => .step .release fun _ => .pure (f r)) c
      (f (.ok ())) (muted c deadline) := by
  rw [setDeadline_eq]
  exact .write trivial trivial fun _ => .mute ..

/-- Beginning a silence as a tree of effects. -/
theorem silenceLocked_eq (minutes : Int) :
    silenceLocked minutes =
      .step .clock fun t => (setDeadline (some (silenceEnd t minutes))).bind fun r =>
        .pure (r.map fun _ => silenceEnd t minutes) :=
  rfl

/-- A silence begins from what the clock says. -/
theorem leads_silenceLocked {α : Type} (minutes : Int) (t : Instant)
    (f : Except ServiceError Instant → α) :
    Leads (some t)
      ((silenceLocked minutes).bind fun r => .step .release fun _ => .pure (f r)) c
      (f (.ok (silenceEnd t minutes))) (muted c (some (silenceEnd t minutes))) := by
  rw [silenceLocked_eq, Program.step_bind]
  refine .clock ?_
  rw [Program.bind_assoc']
  exact leads_setDeadline _ fun r => f (r.map fun _ => silenceEnd t minutes)

end Service

namespace Operation

/-- What a mutation does once it has the lock. -/
inductive Body (s : Service) : Operation → Program Outcome → Prop
  | update (u : Config.Update) :
    Body s (.update u)
      ((s.updateLocked u).bind fun r => .step .release fun _ => .pure (.update r))
  | silence (minutes : Int) :
    Body s (.silence minutes)
      ((Service.silenceLocked minutes).bind fun r => .step .release fun _ => .pure (.silence r))
  | endSilence :
    Body s .endSilence
      ((Service.setDeadline none).bind fun r => .step .release fun _ => .pure (.endSilence r))

/-- A mutation takes the lock first, or it is refused without any effect. -/
theorem program_of_isMutation (s : Service) {op : Operation} (hop : op.IsMutation) :
    (∃ body, op.program s = .step .acquire (fun _ => body) ∧ Body s op body) ∨
    ∃ r, op.program s = .pure r := by
  cases op with
  | update u => exact .inl ⟨_, Service.locked_bind (s.updateLocked u) _, .update u⟩
  | silence minutes =>
    by_cases hminutes : 1 ≤ minutes ∧ minutes ≤ Service.maxSilence
    · rw [program, Service.silence, if_pos hminutes]
      exact .inl ⟨_, Service.locked_bind (Service.silenceLocked minutes) _, .silence minutes⟩
    · refine .inr ⟨.silence (.error (.invalidSilence minutes)), ?_⟩
      rw [program, Service.silence, if_neg hminutes]
      rfl
  | endSilence => exact .inl ⟨_, Service.locked_bind (Service.setDeadline none) _, .endSilence⟩
  | observe | view | status | sendTest | history | cleanup | isEnabled | health => exact hop.elim

/-- A mutation takes the lock, and then lands in agreement; or it is refused
without any effect. -/
theorem mutation_cases (s : Service) {op : Operation} (hop : op.IsMutation) :
    (∃ body, op.program s = .step .acquire (fun _ => body) ∧
      ∀ t c, c.Agrees → Lands (some t) body c) ∨
    ∃ r, op.program s = .pure r := by
  refine (program_of_isMutation s hop).imp_left fun ⟨body, hprogram, hbody⟩ =>
    ⟨body, hprogram, fun t c hc => ?_⟩
  cases hbody with
  | update u => exact Service.lands_updateLocked _ hc
  | silence minutes =>
    exact ⟨_, _, Service.leads_silenceLocked minutes t _, Service.muted_agrees hc _⟩
  | endSilence => exact ⟨_, _, Service.leads_setDeadline none _, Service.muted_agrees hc _⟩

end Operation

/-! ## Bystanders -/

/-- What the channels are asked to deliver of a notification: with what was in
force when it was decided. -/
def Service.notice (s : Service) (p : Pending) : Notice :=
  Delivery.notice p.config p.credentials p.trigger.level
    (Service.alertMessage p.trigger.level s.hostname p.trigger.cpuPercent p.time)

/-- What every delivery may do beside sending: what its attempts do, and record
what became of it. -/
structure Effect.AllowsDelivery (allowed : Effect → Prop) : Prop
    extends Effect.AllowsAttempts allowed where
  append : ∀ draft, allowed (.ask (.append draft))

theorem Effect.allowsDelivery_isBystander : AllowsDelivery Effect.IsBystander :=
  ⟨⟨fun _ => trivial, trivial⟩, fun _ => ⟨id, nofun⟩⟩

section

variable {allowed : Effect → Prop} (hallowed : Effect.AllowsDelivery allowed)

include hallowed

namespace Service

theorem deliver_uses {p : Pending}
    (hsend : ∀ c ∈ Delivery.enabled s.channels p.config, allowed (.send c.2 c.1 (s.notice p))) :
    (s.deliver p).Uses allowed :=
  .bind (Delivery.through_uses hallowed.toAllowsAttempts hsend _) fun _ =>
    .bind (.perform (hallowed.append _)) fun _ => trivial

theorem deliverAll_uses {pending : List Pending}
    (hsend : ∀ p ∈ pending, ∀ c ∈ Delivery.enabled s.channels p.config,
      allowed (.send c.2 c.1 (s.notice p))) :
    (s.deliverAll pending).Uses allowed := by
  induction pending with
  | nil => exact trivial
  | cons p ps ih =>
    obtain ⟨hfirst, hrest⟩ := List.forall_mem_cons.mp hsend
    exact .bind (deliver_uses hallowed hfirst) fun _ => ih hrest

theorem sendTest_uses (hlook : allowed .look) (hclock : allowed .clock)
    (hsend : ∀ place channel o, allowed (.send place channel o)) : s.sendTest.Uses allowed := by
  refine .bind (.perform hlook) fun live => ?_
  split
  · exact trivial
  · refine .bind (.perform hclock) fun now => ?_
    refine .bind (Delivery.through_uses hallowed.toAllowsAttempts (fun _ _ => hsend _ _ _) _)
      fun channels => ?_
    refine .bind (.perform (hallowed.append _)) fun answer => ?_
    cases answer <;> exact trivial

end Service

end

namespace Service

theorem deleteOld_uses {allowed : Effect → Prop} (hclock : allowed .clock)
    (hdelete : ∀ cutoff, allowed (.ask (.deleteBefore cutoff))) : s.deleteOld.Uses allowed := by
  refine .bind (.perform hclock) fun now => ?_
  split
  · exact trivial
  · refine .bind (.perform (hdelete _)) fun answer => ?_
    cases answer <;> exact trivial

theorem cleanup_uses {allowed : Effect → Prop} (hclaim : ∀ n, allowed (.claimCleanup n))
    (hend : allowed .endCleanup) (hclock : allowed .clock)
    (hdelete : ∀ cutoff, allowed (.ask (.deleteBefore cutoff))) : s.cleanup.Uses allowed := by
  refine .bind (.perform (hclaim _)) fun due => ?_
  cases due with
  | false => exact trivial
  | true =>
    exact .bind (deleteOld_uses hclock hdelete) fun _ => .bind (.perform hend) fun _ => trivial

end Service

namespace Operation

/-- Every effect of an operation that is no mutation is a bystander's. -/
theorem program_uses (s : Service) {op : Operation} (hop : ¬ op.IsMutation) :
    (op.program s).Uses Effect.IsBystander := by
  have hallowed := Effect.allowsDelivery_isBystander
  cases op with
  | update | silence | endSilence => exact absurd trivial hop
  | observe snapshot =>
    refine .bind (.bind (.perform trivial) fun pending => ?_) fun _ => trivial
    refine .bind (Service.deliverAll_uses hallowed fun _ _ _ _ => trivial) fun _ => trivial
  | view readOnly => exact .bind (.bind (.perform trivial) fun _ => trivial) fun _ => trivial
  | status readOnly =>
    refine .bind (.bind (.perform trivial) fun _ => ?_) fun _ => trivial
    exact .bind (.perform trivial) fun _ => trivial
  | sendTest =>
    exact .bind (Service.sendTest_uses hallowed trivial trivial fun _ _ _ => trivial) fun _ =>
      trivial
  | history limit before =>
    exact .bind (.bind (.perform ⟨id, nofun⟩) fun _ => trivial) fun _ => trivial
  | cleanup =>
    refine .bind (Service.cleanup_uses (fun _ => trivial) trivial trivial fun _ => ?_) fun _ =>
      trivial
    exact ⟨id, nofun⟩
  | isEnabled => exact .bind (.bind (.perform trivial) fun _ => trivial) fun _ => trivial
  | health => exact .bind (.bind (.perform ⟨id, nofun⟩) fun _ => trivial) fun _ => trivial

end Operation

/-! ## Who evaluates, and who sends -/

/-- The effect neither evaluates a snapshot nor sends anything. -/
def Effect.IsPlain : Effect → Prop
  | .evaluate _ | .send _ _ _ => False
  | .acquire | .release | .look | .ask _ | .commit _ _ _ | .mute _ | .clock | .draw
  | .claimCleanup _ | .endCleanup | .pause _ | .isCancelled => True

/-- The effect evaluates no snapshot. -/
def Effect.IsSide : Effect → Prop
  | .evaluate _ => False
  | .acquire | .release | .look | .ask _ | .commit _ _ _ | .mute _ | .clock | .draw
  | .claimCleanup _ | .endCleanup | .send _ _ _ | .pause _ | .isCancelled => True

theorem Effect.IsPlain.isSide {e : Effect} (h : e.IsPlain) : e.IsSide := by
  cases e with
  | evaluate snapshot => exact h
  | _ => exact trivial

namespace Service

variable {α : Type}

theorem locked_uses {allowed : Effect → Prop} {p : Program α} (hacquire : allowed .acquire)
    (hrelease : allowed .release) (hp : p.Uses allowed) : (locked p).Uses allowed :=
  .bind (.perform hacquire) fun _ => .bind hp fun _ => .bind (.perform hrelease) fun _ => trivial

end Service

/-- What a mutation may do: with the lock, work out something new from what is in
force, store it and put it into force. -/
structure Effect.AllowsMutation (allowed : Effect → Prop) : Prop where
  acquire : allowed .acquire
  release : allowed .release
  look : allowed .look
  clock : allowed .clock
  draw : allowed .draw
  commit : ∀ config credentials record, allowed (.commit config credentials record)
  mute : ∀ deadline, allowed (.mute deadline)
  write : ∀ c : Store.Call, c.IsWrite → allowed (.ask c)

/-- What everybody may do who neither evaluates a snapshot nor sends a test. -/
structure Effect.AllowsOthers (allowed : Effect → Prop) : Prop
    extends Effect.AllowsMutation allowed where
  claimCleanup : ∀ interval, allowed (.claimCleanup interval)
  endCleanup : allowed .endCleanup
  list : ∀ page, allowed (.ask (.list page))
  deleteBefore : ∀ cutoff, allowed (.ask (.deleteBefore cutoff))
  health : allowed (.ask .health)

section

variable {allowed : Effect → Prop} (hallowed : Effect.AllowsMutation allowed)

include hallowed

namespace Service

theorem updateLocked_uses (u : Config.Update) : (s.updateLocked u).Uses allowed := by
  refine .bind (.perform hallowed.look) fun live => ?_
  have htarget : (s.target u live).Uses allowed :=
    (target_meets live).mono (fun e he => he ▸ hallowed.draw) fun _ _ => trivial
  refine .bind htarget fun r => ?_
  cases r with
  | error e => exact trivial
  | ok t =>
    have hpersist : (persist live.config t.1 t.2.2).Uses allowed := by
      rw [persist_eq]
      refine ⟨hallowed.write _ trivial, fun r _ => ?_⟩
      cases r with
      | error e => exact trivial
      | ok _ =>
        refine ⟨hallowed.write _ trivial, fun r _ => ?_⟩
        cases r with
        | error e => exact ⟨hallowed.write _ trivial, fun _ _ => trivial⟩
        | ok _ => exact trivial
    refine .bind hpersist fun r => ?_
    cases r with
    | error e => exact trivial
    | ok _ => exact .bind (.perform (hallowed.commit ..)) fun _ => trivial

theorem setDeadline_uses (deadline : Option Instant) : (setDeadline deadline).Uses allowed := by
  rw [setDeadline_eq]
  refine ⟨hallowed.write _ trivial, fun r _ => ?_⟩
  cases r with
  | error e => exact trivial
  | ok _ => exact ⟨hallowed.mute _, fun _ _ => trivial⟩

theorem silence_uses (minutes : Int) : (silence minutes).Uses allowed := by
  unfold silence
  split
  · refine locked_uses hallowed.acquire hallowed.release ?_
    refine .bind (.perform hallowed.clock) fun now => ?_
    exact .bind (setDeadline_uses hallowed _) fun _ => trivial
  · exact trivial

end Service

/-- What mutations do. -/
theorem Operation.mutation_uses (s : Service) {op : Operation} (hop : op.IsMutation) :
    (op.program s).Uses allowed := by
  cases op with
  | update u =>
    refine .bind (Service.locked_uses hallowed.acquire hallowed.release ?_) fun _ => trivial
    exact Service.updateLocked_uses hallowed u
  | silence minutes => exact .bind (Service.silence_uses hallowed minutes) fun _ => trivial
  | endSilence =>
    refine .bind (Service.locked_uses hallowed.acquire hallowed.release ?_) fun _ => trivial
    exact Service.setDeadline_uses hallowed none
  | observe | view | status | sendTest | history | cleanup | isEnabled | health => exact hop.elim

end

namespace Operation

/-- What everybody does who neither evaluates a snapshot nor sends a test. -/
theorem others_use {allowed : Effect → Prop} (hallowed : Effect.AllowsOthers allowed) (s : Service)
    {op : Operation} (hobserve : ∀ snapshot, op ≠ .observe snapshot) (htest : op ≠ .sendTest) :
    (op.program s).Uses allowed := by
  cases op with
  | observe snapshot => exact absurd rfl (hobserve snapshot)
  | sendTest => exact absurd rfl htest
  | update | silence | endSilence => exact mutation_uses hallowed.toAllowsMutation s trivial
  | view readOnly | isEnabled =>
    exact .bind (.bind (.perform hallowed.look) fun _ => trivial) fun _ => trivial
  | status readOnly =>
    refine .bind (.bind (.perform hallowed.look) fun _ => ?_) fun _ => trivial
    exact .bind (.perform hallowed.clock) fun _ => trivial
  | history limit before =>
    exact .bind (.bind (.perform (hallowed.list _)) fun _ => trivial) fun _ => trivial
  | cleanup =>
    exact .bind (Service.cleanup_uses hallowed.claimCleanup hallowed.endCleanup hallowed.clock
      hallowed.deleteBefore) fun _ => trivial
  | health => exact .bind (.bind (.perform hallowed.health) fun _ => trivial) fun _ => trivial

/-- Only snapshots are evaluated and only they and tests are sent. -/
theorem program_isPlain (s : Service) {op : Operation}
    (hobserve : ∀ snapshot, op ≠ .observe snapshot) (htest : op ≠ .sendTest) :
    (op.program s).Uses Effect.IsPlain :=
  others_use ⟨⟨trivial, trivial, trivial, trivial, trivial, fun _ _ _ => trivial, fun _ => trivial,
    fun _ _ => trivial⟩, fun _ => trivial, trivial, fun _ => trivial, fun _ => trivial, trivial⟩ s
    hobserve htest

theorem sendTest_isSide (s : Service) : (Operation.sendTest.program s).Uses Effect.IsSide := by
  have hallowed : Effect.AllowsDelivery Effect.IsSide :=
    ⟨⟨fun _ => trivial, trivial⟩, fun _ => trivial⟩
  exact .bind (Service.sendTest_uses hallowed trivial trivial fun _ _ _ => trivial) fun _ => trivial

end Operation

end CpuAlert
