import CpuAlert.Proofs.Service.Rules

/-!
# Calls that may be abandoned

A call can be abandoned between any two of its effects; it gives back the lock that
it holds, if it holds one, and nothing else is done for it. A mutation changes what the store
keeps before it changes what is in force, and it stores a configuration before the
record that belongs to it. So wherever it is left, it has brought about one of a few
things.

## Main definitions

* `Effect.debt` — what whoever leaves after an effect still has to do
* `Program.leaving` — a program that is abandoned after some effects
* `Errand` — a call that may be abandoned
* `Sides` — what is in force beside what is kept
* `Program.Yields` — where a program may be left that holds the lock
* `Operation.Brings` — what a mutation may bring about, with its result

## Main results

* `World.moves_of_begin_done` — what an effect does to both sides
* `Program.Yields.leaving` — the next effect of a program that may be abandoned
* `Operation.Body.yields` — with the lock, a mutation brings about one of these
-/

namespace CpuAlert

open Store (Kept)
open Time (Instant)

/-! ## Leaving -/

/-- What is still to be done by somebody who leaves after an effect: to give back a
lock that was taken. -/
def Effect.debt (owed : Option Effect) : (e : Effect) → e.Reply → Option Effect
  | .acquire, _ => some .release
  | .claimCleanup _, due => if due then some .endCleanup else owed
  | .release, _ | .endCleanup, _ => none
  | .look, _ | .ask _, _ | .commit _ _ _, _ | .mute _, _ | .evaluate _, _ | .clock, _ | .draw, _
  | .send _ _ _, _ | .pause _, _ | .isCancelled, _ => owed

namespace Program

variable {α : Type}

/-- Nothing is done any more but what is owed. -/
def left : Option Effect → Program (Option α)
  | none => .pure none
  | some last => .step last fun _ => .pure none

/-- The program is abandoned after so many effects, if it lasts that long. If it
holds a lock by then, it gives it back. -/
def leaving : Program α → Option Nat → Option Effect → Program (Option α)
  | .pure a, _, _ => .pure (some a)
  | .step e next, patience, owed =>
    if patience = some 0 then left owed
    else .step e fun r => (next r).leaving (patience.map (· - 1)) (e.debt owed r)

end Program

/-- An operation, and after how many of its effects it is abandoned, if at all. -/
structure Errand where
  operation : Operation
  patience : Option Nat := none

/-- The program of an errand: its outcome, unless it is abandoned. -/
def Errand.program (s : Service) (x : Errand) : Program (Option Outcome) :=
  (x.operation.program s).leaving x.patience none

/-! ## Both sides -/

/-- What is in force, beside what the store keeps. -/
structure Sides where
  inForce : InForce
  kept : Kept

namespace Sides

/-- The store keeps what is in force. -/
def InStep (c : Sides) : Prop := c.kept = c.inForce.kept

/-- Both sides after an effect. -/
def after (c : Sides) (e : Effect) (reply : e.Reply) : Sides where
  inForce := c.inForce.after e
  kept := (e.exchange? reply).elim c.kept fun x => c.kept.answered x.call x.answer

/-- Whoever looks sees what is in force. -/
def Expects (c : Sides) : (e : Effect) → e.Reply → Prop
  | .look, live => live.inForce = c.inForce
  | .acquire, _ | .release, _ | .ask _, _ | .commit _ _ _, _ | .mute _, _ | .evaluate _, _
  | .clock, _ | .draw, _ | .claimCleanup _, _ | .endCleanup, _ | .send _ _ _, _ | .pause _, _
  | .isCancelled, _ => True

/-- Bystanders leave both sides as they are. -/
theorem after_of_isBystander (c : Sides) {e : Effect} (he : e.IsBystander) (reply : e.Reply) :
    c.after e reply = c := by
  cases e with
  | ask call => exact congrArg (Sides.mk c.inForce) (c.kept.answered_of_not_isWrite he.1 reply)
  | acquire | release | commit | mute | draw => exact he.elim
  | _ => rfl

end Sides

namespace World

/-- These are the sides of the world. -/
structure HasSides (w : World) (c : Sides) : Prop where
  inForce : w.live.inForce = c.inForce
  kept : w.store.Keeps c.kept

/-- The sides and the lock go with an effect. -/
structure Moves (w : World) (e : Effect) (reply : e.Reply) (w' : World) : Prop where
  sides : ∀ c, w.HasSides c → c.Expects e reply ∧ w'.HasSides (c.after e reply)
  locked : w'.locked = e.lock w.locked

variable {w w' : World} {c : Sides} {e : Effect} {reply : e.Reply}

theorem IsBeside.hasSides (h : w.IsBeside w') (hc : w.HasSides c) : w'.HasSides c :=
  ⟨(congrArg Live.inForce h.live).trans hc.inForce, h.store ▸ hc.kept⟩

theorem Acts.moves (h : w.Acts e reply w') : w.Moves e reply w' := by
  refine ⟨fun c hc => ⟨?_, ?_, ?_⟩, h.locked⟩
  · cases e with
    | look => exact (congrArg Live.inForce h.expects).trans hc.inForce
    | _ => trivial
  · rw [h.live, Live.inForce_after, hc.inForce]
    rfl
  · have hnone : e.exchange? reply = none := by
      cases e with
      | ask call => exact absurd rfl (h.beside call)
      | _ => rfl
    rw [Sides.after, hnone, h.store]
    exact hc.kept

theorem moves_ask (w : World) {call : Store.Call} (hcall : call ≠ .close) :
    w.Moves (.ask call) (w.ask call).1 (w.ask call).2 where
  sides c hc := by
    refine ⟨trivial, ?_, ask_keeps hc.kept hcall⟩
    exact (congrArg Live.inForce (w.ask_live call)).trans hc.inForce
  locked := by
    rw [ask_snd]
    rfl

/-- An effect that is done at once, unless it closes the store. -/
theorem moves_of_begin_done (he : e.LeavesOpen) (hbegin : w.begin e = (.done reply, w')) :
    w.Moves e reply w' := by
  by_cases hask : ∃ call, e = .ask call
  · obtain ⟨call, rfl⟩ := hask
    cases hbegin
    exact w.moves_ask he
  · exact (acts_of_begin_done (not_exists.mp hask) hbegin).moves

/-- What a bystander does. -/
theorem Moves.hasSides (h : w.Moves e reply w') (he : e.IsBystander) (hc : w.HasSides c) :
    w'.HasSides c :=
  c.after_of_isBystander he reply ▸ (h.sides c hc).2

end World

/-! ## With the lock held -/

/-- What is done with the lock held. -/
def Effect.IsHeld : Effect → Prop
  | .look | .clock | .draw | .commit _ _ _ | .mute _ => True
  | .ask call => call.IsWrite
  | .acquire | .release | .evaluate _ | .claimCleanup _ | .endCleanup | .send _ _ _ | .pause _
  | .isCancelled => False

namespace Effect

variable {e : Effect}

theorem IsHeld.leavesOpen (h : e.IsHeld) : e.LeavesOpen := by
  cases e with
  | ask call =>
    rintro rfl
    exact h
  | _ => trivial

theorem IsHeld.lock_eq (h : e.IsHeld) (held : Bool) : e.lock held = held := by
  cases e with
  | acquire | release => exact h.elim
  | _ => rfl

theorem IsHeld.debt_eq (h : e.IsHeld) (owed : Option Effect) (r : e.Reply) :
    e.debt owed r = owed := by
  cases e with
  | look | clock | draw | commit | mute | ask => rfl
  | _ => exact h.elim

theorem IsHeld.isAcquire_eq_false (h : e.IsHeld) : e.isAcquire = false := by
  cases e with
  | acquire => exact h.elim
  | _ => rfl

/-- None of it is waited for. -/
theorem IsHeld.begin_ne_waiting (h : e.IsHeld) {w w' : World} {end_ : Nat}
    {finish : World → e.Reply × World} {cancelled : e.Reply} :
    w.begin e ≠ (.waiting end_ finish cancelled, w') := by
  intro hbegin
  cases e with
  | look | clock | draw | commit | mute | ask => cases hbegin
  | _ => exact h

end Effect

namespace Program

variable {α β : Type} {q : Option α → Sides → Prop} {c : Sides}

/-- From these sides on the program gives back the lock in the end. Wherever it is
left, and in the end with its result, it satisfies `q`. -/
def Yields (q : Option α → Sides → Prop) : Program α → Sides → Prop
  | .pure _, _ => False
  | .step e next, c =>
    q none c ∧
      ((e = .release ∧ ∀ r, ∃ a, next r = .pure a ∧ q (some a) c) ∨
        (e.IsHeld ∧ ∀ r, c.Expects e r → (next r).Yields q (c.after e r)))

theorem Yields.release {a : α} (hleft : q none c) (hdone : q (some a) c) :
    (Program.step .release fun _ => .pure a).Yields q c :=
  ⟨hleft, .inl ⟨rfl, fun _ => ⟨a, rfl, hdone⟩⟩⟩

theorem Yields.held {e : Effect} {next : e.Reply → Program α} (he : e.IsHeld) (hleft : q none c)
    (hnext : ∀ r, c.Expects e r → (next r).Yields q (c.after e r)) :
    (Program.step e next).Yields q c :=
  ⟨hleft, .inr ⟨he, hnext⟩⟩

/-- A program that only draws nonces, and what comes after it. -/
theorem Yields.draws {good : β → Prop} {p : Program β} {f : β → Program α}
    (hp : p.Meets (· = .draw) (fun _ _ => True) good) (hleft : q none c)
    (hf : ∀ b, good b → (f b).Yields q c) : (p.bind f).Yields q c := by
  induction p with
  | pure b => exact hf b hp
  | step e next ih =>
    obtain ⟨rfl, hnext⟩ := hp
    exact .held trivial hleft fun r _ => ih r (hnext r trivial)

/-- The next effect of such a program that may be abandoned: it gives back the lock
at last, or the same can be said of what is left. -/
theorem Yields.leaving {p : Program α} {patience : Option Nat} {e : Effect}
    {next : e.Reply → Program (Option α)} (h : p.Yields q c)
    (hstep : p.leaving patience (some .release) = .step e next) :
    (e = .release ∧ ∀ r, ∃ a, next r = .pure a ∧ q a c) ∨
      (e.IsHeld ∧ ∀ r, c.Expects e r → ∃ (p' : Program α) (patience' : Option Nat),
        next r = p'.leaving patience' (some .release) ∧ p'.Yields q (c.after e r)) := by
  cases p with
  | pure a => exact h.elim
  | step e' next' =>
    obtain ⟨hleft, hrest⟩ := h
    simp only [Program.leaving] at hstep
    split at hstep
    · cases hstep
      exact .inl ⟨rfl, fun _ => ⟨none, rfl, hleft⟩⟩
    · cases hstep
      rcases hrest with ⟨rfl, hdone⟩ | ⟨he, hnext⟩
      · refine .inl ⟨rfl, fun r => ?_⟩
        obtain ⟨a, ha, hq⟩ := hdone r
        exact ⟨some a, congrArg (Program.leaving · _ _) ha, hq⟩
      · exact .inr ⟨he, fun r hr => ⟨next' r, _, congrArg ((next' r).leaving _) (he.debt_eq _ r),
          hnext r hr⟩⟩

/-- It has not returned yet. -/
theorem Yields.leaving_ne_pure {p : Program α} {patience : Option Nat} (h : p.Yields q c)
    (a : Option α) : p.leaving patience (some .release) ≠ .pure a := by
  cases p with
  | pure a => exact h.elim
  | step e next =>
    simp only [Program.leaving]
    split <;> rintro ⟨⟩

/-- A bystander may leave at any time. -/
theorem Uses.leaving {p : Program α} (hp : p.Uses Effect.IsBystander) (patience : Option Nat)
    {owed : Option Effect} (howed : ∀ e ∈ owed, e.IsBystander) :
    (p.leaving patience owed).Uses Effect.IsBystander := by
  induction p generalizing patience owed with
  | pure a => exact trivial
  | step e next ih =>
    rw [Program.leaving]
    split
    · cases owed with
      | none => exact trivial
      | some last => exact ⟨howed last rfl, fun _ _ => trivial⟩
    · refine ⟨hp.1, fun r _ => ih r (hp.2 r trivial) _ ?_⟩
      -- the only lock that a bystander takes is that of the cleanups
      cases e with
      | acquire | release | commit | mute | draw => exact hp.1.elim
      | claimCleanup interval =>
        cases r with
        | false => exact howed
        | true => rintro last ⟨⟩; exact trivial
      | endCleanup => rintro last ⟨⟩
      | _ => exact howed

end Program

/-! ## What a mutation brings about -/

/-- The failure that an outcome is, if it is one. -/
def Outcome.error? : Outcome → Option ServiceError
  | .update (.error e) | .silence (.error e) | .endSilence (.error e) => some e
  | .update (.ok _) | .silence (.ok _) | .endSilence (.ok _) | .observe _ | .view _ | .status _
  | .sendTest _ | .history _ | .cleanup _ | .isEnabled _ | .health _ => none

/-- The outcome is an update that has failed to store something. -/
def Outcome.FailsToStore (a : Outcome) : Prop := ∃ e, a = .update (.error (.persistence e))

namespace Operation

/-- The end that an operation sets for the silence, and what it returns. -/
inductive Silences : Operation → Option Instant → Outcome → Prop
  | silence (minutes : Int) (now : Instant) :
    Silences (.silence minutes) (some (Service.silenceEnd now minutes))
      (.silence (.ok (Service.silenceEnd now minutes)))
  | endSilence : Silences .endSilence none (.endSilence (.ok ()))

/-- What a mutation may bring about from these sides, with its result, if it has
one. -/
inductive Brings (s : Service) (c : Sides) : Operation → Option Outcome → Sides → Prop
  /-- It was left before it wrote anything, or it has failed. -/
  | nothing (op : Operation) (r : Option Outcome) (hr : ∀ a ∈ r, a.error?.isSome) :
    Brings s c op r c
  /-- The update is kept and in force. -/
  | updated (u : Config.Update) (config : Config) (credentials : Credentials)
      (record : SealedCredentials) (r : Option Outcome)
      (htarget : s.IsTarget u c.inForce.live config credentials record)
      (hr : ∀ a ∈ r,
        a = .update (.ok (.of config credentials record s.secretsWritable false))) :
    Brings s c (.update u) r
      ⟨{ c.inForce with config, credentials, record }, { c.kept with config, record }⟩
  /-- Of the update, the configuration is kept. -/
  | configStored (u : Config.Update) (config : Config) (credentials : Credentials)
      (record : SealedCredentials) (r : Option Outcome)
      (htarget : s.IsTarget u c.inForce.live config credentials record)
      (hr : ∀ a ∈ r, a.FailsToStore) :
    Brings s c (.update u) r ⟨c.inForce, { c.kept with config }⟩
  /-- The update is kept, but not in force. -/
  | pairStored (u : Config.Update) (config : Config) (credentials : Credentials)
      (record : SealedCredentials)
      (htarget : s.IsTarget u c.inForce.live config credentials record) :
    Brings s c (.update u) none ⟨c.inForce, { c.kept with config, record }⟩
  /-- The configuration in force is kept again. -/
  | putBack (u : Config.Update) (r : Option Outcome) (hr : ∀ a ∈ r, a.FailsToStore) :
    Brings s c (.update u) r ⟨c.inForce, { c.kept with config := c.inForce.config }⟩
  /-- The end of the silence is kept and in force. -/
  | silenced (op : Operation) (deadline : Option Instant) (a : Outcome) (r : Option Outcome)
      (hop : op.Silences deadline a) (hr : ∀ b ∈ r, b = a) :
    Brings s c op r ⟨{ c.inForce with deadline }, { c.kept with deadline }⟩
  /-- The end of the silence is kept, but not in force. -/
  | deadlineStored (op : Operation) (deadline : Option Instant) (a : Outcome)
      (hop : op.Silences deadline a) :
    Brings s c op none ⟨c.inForce, { c.kept with deadline }⟩

variable {s : Service} {c c' : Sides} {op : Operation} {r : Option Outcome}

/-- Whoever leaves before anything is written has brought about nothing. -/
theorem Brings.left : Brings s c op none c := .nothing op none (by simp)

theorem Brings.failed {a : Outcome} (ha : a.error?.isSome) : Brings s c op (some a) c :=
  .nothing op (some a) (by simpa using ha)

/-- Both sides stay in step with whoever returns, unless an update has failed to
store something. -/
theorem Brings.inStep (h : Brings s c op r c') (hc : c.InStep)
    (hr : ∃ a, r = some a ∧ ¬ a.FailsToStore) : c'.InStep := by
  obtain ⟨a, rfl, hstored⟩ := hr
  rw [Sides.InStep] at hc
  cases h with
  | nothing => exact hc
  | updated | silenced =>
    rw [Sides.InStep, hc]
    rfl
  | configStored _ _ _ _ _ _ hr | putBack _ _ hr => exact absurd (hr a rfl) hstored

end Operation

namespace Service

variable {s : Service} {c : Sides}

/-- An update, from the writes on: what may be left behind grows with each of them. -/
theorem yields_persist {u : Config.Update} {config : Config} {credentials : Credentials}
    {record : SealedCredentials} {f : Except ServiceError Unit → Program Outcome}
    (htarget : s.IsTarget u c.inForce.live config credentials record)
    (hdone : f (.ok ()) = .step (.commit config credentials record) fun _ =>
      .step .release fun _ =>
        .pure (.update (.ok (.of config credentials record s.secretsWritable false))))
    (hfailed : ∀ e, f (.error e) = .step .release fun _ => .pure (.update (.error e))) :
    ((persist c.inForce.config config record).bind f).Yields (Operation.Brings s c (.update u))
      c := by
  have hconfig (r : Option Outcome) (hr : ∀ a ∈ r, a.FailsToStore) :
      Operation.Brings s c (.update u) r ⟨c.inForce, { c.kept with config }⟩ :=
    .configStored u config credentials record r htarget hr
  have hstore (e : StoreError) :
      ∀ a ∈ some (Outcome.update (.error (.persistence e))), a.FailsToStore :=
    fun a ha => ⟨e, (Option.some.inj ha).symm⟩
  rw [persist_eq]
  refine .held trivial .left fun answer _ => ?_
  cases answer with
  | error e =>
    show (f _).Yields _ _
    rw [hfailed]
    exact .release .left (.failed rfl)
  | ok _ =>
    refine .held trivial (hconfig none (by simp)) fun answer _ => ?_
    cases answer with
    | ok _ =>
      show (f _).Yields _ _
      rw [hdone]
      refine .held trivial (.pairStored u config credentials record htarget) fun _ _ => ?_
      exact .release (.updated u config credentials record none htarget (by simp))
        (.updated u config credentials record _ htarget (by simp))
    | error e =>
      -- whether the configuration is put back is never told
      refine .held trivial (hconfig none (by simp)) fun answer _ => ?_
      show (f _).Yields _ _
      rw [hfailed]
      cases answer with
      | ok _ => exact .release (.putBack u none (by simp)) (.putBack u _ (hstore e))
      | error _ => exact .release (hconfig none (by simp)) (hconfig _ (hstore e))

theorem yields_updateLocked (s : Service) (u : Config.Update) (c : Sides) :
    ((s.updateLocked u).bind fun r => .step .release fun _ => .pure (Outcome.update r)).Yields
      (Operation.Brings s c (.update u)) c := by
  rw [updateLocked_eq, Program.step_bind]
  refine .held trivial .left fun live hlive => ?_
  -- it goes on by what is in force alone
  have hconfig : live.config = c.inForce.config := congrArg InForce.config hlive
  have htarget : s.target u live = s.target u c.inForce.live := target_congr hlive
  rw [htarget, hconfig, Program.bind_assoc']
  refine .draws (target_meets c.inForce.live) .left fun r hr => ?_
  cases r with
  | error e => exact .release .left (.failed rfl)
  | ok t =>
    simp only [Program.bind_assoc']
    exact yields_persist hr rfl fun _ => rfl

theorem yields_setDeadline {op : Operation} {deadline : Option Instant}
    {f : Except ServiceError Unit → Outcome} (hop : op.Silences deadline (f (.ok ())))
    (hf : ∀ e, (f (.error e)).error?.isSome) :
    ((setDeadline deadline).bind fun r => .step .release fun _ => .pure (f r)).Yields
      (Operation.Brings s c op) c := by
  rw [setDeadline_eq]
  refine .held trivial .left fun answer _ => ?_
  cases answer with
  | error e => exact .release .left (.failed (hf _))
  | ok _ =>
    refine .held trivial (.deadlineStored op deadline _ hop) fun _ _ => ?_
    exact .release (.silenced op deadline _ none hop (by simp))
      (.silenced op deadline _ _ hop (by simp))

end Service

/-- With the lock, a mutation brings about one of these. -/
theorem Operation.Body.yields {s : Service} {op : Operation} {body : Program Outcome}
    (h : op.Body s body) (c : Sides) : body.Yields (Operation.Brings s c op) c := by
  cases h with
  | update u => exact s.yields_updateLocked u c
  | silence minutes =>
    rw [Service.silenceLocked_eq, Program.step_bind]
    refine .held trivial .left fun now _ => ?_
    rw [Program.bind_assoc']
    exact Service.yields_setDeadline
      (f := fun r => .silence (r.map fun _ => Service.silenceEnd now minutes))
      (.silence minutes now) fun _ => rfl
  | endSilence => exact Service.yields_setDeadline .endSilence fun _ => rfl

end CpuAlert
