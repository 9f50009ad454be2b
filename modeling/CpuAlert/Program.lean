import CpuAlert.Channel
import CpuAlert.Live
import CpuAlert.Secret.Gcm
import CpuAlert.Store

/-!
# Programs

What the service does is written down as a program: a tree of effects, each
followed by what is done with its reply. An effect is atomic; between any two of
them other programs may take their steps, and a program may be abandoned there.
The tree does not say what an effect means, so the same program can be run on
its own, beside others, or against a store that fails.

## Main definitions

* `Effect`, `Effect.Reply` — the effects and their replies
* `Program` — a tree of effects
-/

namespace CpuAlert

open Time (Instant)

/-- What a program can do in one step. -/
inductive Effect
  /-- Wait for the lock that serialises changes, and take it. -/
  | acquire
  /-- Give the lock back. -/
  | release
  /-- Read the live state. -/
  | look
  /-- Ask the store. -/
  | ask (call : Store.Call)
  /-- Put an update into force. -/
  | commit (config : Config) (credentials : Credentials) (record : SealedCredentials)
  /-- Begin or end a silence. -/
  | mute (deadline : Option Instant)
  /-- Evaluate a snapshot. -/
  | evaluate (snapshot : Snapshot)
  /-- Read the clock on the wall. -/
  | clock
  /-- Draw a nonce. -/
  | draw
  /-- Wait until nobody cleans up, and ask whether a cleanup is due after so many
  milliseconds; if so, count it as done now and let nobody else clean up. -/
  | claimCleanup (interval : Nat)
  /-- Let others clean up again. -/
  | endCleanup
  /-- Let the channel at this place make an attempt, unless deliveries are
  cancelled. -/
  | send (place : Nat) (channel : Channel) (notice : Notice)
  /-- Let milliseconds pass; the reply says whether deliveries were cancelled
  meanwhile. -/
  | pause (milliseconds : Nat)
  /-- Ask whether deliveries are cancelled. -/
  | isCancelled

/-- The reply to an effect. -/
abbrev Effect.Reply : Effect → Type
  | .acquire => Unit
  | .release => Unit
  | .look => Live
  | .ask call => call.Answer
  | .commit _ _ _ => Unit
  | .mute _ => Unit
  | .evaluate _ => List Pending
  | .clock => Instant
  | .draw => Except String Gcm.Nonce
  | .claimCleanup _ => Bool
  | .endCleanup => Unit
  | .send _ _ _ => Except SendError Unit
  | .pause _ => Bool
  | .isCancelled => Bool

/-- A tree of effects with a result at the end of every branch. -/
inductive Program (α : Type) : Type
  | pure (result : α)
  | step (effect : Effect) (next : effect.Reply → Program α)

namespace Program

variable {α β : Type}

/-- One program after the other. -/
def bind : Program α → (α → Program β) → Program β
  | .pure a, f => f a
  | .step e next, f => .step e fun r => (next r).bind f

instance : Monad Program where
  pure := .pure
  bind := .bind

/-- A single effect. -/
def perform (e : Effect) : Program e.Reply := .step e .pure

@[simp] theorem pure_bind' (a : α) (f : α → Program β) : (Program.pure a).bind f = f a := rfl

@[simp] theorem step_bind (e : Effect) (next : e.Reply → Program α) (f : α → Program β) :
    (Program.step e next).bind f = .step e fun r => (next r).bind f := rfl

theorem bind_pure' (p : Program α) : p.bind .pure = p := by
  induction p with
  | pure a => rfl
  | step e next ih => simp only [step_bind, ih]

theorem bind_assoc' {γ : Type} (p : Program α) (f : α → Program β) (g : β → Program γ) :
    (p.bind f).bind g = p.bind fun a => (f a).bind g := by
  induction p with
  | pure a => rfl
  | step e next ih => simp only [step_bind, ih]

end Program

end CpuAlert
