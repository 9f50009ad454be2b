import CpuAlert.World

/-!
# Programs on their own

A program that runs on its own is judged by what it returns, by what becomes of
the world, and by what it asks the store on the way. All three follow the
program's composition. Many facts need less: that every effect of a program is
of some sort, and what it returns if the replies are as expected.

## Main definitions

* `Store.Exchange` — a call to a store with its answer
* `World.BeginsBy` — what an effect changes from its beginning to its end
* `Program.asked` — what a program asks the store, on its own
* `Program.Meets` — the effects of a program are allowed, and what it returns is
  right as long as the replies are as expected

## Main results

* `Program.run_bind`, `Program.asked_bind` — one program after the other
* `Program.Meets.bind` — the same for what programs meet
* `Program.Meets.run` — what a run of such a program keeps
* `Program.Meets.asked_eq_nil` — a program that asks nothing
-/

namespace CpuAlert

/-- A call to a store with its answer. -/
structure Store.Exchange where
  call : Store.Call
  answer : call.Answer

/-- The exchange that an effect with its reply is, if it is one. -/
def Effect.exchange? : (e : Effect) → e.Reply → Option Store.Exchange
  | .ask call, answer => some ⟨call, answer⟩
  | .acquire, _ => none
  | .release, _ => none
  | .look, _ => none
  | .commit _ _ _, _ => none
  | .mute _, _ => none
  | .evaluate _, _ => none
  | .clock, _ => none
  | .draw, _ => none
  | .claimCleanup _, _ => none
  | .endCleanup, _ => none
  | .send _ _ _, _ => none
  | .pause _, _ => none
  | .isCancelled, _ => none

namespace World

variable (w : World)

@[simp] theorem perform_ask (c : Store.Call) : w.perform (.ask c) = w.ask c := rfl

@[simp] theorem perform_look : w.perform .look = (w.live, w) := rfl

@[simp] theorem perform_commit (config : Config) (credentials : Credentials)
    (record : SealedCredentials) :
    w.perform (.commit config credentials record) =
      ((), { w with live := w.live.commit config credentials record }) := rfl

/-- An effect that begins like this changes no more than `R` allows, and it will
not do so when it ends. -/
def BeginsBy (R : World → World → Prop) {ρ : Type} (x : Progress ρ × World) : Prop :=
  R w x.2 ∧
    match x.1 with
    | .done _ => True
    | .waiting _ finish _ => ∀ v : World, R v (finish v).2

variable {w}

/-- What the beginning of an effect changes, its end and the passing of time, the
whole effect changes. -/
theorem BeginsBy.perform {R : World → World → Prop}
    (htrans : ∀ {u v w : World}, R u v → R v w → R u w)
    (htime : ∀ (v : World) uptime planned, R v { v with uptime, planned })
    (hfire : ∀ v : World, R v v.fire) {e : Effect} (h : w.BeginsBy R (w.begin e)) :
    R w (w.perform e).2 := by
  obtain ⟨hbegin, hfinish⟩ := h
  simp only [World.perform]
  generalize w.begin e = x at hbegin hfinish
  obtain ⟨progress, v⟩ := x
  cases progress with
  | done reply => exact hbegin
  | waiting end_ finish cancelled =>
    simp only
    split
    · exact htrans (htrans hbegin (htime v _ none)) (hfire _)
    · exact htrans (htrans hbegin (htime v end_ v.planned)) (hfinish _)

end World

namespace Program

variable {α β : Type}

/-- What a program asks the store when it runs on its own, in order. -/
def asked : Program α → World → List Store.Exchange
  | .pure _, _ => []
  | .step e next, w =>
    (e.exchange? (w.perform e).1).toList ++ asked (next (w.perform e).1) (w.perform e).2

@[simp] theorem run_pure (a : α) (w : World) : (Program.pure a).run w = (a, w) := rfl

@[simp] theorem run_step (e : Effect) (next : e.Reply → Program α) (w : World) :
    (Program.step e next).run w = (next (w.perform e).1).run (w.perform e).2 := rfl

@[simp] theorem asked_pure (a : α) (w : World) : (Program.pure a).asked w = [] := rfl

@[simp] theorem asked_step (e : Effect) (next : e.Reply → Program α) (w : World) :
    (Program.step e next).asked w =
      (e.exchange? (w.perform e).1).toList ++ (next (w.perform e).1).asked (w.perform e).2 := rfl

theorem run_bind (p : Program α) (f : α → Program β) (w : World) :
    (p.bind f).run w = (f (p.run w).1).run (p.run w).2 := by
  induction p generalizing w with
  | pure a => rfl
  | step e next ih => simp only [step_bind, run_step, ih]

theorem asked_bind (p : Program α) (f : α → Program β) (w : World) :
    (p.bind f).asked w = p.asked w ++ (f (p.run w).1).asked (p.run w).2 := by
  induction p generalizing w with
  | pure a => rfl
  | step e next ih => simp only [step_bind, asked, run_step, ih, List.append_assoc]

/-! ## What programs meet -/

/-- Every effect of the program is allowed, and what it returns is right, as
long as the replies so far were expected. -/
def Meets (allowed : Effect → Prop) (expected : (e : Effect) → e.Reply → Prop)
    (post : α → Prop) : Program α → Prop
  | .pure a => post a
  | .step e next =>
    allowed e ∧ ∀ r, expected e r → (next r).Meets allowed expected post

/-- The effects of the program are allowed, whatever is replied. -/
abbrev Uses (allowed : Effect → Prop) (p : Program α) : Prop :=
  p.Meets allowed (fun _ _ => True) fun _ => True

variable {allowed : Effect → Prop} {expected : (e : Effect) → e.Reply → Prop}
  {post : α → Prop} {post' : β → Prop}

/-- What the second program meets may depend on what the first one returned. -/
theorem Meets.bind {p : Program α} {f : α → Program β} (hp : p.Meets allowed expected post)
    (hf : ∀ a, post a → (f a).Meets allowed expected post') :
    (p.bind f).Meets allowed expected post' := by
  induction p with
  | pure a => exact hf a hp
  | step e next ih => exact ⟨hp.1, fun r hr => ih r (hp.2 r hr)⟩

theorem Meets.mono {p : Program α} {allowed' : Effect → Prop} {post' : α → Prop}
    (hp : p.Meets allowed expected post) (hallowed : ∀ e, allowed e → allowed' e)
    (hpost : ∀ a, post a → post' a) : p.Meets allowed' expected post' := by
  induction p with
  | pure a => exact hpost a hp
  | step e next ih => exact ⟨hallowed e hp.1, fun r hr => ih r (hp.2 r hr)⟩

/-- What is right whatever is replied is right if the replies are as expected. -/
theorem Meets.expecting {p : Program α} (hp : p.Meets allowed (fun _ _ => True) post) :
    p.Meets allowed expected post := by
  induction p with
  | pure a => exact hp
  | step e next ih => exact ⟨hp.1, fun r _ => ih r (hp.2 r trivial)⟩

theorem Uses.perform {e : Effect} (h : allowed e) : (Program.perform e).Uses allowed :=
  ⟨h, fun _ _ => trivial⟩

theorem Uses.bind {p : Program α} {f : α → Program β} (hp : p.Uses allowed)
    (hf : ∀ a, (f a).Uses allowed) : (p.bind f).Uses allowed :=
  Meets.bind hp fun a _ => hf a

/-- A program whose effects keep the world as it should be, and are answered as
expected there, returns what is right. -/
theorem Meets.run {p : Program α} (hp : p.Meets allowed expected post) (fine : World → Prop)
    (hkeep : ∀ w e, fine w → allowed e → expected e (w.perform e).1 ∧ fine (w.perform e).2)
    {w : World} (hw : fine w) : post (p.run w).1 ∧ fine (p.run w).2 := by
  induction p generalizing w with
  | pure a => exact ⟨hp, hw⟩
  | step e next ih =>
    obtain ⟨hr, hfine⟩ := hkeep w e hw hp.1
    exact ih _ (hp.2 _ hr) hfine

/-- A program that does not use the store asks nothing. -/
theorem Meets.asked_eq_nil {p : Program α} (hp : p.Meets allowed (fun _ _ => True) post)
    (hask : ∀ c, ¬ allowed (.ask c)) (w : World) : p.asked w = [] := by
  induction p generalizing w with
  | pure a => rfl
  | step e next ih =>
    have hnone : e.exchange? (w.perform e).1 = none := by
      cases e with
      | ask c => exact absurd hp.1 (hask c)
      | _ => rfl
    rw [asked, hnone, Option.toList_none, List.nil_append, ih _ (hp.2 _ trivial)]

end Program

end CpuAlert
