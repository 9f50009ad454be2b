import CpuAlert.Proofs.Service.Recording
import Mathlib.Data.List.Forall2

/-!
# The history steers nothing

What the store answers about its history goes into a result or nowhere. So if two
watches begin alike but for the history and for which records are refused, and
the same moves are made in both, then the same effects follow one another in
both, and both come to the same live state.

## Main definitions

* `Effect.AsksHistory` — the effect asks the store about its history
* `Program.Alike` — programs that go alike whatever is said of the history
* `World.IsLike`, `Session.IsLike`, `Watch.IsLike` — alike but for the history

## Main results

* `Operation.calling_alike` — what callers do does not depend on the history
* `World.IsLike.begin` — an effect begins alike
* `Session.IsLike.step`, `Watch.IsLike.play` — the same moves can be made, and
  what follows is alike
-/

namespace CpuAlert

open Time (Instant)

/-! ## Programs -/

/-- The call is about the history. -/
def Store.Call.IsOfHistory : Store.Call → Prop
  | .append _ | .list _ | .deleteBefore _ | .health => True
  | .readConfig | .writeConfig _ | .readCredentials | .writeCredentials _ | .mutedUntil
  | .writeSilence _ | .close => False

/-- The effect asks the store about its history. -/
def Effect.AsksHistory : Effect → Prop
  | .ask call => call.IsOfHistory
  | .acquire | .release | .look | .commit _ _ _ | .mute _ | .evaluate _ | .clock | .draw
  | .claimCleanup _ | .endCleanup | .send _ _ _ | .pause _ | .isCancelled => False

/-- The replies are the same, or say something of the history. -/
def Effect.RepliesAlike (e : Effect) (r r' : e.Reply) : Prop := e.AsksHistory ∨ r' = r

namespace Program

variable {α α' β β' : Type}

/-- The programs go alike, whatever is said of the history, and their results are
related. -/
inductive Alike (R : α → α' → Prop) : Program α → Program α' → Prop
  | pure {a : α} {a' : α'} (h : R a a') : Alike R (.pure a) (.pure a')
  | step {e : Effect} {next : e.Reply → Program α} {next' : e.Reply → Program α'}
      (h : ∀ r r', e.RepliesAlike r r' → Alike R (next r) (next' r')) :
    Alike R (.step e next) (.step e next')

variable {R : α → α' → Prop} {S : β → β' → Prop}

theorem Alike.bind {p : Program α} {p' : Program α'} {f : α → Program β} {f' : α' → Program β'}
    (hp : p.Alike R p') (hf : ∀ a a', R a a' → (f a).Alike S (f' a')) :
    (p.bind f).Alike S (p'.bind f') := by
  induction hp with
  | pure h => exact hf _ _ h
  | step _ ih => exact .step ih

/-- A program that does not ask about the history goes like itself. -/
theorem Alike.of_uses {p : Program α} (hp : p.Uses fun e => ¬ e.AsksHistory) : p.Alike Eq p := by
  induction p with
  | pure a => exact .pure rfl
  | step e next ih =>
    refine .step fun r r' hr => ?_
    obtain rfl := hr.resolve_left hp.1
    exact ih r' (hp.2 r' trivial)

/-- The same followed by something that depends on its result. -/
theorem Alike.bind_of_uses {p : Program α} {f : α → Program β} {f' : α → Program β'}
    (hp : p.Uses fun e => ¬ e.AsksHistory) (hf : ∀ a, (f a).Alike S (f' a)) :
    (p.bind f).Alike S (p.bind f') :=
  (Alike.of_uses hp).bind fun a _ h => h ▸ hf a

end Program

/-! ## What programs do not heed -/

theorem Effect.allowsAttempts_not_asksHistory : AllowsAttempts fun e => ¬ e.AsksHistory :=
  ⟨fun _ => id, id⟩

theorem Effect.allowsMutation_not_asksHistory : AllowsMutation fun e => ¬ e.AsksHistory where
  acquire := id
  release := id
  look := id
  clock := id
  draw := id
  commit _ _ _ := id
  mute _ := id
  write c hc := by
    cases c with
    | writeConfig | writeCredentials | writeSilence => exact id
    | _ => exact hc.elim

namespace Service

variable {β : Type} {S : β → β → Prop} {s : Service}

/-- Handling notifications goes on alike, whatever is said of the records. -/
theorem deliverAll_alike (ps : List Pending) {f : Unit → Program β} (hf : (f ()).Alike S (f ())) :
    ((s.deliverAll ps).bind f).Alike S ((s.deliverAll ps).bind f) := by
  induction ps with
  | nil => exact hf
  | cons p ps ih =>
    rw [deliverAll_cons_bind]
    have hnotifying : (s.notifying p).Uses fun e => ¬ e.AsksHistory :=
      Delivery.through_uses Effect.allowsAttempts_not_asksHistory (fun _ _ => id) _
    exact .bind_of_uses hnotifying fun channels => .step fun _ _ _ => ih

theorem deleteOld_alike (s : Service) : s.deleteOld.Alike (fun _ _ => True) s.deleteOld := by
  refine .bind_of_uses (.perform id) fun now => ?_
  split
  · exact .pure trivial
  · refine .step fun r r' _ => ?_
    cases r <;> cases r' <;> exact .pure trivial

theorem cleanup_alike (s : Service) : s.cleanup.Alike (fun _ _ => True) s.cleanup := by
  refine .bind_of_uses (.perform id) fun due => ?_
  cases due with
  | false => exact .pure trivial
  | true =>
    exact .bind s.deleteOld_alike fun _ _ _ =>
      .bind_of_uses (.perform id) fun _ => .pure trivial

/-- A test goes on alike up to its result. -/
theorem sendTest_alike (s : Service) : s.sendTest.Alike (fun _ _ => True) s.sendTest := by
  have hbind : s.sendTest.bind (.pure : _ → Program _) = s.sendTest := Program.bind_pure' _
  rw [← hbind, sendTest_bind]
  refine .step fun live live' hlive => ?_
  obtain rfl := hlive.resolve_left id
  split
  · exact .pure trivial
  · refine .step fun now now' hnow => ?_
    obtain rfl := hnow.resolve_left id
    have htesting : (s.testing live' now').Uses fun e => ¬ e.AsksHistory :=
      Delivery.through_uses Effect.allowsAttempts_not_asksHistory (fun _ _ => id) _
    exact .bind_of_uses htesting fun channels => .step fun _ _ _ => .pure trivial

end Service

namespace Operation

/-- The operations that tell something of the history. -/
def TellsHistory : Operation → Prop
  | .sendTest | .history _ _ | .cleanup | .health => True
  | .update _ | .silence _ | .endSilence | .observe _ | .view _ | .status _ | .isEnabled => False

/-- What callers do does not depend on the history, and neither does what they get
unless it is about the history. -/
theorem calling_alike (s : Service) (op : Operation) :
    (Watch.calling s op).Alike (fun r r' => op.TellsHistory ∨ r' = r) (Watch.calling s op) := by
  have hsame {p : Program Outcome} (hp : p.Uses fun e => ¬ e.AsksHistory) :
      (p.bind fun r => .pure (some r)).Alike (fun r r' => op.TellsHistory ∨ r' = r)
        (p.bind fun r => .pure (some r)) :=
    .bind_of_uses hp fun _ => .pure (.inr rfl)
  have htells {α : Type} {p : Program α} {f : α → Outcome} (hp : p.Alike (fun _ _ => True) p)
      (hop : op.TellsHistory) :
      ((p.bind fun r => .pure (f r)).bind fun r => .pure (some r)).Alike
        (fun r r' => op.TellsHistory ∨ r' = r)
        ((p.bind fun r => .pure (f r)).bind fun r => .pure (some r)) :=
    (hp.bind (S := fun _ _ => True) fun _ _ _ => .pure trivial).bind fun _ _ _ =>
      .pure (.inl hop)
  cases op with
  | update | silence | endSilence =>
    exact hsame (mutation_uses Effect.allowsMutation_not_asksHistory s trivial)
  | view | isEnabled => exact hsame (.bind (.bind (.perform id) fun _ => trivial) fun _ => trivial)
  | status =>
    refine hsame (.bind (.bind (.perform id) fun _ => ?_) fun _ => trivial)
    exact .bind (.perform id) fun _ => trivial
  | observe snapshot =>
    rw [Watch.calling_observe_eq]
    refine .step fun pending pending' hpending => ?_
    obtain rfl := hpending.resolve_left id
    exact Service.deliverAll_alike pending' (.pure (.inr rfl))
  | sendTest => exact htells s.sendTest_alike trivial
  | cleanup => exact htells s.cleanup_alike trivial
  | history | health => exact htells (.step fun _ _ _ => .pure trivial) trivial

end Operation

/-! ## Worlds -/

/-- A store without its history. -/
def Backend.bare : Backend → Backend
  | .memory m => .memory { m with events := [], lastId := 0 }
  | .database d => .database { d with events := [], lastId := 0 }

namespace Backend

variable {b b' : Backend}

/-- A call that is not about the history does the same without it. -/
theorem perform_bare {c : Store.Call} (hc : ¬ c.IsOfHistory) (b : Backend) (now : Instant) :
    (b.bare.perform now c).1 = (b.perform now c).1 ∧
      (b.bare.perform now c).2.bare = (b.perform now c).2.bare := by
  cases b with
  | memory m => cases c <;> first | exact ⟨rfl, rfl⟩ | exact absurd trivial hc
  | database d =>
    obtain ⟨path, isOpen, settings, credentials, silence, events, lastId⟩ := d
    simp only [bare, perform, Database.perform]
    cases isOpen with
    | false => cases c <;> exact ⟨rfl, rfl⟩
    | true =>
      cases c with
      | append | list | deleteBefore | health => exact absurd trivial hc
      | writeConfig config =>
        simp only [Database.performOpen, Database.writeConfig, if_pos]
        cases settings with
        | none => exact ⟨rfl, rfl⟩
        | some _ =>
          generalize Database.emptyColumn? _ = refusal?
          cases refusal? <;> exact ⟨rfl, rfl⟩
      | _ => exact ⟨rfl, rfl⟩

/-- A call that is about the history changes nothing else. -/
theorem bare_perform {c : Store.Call} (hc : c.IsOfHistory) (b : Backend) (now : Instant) :
    (b.perform now c).2.bare = b.bare := by
  cases b with
  | memory m => cases c <;> first | rfl | exact hc.elim
  | database d =>
    simp only [bare, perform, Database.perform]
    by_cases hopen : d.isOpen = true
    · rw [if_pos hopen]
      cases c with
      | append draft =>
        simp only [Database.performOpen, Database.append, Database.insert]
        split <;> rfl
      | list | deleteBefore | health => rfl
      | _ => exact hc.elim
    · rw [if_neg hopen]
      cases c <;> rfl

end Backend

namespace World

/-- The worlds are alike but for the history of the store, and for which records
are refused. -/
def IsLike (w w' : World) : Prop :=
  ∃ store outage, w' = { w with store, outage } ∧ store.bare = w.store.bare ∧
    ∀ n m, m ≠ .append → outage n m = w.outage n m

variable {w w' : World}

/-- An effect that can be waited for ends alike. -/
def EndsAlike {ρ : Type} (finish : World → ρ × World) : Prop :=
  ∀ v v' : World, v.IsLike v' → (finish v').1 = (finish v).1 ∧ (finish v).2.IsLike (finish v').2

end World

/-- An effect begins alike. -/
inductive Progress.IsLike (e : Effect) : Progress e.Reply → Progress e.Reply → Prop
  | done {r r' : e.Reply} (h : e.RepliesAlike r r') : IsLike e (.done r) (.done r')
  | waiting {until_ : Nat} {finish : World → e.Reply × World} {cancelled : e.Reply}
      (h : World.EndsAlike finish) :
    IsLike e (.waiting until_ finish cancelled) (.waiting until_ finish cancelled)

namespace World

variable {w w' : World}

/-- A change that has nothing to do with the store. -/
theorem IsLike.map (h : w.IsLike w') (f : World → World)
    (hf : ∀ (v : World) store outage, f { v with store, outage } = { f v with store, outage })
    (hstore : (f w).store = w.store) (houtage : (f w).outage = w.outage) :
    (f w).IsLike (f w') := by
  obtain ⟨store, outage, rfl, hbare, hsame⟩ := h
  exact ⟨store, outage, hf .., hstore.symm ▸ hbare, houtage.symm ▸ hsame⟩

theorem IsLike.fire (h : w.IsLike w') : w.fire.IsLike w'.fire :=
  h.map World.fire (fun _ _ _ => rfl) rfl rfl

/-- What is asked of the store. -/
theorem IsLike.ask (h : w.IsLike w') (c : Store.Call) :
    (Effect.ask c).RepliesAlike (w.ask c).1 (w'.ask c).1 ∧ (w.ask c).2.IsLike (w'.ask c).2 := by
  obtain ⟨store, outage, rfl, hbare, hsame⟩ := h
  by_cases hc : c.IsOfHistory
  · refine ⟨.inl hc, ?_⟩
    -- each of the two may be refused; either way the rest of the store is as it was
    have hask (v : World) : ∃ b, (v.ask c).2 = { v with asked := v.asked + 1, store := b } ∧
        b.bare = v.store.bare := by
      simp only [World.ask]
      split
      · exact ⟨_, rfl, rfl⟩
      · exact ⟨_, rfl, Backend.bare_perform hc ..⟩
    obtain ⟨b, hw, hb⟩ := hask w
    obtain ⟨b', hw', hb'⟩ := hask { w with store, outage }
    rw [hw, hw']
    exact ⟨b', outage, rfl, hb'.trans (hbare.trans hb.symm), hsame⟩
  · have hmethod : c.method ≠ .append := by
      cases c with
      | append => exact absurd trivial hc
      | _ =>
        intro h
        cases h
    obtain ⟨hreply, hafter⟩ := Backend.perform_bare hc w.store w.wall
    obtain ⟨hreply', hafter'⟩ := Backend.perform_bare hc store w.wall
    rw [hbare] at hreply' hafter'
    simp only [World.ask, hsame _ _ hmethod]
    split
    · exact ⟨.inr rfl, store, outage, rfl, hbare, hsame⟩
    · exact ⟨.inr (hreply'.symm.trans hreply), _, outage, rfl, hafter'.symm.trans hafter, hsame⟩

theorem endsAlike_finishSend (a : Attempt) : EndsAlike (finishSend a) := by
  intro v v' h
  refine ⟨rfl, ?_⟩
  simp only [finishSend]
  split
  · exact h.fire
  · exact h

theorem IsLike.live (h : w.IsLike w') : w'.live = w.live := by
  obtain ⟨store, outage, rfl, -⟩ := h
  rfl

/-- The same locks are held. -/
theorem IsLike.isHeldUp (h : w.IsLike w') (e : Effect) : e.isHeldUp w' = e.isHeldUp w := by
  obtain ⟨store, outage, rfl, -⟩ := h
  cases e <;> rfl

/-- An effect begins alike. -/
theorem IsLike.begin (h : w.IsLike w') (e : Effect) :
    Progress.IsLike e (w.begin e).1 (w'.begin e).1 ∧ (w.begin e).2.IsLike (w'.begin e).2 := by
  have hdone {r : e.Reply} : Progress.IsLike e (.done r) (.done r) := .done (.inr rfl)
  cases e with
  | ask c => exact ⟨.done (h.ask c).1, (h.ask c).2⟩
  | acquire => exact ⟨hdone, h.map (fun v => { v with locked := true }) (fun _ _ _ => rfl) rfl rfl⟩
  | release => exact ⟨hdone, h.map (fun v => { v with locked := false }) (fun _ _ _ => rfl) rfl rfl⟩
  | look | clock | isCancelled =>
    obtain ⟨store, outage, rfl, hrest⟩ := h
    exact ⟨hdone, store, outage, rfl, hrest⟩
  | commit | mute | evaluate | draw | endCleanup =>
    obtain ⟨store, outage, rfl, hrest⟩ := h
    exact ⟨hdone, store, outage, rfl, hrest⟩
  | claimCleanup interval =>
    obtain ⟨store, outage, rfl, hrest⟩ := h
    simp only [World.begin]
    split <;> exact ⟨hdone, store, outage, rfl, hrest⟩
  | send place channel notice =>
    have hsent := h.map
      (fun v => { v with sent := ⟨place, channel.name, notice, v.uptime⟩ :: v.sent })
      (fun _ _ _ => rfl) rfl rfl
    obtain ⟨store, outage, rfl, hrest⟩ := h
    have hsentBy : ({ w with store, outage } : World).sentBy place = w.sentBy place := rfl
    simp only [World.begin, hsentBy]
    generalize channel.attempt (w.sentBy place) notice = a
    split
    · exact ⟨hdone, store, outage, rfl, hrest⟩
    · split
      · exact ⟨hdone, (endsAlike_finishSend a _ _ hsent).2⟩
      · exact ⟨.waiting (endsAlike_finishSend _), store, outage, rfl, hrest⟩
  | pause milliseconds =>
    obtain ⟨store, outage, rfl, hrest⟩ := h
    simp only [World.begin]
    split
    · exact ⟨hdone, store, outage, rfl, hrest⟩
    · split
      · exact ⟨hdone, store, outage, rfl, hrest⟩
      · exact ⟨.waiting fun v v' h => ⟨rfl, h⟩, store, outage, rfl, hrest⟩

end World

/-! ## Sessions -/

/-- What is left to a caller is alike. -/
inductive Running.IsLike {α : Type} (R : α → α → Prop) : Running α → Running α → Prop
  | ready {p p' : Program α} (h : p.Alike R p') : IsLike R (.ready p) (.ready p')
  | waiting {e : Effect} {finish : World → e.Reply × World} {cancelled : e.Reply}
      {next next' : e.Reply → Program α} (hfinish : World.EndsAlike finish)
      (hnext : ∀ r r', e.RepliesAlike r r' → (next r).Alike R (next' r')) :
    IsLike R (.waiting e finish cancelled next) (.waiting e finish cancelled next')

/-- The same happens, and the replies are the same or say something of the
history. -/
inductive Happening.IsLike {ι : Type} : Happening ι → Happening ι → Prop
  | mk {i : ι} {e : Effect} {r r' : e.Reply} (h : e.RepliesAlike r r') :
    IsLike ⟨i, e, r⟩ ⟨i, e, r'⟩

namespace Session

variable {ι α : Type} {R : ι → α → α → Prop} {t t' u : Session ι α}

/-- The sessions are alike but for the history. -/
structure IsLike (R : ι → α → α → Prop) (t t' : Session ι α) : Prop where
  world : t.world.IsLike t'.world
  running : ∀ i, (t.running i).IsLike (R i) (t'.running i)
  past : List.Forall₂ Happening.IsLike t.past t'.past

/-- What has been done is the same, and by the same. -/
theorem IsLike.effects (h : t.IsLike R t') :
    t'.past.map (fun x => (x.caller, x.effect)) = t.past.map fun x => (x.caller, x.effect) := by
  have hpast := h.past
  generalize t.past = hs at hpast
  generalize t'.past = hs' at hpast
  induction hpast with
  | nil => rfl
  | cons hx _ ih =>
    cases hx
    exact congrArg (List.cons _) ih

/-- Whoever has returned has returned, with a related result. -/
theorem IsLike.hasReturned (h : t.IsLike R t') {i : ι} {a : α} (hi : t.HasReturned i a) :
    ∃ a', t'.HasReturned i a' ∧ R i a a' := by
  have hrunning := h.running i
  rw [HasReturned] at hi
  rw [hi] at hrunning
  generalize hr' : t'.running i = r' at hrunning
  cases hrunning with
  | ready hp =>
    cases hp with
    | pure hR => exact ⟨_, hr', hR⟩

variable [DecidableEq ι]

theorem IsLike.update (h : t.IsLike R t') {i : ι} {r r' : Running α} {w w' : World}
    (hr : r.IsLike (R i) r') (hw : w.IsLike w') :
    IsLike R { t with world := w, running := Function.update t.running i r }
      { t' with world := w', running := Function.update t'.running i r' } where
  world := hw
  running j := by
    by_cases hji : j = i
    · subst hji
      simp only [Function.update_self]
      exact hr
    · simp only [Function.update_of_ne hji]
      exact h.running j
  past := h.past

theorem IsLike.record (h : t.IsLike R t') {i : ι} {e : Effect} {r r' : e.Reply}
    {next next' : e.Reply → Program α} {w w' : World} (hr : e.RepliesAlike r r')
    (hnext : (next r).Alike (R i) (next' r')) (hw : w.IsLike w') :
    (t.record i e r next w).IsLike R (t'.record i e r' next' w') :=
  { h.update (.ready hnext) hw with
    past := List.rel_append h.past (.cons (.mk hr) .nil) }

/-- Somebody goes on in both, or in neither. -/
theorem IsLike.go (h : t.IsLike R t') {i : ι} (hstep : t.step (.go i) = some u) :
    ∃ u', t'.step (.go i) = some u' ∧ u.IsLike R u' := by
  have hi := h.running i
  simp only [Session.step] at hstep ⊢
  generalize t.running i = r at hi hstep
  generalize t'.running i = r' at hi ⊢
  cases hi with
  | waiting => cases hstep
  | ready hp =>
    cases hp with
    | pure => cases hstep
    | @step e next next' hnext =>
      obtain ⟨hprogress, hworld⟩ := h.world.begin e
      dsimp only at hstep ⊢
      split at hstep
      · cases hstep
      · rename_i hfree
        rw [h.world.isHeldUp, if_neg hfree]
        -- both worlds begin with it in the same way
        generalize t.world.begin e = x at hprogress hworld hstep
        generalize t'.world.begin e = x' at hprogress hworld ⊢
        obtain ⟨progress, w⟩ := x
        obtain ⟨progress', w'⟩ := x'
        dsimp only at hprogress hworld
        cases hprogress with
        | done hr =>
          cases hstep
          exact ⟨_, rfl, h.record hr (hnext _ _ hr) hworld⟩
        | waiting hfinish =>
          cases hstep
          exact ⟨_, rfl, h.update (.waiting hfinish hnext) hworld⟩

/-- The same choice can be made, and what follows is alike. -/
theorem IsLike.step (h : t.IsLike R t') {c : Choice ι} (hstep : t.step c = some u) :
    ∃ u', t'.step c = some u' ∧ u.IsLike R u' := by
  cases c with
  | turn wall uptime =>
    cases hstep
    exact ⟨_, rfl, h.world.map (fun v => { v with wall, uptime }) (fun _ _ _ => rfl) rfl rfl,
      h.running, h.past⟩
  | cancel =>
    cases hstep
    exact ⟨_, rfl, h.world.fire, h.running, h.past⟩
  | go i => exact h.go hstep
  | finish i =>
    have hi := h.running i
    simp only [Session.step] at hstep ⊢
    generalize t.running i = r at hi hstep
    generalize t'.running i = r' at hi ⊢
    cases hi with
    | ready => cases hstep
    | waiting hfinish hnext =>
      obtain ⟨hreply, hworld⟩ := hfinish _ _ h.world
      cases hstep
      exact ⟨_, rfl, h.record (.inr hreply) (hnext _ _ (.inr hreply)) hworld⟩
  | cut i =>
    have hi := h.running i
    simp only [Session.step] at hstep ⊢
    generalize t.running i = r at hi hstep
    generalize t'.running i = r' at hi ⊢
    cases hi with
    | ready => cases hstep
    | waiting hfinish hnext =>
      cases hstep
      exact ⟨_, rfl, h.record (.inr rfl) (hnext _ _ (.inr rfl)) h.world⟩

end Session

/-! ## Watches -/

namespace Watch

variable {ι : Type} {s : Service} {operations : ι → Operation} {t t' u : Watch ι}

/-- What somebody gets is the same, unless a caller asked for something that tells
of the history. -/
def SameResult (operations : ι → Operation) : Actor ι → Option Outcome → Option Outcome → Prop
  | .caller i, r, r' => (operations i).TellsHistory ∨ r' = r
  | .loop, r, r' => r' = r
  | .delivery _, r, r' => r' = r

/-- The watches are alike but for the history. -/
structure IsLike (operations : ι → Operation) (t t' : Watch ι) : Prop
    extends Session.IsLike (SameResult operations) t.toSession t'.toSession where
  begun : t'.begun = t.begun

theorem delivering_alike (s : Service) (p : Option Pending) :
    (delivering s p).Alike (fun r r' => r' = r) (delivering s p) := by
  cases p with
  | none => exact .pure rfl
  | some p =>
    rw [delivering_eq_deliverAll]
    exact Service.deliverAll_alike [p] (.pure rfl)

theorem isLike_start (s : Service) (operations : ι → Operation) {w w' : World}
    (h : w.IsLike w') : (start s operations w).IsLike operations (start s operations w') where
  world := h
  running
    | .caller i => .ready ((operations i).calling_alike s)
    | .loop => .ready (.pure rfl)
    | .delivery _ => .ready (.pure rfl)
  past := .nil
  begun := rfl

/-- Whether the loop has nothing to do is seen from what is left to it. -/
theorem IsLike.idle (h : t.IsLike operations t') {r : Option Outcome}
    (hr : t.running .loop = .ready (.pure r)) : t'.running .loop = .ready (.pure r) := by
  have hloop := h.running .loop
  rw [hr] at hloop
  generalize t'.running .loop = r' at hloop ⊢
  cases hloop with
  | ready hp =>
    cases hp with
    | pure hsame => exact congrArg (fun r => Running.ready (.pure r)) hsame

theorem IsLike.took [DecidableEq ι] (h : t.IsLike operations t') (snapshot : Snapshot) :
    (t.took s snapshot).IsLike operations (t'.took s snapshot) := by
  have hpending : (t'.world.live.evaluate snapshot).1 = (t.world.live.evaluate snapshot).1 := by
    rw [h.world.live]
  have hbegun : (t'.took s snapshot).begun = (t.took s snapshot).begun := by
    show t'.begun ++ (t'.world.live.evaluate snapshot).1 = t.begun ++ _
    rw [h.begun, hpending]
    rfl
  refine { world := ?_, running := fun a => ?_, past := ?_, begun := hbegun }
  · exact h.world.map (fun v => { v with live := (v.live.evaluate snapshot).2 })
      (fun _ _ _ => rfl) rfl rfl
  · cases a with
    | caller i => exact h.running (.caller i)
    | loop => exact h.running .loop
    | delivery n =>
      show Running.IsLike _
        (if n < t.begun.length then t.running (.delivery n)
          else .ready (delivering s (t.took s snapshot).begun[n]?))
        (if n < t'.begun.length then t'.running (.delivery n)
          else .ready (delivering s (t'.took s snapshot).begun[n]?))
      rw [hbegun, h.begun]
      split
      · exact h.running (.delivery n)
      · exact .ready (delivering_alike s _)
  · exact List.rel_append h.past (.cons (.mk (.inr hpending)) .nil)

variable [DecidableEq ι]

theorem IsLike.swept (h : t.IsLike operations t') :
    (t.swept s).IsLike operations (t'.swept s) :=
  have hsweeping : (sweeping s).Alike (fun r r' => r' = r) (sweeping s) :=
    s.cleanup_alike.bind fun _ _ _ => .pure rfl
  { h.toIsLike.update (i := .loop) (.ready hsweeping) h.world with begun := h.begun }

/-- The same move can be made, and what follows is alike. -/
theorem IsLike.step (h : t.IsLike operations t') {m : Move ι} (hstep : t.step s m = some u) :
    ∃ u', t'.step s m = some u' ∧ u.IsLike operations u' := by
  cases m with
  | take snapshot =>
    simp only [Watch.step] at hstep ⊢
    split at hstep
    · rename_i hr
      rw [h.idle hr]
      exact ⟨_, rfl, Option.some.inj hstep ▸ h.took snapshot⟩
    · cases hstep
  | cleanUp =>
    simp only [Watch.step] at hstep ⊢
    split at hstep
    · rename_i hr
      rw [h.idle hr]
      exact ⟨_, rfl, Option.some.inj hstep ▸ h.swept⟩
    · cases hstep
  | choose c =>
    obtain ⟨v, hv, rfl⟩ := Option.map_eq_some_iff.mp hstep
    obtain ⟨v', hv', hlike⟩ := h.toIsLike.step hv
    exact ⟨{ t' with toSession := v' }, Option.map_eq_some_iff.mpr ⟨v', hv', rfl⟩,
      { hlike with begun := h.begun }⟩

/-- The same moves can be made, and what follows is alike. -/
theorem IsLike.play (h : t.IsLike operations t') {ms : List (Move ι)}
    (hplay : t.play s ms = some u) : ∃ u', t'.play s ms = some u' ∧ u.IsLike operations u' := by
  induction ms generalizing t t' with
  | nil =>
    obtain rfl := Option.some.inj hplay
    exact ⟨t', rfl, h⟩
  | cons m ms ih =>
    obtain ⟨v, hv, hrest⟩ := Option.bind_eq_some_iff.mp hplay
    obtain ⟨v', hv', hlike⟩ := h.step hv
    obtain ⟨u', hu', hu⟩ := ih hlike hrest
    exact ⟨u', Option.bind_eq_some_iff.mpr ⟨v', hv', hu'⟩, hu⟩

end Watch

end CpuAlert
