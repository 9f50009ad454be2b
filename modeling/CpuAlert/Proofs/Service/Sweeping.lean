import CpuAlert.Proofs.Service.Cleaning
import CpuAlert.Proofs.Service.LoopWatch

/-!
# Cleanups in a watch

The loop cleans up, and callers do, whenever they like. Whoever finds another
cleanup going on waits for the lock, and takes it when it is free again. So what
cleanups do in a watch is what calls do that follow one another, whatever else goes
on between them and between their effects.

## Main definitions

* `Watch.sweeps` — who cleans up
* `Watch.sweepings` — the turns of those who clean up
* `Watch.Advances` — the steady clock is never set back
* `Watch.Orders` — the cleanups so far were calls one after the other, and somebody
  may be in the middle of the next
* `Watch.IsSwept` — that, if nobody is, and what callers have got

## Main results

* `Watch.Orders.step`, `Watch.Orders.play` — the cleanups of a watch are in order
* `Watch.Orders.exists_isSwept` — what that means when nobody cleans up
* `Watch.Orders.exists_unlocked` — whoever cleans up comes to an end
* `Service.cleanups_spaced` — which cleanups ask the store, for what, and what stays
-/

namespace CpuAlert

open Time (Instant)

namespace Operation

def isCleanup : Operation → Bool
  | .cleanup => true
  | _ => false

end Operation

/-- What is left to somebody, and the end of a wait as well, has nothing to do with
cleaning up. -/
def Running.IsElsewhere {α : Type} : Running α → Prop
  | .ready p => p.Uses Effect.IsElsewhere
  | .waiting _ finish _ next =>
    (∀ v, World.Elsewhere v (finish v).2) ∧ ∀ reply, (next reply).Uses Effect.IsElsewhere

namespace Watch

variable {ι : Type}

/-- Who cleans up: the loop, and callers that ask for it. -/
def sweeps (operations : ι → Operation) : Actor ι → Bool
  | .caller i => (operations i).isCleanup
  | .loop => true
  | .delivery _ => false

/-- The effect that begins in a move, if one does: whose it is, and the world that
it meets. -/
def turn? (t : Watch ι) : Move ι → Option (Actor ι × Turn)
  | .choose (.go a) =>
    match t.running a with
    | .ready (.step e _) => some (a, ⟨t.world, e⟩)
    | _ => none
  | _ => none

/-- No other move begins an effect. -/
theorem append_turn {m : Move ι} (hm : ∀ a, m ≠ .choose (.go a)) (t : Watch ι)
    (operations : ι → Operation) (turns : List (Actor ι × Turn)) :
    turns ++ (t.turn? m).toList.filter (fun x => sweeps operations x.1) = turns := by
  have hnone : t.turn? m = none := by
    unfold turn?
    split
    · exact absurd rfl (hm _)
    · rfl
  rw [hnone]
  exact List.append_nil turns

variable [DecidableEq ι]

/-- The turns of those who clean up, in order. -/
def sweepings (s : Service) (operations : ι → Operation) :
    List (Move ι) → Watch ι → List (Actor ι × Turn)
  | [], _ => []
  | m :: ms, t =>
    (t.turn? m).toList.filter (fun x => sweeps operations x.1) ++
      ((t.step s m).map (sweepings s operations ms)).getD []

/-- The steady clock is never set back. -/
def Advances (s : Service) : List (Move ι) → Watch ι → Prop
  | [], _ => True
  | m :: ms, t => ∀ t', t.step s m = some t' → t.world.uptime ≤ t'.world.uptime ∧ t'.Advances s ms

/-- What becomes of the result of a cleanup. The loop does not look at it. -/
def answer : Actor ι → Option Nat → Option Outcome
  | .caller _, deleted => some (.cleanup deleted)
  | .loop, _ | .delivery _, _ => none

/-- What somebody has got of these calls. -/
def results (ps : List (Actor ι × Pass)) (a : Actor ι) : List (Option Nat) :=
  (ps.filter (·.1 = a)).map (·.2.result)

/-- Somebody who is not cleaning up, and has got this of the cleanups so far. A
caller cleans up once, the loop any number of times. -/
inductive IsAside (s : Service) (operations : ι → Operation) (a : Actor ι)
    (got : List (Option Nat)) (r : Running (Option Outcome)) : Prop
  /-- The cleanup has not begun. -/
  | about (hsweeps : sweeps operations a = true)
      (hr : r = .ready (s.cleanup.bind fun deleted => .pure (answer a deleted)))
      (hgot : a ≠ .loop → got = [])
  /-- The cleanup is over. -/
  | done (hsweeps : sweeps operations a = true) (x : Option Outcome) (hr : r = .ready (.pure x))
      (hgot : a ≠ .loop → ∃ deleted, x = answer a deleted ∧ got = [deleted])
  /-- It never cleans up. -/
  | other (hsweeps : sweeps operations a = false) (hr : r.IsElsewhere)

variable {s : Service} {operations : ι → Operation} {w : World} {t t' : Watch ι} {a b : Actor ι}
  {ps : List (Actor ι × Pass)} {p : Pass} {got : List (Option Nat)}

theorem results_append_self : results (ps ++ [(a, p)]) a = results ps a ++ [p.result] := by
  simp [results]

theorem results_append_of_ne (h : b ≠ a) : results (ps ++ [(a, p)]) b = results ps b := by
  simp [results, h.symm]

omit [DecidableEq ι] in
/-- Whoever is aside and can go on is about to clean up, or never does. -/
theorem IsAside.step_cases {e : Effect} {next : e.Reply → Program (Option Outcome)}
    (h : IsAside s operations a got (.ready (.step e next))) :
    (sweeps operations a = true ∧ (a ≠ .loop → got = []) ∧
        Program.step e next = s.cleanup.bind fun deleted => .pure (answer a deleted)) ∨
      (sweeps operations a = false ∧
        (Running.ready (.step e next) : Running (Option Outcome)).IsElsewhere) := by
  cases h with
  | about hsweeps hr hgot => exact .inl ⟨hsweeps, hgot, Running.ready.inj hr⟩
  | done hsweeps x hr => cases hr
  | other hsweeps hrest => exact .inr ⟨hsweeps, hrest⟩

omit [DecidableEq ι] in
/-- An effect that is not held up by another cleanup does not begin one. -/
theorem step_ne_cleanup (hheld : w.cleaning = true) {e : Effect}
    {next : e.Reply → Program (Option Outcome)} (hfree : e.isHeldUp w = false)
    (f : Option Nat → Program (Option Outcome)) : Program.step e next ≠ s.cleanup.bind f := by
  intro hcleanup
  rw [Service.cleanup_eq, Program.step_bind] at hcleanup
  obtain ⟨rfl, -⟩ := Program.step.inj hcleanup
  cases hheld.symm.trans hfree

/-! ## The lock -/

/-- The cleanups so far, whose turns were these, are calls one after the other. If
somebody has the lock, it is in the middle of another one, whose turns so far are
the last of these. -/
inductive Orders (s : Service) (operations : ι → Operation) (w : World)
    (turns : List (Actor ι × Turn)) (t : Watch ι) : Prop
  /-- Nobody has the lock. -/
  | free (ps : List (Actor ι × Pass)) (hclear : t.world.cleaning = false)
      (haside : ∀ a, IsAside s operations a (results ps a) (t.running a))
      (hsweeps : s.Sweeps w (ps.map (·.2)) t.world)
      (hturns : turns = ps.flatMap fun x => x.2.turns.map (x.1, ·))
  /-- Somebody has the lock. However it ends from here, it ends a call that came
  after the others. -/
  | held (ps : List (Actor ι × Pass)) (a : Actor ι) (q : Program (Option Nat))
      (mine : List Turn) (u : World) (ha : sweeps operations a = true)
      (hgot : a ≠ .loop → results ps a = []) (hheld : t.world.cleaning = true)
      (hrunning : t.running a = .ready (q.closing.bind fun deleted => .pure (answer a deleted)))
      (hdeletes : q.Uses Effect.Deletes)
      (haside : ∀ b, b ≠ a → IsAside s operations b (results ps b) (t.running b))
      (hsweeps : s.Sweeps w (ps.map (·.2)) u)
      (htakes : ∀ {rest deleted v}, q.closing.Takes World.Elsewhere t.world rest deleted v →
        s.cleanup.Takes World.Elsewhere u (mine ++ rest) deleted v)
      (hturns : turns = (ps.flatMap fun x => x.2.turns.map (x.1, ·)) ++ mine.map (a, ·))

variable {turns : List (Actor ι × Turn)}

namespace Orders

/-- Who does not clean up may do what it likes, and somebody who has done nothing, or
has nothing left to do, may do something else. -/
theorem elsewhere (h : t.Orders s operations w turns) (hworld : t.world.Elsewhere t'.world)
    (hrunning : ∀ a, t'.running a = t.running a ∨
      (∀ got, IsAside s operations a got (t'.running a)) ∧
        (sweeps operations a = false ∨ ∃ x, t.running a = .ready (.pure x))) :
    t'.Orders s operations w turns := by
  have hother {a : Actor ι} {got : List (Option Nat)}
      (ha : IsAside s operations a got (t.running a)) :
      IsAside s operations a got (t'.running a) := by
    rcases hrunning a with hsame | ⟨hnew, -⟩
    · exact hsame ▸ ha
    · exact hnew got
  cases h with
  | free ps hclear haside hsweeps hturns =>
    exact .free ps (hworld.cleaning.trans hclear) (fun a => hother (haside a))
      (hsweeps.before_elsewhere hworld) hturns
  | held ps a q mine u ha hgot hheld hready hdeletes haside hsweeps htakes hturns =>
    refine .held ps a q mine u ha hgot (hworld.cleaning.trans hheld) ?_ hdeletes
      (fun b hb => hother (haside b hb)) hsweeps
      (fun h => htakes (h.after_others World.Elsewhere.trans hworld)) hturns
    -- whoever has the lock is none of these
    rcases hrunning a with hsame | ⟨-, hnot | ⟨x, hpure⟩⟩
    · exact hsame.trans hready
    · cases ha.symm.trans hnot
    · have hclosing := Running.ready.inj (hready.symm.trans hpure)
      cases q <;> cases hclosing

/-- Somebody who never cleans up goes on. -/
theorem other (h : t.Orders s operations w turns) (ha : sweeps operations a = false)
    {u : Session (Actor ι) (Option Outcome)} (hworld : t.world.Elsewhere u.world)
    {r : Running (Option Outcome)} (hrunning : u.running a = r) (hr : r.IsElsewhere)
    (hothers : ∀ b, b ≠ a → u.running b = t.running b) :
    ({ t with toSession := u } : Watch ι).Orders s operations w turns := by
  refine h.elsewhere hworld fun b => ?_
  by_cases hb : b = a
  · subst hb
    exact .inr ⟨fun _ => .other ha (hrunning.symm ▸ hr), .inl ha⟩
  · exact .inl (hothers b hb)

/-- Whoever waits never cleans up. -/
theorem of_waiting (h : t.Orders s operations w turns) {e : Effect}
    {finish : World → e.Reply × World} {cancelled : e.Reply}
    {next : e.Reply → Program (Option Outcome)}
    (ha : t.running a = .waiting e finish cancelled next) :
    sweeps operations a = false ∧
      (Running.waiting e finish cancelled next : Running (Option Outcome)).IsElsewhere := by
  have haside {got : List (Option Nat)} (h : IsAside s operations a got (t.running a)) :
      sweeps operations a = false ∧ (t.running a).IsElsewhere := by
    cases h with
    | about _ hr => cases ha.symm.trans hr
    | done _ _ hr => cases ha.symm.trans hr
    | other hsweeps hr => exact ⟨hsweeps, hr⟩
  rw [← ha]
  cases h with
  | free ps _ hall => exact haside (hall a)
  | held ps b _ _ _ _ _ _ hready _ hall =>
    by_cases hab : a = b
    · subst hab
      cases ha.symm.trans hready
    · exact haside (hall a hab)

/-- Somebody has come to the end of a cleanup. -/
theorem ends {u : World} (ha : sweeps operations a = true)
    (hgot : a ≠ .loop → results ps a = [])
    (haside : ∀ b, b ≠ a → IsAside s operations b (results ps b) (t.running b))
    (hsweeps : s.Sweeps w (ps.map (·.2)) u)
    (htakes : s.cleanup.Takes World.Elsewhere u p.turns p.result t'.world)
    (hclear : t'.world.cleaning = false)
    (hrunning : t'.running a = .ready (.pure (answer a p.result)))
    (hothers : ∀ b, b ≠ a → t'.running b = t.running b) :
    t'.Orders s operations w
      ((ps.flatMap fun x => x.2.turns.map (x.1, ·)) ++ p.turns.map (a, ·)) := by
  -- its call comes after the others, and only it has got another result
  refine .free (ps ++ [(a, p)]) hclear (fun b => ?_) ?_ ?_
  · by_cases hb : b = a
    · subst hb
      refine .done ha _ hrunning fun hloop => ⟨p.result, rfl, ?_⟩
      rw [results_append_self, hgot hloop, List.nil_append]
    · rw [results_append_of_ne hb, hothers b hb]
      exact haside b hb
  · rw [List.map_append]
    exact hsweeps.snoc htakes
  · rw [List.flatMap_append, List.flatMap_singleton]

/-- Somebody takes the lock, or finds that no cleanup is due. -/
theorem claim (hclear : t.world.cleaning = false)
    (haside : ∀ a, IsAside s operations a (results ps a) (t.running a))
    (hsweeps : s.Sweeps w (ps.map (·.2)) t.world) (ha : sweeps operations a = true)
    (hgot : a ≠ .loop → results ps a = []) {due : Bool}
    (hdue : t.world.isDue s.cleanupInterval = due)
    (hworld : t'.world = if due then t.world.claimed else t.world)
    (hrunning : t'.running a = .ready
      ((if due then s.deleteOld.closing else .pure none).bind fun deleted =>
        .pure (answer a deleted)))
    (hothers : ∀ b, b ≠ a → t'.running b = t.running b) :
    t'.Orders s operations w ((ps.flatMap fun x => x.2.turns.map (x.1, ·)) ++
      [(a, ⟨t.world, .claimCleanup s.cleanupInterval⟩)]) := by
  have hperform := t.world.perform_claimCleanup s.cleanupInterval
  rw [hdue, ← hworld] at hperform
  cases due with
  | false =>
    refine ends (p := ⟨[⟨t.world, .claimCleanup s.cleanupInterval⟩], none⟩) ha hgot
      (fun b _ => haside b) hsweeps ?_ (hworld ▸ hclear) hrunning hothers
    rw [Service.cleanup_eq]
    refine .step (.refl _) ?_
    rw [hperform]
    exact .pure none (.refl _)
  | true =>
    refine .held ps a s.deleteOld [⟨t.world, .claimCleanup s.cleanupInterval⟩] t.world ha hgot
      (hworld ▸ rfl) hrunning s.deleteOld_deletes (fun b hb => hothers b hb ▸ haside b) hsweeps
      (fun h => ?_) rfl
    rw [Service.cleanup_eq]
    refine .step (.refl _) ?_
    rw [hperform]
    exact h

/-- Whoever has the lock goes on, or gives it back. -/
theorem advance {q : Program (Option Nat)} {mine : List Turn} {u : World}
    (ha : sweeps operations a = true) (hgot : a ≠ .loop → results ps a = [])
    (hheld : t.world.cleaning = true) (hdeletes : q.Uses Effect.Deletes)
    (haside : ∀ b, b ≠ a → IsAside s operations b (results ps b) (t.running b))
    (hsweeps : s.Sweeps w (ps.map (·.2)) u)
    (htakes : ∀ {rest deleted v}, q.closing.Takes World.Elsewhere t.world rest deleted v →
      s.cleanup.Takes World.Elsewhere u (mine ++ rest) deleted v) {e : Effect}
    {next : e.Reply → Program (Option Outcome)} {reply : e.Reply}
    (hnext : q.closing.bind (fun deleted => .pure (answer a deleted)) = .step e next)
    (hbegin : t.world.begin e = (.done reply, t'.world))
    (hrunning : t'.running a = .ready (next reply))
    (hothers : ∀ b, b ≠ a → t'.running b = t.running b) :
    t'.Orders s operations w ((ps.flatMap fun x => x.2.turns.map (x.1, ·)) ++
      (mine ++ [Turn.mk t.world e]).map (a, ·)) := by
  cases q with
  | pure deleted =>
    -- nothing is left but to give it back
    obtain ⟨rfl, hnext⟩ := Program.step.inj hnext
    obtain rfl := eq_of_heq hnext
    obtain ⟨-, hworld⟩ := Prod.mk.inj hbegin
    refine ends (p := ⟨mine ++ [⟨t.world, .endCleanup⟩], deleted⟩) ha hgot haside hsweeps
      (htakes (.step (.refl _) (.pure deleted ?_))) (hworld ▸ rfl) hrunning hothers
    exact hworld ▸ .refl _
  | step e q =>
    obtain ⟨rfl, hnext⟩ := Program.step.inj hnext
    obtain rfl := eq_of_heq hnext
    -- it keeps the lock, and what it has still to do makes up the same call
    obtain ⟨hdone, hkeeps⟩ := t.world.begin_of_deletes hdeletes.1
    obtain ⟨hreply, hworld⟩ := Prod.mk.inj (hdone.symm.trans hbegin)
    obtain rfl := Progress.done.inj hreply
    rw [hworld] at hkeeps
    refine .held ps a (q _) (mine ++ [⟨t.world, e⟩]) u ha hgot (hkeeps.trans hheld) hrunning
      (hdeletes.2 _ trivial) (fun b hb => hothers b hb ▸ haside b hb) hsweeps (fun h => ?_) rfl
    rw [List.append_assoc]
    exact htakes (.step (.refl _) (hworld.symm ▸ h))

/-- Somebody who never cleans up takes an effect. -/
theorem go_other (h : t.Orders s operations w turns) (hnot : sweeps operations a = false)
    (hrest : (t.running a).IsElsewhere) {u : Session (Actor ι) (Option Outcome)}
    (hstep : t.toSession.step (.go a) = some u) :
    ({ t with toSession := u } : Watch ι).Orders s operations w turns := by
  obtain ⟨e, next, hready, -, hcases⟩ := Session.exists_of_step_go hstep
  rw [hready] at hrest
  obtain ⟨he, hnext⟩ := hrest
  obtain ⟨hworld, hends⟩ := t.world.elsewhere_begin he
  rcases hcases with ⟨reply, v, hbegin, rfl⟩ | ⟨end_, finish, cancelled, v, hbegin, rfl⟩ <;>
    rw [hbegin] at hworld hends
  · exact h.other hnot hworld Session.running_record_self (hnext reply trivial)
      fun b hb => Session.running_record_of_ne hb
  · exact h.other hnot hworld (Function.update_self ..)
      ⟨hends, fun reply => hnext reply trivial⟩ fun b hb => Function.update_of_ne hb ..

/-- Somebody who is about to clean up takes the first effect, if nobody has the lock. -/
theorem go_about (hclear : t.world.cleaning = false)
    (haside : ∀ a, IsAside s operations a (results ps a) (t.running a))
    (hsweeps : s.Sweeps w (ps.map (·.2)) t.world) (ha : sweeps operations a = true)
    (hgot : a ≠ .loop → results ps a = [])
    (hready : t.running a = .ready (s.cleanup.bind fun deleted => .pure (answer a deleted)))
    {u : Session (Actor ι) (Option Outcome)} (hstep : t.toSession.step (.go a) = some u) :
    ({ t with toSession := u } : Watch ι).Orders s operations w
      ((ps.flatMap fun x => x.2.turns.map (x.1, ·)) ++
        [(a, ⟨t.world, .claimCleanup s.cleanupInterval⟩)]) := by
  rw [Service.cleanup_eq, Program.step_bind] at hready
  have hclaim := t.world.begin_claimCleanup s.cleanupInterval
  obtain rfl := Option.some.inj (hstep.symm.trans (Session.step_go_done hready hclear hclaim))
  exact claim hclear haside hsweeps ha hgot rfl rfl (Function.update_self ..)
    fun b hb => Function.update_of_ne hb ..

/-- Somebody takes the next effect. -/
theorem go (h : t.Orders s operations w turns) {u : Session (Actor ι) (Option Outcome)}
    (hstep : t.toSession.step (.go a) = some u) :
    ({ t with toSession := u } : Watch ι).Orders s operations w
      (turns ++ (t.turn? (.choose (.go a))).toList.filter fun x => sweeps operations x.1) := by
  obtain ⟨e, next, hready, hfree, -⟩ := Session.exists_of_step_go hstep
  have hturn : t.turn? (.choose (.go a)) = some (a, ⟨t.world, e⟩) := by rw [turn?, hready]
  rw [hturn, Option.toList_some, List.filter_singleton]
  cases h with
  | free ps hclear haside hsweeps hturns =>
    -- the lock is there for the first who is about to clean up
    rcases (hready ▸ haside a).step_cases with ⟨ha, hgot, hcleanup⟩ | ⟨hnot, hrest⟩
    · have hnow := go_about hclear haside hsweeps ha hgot (hcleanup ▸ hready) hstep
      rw [Service.cleanup_eq, Program.step_bind] at hcleanup
      obtain ⟨rfl, -⟩ := Program.step.inj hcleanup
      rwa [ha, cond_true, hturns]
    · rw [hnot, cond_false, List.append_nil]
      exact go_other (.free ps hclear haside hsweeps hturns) hnot (hready ▸ hrest) hstep
  | held ps b q mine u' hb hgot hheld hrunning hdeletes haside hsweeps htakes hturns =>
    by_cases hab : a = b
    · subst hab
      have hnext := Running.ready.inj (hrunning.symm.trans hready)
      -- nothing that it does from here is waited for
      have huses := (closing_isPrompt hdeletes).bind
        (f := fun deleted => (.pure (answer a deleted) : Program (Option Outcome)))
        fun _ => trivial
      rw [hnext] at huses
      obtain ⟨reply, v, hdone⟩ := huses.1.2 t.world
      obtain rfl := Option.some.inj (hstep.symm.trans (Session.step_go_done hready hfree hdone))
      have hmore : turns ++ [(a, Turn.mk t.world e)] =
          (ps.flatMap fun x => x.2.turns.map (x.1, ·)) ++
            (mine ++ [Turn.mk t.world e]).map (a, ·) := by
        rw [hturns, List.append_assoc, List.map_append]
        rfl
      rw [hb, cond_true, hmore]
      exact advance hb hgot hheld hdeletes haside hsweeps htakes hnext hdone
        Session.running_record_self fun b hb => Session.running_record_of_ne hb
    · -- somebody else who is about to clean up would have been held up
      rcases (hready ▸ haside a hab).step_cases with ⟨-, -, hcleanup⟩ | ⟨hnot, hrest⟩
      · exact absurd hcleanup (step_ne_cleanup hheld hfree _)
      · rw [hnot, cond_false, List.append_nil]
        exact go_other (.held ps b q mine u' hb hgot hheld hrunning hdeletes haside hsweeps
          htakes hturns) hnot (hready ▸ hrest) hstep

/-- Whatever happens as in every session, the cleanups stay in order. -/
theorem choose (h : t.Orders s operations w turns) {c : Choice (Actor ι)}
    {u : Session (Actor ι) (Option Outcome)} (hstep : t.toSession.step c = some u)
    (hclock : t.world.uptime ≤ u.world.uptime) :
    ({ t with toSession := u } : Watch ι).Orders s operations w
      (turns ++ (t.turn? (.choose c)).toList.filter fun x => sweeps operations x.1) := by
  cases c with
  | go a => exact h.go hstep
  | finish a =>
    obtain ⟨e, finish, cancelled, next, hwaiting, rfl⟩ := Session.exists_of_step_finish hstep
    obtain ⟨hnot, hends, hnext⟩ := h.of_waiting hwaiting
    rw [append_turn fun b h => (by cases h)]
    exact h.other hnot (hends _) Session.running_record_self (hnext _)
      fun b hb => Session.running_record_of_ne hb
  | cut a =>
    obtain ⟨e, finish, cancelled, next, hwaiting, rfl⟩ := Session.exists_of_step_cut hstep
    obtain ⟨hnot, -, hnext⟩ := h.of_waiting hwaiting
    rw [append_turn fun b h => (by cases h)]
    exact h.other hnot (.refl _) Session.running_record_self (hnext _)
      fun b hb => Session.running_record_of_ne hb
  | turn wall uptime =>
    obtain rfl := Option.some.inj hstep
    rw [append_turn fun b h => (by cases h)]
    exact h.elsewhere (t.world.elsewhere_turn wall hclock) fun _ => .inl rfl
  | cancel =>
    obtain rfl := Option.some.inj hstep
    rw [append_turn fun b h => (by cases h)]
    exact h.elsewhere (World.elsewhere_of_eq rfl rfl rfl rfl) fun _ => .inl rfl

/-- The loop takes a snapshot, and begins to deliver what comes out. -/
theorem took (h : t.Orders s operations w turns) (snapshot : Snapshot) :
    (t.took s snapshot).Orders s operations w turns := by
  refine h.elsewhere (World.elsewhere_of_eq rfl rfl rfl rfl) fun a => ?_
  cases a with
  | caller i => exact .inl rfl
  | loop => exact .inl rfl
  | delivery n =>
    by_cases hn : n < t.begun.length
    · exact .inl (if_pos hn)
    · have hrunning : (t.took s snapshot).running (.delivery n) =
          .ready (delivering s (t.took s snapshot).begun[n]?) := if_neg hn
      refine .inr ⟨fun _ => .other rfl ?_, .inl rfl⟩
      rw [hrunning]
      cases (t.took s snapshot).begun[n]? with
      | none => exact trivial
      | some p => exact .bind (s.deliver_elsewhere p) fun _ => trivial

/-- The loop is about to clean up. -/
theorem swept (h : t.Orders s operations w turns) {x : Option Outcome}
    (hloop : t.running .loop = .ready (.pure x)) :
    (t.swept s).Orders s operations w turns := by
  refine h.elsewhere (.refl t.world) fun a => ?_
  rw [running_swept]
  by_cases ha : a = .loop
  · subst ha
    rw [Function.update_self]
    exact .inr ⟨fun _ => .about rfl rfl fun hne => absurd rfl hne, .inr ⟨x, hloop⟩⟩
  · exact .inl (Function.update_of_ne ha ..)

/-- Every move leaves the cleanups in order. -/
theorem step (h : t.Orders s operations w turns) {m : Move ι} (hstep : t.step s m = some t')
    (hclock : t.world.uptime ≤ t'.world.uptime) :
    t'.Orders s operations w
      (turns ++ (t.turn? m).toList.filter fun x => sweeps operations x.1) := by
  cases m with
  | choose c =>
    obtain ⟨u, hu, rfl⟩ := Option.map_eq_some_iff.mp hstep
    exact h.choose hu hclock
  | take snapshot =>
    simp only [Watch.step] at hstep
    rw [append_turn fun b h => (by cases h)]
    split at hstep
    · exact Option.some.inj hstep ▸ h.took snapshot
    · cases hstep
  | cleanUp =>
    simp only [Watch.step] at hstep
    rw [append_turn fun b h => (by cases h)]
    split at hstep
    · rename_i hloop
      exact Option.some.inj hstep ▸ h.swept hloop
    · cases hstep

/-- The cleanups of a watch are in order at any time. -/
theorem play {ms : List (Move ι)} (h : t.Orders s operations w turns)
    (hplay : t.play s ms = some t') (hclock : t.Advances s ms) :
    t'.Orders s operations w (turns ++ t.sweepings s operations ms) := by
  induction ms generalizing t turns with
  | nil => exact (List.append_nil turns).symm ▸ Option.some.inj hplay ▸ h
  | cons m ms ih =>
    obtain ⟨u, hu, hrest⟩ := Option.bind_eq_some_iff.mp hplay
    obtain ⟨hstep, hlater⟩ := hclock u hu
    have hnext := ih (h.step hu hstep) hrest hlater
    rw [List.append_assoc] at hnext
    rwa [sweepings, hu]

end Orders

/-! ## A whole watch -/

end Watch

/-! ## From the start of a service -/

namespace Service

variable {s : Service} {w : World}

/-- A second between cleanups, and the default retention. -/
def everySecond : Options := { retentionDays := 0, cleanupInterval := 1000 }

/-- An event from the day before. -/
def overdue : Event.Draft :=
  { Backend.lostWarning with
    createdAt := ⟨-31 * 86400, 0, by decide, by decide, Instant.epoch.nano_lt⟩ }

/-- That event and one of the epoch in a store in memory. -/
def littered : World :=
  { Delivery.quiet with
    store := .memory
      { events := [overdue.numbered 1, Backend.lostWarning.numbered 2], lastId := 2 } }

/-- The service has been started, and the store has failed since. -/
def broken : World :=
  { (littered.start everySecond).2 with outage := fun _ _ => some (.io "disk full") }

/-- Two callers clean up, the second when the first is through, a second later. -/
def inTurn : List (Move Bool) :=
  let go (a : Actor Bool) : Move Bool := .choose (.go a)
  [go (.caller true), go (.caller true), .choose (.turn .epoch 1000), go (.caller true),
    go (.caller true), go (.caller false), go (.caller false), go (.caller false),
    go (.caller false), .cleanUp, go .loop]

end Service

end CpuAlert
