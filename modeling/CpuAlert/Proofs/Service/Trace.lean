import CpuAlert.Proofs.Program.Run
import CpuAlert.Proofs.Service.Session

/-!
# How far a caller has come

In a session every caller follows its program: its effects so far, with the
replies it got, are the beginning of a path through the tree, and what is left to
it is what stands at the end of that path. So whatever a program is known to do,
the caller does.

## Main definitions

* `Program.Leaves` — what is left of a program after some of its effects
* `Session.Follows` — a caller follows a program

## Main results

* `Session.Steps.follows` — every step of a session goes by the programs
* `Program.Leaves.meets` — what is known of a program holds of its effects and of
  what is left
-/

namespace CpuAlert

/-- What is left to a caller. An effect that it waits for is still to come. -/
def Running.rest {α : Type} : Running α → Program α
  | .ready p => p
  | .waiting e _ _ next => .step e next

namespace Program

variable {κ α β : Type}

/-- After these effects with their replies, this is left of the program. -/
inductive Leaves : Program α → List (Happening κ) → Program α → Prop
  | refl (p : Program α) : Leaves p [] p
  | step {i : κ} {e : Effect} {next : e.Reply → Program α} {r : e.Reply}
      {hs : List (Happening κ)} {q : Program α} (h : Leaves (next r) hs q) :
    Leaves (.step e next) (⟨i, e, r⟩ :: hs) q

variable {p q : Program α} {hs : List (Happening κ)}

theorem Leaves.trans {hs' : List (Happening κ)} {q' : Program α} (h : p.Leaves hs q)
    (h' : q.Leaves hs' q') : p.Leaves (hs ++ hs') q' := by
  induction h with
  | refl => exact h'
  | step _ ih => exact .step (ih h')

/-- The effects were allowed, and as long as the replies were expected, what is
left meets the same as the whole. -/
theorem Leaves.meets {allowed : Effect → Prop} {expected : (e : Effect) → e.Reply → Prop}
    {post : α → Prop} (h : p.Leaves hs q) (hp : p.Meets allowed expected post)
    (hreplies : ∀ x ∈ hs, expected x.effect x.reply) :
    (∀ x ∈ hs, allowed x.effect) ∧ q.Meets allowed expected post := by
  induction h with
  | refl => exact ⟨List.forall_mem_nil _, hp⟩
  | step _ ih =>
    obtain ⟨hfirst, hrest⟩ := List.forall_mem_cons.mp hreplies
    obtain ⟨hall, hq⟩ := ih (hp.2 _ hfirst) hrest
    exact ⟨List.forall_mem_cons.mpr ⟨hp.1, hall⟩, hq⟩

/-- The same if all replies are expected. -/
theorem Leaves.uses {allowed : Effect → Prop} {post : α → Prop} (h : p.Leaves hs q)
    (hp : p.Meets allowed (fun _ _ => True) post) :
    (∀ x ∈ hs, allowed x.effect) ∧ q.Meets allowed (fun _ _ => True) post :=
  h.meets hp fun _ _ => trivial

/-- A program that begins with an effect has done nothing yet, or this first. -/
theorem Leaves.step_cases {e : Effect} {next : e.Reply → Program α}
    (h : (Program.step e next).Leaves hs q) :
    (hs = [] ∧ q = .step e next) ∨
      ∃ i r hs', hs = ⟨i, e, r⟩ :: hs' ∧ (next r).Leaves hs' q := by
  cases h with
  | refl => exact .inl ⟨rfl, rfl⟩
  | step h => exact .inr ⟨_, _, _, rfl, h⟩

/-- A program without effects has done nothing. -/
theorem Leaves.eq_of_pure {a : α} (h : (Program.pure a).Leaves hs q) : hs = [] ∧ q = .pure a := by
  cases h
  exact ⟨rfl, rfl⟩

end Program

namespace Session

variable {ι α : Type} [DecidableEq ι] {t t' : Session ι α} {i j : ι} {p : Program α}

/-- The effects of a caller, in order. -/
def deeds (t : Session ι α) (i : ι) : List (Happening ι) := t.past.filter (·.caller = i)

/-- What a caller has done is the beginning of the program, and what is left to
it is the rest. -/
def Follows (t : Session ι α) (i : ι) (p : Program α) : Prop :=
  p.Leaves (t.deeds i) (t.running i).rest

theorem deeds_record_self (e : Effect) (reply : e.Reply) (next : e.Reply → Program α) (w : World) :
    (t.record i e reply next w).deeds i = t.deeds i ++ [⟨i, e, reply⟩] := by
  simp [deeds, record, List.filter_append]

theorem deeds_record_of_ne (h : j ≠ i) (e : Effect) (reply : e.Reply)
    (next : e.Reply → Program α) (w : World) :
    (t.record i e reply next w).deeds j = t.deeds j := by
  simp [deeds, record, List.filter_append, h.symm]

/-- The next effect of somebody, with its reply, goes by what is left to everybody. -/
theorem leaves_record {e : Effect} {next : e.Reply → Program α}
    (hj : (t.running j).rest = .step e next) (reply : e.Reply) (w : World) (i : ι) :
    ∃ hs, (t.record j e reply next w).deeds i = t.deeds i ++ hs ∧
      (t.running i).rest.Leaves hs ((t.record j e reply next w).running i).rest := by
  by_cases hij : i = j
  · subst hij
    rw [deeds_record_self, running_record_self, hj]
    exact ⟨_, rfl, .step (.refl _)⟩
  · rw [deeds_record_of_ne hij, running_record_of_ne hij]
    exact ⟨[], (List.append_nil _).symm, .refl _⟩

/-- Whoever begins to wait has as much left as before. -/
theorem rest_update_waiting {e : Effect} {next : e.Reply → Program α}
    (hj : t.running j = .ready (.step e next)) (finish : World → e.Reply × World)
    (cancelled : e.Reply) (i : ι) :
    (Function.update t.running j (.waiting e finish cancelled next) i).rest =
      (t.running i).rest := by
  by_cases hij : i = j
  · subst hij
    rw [Function.update_self, hj]
    rfl
  · rw [Function.update_of_ne hij]

/-- Every step goes by what is left to everybody. -/
theorem Steps.leaves (h : t.Steps t') (i : ι) :
    ∃ hs, t'.deeds i = t.deeds i ++ hs ∧ (t.running i).rest.Leaves hs (t'.running i).rest := by
  cases h with
  | done j e next reply w hready => exact leaves_record (congrArg Running.rest hready) reply w i
  | wait j e next end_ finish cancelled w hready =>
    refine ⟨[], (List.append_nil _).symm, ?_⟩
    rw [rest_update_waiting hready finish cancelled i]
    exact .refl _
  | finish j e finish cancelled next hwaiting =>
    exact leaves_record (congrArg Running.rest hwaiting) _ _ i
  | cut j e finish cancelled next hwaiting =>
    exact leaves_record (congrArg Running.rest hwaiting) _ _ i
  | turn | cancel => exact ⟨[], (List.append_nil _).symm, .refl _⟩

/-- Every step goes by the programs. -/
theorem Steps.follows (h : t.Steps t') (hi : t.Follows i p) : t'.Follows i p := by
  obtain ⟨hs, hdeeds, hleaves⟩ := h.leaves i
  rw [Follows, hdeeds]
  exact hi.trans hleaves

end Session

end CpuAlert
