import CpuAlert.Proofs.Program.Run

/-!
# Taking turns

A program that is not alone takes turns with everything else: before each of its
effects and at its end, others may have changed the world. How they may change it
is a relation between the world that the program has left and the one that it
meets. Of each turn the world is kept that the effect has met.

## Main definitions

* `Turn` — an effect, and the world that it has met
* `Turn.Chain` — turns that came one after the other
* `Program.Takes` — a program comes to its end in these turns

## Main results

* `Turn.Chain.pairwise` — what the turns and all others keep
* `Program.Takes.uses` — the effects of the turns
* `Program.takes_bind` — the turns of one program after the other
-/

namespace CpuAlert

/-- An effect whose turn has come, and the world that it has met. -/
structure Turn where
  world : World
  effect : Effect

namespace Turn

/-- The world that the turn has left. -/
def after (t : Turn) : World := (t.world.perform t.effect).2

/-- These turns came one after the other, whichever programs took them. -/
inductive Chain (others : World → World → Prop) : World → List Turn → World → Prop
  | nil {w v : World} (h : others w v) : Chain others w [] v
  | cons {w v : World} {t : Turn} {turns : List Turn} (h : others w t.world)
      (hrest : Chain others t.after turns v) : Chain others w (t :: turns) v

namespace Chain

variable {others : World → World → Prop} {u v w : World} {turns turns' : List Turn}

/-- What others do before the first turn is one with what they have done. -/
theorem after_others (htrans : ∀ {u v w : World}, others u v → others v w → others u w)
    (hw : others w u) (h : Chain others u turns v) : Chain others w turns v := by
  cases h with
  | nil h => exact .nil (htrans hw h)
  | cons h hrest => exact .cons (htrans hw h) hrest

theorem append (htrans : ∀ {u v w : World}, others u v → others v w → others u w)
    (h : Chain others w turns u) (h' : Chain others u turns' v) :
    Chain others w (turns ++ turns') v := by
  induction h with
  | nil h => exact h'.after_others htrans h
  | cons h _ ih => exact .cons h (ih h')

/-- What every turn and all others keep is kept from any turn to any later one. -/
theorem pairwise {R : World → World → Prop}
    (htrans : ∀ {u v w : World}, R u v → R v w → R u w)
    (hothers : ∀ {u v : World}, others u v → R u v) (hturns : ∀ t ∈ turns, R t.world t.after)
    (h : Chain others w turns v) : (w :: (turns.map (·.world) ++ [v])).Pairwise R := by
  induction h with
  | nil h => exact List.pairwise_pair.mpr (hothers h)
  | cons h _ ih =>
    obtain ⟨hturn, hrest⟩ := List.forall_mem_cons.mp hturns
    obtain ⟨hlater, hpairwise⟩ := List.pairwise_cons.mp (ih hrest)
    -- what comes later is reached through the world that the turn has left
    have hfirst : ∀ u ∈ _, R _ u := fun u hu => htrans hturn (hlater u hu)
    refine .cons ?_ (.cons hfirst hpairwise)
    rintro u (_ | ⟨_, hu⟩)
    · exact hothers h
    · exact htrans (hothers h) (hfirst u hu)

end Chain

end Turn

namespace Program

variable {α β : Type} {others : World → World → Prop}

/-- A program comes to its end in these turns, while others change the world. -/
inductive Takes (others : World → World → Prop) : Program α → World → List Turn → α → World → Prop
  | pure (a : α) {w w' : World} (h : others w w') : Takes others (.pure a) w [] a w'
  | step {e : Effect} {next : e.Reply → Program α} {w w' v : World} {turns : List Turn} {a : α}
      (h : others w w')
      (hrest : Takes others (next (w'.perform e).1) (w'.perform e).2 turns a v) :
      Takes others (.step e next) w (⟨w', e⟩ :: turns) a v

variable {p : Program α} {w v : World} {turns : List Turn}

theorem Takes.after_others {u : World} {a : α}
    (htrans : ∀ {u v w : World}, others u v → others v w → others u w)
    (hw : others w u) (h : p.Takes others u turns a v) : p.Takes others w turns a v := by
  cases h with
  | pure _ h => exact .pure a (htrans hw h)
  | step h hrest => exact .step (htrans hw h) hrest

/-- Whatever the replies, the effects are those of the program. -/
theorem Takes.uses {allowed : Effect → Prop} {a : α} (h : p.Takes others w turns a v)
    (hp : p.Uses allowed) : ∀ t ∈ turns, allowed t.effect := by
  induction h with
  | pure => exact List.forall_mem_nil _
  | step _ _ ih => exact List.forall_mem_cons.mpr ⟨hp.1, ih (hp.2 _ trivial)⟩

theorem takes_pure {a b : α} (h : (pure a).Takes others w turns b v) :
    b = a ∧ turns = [] ∧ others w v := by
  cases h with
  | pure _ h => exact ⟨rfl, rfl, h⟩

theorem takes_step {e : Effect} {next : e.Reply → Program α} {a : α}
    (h : (step e next).Takes others w turns a v) :
    ∃ w' rest, others w w' ∧ turns = ⟨w', e⟩ :: rest ∧
      (next (w'.perform e).1).Takes others (w'.perform e).2 rest a v := by
  cases h with
  | step h hrest => exact ⟨_, _, h, rfl, hrest⟩

/-- The turns of two programs are those of the first and then those of the
second. -/
theorem takes_bind (hrefl : ∀ w, others w w) {f : α → Program β} {b : β}
    (h : (p.bind f).Takes others w turns b v) :
    ∃ a u first second, turns = first ++ second ∧ p.Takes others w first a u ∧
      (f a).Takes others u second b v := by
  induction p generalizing w turns with
  | pure a => exact ⟨a, w, [], turns, rfl, .pure a (hrefl w), h⟩
  | step e next ih =>
    obtain ⟨w', rest, hw', rfl, hrest⟩ := takes_step h
    obtain ⟨a, u, first, second, rfl, hfirst, hsecond⟩ := ih _ hrest
    exact ⟨a, u, _, second, rfl, .step hw' hfirst, hsecond⟩

end Program

end CpuAlert
