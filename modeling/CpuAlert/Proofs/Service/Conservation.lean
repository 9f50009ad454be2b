import CpuAlert.Proofs.Evaluator.Emissions
import CpuAlert.Proofs.Service.Recording
import Mathlib.Data.List.Perm.Subperm

/-!
# Triggers are conserved

Triggers come out of the evaluator, wait among the notifications, are on their
way through the channels, and end as events. None is lost and none is recorded
twice on that way, however callers, the loop and its deliveries take turns: at any
time the recorded alerts are among the emitted triggers, each as often at most,
and when nobody is under way any more they are the same up to their order.

Everybody has to handle something of their own, and an event is recorded by
whoever handles its notification. So it is enough to count by who recorded what.

## Main definitions

* `Watch.emitted` — what the evaluator emitted
* `Watch.alerts` — the alerts that were to be recorded
* `Watch.charge`, `Watch.charges` — what somebody and what everybody has to handle
* `Watch.IsQuiet` — nobody has anything to handle any more

## Main results

* `Watch.IsSound.map_cause_alerts` — what somebody has recorded of what there is to
  handle
* `Watch.IsSound.charges_perm` — what everybody has to handle is what came out of
  the evaluations
* `Watch.IsSound.alerts_subperm`, `Watch.IsSound.alerts_perm` — the same of what is
  recorded
-/

namespace CpuAlert

open Time (Instant)

/-! ## Lists by keys -/

section

variable {κ α β γ : Type} [DecidableEq κ] {xs : List (κ × α)} {ys : List (κ × β)} {f : α → γ}
  {g : β → γ}

/-- What holds for the elements with each key holds for all of them. -/
theorem subperm_of_keys
    (h : ∀ k, ((xs.filter (·.1 = k)).map (f ·.2)).Subperm ((ys.filter (·.1 = k)).map (g ·.2))) :
    (xs.map (f ·.2)).Subperm (ys.map (g ·.2)) := by
  classical
  -- an element occurs with a key as often as it occurs among those with the key
  have hcount {δ : Type} (zs : List (κ × δ)) (φ : δ → γ) (x : κ × γ) :
      (zs.map fun z => (z.1, φ z.2)).count x = ((zs.filter (·.1 = x.1)).map (φ ·.2)).count x.2 := by
    rw [List.count, List.countP_map, List.count, List.countP_map, List.countP_filter]
    refine List.countP_congr fun z _ => ?_
    simp [Prod.ext_iff, and_comm]
  have hkeyed : (xs.map fun x => (x.1, f x.2)).Subperm (ys.map fun y => (y.1, g y.2)) := by
    refine List.subperm_ext_iff.mpr fun x _ => ?_
    rw [hcount, hcount]
    exact (h x.1).count_le x.2
  have hsnd {δ : Type} (zs : List (κ × δ)) (φ : δ → γ) :
      (zs.map fun z => (z.1, φ z.2)).map Prod.snd = zs.map (φ ·.2) := List.map_map
  obtain ⟨zs, hperm, hsublist⟩ := hkeyed
  rw [← hsnd xs f, ← hsnd ys g]
  exact ⟨zs.map Prod.snd, hperm.map Prod.snd, hsublist.map Prod.snd⟩

theorem perm_of_keys
    (h : ∀ k, ((xs.filter (·.1 = k)).map (f ·.2)).Perm ((ys.filter (·.1 = k)).map (g ·.2))) :
    (xs.map (f ·.2)).Perm (ys.map (g ·.2)) :=
  (subperm_of_keys fun k => (h k).subperm).antisymm (subperm_of_keys fun k => (h k).symm.subperm)

end

/-- An element stands at its place only, wherever counting begins. -/
theorem filter_zipIdx {α : Type} (xs : List α) (k n : Nat) :
    (xs.zipIdx k).filter (·.2 = k + n) = xs[n]?.toList.map fun x => (x, k + n) := by
  induction xs generalizing k n with
  | nil => rfl
  | cons x xs ih =>
    rw [List.zipIdx_cons]
    cases n with
    | zero =>
      have hlater : (xs.zipIdx (k + 1)).filter (·.2 = k) = [] := by
        refine List.filter_eq_nil_iff.mpr fun y hy => ?_
        have hle := List.le_snd_of_mem_zipIdx hy
        simpa using Nat.ne_of_gt hle
      rw [Nat.add_zero, List.filter_cons_of_pos (by simp), hlater]
      rfl
    | succ n =>
      have hrest := ih (k + 1) n
      rw [Nat.succ_add_eq_add_succ] at hrest
      rw [List.filter_cons_of_neg (by simp), hrest]
      rfl

theorem map_fst_filter_zipIdx {α : Type} (xs : List α) (n : Nat) :
    (xs.zipIdx.filter (·.2 = n)).map Prod.fst = xs[n]?.toList := by
  have hplace := filter_zipIdx xs 0 n
  rw [Nat.zero_add] at hplace
  rw [hplace, List.map_map]
  exact List.map_id _

/-- What came out for somebody, among what came out for all. -/
theorem map_snd_filter_flatMap_pending {κ : Type} [DecidableEq κ] (es : List (Evaluation κ))
    (a : κ) :
    ((es.flatMap fun e => e.pending.map fun p => (e.actor, p)).filter (·.1 = a)).map Prod.snd =
      (es.filter (·.actor = a)).flatMap (·.pending) := by
  induction es with
  | nil => rfl
  | cons e es ih =>
    rw [List.flatMap_cons, List.filter_append, List.map_append, ih]
    by_cases he : e.actor = a <;> simp [he, List.filter_map, Function.comp_def]

/-- The events that were to be recorded, and by whom. -/
def tagged {κ : Type} (hs : List (Happening κ)) : List (κ × Event.Draft) :=
  hs.filterMap fun h => h.effect.draft?.map fun d => (h.caller, d)

section

variable {κ : Type} (hs : List (Happening κ))

theorem tagged_map_snd : (tagged hs).map Prod.snd = drafts hs := by
  rw [tagged, List.map_filterMap, drafts]
  refine List.filterMap_congr fun h _ => ?_
  cases h.effect.draft? <;> rfl

theorem tagged_filter [DecidableEq κ] (a : κ) :
    (tagged hs).filter (·.1 = a) = (drafts (hs.filter (·.caller = a))).map fun d => (a, d) := by
  induction hs with
  | nil => rfl
  | cons h hs ih =>
    simp only [tagged, drafts] at ih ⊢
    cases hd : h.effect.draft? <;> by_cases ha : h.caller = a <;> simp [hd, ha, ih]

end

/-- The event is an alert and not a test. -/
def Event.Draft.isAlert (d : Event.Draft) : Bool := d.level ≠ .test

/-! ## What is emitted and what is recorded -/

namespace Watch

variable {ι : Type} [DecidableEq ι] {s : Service} {operations : ι → Operation} {l : Live}
  {taken : List Snapshot} {f : InForce} {t : Watch ι} {i : ι} {n : Nat}

/-- What the evaluator emitted: the triggers of an evaluator of its own, fed with
the same, and the times of their snapshots. -/
def emitted (f : InForce) (t : Watch ι) : List (Trigger × Instant) :=
  Evaluator.fresh.emissions (t.samples f)

/-- The alerts that were to be recorded, by anybody. -/
def alerts (t : Watch ι) : List Event.Draft := (drafts t.past).filter (·.isAlert)

/-- What somebody has to handle: a delivery its notification, and a caller what
came out of the evaluation that it asked for. -/
def charge (f : InForce) (t : Watch ι) : Actor ι → List Pending
  | .delivery n => t.begun[n]?.toList
  | .caller i => (t.evaluationsBy f (.caller i)).flatMap (·.pending)
  | .loop => []

/-- Somebody has nothing to handle any more. -/
def IsDone (operations : ι → Operation) (t : Watch ι) : Actor ι → Prop
  | .delivery n => n < t.begun.length → t.HasReturned (.delivery n) none
  | .caller i => ∀ snapshot, operations i = .observe snapshot →
    t.deeds (.caller i) = [] ∨ ∃ r, t.HasReturned (.caller i) r
  | .loop => True

/-- What is emitted is what the notifications are about. -/
theorem IsSound.emitted_eq (h : t.IsSound s operations l taken) (hfresh : l.evaluator = .fresh)
    (hf : l.inForce = f) :
    t.emitted f = (t.evaluations f).flatMap fun e => e.pending.map (·.cause) := by
  subst hf
  have hrun := Live.run_evaluations h.isReplay.explains
  rw [hfresh] at hrun
  rw [emitted, Evaluator.emissions_eq_flatMap, samples, evaluations, hrun, List.zip_map',
    List.flatMap_map]
  refine List.flatMap_congr fun e he => ?_
  rw [Live.carries_evaluations h.isReplay.explains he, List.map_map]
  rfl

/-- What there is to handle is about what was emitted. -/
theorem IsSound.mem_emitted (h : t.IsSound s operations l taken) (hfresh : l.evaluator = .fresh)
    (hf : l.inForce = f) {a : Actor ι} {p : Pending} (hp : p ∈ t.charge f a) :
    p.cause ∈ t.emitted f := by
  have hof {e : Evaluation (Actor ι)} (he : e ∈ t.evaluations f) (hp : p ∈ e.pending) :
      p.cause ∈ t.emitted f := by
    rw [h.emitted_eq hfresh hf]
    exact List.mem_flatMap.mpr ⟨e, he, List.mem_map_of_mem hp⟩
  cases a with
  | loop => cases hp
  | delivery n =>
    have hbegun : p ∈ t.begun := List.mem_of_getElem? (Option.mem_toList.mp hp)
    rw [h.begun_eq_flatMap f] at hbegun
    obtain ⟨e, he, hpe⟩ := List.mem_flatMap.mp hbegun
    exact hof (List.mem_filter.mp he).1 hpe
  | caller i =>
    obtain ⟨e, he, hpe⟩ := List.mem_flatMap.mp hp
    exact hof (List.mem_filter.mp he).1 hpe

/-- Whoever has evaluated nothing has nothing to handle. -/
theorem charge_caller_eq_nil (hnone : ∀ x ∈ t.deeds (.caller i), x.effect.IsSide) :
    t.charge f (.caller i) = [] := by
  have hmap := CpuAlert.evaluations_by f t.past (.caller i)
  have hevaluated : (t.deeds (.caller i)).filterMap (·.evaluated?) = [] :=
    List.filterMap_eq_nil_iff.mpr fun x hx => Happening.evaluated?_eq_none (hnone x hx)
  have hby : t.evaluationsBy f (.caller i) = [] :=
    List.map_eq_nil_iff.mp (hmap.trans hevaluated)
  rw [charge, hby]
  rfl

/-- What a delivery has recorded. -/
theorem IsSound.map_cause_delivery (h : t.IsSound s operations l taken) (f : InForce) (n : Nat) :
    SoFar ((drafts (t.deeds (.delivery n))).map (·.cause))
      ((t.charge f (.delivery n)).map (·.cause)) (t.IsDone operations (.delivery n)) := by
  cases hp : t.begun[n]? with
  | none =>
    have hcharge : t.charge f (.delivery n) = [] := by rw [charge, hp]; rfl
    rw [h.deeds_eq_nil (List.getElem?_eq_none_iff.mp hp), hcharge]
    exact .refl _ _
  | some p =>
    have hcharge : t.charge f (.delivery n) = [p] := by rw [charge, hp]; rfl
    have hlt : n < t.begun.length := (List.getElem?_eq_some_iff.mp hp).1
    rw [hcharge]
    exact (h.handles_delivery hp).map_cause.mono fun hdone => hdone hlt

/-- What a caller has recorded who asked for an evaluation. -/
theorem IsSound.map_cause_observer (h : t.IsSound s operations l taken) (f : InForce)
    {snapshot : Snapshot} (hi : operations i = .observe snapshot) :
    SoFar ((drafts (t.deeds (.caller i))).map (·.cause)) ((t.charge f (.caller i)).map (·.cause))
      (t.IsDone operations (.caller i)) := by
  rcases h.handles_caller f hi with hnone | ⟨e, hs, hby, -, hdeeds, hhandles⟩
  · rw [charge_caller_eq_nil (hnone ▸ List.forall_mem_nil _), hnone]
    exact .refl _ _
  · have hcharge : t.charge f (.caller i) = e.pending := by
      rw [charge, hby, List.flatMap_singleton]
    have hdrafts : drafts (t.deeds (.caller i)) = drafts hs := by rw [hdeeds]; rfl
    rw [hcharge, hdrafts]
    refine hhandles.map_cause.mono fun hdone => ?_
    exact (hdone snapshot hi).resolve_left (hdeeds ▸ List.cons_ne_nil _ _)

/-- What somebody has recorded is about the first of what there is to handle, and
in the end about all of it; or it is a test. -/
theorem IsSound.map_cause_drafts (h : t.IsSound s operations l taken)
    (hloop : drafts (t.deeds .loop) = []) (f : InForce) (a : Actor ι) :
    SoFar ((drafts (t.deeds a)).map (·.cause)) ((t.charge f a).map (·.cause))
      (t.IsDone operations a) ∨
    t.charge f a = [] ∧ ∃ now channels, drafts (t.deeds a) = [s.testEvent now channels] := by
  have hnothing (hdrafts : drafts (t.deeds a) = []) (hcharge : t.charge f a = []) :
      SoFar ((drafts (t.deeds a)).map (·.cause)) ((t.charge f a).map (·.cause))
        (t.IsDone operations a) := by
    rw [hdrafts, hcharge]
    exact .refl _ _
  cases a with
  | loop => exact .inl (hnothing hloop rfl)
  | delivery n => exact .inl (h.map_cause_delivery f n)
  | caller i =>
    by_cases hobserve : ∃ snapshot, operations i = .observe snapshot
    · obtain ⟨snapshot, hi⟩ := hobserve
      exact .inl (h.map_cause_observer f hi)
    · -- nobody else evaluates, and of these only a test records
      have hobserve' : ∀ snapshot, operations i ≠ .observe snapshot :=
        fun snapshot hi => hobserve ⟨snapshot, hi⟩
      have hcharge : t.charge f (.caller i) = [] :=
        charge_caller_eq_nil fun x hx => h.isSide hobserve' hx
      by_cases htest : operations i = .sendTest
      · rcases h.tests_caller htest with ⟨hnone, -⟩ | ⟨r, htests, -⟩
        · exact .inl (hnothing hnone hcharge)
        · exact htests.drafts_eq.imp (hnothing · hcharge) fun hone => ⟨hcharge, hone⟩
      · exact .inl (hnothing (h.drafts_caller hobserve' htest) hcharge)

/-- What is about the first of what there is to handle is about what was emitted. -/
theorem IsSound.cause_mem_of_begins (h : t.IsSound s operations l taken)
    (hfresh : l.evaluator = .fresh) (hf : l.inForce = f) {a : Actor ι} {ds : List Event.Draft}
    (hbegins : ds.map (·.cause) <+: (t.charge f a).map (·.cause)) {d : Event.Draft} (hd : d ∈ ds) :
    d.cause ∈ t.emitted f := by
  obtain ⟨p, hp, hcause⟩ := List.mem_map.mp (hbegins.subset (List.mem_map_of_mem hd))
  exact hcause ▸ h.mem_emitted hfresh hf hp

/-- Every event is about something that was emitted, or is that of a test. -/
theorem IsSound.cause_mem_emitted (h : t.IsSound s operations l taken)
    (hloop : drafts (t.deeds .loop) = []) (hfresh : l.evaluator = .fresh) (hf : l.inForce = f)
    {a : Actor ι} {d : Event.Draft} (hd : d ∈ drafts (t.deeds a)) :
    d.cause ∈ t.emitted f ∨ ∃ now channels, d = s.testEvent now channels := by
  rcases h.map_cause_drafts hloop f a with ⟨hbegins, -⟩ | ⟨-, now, channels, hone⟩
  · exact .inl (h.cause_mem_of_begins hfresh hf hbegins hd)
  · rw [hone] at hd
    exact .inr ⟨now, channels, List.mem_singleton.mp hd⟩

/-- The alerts that somebody has recorded are about the first of what there is to
handle, and in the end about all of it. -/
theorem IsSound.map_cause_alerts (h : t.IsSound s operations l taken)
    (hloop : drafts (t.deeds .loop) = []) (hfresh : l.evaluator = .fresh) (hf : l.inForce = f)
    (a : Actor ι) :
    SoFar (((drafts (t.deeds a)).filter (·.isAlert)).map (·.cause)) ((t.charge f a).map (·.cause))
      (t.IsDone operations a) := by
  rcases h.map_cause_drafts hloop f a with hhandled | ⟨hcharge, now, channels, hone⟩
  · -- an event about something that was emitted is an alert
    have halerts : (drafts (t.deeds a)).filter (·.isAlert) = drafts (t.deeds a) := by
      refine List.filter_eq_self.mpr fun d hd => decide_eq_true ?_
      exact (Evaluator.of_mem_emissions (h.cause_mem_of_begins hfresh hf hhandled.1 hd)).1
    rw [halerts]
    exact hhandled
  · -- and a test is none
    rw [hcharge, hone]
    exact .refl _ _

/-! ## Everybody together -/

/-- What everybody has to handle, and who. -/
def charges (f : InForce) (t : Watch ι) : List (Actor ι × Pending) :=
  (t.begun.zipIdx.map fun x => (.delivery x.2, x.1)) ++
    ((t.evaluations f).filter (·.actor ≠ .loop)).flatMap fun e =>
      e.pending.map fun p => (e.actor, p)

/-- Everybody has to handle what is theirs. -/
theorem IsSound.charges_filter (h : t.IsSound s operations l taken) (f : InForce) (a : Actor ι) :
    ((t.charges f).filter (·.1 = a)).map Prod.snd = t.charge f a := by
  -- the first part is about deliveries only, the second one about callers only
  have hnone (ha : ∀ n, .delivery n ≠ a) :
      t.begun.zipIdx.filter ((·.1 = a) ∘ fun x => ((.delivery x.2 : Actor ι), x.1)) = [] :=
    List.filter_eq_nil_iff.mpr fun x _ => by simpa using ha x.2
  rw [charges, List.filter_append, List.map_append, map_snd_filter_flatMap_pending,
    List.filter_map, List.map_map, List.filter_filter]
  cases a with
  | loop =>
    rw [hnone fun n => Actor.delivery_ne_loop n]
    simp [charge]
  | delivery n =>
    have hcalled : (t.evaluations f).filter (fun e =>
        decide (e.actor = .delivery n) && decide (e.actor ≠ .loop)) = [] := by
      refine List.filter_eq_nil_iff.mpr fun e he => ?_
      rcases h.actor he with hactor | ⟨i, hactor, -⟩ <;> simp [hactor]
    have hplace : t.begun.zipIdx.filter
        ((·.1 = .delivery n) ∘ fun x => ((.delivery x.2 : Actor ι), x.1)) =
          t.begun.zipIdx.filter (·.2 = n) :=
      List.filter_congr fun x _ => by simp
    rw [hcalled, hplace, List.flatMap_nil, List.append_nil]
    exact map_fst_filter_zipIdx t.begun n
  | caller i =>
    have hcalled : (t.evaluations f).filter (fun e =>
        decide (e.actor = .caller i) && decide (e.actor ≠ .loop)) =
          t.evaluationsBy f (.caller i) := by
      refine List.filter_congr fun e _ => ?_
      by_cases he : e.actor = .caller i <;> simp [he]
    rw [hnone nofun, hcalled]
    rfl

/-- All that there is to handle is what came out of the evaluations. -/
theorem IsSound.charges_perm (h : t.IsSound s operations l taken) (f : InForce) :
    ((t.charges f).map Prod.snd).Perm ((t.evaluations f).flatMap (·.pending)) := by
  have hloop : (t.begun.zipIdx.map fun x => ((.delivery x.2 : Actor ι), x.1)).map Prod.snd =
      ((t.evaluations f).filter (·.actor = .loop)).flatMap (·.pending) := by
    rw [List.map_map]
    exact (List.zipIdx_map_fst 0 t.begun).trans (h.begun_eq_flatMap f)
  have hothers (es : List (Evaluation (Actor ι))) :
      (es.flatMap fun e => e.pending.map fun p => (e.actor, p)).map Prod.snd =
        es.flatMap (·.pending) := by
    rw [List.map_flatMap]
    simp
  rw [charges, List.map_append, hloop, hothers, ← List.flatMap_append]
  have hsplit := List.filter_append_perm (fun e => decide (e.actor = .loop)) (t.evaluations f)
  simpa using hsplit.flatMap_right (·.pending)

omit [DecidableEq ι] in
theorem alerts_eq (t : Watch ι) :
    t.alerts.map (·.cause) = ((tagged t.past).filter (·.2.isAlert)).map (·.2.cause) := by
  rw [alerts, ← tagged_map_snd, List.filter_map, List.map_map]
  rfl

/-- Among all alerts, those of somebody. -/
theorem alerts_filter (t : Watch ι) (a : Actor ι) :
    (((tagged t.past).filter (·.2.isAlert)).filter (·.1 = a)).map (·.2.cause) =
      ((drafts (t.deeds a)).filter (·.isAlert)).map (·.cause) := by
  rw [List.filter_comm, tagged_filter, List.filter_map, List.map_map]
  rfl

/-- Among all that there is to handle, what is somebody's. -/
theorem IsSound.map_cause_charge (h : t.IsSound s operations l taken) (f : InForce) (a : Actor ι) :
    ((t.charges f).filter (·.1 = a)).map (·.2.cause) = (t.charge f a).map (·.cause) := by
  rw [← h.charges_filter f a, List.map_map]
  rfl

theorem IsSound.map_cause_charges (h : t.IsSound s operations l taken)
    (hfresh : l.evaluator = .fresh) (hf : l.inForce = f) :
    ((t.charges f).map (·.2.cause)).Perm (t.emitted f) := by
  have hperm := (h.charges_perm f).map (·.cause)
  rw [List.map_map, List.map_flatMap, ← h.emitted_eq hfresh hf] at hperm
  exact hperm

/-- Nobody has anything to handle any more. -/
def IsQuiet (operations : ι → Operation) (t : Watch ι) : Prop := ∀ a, t.IsDone operations a

/-- No trigger is recorded more often than it was emitted, -/
theorem IsSound.alerts_subperm (h : t.IsSound s operations l taken)
    (hloop : drafts (t.deeds .loop) = []) (hfresh : l.evaluator = .fresh) (hf : l.inForce = f) :
    (t.alerts.map (·.cause)).Subperm (t.emitted f) := by
  refine List.Subperm.trans ?_ (h.map_cause_charges hfresh hf).subperm
  rw [alerts_eq]
  refine subperm_of_keys (g := Pending.cause) fun a => ?_
  rw [alerts_filter, h.map_cause_charge]
  exact (h.map_cause_alerts hloop hfresh hf a).1.sublist.subperm

/-- and when nobody has anything to handle any more, every trigger is recorded as
often as it was emitted. -/
theorem IsSound.alerts_perm (h : t.IsSound s operations l taken)
    (hloop : drafts (t.deeds .loop) = []) (hfresh : l.evaluator = .fresh) (hf : l.inForce = f)
    (hquiet : t.IsQuiet operations) : (t.alerts.map (·.cause)).Perm (t.emitted f) := by
  refine List.Perm.trans ?_ (h.map_cause_charges hfresh hf)
  rw [alerts_eq]
  refine perm_of_keys (g := Pending.cause) fun a => ?_
  rw [alerts_filter, h.map_cause_charge, (h.map_cause_alerts hloop hfresh hf a).2 (hquiet a)]

end Watch

end CpuAlert
