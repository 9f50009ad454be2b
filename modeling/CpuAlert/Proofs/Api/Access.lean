import CpuAlert.Api.Router
import CpuAlert.Proofs.Program.Run

/-!
# Without the admin token nothing changes

Where tokens are configured, only the admin token gives a role that may do more
than read. Whoever has another role is answered by programs that read: they look
at the live state and at the clock, and ask the store for its events or its
health. Such programs leave the world as it was, whatever the store answers. So
any number of requests that do not show the admin token change nothing, and
without an admin token none do.

## Main definitions

* `BearerTokens.ShowsAdmin` — a header shows the admin token
* `Effect.IsReading` — an effect that reads
* `Api.serve` — requests answered one after the other

## Main results

* `BearerTokens.roleFor_eq_admin_iff_showsAdmin` — which headers show it
* `Api.handle_uses` — a request without it is answered by reading
* `World.perform_isReading` — reading leaves the world as it was
* `Api.unchanged_without_admin` — any number of requests without it
-/

namespace CpuAlert

open Time (Instant)

/-! ## Tokens -/

namespace BearerTokens

/-- The header shows the admin token: it can be read as text, and behind the
scheme stands that token, up to blanks around it. -/
def ShowsAdmin (t : BearerTokens) (header : Option String) : Prop :=
  ∃ h, header = some h ∧ (∀ c ∈ h.toList, isVisible c = true) ∧
    ∃ w, h = "Bearer " ++ w ∧ t.admin = some (Text.trim w)

/-- The token in a header is what stands behind the scheme, without the blanks
around it. -/
theorem bearerToken_eq_ok_iff {header : Option String} {token : String} :
    bearerToken header = .ok token ↔
      ∃ h, header = some h ∧ (∀ c ∈ h.toList, isVisible c = true) ∧
        ∃ w, h = "Bearer " ++ w ∧ token = Text.trim w := by
  have hscheme (w : String) : ("Bearer " ++ w).toList = scheme ++ w.toList := String.toList_append
  constructor
  · intro h
    rw [bearerToken] at h
    split at h
    · cases h
    · rename_i text htext
      obtain ⟨rfl, hvisible⟩ := Option.filter_eq_some_iff.mp htext
      split at h
      · rename_i hprefix
        obtain ⟨rest, hrest⟩ := List.isPrefixOf_iff_prefix.mp hprefix
        rw [← hrest, List.drop_left] at h
        refine ⟨text, rfl, List.all_eq_true.mp hvisible, String.ofList rest, ?_,
          (Except.ok.inj h).symm⟩
        apply String.toList_inj.mp
        rw [hscheme, String.toList_ofList, hrest]
      · cases h
  · rintro ⟨text, rfl, hvisible, w, rfl, rfl⟩
    have hreadable : (some ("Bearer " ++ w)).filter (fun h => h.toList.all isVisible) =
        some ("Bearer " ++ w) :=
      Option.filter_eq_some_iff.mpr ⟨rfl, List.all_eq_true.mpr hvisible⟩
    have hprefix : scheme.isPrefixOf ("Bearer " ++ w).toList = true := by
      rw [hscheme, List.isPrefixOf_iff_prefix]
      exact List.prefix_append ..
    rw [bearerToken, hreadable]
    dsimp only
    rw [if_pos hprefix, hscheme, List.drop_left, String.ofList_toList]

/-- Where tokens are configured, the headers that give full access are those that
show the admin token. -/
theorem roleFor_eq_admin_iff_showsAdmin {t : BearerTokens} (h : t.isOpen = false)
    {header : Option String} : t.roleFor header = .ok .admin ↔ t.ShowsAdmin header := by
  rw [roleFor_eq_admin_iff h]
  constructor
  · rintro ⟨token, htoken, hadmin⟩
    obtain ⟨text, htext, hvisible, w, hw, rfl⟩ := bearerToken_eq_ok_iff.mp htoken
    exact ⟨text, htext, hvisible, w, hw, hadmin⟩
  · rintro ⟨text, htext, hvisible, w, hw, hadmin⟩
    exact ⟨Text.trim w, bearerToken_eq_ok_iff.mpr ⟨text, htext, hvisible, w, hw, rfl⟩, hadmin⟩

/-- Without an admin token, no header shows it. -/
theorem not_showsAdmin_of_admin_eq_none {t : BearerTokens} (h : t.admin = none)
    (header : Option String) : ¬ t.ShowsAdmin header := by
  rintro ⟨text, -, -, w, -, hadmin⟩
  rw [h] at hadmin
  cases hadmin

end BearerTokens

/-! ## Programs that read -/

/-- The call reads the history or asks for the store's health. -/
def Store.Call.IsReading : Store.Call → Prop
  | .list _ | .health => True
  | .readConfig | .writeConfig _ | .readCredentials | .writeCredentials _ | .append _
  | .deleteBefore _ | .mutedUntil | .writeSilence _ | .close => False

/-- The effect looks at the live state, the clock or the history. -/
def Effect.IsReading : Effect → Prop
  | .look | .clock => True
  | .ask call => call.IsReading
  | .acquire | .release | .commit _ _ _ | .mute _ | .evaluate _ | .draw | .claimCleanup _
  | .endCleanup | .send _ _ _ | .pause _ | .isCancelled => False

/-- A store is not changed by being read. -/
theorem Backend.perform_isReading (b : Backend) (now : Instant) {c : Store.Call}
    (hc : c.IsReading) : (b.perform now c).2 = b := by
  cases c with
  | list p =>
    cases b with
    | memory m => rfl
    | database d =>
      simp only [perform, Database.perform]
      split <;> rfl
  | health =>
    cases b with
    | memory m => rfl
    | database d =>
      simp only [perform, Database.perform]
      split <;> rfl
  | _ => exact hc.elim

/-- Reading leaves the world as it was, but for the number of calls to the store. -/
theorem World.perform_isReading (w : World) {e : Effect} (he : e.IsReading) :
    ∃ asked, (w.perform e).2 = { w with asked } := by
  cases e with
  | look | clock => exact ⟨w.asked, rfl⟩
  | ask c =>
    refine ⟨w.asked + 1, ?_⟩
    rw [World.perform_ask, World.ask]
    split
    · rfl
    · simp only [Backend.perform_isReading w.store w.wall he]
  | _ => exact he.elim

/-- A program that reads leaves the world as it was, but for the number of calls
to the store. -/
theorem Program.Uses.run_isReading {α : Type} {p : Program α} (hp : p.Uses Effect.IsReading)
    (w : World) : ∃ asked, (p.run w).2 = { w with asked } := by
  have hkeep (v : World) (e : Effect) (hv : ∃ asked, v = { w with asked }) (he : e.IsReading) :
      True ∧ ∃ asked, (v.perform e).2 = { w with asked } := by
    obtain ⟨_, rfl⟩ := hv
    exact ⟨trivial, World.perform_isReading _ he⟩
  exact (Meets.run hp (fun v => ∃ asked, v = { w with asked }) hkeep ⟨w.asked, rfl⟩).2

/-! ## Requests -/

namespace Api

theorem status_uses (readOnly : Bool) : (Service.status readOnly).Uses Effect.IsReading :=
  .bind (.perform trivial) fun _ => .bind (.perform trivial) fun _ => trivial

theorem view_uses (s : Service) (readOnly : Bool) : (s.view readOnly).Uses Effect.IsReading :=
  .bind (.perform trivial) fun _ => trivial

theorem health_uses : health.Uses Effect.IsReading := by
  refine .bind (.bind (.perform trivial) fun _ => trivial) fun _ => ?_
  refine .bind (.perform trivial) fun _ => ?_
  exact .bind (.bind (.perform trivial) fun _ => trivial) fun _ => trivial

theorem history_uses (s : Service) (q : HistoryRequest) : (history s q).Uses Effect.IsReading :=
  .bind (.bind (.perform trivial) fun _ => trivial) fun _ => trivial

/-- Whatever a caller asks for who may only read, is answered by reading. -/
theorem act_uses (s : Service) (r : Request) (action : Action) :
    (act s .viewer r action).Uses Effect.IsReading := by
  cases action with
  | readHealth => exact health_uses
  | readConfig => exact .bind (view_uses s true) fun _ => trivial
  | readStatus => exact .bind (status_uses true) fun _ => trivial
  | changeConfig =>
    rw [act]
    split <;> exact trivial
  | beginSilence =>
    rw [act]
    split <;> exact trivial
  | readHistory =>
    rw [act]
    split
    · exact trivial
    · exact history_uses s _
  | endSilence | sendTest | openStream => exact trivial

variable {a : Api} {r : Request}

/-- A request that does not give full access is answered by reading. -/
theorem answerAt_uses (h : a.tokens.roleFor r.authorization ≠ .ok .admin) (e : Endpoint) :
    (a.answerAt r e).Uses Effect.IsReading := by
  -- an endpoint that is open to everybody is answered as to a viewer
  have hrole : ∀ role, (if e.isProtected then a.tokens.roleFor r.authorization else .ok .viewer) =
      .ok role → role = .viewer := by
    intro role hrole
    split at hrole
    · cases role with
      | admin => exact absurd hrole h
      | viewer => rfl
    · exact (Except.ok.inj hrole).symm
  rw [answerAt]
  split
  · exact trivial
  · rename_i role heq
    obtain rfl := hrole role heq
    split
    · exact trivial
    · exact act_uses a.service r _

theorem answer_uses (h : a.tokens.roleFor r.authorization ≠ .ok .admin) :
    (a.answer r).Uses Effect.IsReading := by
  rw [answer]
  split
  · exact trivial
  · exact .bind (answerAt_uses h _) fun _ => trivial

/-- So is the whole request, also if other sites may read the response. -/
theorem handle_uses (h : a.tokens.roleFor r.authorization ≠ .ok .admin) :
    (a.handle r).Uses Effect.IsReading := by
  rw [handle]
  split
  · split
    · exact trivial
    · exact .bind (answer_uses h) fun _ => trivial
  · exact answer_uses h

/-! ## Sequences of requests -/

/-- Requests are answered one after the other, each at its own time. -/
def serve (a : Api) : List (Instant × Request) → World → List Response × World
  | [], w => ([], w)
  | (now, r) :: requests, w =>
    let (response, w) := (a.handle r).run { w with wall := now }
    let (responses, w) := a.serve requests w
    (response :: responses, w)

/-- Requests that do not give full access leave the world as it was, but for the
time and the number of calls to the store. -/
theorem serve_eq {requests : List (Instant × Request)}
    (h : ∀ q ∈ requests, a.tokens.roleFor q.2.authorization ≠ .ok .admin) (w : World) :
    ∃ wall asked, (a.serve requests w).2 = { w with wall, asked } := by
  induction requests generalizing w with
  | nil => exact ⟨w.wall, w.asked, rfl⟩
  | cons q requests ih =>
    obtain ⟨now, r⟩ := q
    obtain ⟨hfirst, hrest⟩ := List.forall_mem_cons.mp h
    -- the first request leaves a world in which only the time and that number are others
    obtain ⟨n, hn⟩ := (handle_uses hfirst).run_isReading { w with wall := now }
    obtain ⟨wall, asked, hw⟩ := ih hrest { w with wall := now, asked := n }
    refine ⟨wall, asked, ?_⟩
    have hserve : (a.serve ((now, r) :: requests) w).2 =
        (a.serve requests ((a.handle r).run { w with wall := now }).2).2 := rfl
    rw [hserve, hn, hw]

/-- Where tokens are configured, requests that do not show the admin token change
neither the live state nor what is stored, and nothing is sent. If there is only
a viewer token, that is true of all requests. -/
theorem unchanged_without_admin (hset : a.tokens.isOpen = false) :
    (∀ (requests : List (Instant × Request)) (w : World),
      (∀ q ∈ requests, ¬ a.tokens.ShowsAdmin q.2.authorization) →
      (a.serve requests w).2.live = w.live ∧ (a.serve requests w).2.store = w.store ∧
        (a.serve requests w).2.sent = w.sent) ∧
    (a.tokens.admin = none → ∀ (requests : List (Instant × Request)) (w : World),
      (a.serve requests w).2.live = w.live ∧ (a.serve requests w).2.store = w.store ∧
        (a.serve requests w).2.sent = w.sent) := by
  have hunchanged {requests : List (Instant × Request)} (w : World)
      (h : ∀ q ∈ requests, ¬ a.tokens.ShowsAdmin q.2.authorization) :
      (a.serve requests w).2.live = w.live ∧ (a.serve requests w).2.store = w.store ∧
        (a.serve requests w).2.sent = w.sent := by
    have hrole : ∀ q ∈ requests, a.tokens.roleFor q.2.authorization ≠ .ok .admin := by
      intro q hq hadmin
      exact h q hq ((BearerTokens.roleFor_eq_admin_iff_showsAdmin hset).mp hadmin)
    obtain ⟨wall, asked, hw⟩ := serve_eq hrole w
    rw [hw]
    exact ⟨rfl, rfl, rfl⟩
  constructor
  · intro requests w h
    exact hunchanged w h
  · intro hnone requests w
    exact hunchanged w fun q _ => BearerTokens.not_showsAdmin_of_admin_eq_none hnone _

/-- A service with both tokens. -/
def guarded : Api where
  service := .ofOptions {}
  tokens := { admin := some "adm", viewer := some "view" }

/-- The same service, with the viewer token alone. -/
def readable : Api := { guarded with tokens := { viewer := some "view" } }

/-- Nothing has happened yet. -/
def idle : World where
  store := .memory {}
  wall := .epoch
  nonces := fun _ => .error "no random source"

/-- A viewer wants to switch alerting off, somebody writes the scheme of the admin
token in small letters, and somebody has no token. -/
def attempts : List (Instant × Request) :=
  [(.epoch,
      { method := .put, target := "/api/v1/alerts/config", authorization := some "Bearer view",
        contentType := some "application/json", body := "\x7b\"enabled\":false\x7d" }),
    (.epoch,
      { method := .post, target := "/api/v1/alerts/test", authorization := some "bearer adm" }),
    (.epoch, { method := .delete, target := "/api/v1/alerts/silence" })]

theorem unchanged_without_admin_attempts :
    guarded.tokens.isOpen = false ∧
      (∀ q ∈ attempts, ¬ guarded.tokens.ShowsAdmin q.2.authorization) ∧
      (guarded.serve attempts idle).2.live = idle.live ∧
      (guarded.serve attempts idle).2.store = idle.store ∧
      (guarded.serve attempts idle).2.sent = idle.sent ∧
      readable.tokens.isOpen = false ∧ readable.tokens.admin = none ∧
      (readable.serve attempts idle).2.live = idle.live := by
  have hset : guarded.tokens.isOpen = false := rfl
  have hshown : ∀ q ∈ attempts, ¬ guarded.tokens.ShowsAdmin q.2.authorization := by
    have hviewer : guarded.tokens.roleFor (some "Bearer view") = .ok .viewer := rfl
    have hscheme : guarded.tokens.roleFor (some "bearer adm") = .error .notBearer := rfl
    have hmissing : guarded.tokens.roleFor none = .error .missing := rfl
    simp only [attempts, List.forall_mem_cons, ← BearerTokens.roleFor_eq_admin_iff_showsAdmin hset,
      hviewer, hscheme, hmissing]
    exact ⟨nofun, nofun, nofun, by simp⟩
  obtain ⟨hlive, hstore, hsent⟩ := (unchanged_without_admin hset).1 attempts idle hshown
  have hset' : readable.tokens.isOpen = false := rfl
  have hlive' := ((unchanged_without_admin hset').2 rfl attempts idle).1
  exact ⟨hset, hshown, hlive, hstore, hsent, hset', rfl, hlive'⟩

end Api

end CpuAlert
