import CpuAlert.Proofs.Api.Access

/-!
# What a viewer is told who wants to change something

Four actions change something. Two of them need a body, and the body is read
before the caller's role is looked at. So a viewer who sends no body, or one that
cannot be read, is told what is wrong with the body, and only a viewer whose
request an administrator could have made is told that reading is all there is.
Either way nothing is done.

## Main definitions

* `BearerTokens.ShowsViewer` — a header shows the viewer token
* `Action.Changes` — the actions that change something
* `Request.action?` — what a request asks for
* `Request.bodyFault?`, `Action.fault?` — what is wrong with a body, and with the
  one that an action needs

## Main results

* `BearerTokens.roleFor_eq_viewer_iff_showsViewer` — which headers make a viewer
* `Request.action?_changes_iff` — which requests ask for a change
* `Request.bodyFault?_cases`, `Request.bodyFault?_eq_none_iff` — what a body is
  refused for, and which are not
* `Api.viewer_refused` — the answer to a viewer who asks for a change
* `Api.viewer_not_forbidden` — it is not always that viewers may only read
-/

namespace CpuAlert

/-! ## The viewer token -/

namespace BearerTokens

/-- The header shows the viewer token: it can be read as text, and behind the
scheme stands that token, up to blanks around it. -/
def ShowsViewer (t : BearerTokens) (header : Option String) : Prop :=
  ∃ h, header = some h ∧ (∀ c ∈ h.toList, isVisible c = true) ∧
    ∃ w, h = "Bearer " ++ w ∧ t.viewer = some (Text.trim w)

/-- A token that is only the viewer's gives its holder's role. -/
theorem roleOf?_eq_viewer_iff {t : BearerTokens} (h : t.viewer ≠ t.admin) {token : String} :
    t.roleOf? token = some .viewer ↔ t.viewer = some token := by
  rw [roleOf?]
  constructor
  · intro hrole
    split at hrole
    · cases hrole
    · split at hrole
      · assumption
      · cases hrole
  · intro hviewer
    have hadmin : ¬ t.admin = some token := fun hadmin => h (hviewer.trans hadmin.symm)
    rw [if_neg hadmin, if_pos hviewer]

/-- Where the viewer token is not the admin token, the headers that make a viewer
are those that show it. -/
theorem roleFor_eq_viewer_iff_showsViewer {t : BearerTokens} (h : t.viewer ≠ t.admin)
    {header : Option String} : t.roleFor header = .ok .viewer ↔ t.ShowsViewer header := by
  have hrole (token : String) (htoken : bearerToken header = .ok token) :
      t.roleFor header = .ok .viewer ↔ t.viewer = some token := by
    rw [roleFor, htoken, ← roleOf?_eq_viewer_iff h]
    by_cases hopen : t.isOpen = true
    · have hnone : t.roleOf? token = none := by
        obtain ⟨hadmin, hviewer⟩ : t.admin = none ∧ t.viewer = none := by
          simpa [isOpen] using hopen
        simp [roleOf?, hadmin, hviewer]
      simp [hopen, hnone]
    · rw [if_neg hopen]
      dsimp only
      cases htoken' : t.roleOf? token with
      | none => simp
      | some role => simp
  constructor
  · intro hviewer
    cases htoken : bearerToken header with
    | error e =>
      rw [roleFor, htoken] at hviewer
      split at hviewer <;> cases hviewer
    | ok token =>
      obtain ⟨text, htext, hvisible, w, hw, rfl⟩ := bearerToken_eq_ok_iff.mp htoken
      exact ⟨text, htext, hvisible, w, hw, (hrole _ htoken).mp hviewer⟩
  · rintro ⟨text, htext, hvisible, w, hw, hviewer⟩
    have htoken := bearerToken_eq_ok_iff.mpr ⟨text, htext, hvisible, w, hw, rfl⟩
    exact (hrole _ htoken).mpr hviewer

end BearerTokens

/-! ## Requests for a change -/

/-- The action changes something. -/
def Action.Changes : Action → Prop
  | .changeConfig | .beginSilence | .endSilence | .sendTest => True
  | .readHealth | .readConfig | .readStatus | .readHistory | .openStream => False

/-- The path that names the endpoint. -/
def Endpoint.path : Endpoint → String
  | health => "/api/v1/health"
  | config => "/api/v1/alerts/config"
  | status => "/api/v1/alerts/status"
  | silence => "/api/v1/alerts/silence"
  | history => "/api/v1/alerts/history"
  | test => "/api/v1/alerts/test"
  | stream => "/api/v1/stream"

theorem Endpoint.ofPath?_eq_some_iff {path : String} {e : Endpoint} :
    ofPath? path = some e ↔ path = e.path := by
  constructor
  · intro h
    rw [ofPath?.eq_def] at h
    split at h
    all_goals first | cases h; rfl | cases h
  · rintro rfl
    cases e <;> rfl

namespace Request

/-- What the request asks for. -/
def action? (r : Request) : Option Action :=
  (Endpoint.ofPath? r.path).bind (·.action? r.method)

/-- There are four requests for a change. -/
theorem action?_changes_iff (r : Request) :
    (∃ action, r.action? = some action ∧ action.Changes) ↔
      r.path = "/api/v1/alerts/config" ∧ r.method = .put ∨
      r.path = "/api/v1/alerts/silence" ∧ (r.method = .post ∨ r.method = .delete) ∨
      r.path = "/api/v1/alerts/test" ∧ r.method = .post := by
  constructor
  · rintro ⟨action, h, hchanges⟩
    obtain ⟨e, he, haction⟩ := Option.bind_eq_some_iff.mp h
    have hpath := Endpoint.ofPath?_eq_some_iff.mp he
    rw [Endpoint.action?.eq_def] at haction
    -- of the rows of the table only that of the action is left
    cases action with
    | changeConfig =>
      split at haction <;> cases haction
      exact .inl ⟨hpath, ‹_›⟩
    | beginSilence =>
      split at haction <;> cases haction
      exact .inr (.inl ⟨hpath, .inl ‹_›⟩)
    | endSilence =>
      split at haction <;> cases haction
      exact .inr (.inl ⟨hpath, .inr ‹_›⟩)
    | sendTest =>
      split at haction <;> cases haction
      exact .inr (.inr ⟨hpath, ‹_›⟩)
    | _ => exact hchanges.elim
  · rintro (⟨hpath, hmethod⟩ | ⟨hpath, hmethod | hmethod⟩ | ⟨hpath, hmethod⟩) <;>
      rw [action?, hpath, hmethod]
    · exact ⟨.changeConfig, rfl, trivial⟩
    · exact ⟨.beginSilence, rfl, trivial⟩
    · exact ⟨.endSilence, rfl, trivial⟩
    · exact ⟨.sendTest, rfl, trivial⟩

/-! ## Bodies -/

variable {α : Type}

/-- Why the body cannot be had. -/
def bodyFault? (r : Request) (decode : Json.Decoder α) : Option Response :=
  match r.readBody decode with
  | .ok _ => none
  | .error response => some response

/-- A body is refused because it is not said to be JSON, because it is too long,
because it is not JSON, or because it is JSON of another shape. -/
theorem bodyFault?_cases {r : Request} {decode : Json.Decoder α} {response : Response}
    (h : r.bodyFault? decode = some response) :
    ∃ status ∈ [415, 413, 422, 400], response = .bare status := by
  rw [bodyFault?, readBody] at h
  split at h
  · cases h
  · rename_i heq
    cases h
    split at heq
    · exact ⟨415, by simp, (Except.error.inj heq).symm⟩
    · split at heq
      · exact ⟨413, by simp, (Except.error.inj heq).symm⟩
      · split at heq
        · cases heq
        · exact ⟨422, by simp, (Except.error.inj heq).symm⟩
        · exact ⟨400, by simp, (Except.error.inj heq).symm⟩

/-- The body can be had exactly if it is said to be JSON, is not too long and
begins with a value of the right shape. -/
theorem bodyFault?_eq_none_iff {r : Request} {decode : Json.Decoder α} :
    r.bodyFault? decode = none ↔
      (r.contentType.bind MediaType.read?).any MediaType.isJson = true ∧
        r.body.utf8ByteSize ≤ maxBody ∧ ∃ a, Json.decodeLeading decode r.body = .ok a := by
  rw [bodyFault?, readBody]
  constructor
  · intro h
    split at h
    · rename_i a heq
      split at heq
      · cases heq
      · split at heq
        · cases heq
        · split at heq
          · exact ⟨by simp_all, by omega, a, by simp_all⟩
          all_goals cases heq
    · cases h
  · rintro ⟨htype, hsize, a, ha⟩
    rw [if_neg (by simp [htype]), if_neg (by omega), ha]

end Request

/-- What is wrong with the body that an action needs. -/
def Action.fault? (r : Request) : Action → Option Response
  | .changeConfig => r.bodyFault? Wire.update
  | .beginSilence => r.bodyFault? Wire.silenceMinutes
  | _ => none

theorem Action.fault?_cases {action : Action} {r : Request} {response : Response}
    (h : action.fault? r = some response) :
    ∃ status ∈ [415, 413, 422, 400], response = .bare status := by
  cases action with
  | changeConfig | beginSilence => exact Request.bodyFault?_cases h
  | _ => cases h

/-! ## Answers -/

namespace Api

/-- A viewer is refused a change, unless already the body is refused. -/
theorem act_viewer_of_changes (s : Service) (r : Request) {action : Action}
    (h : action.Changes) :
    act s .viewer r action = .pure ((action.fault? r).getD .readOnly) := by
  cases action with
  | changeConfig | beginSilence =>
    rw [act, Action.fault?, Request.bodyFault?]
    split <;> rename_i heq <;> rw [heq] <;> rfl
  | endSilence | sendTest => rfl
  | _ => exact h.elim

variable {a : Api} {r : Request}

/-- The response, if other sites may read it with that said. -/
def signed (a : Api) (response : Response) : Response :=
  if a.crossOrigin then { response with allowOrigin := some "*" } else response

@[simp] theorem signed_status (a : Api) (response : Response) :
    (a.signed response).status = response.status := by
  rw [signed]
  split <;> rfl

/-- The whole request of a viewer who asks for a change. -/
theorem handle_viewer (hrole : a.tokens.roleFor r.authorization = .ok .viewer) {action : Action}
    (haction : r.action? = some action) (h : action.Changes) :
    a.handle r = .pure (a.signed ((action.fault? r).getD .readOnly)) := by
  obtain ⟨e, he, hmethod⟩ := Option.bind_eq_some_iff.mp haction
  -- a method that asks for a change is none of those that are treated on their own
  have hhead : r.method ≠ .head := by
    rintro hhead
    rw [hhead] at hmethod
    cases e <;> cases hmethod <;> exact h
  have hoptions : r.method ≠ .options := by
    rintro hoptions
    rw [hoptions] at hmethod
    cases e <;> cases hmethod
  have hprotected : (if e.isProtected then a.tokens.roleFor r.authorization else .ok .viewer) =
      .ok .viewer := by
    rw [hrole, ite_self]
  have hanswer : a.answer r = .pure ((action.fault? r).getD .readOnly) := by
    rw [answer, he]
    dsimp only
    rw [answerAt, hprotected]
    dsimp only
    rw [hmethod]
    dsimp only
    rw [act_viewer_of_changes a.service r h]
    show Program.pure (if r.method = .head then _ else _) = _
    rw [if_neg hhead]
  rw [handle, signed, hanswer, if_neg hoptions]
  split <;> rfl

/-- A viewer who asks for a change brings nothing about, at any time. The answer
is that a caller with this access may only read exactly if the action needs no
body, or one that could be read; else it says what is wrong with the body. -/
theorem viewer_refused (htokens : a.tokens.viewer ≠ a.tokens.admin)
    (hviewer : a.tokens.ShowsViewer r.authorization) {action : Action}
    (haction : r.action? = some action) (hchanges : action.Changes) (w : World) :
    ∃ response, (a.handle r).run w = (response, w) ∧
      (action.fault? r = none → response = a.signed .readOnly) ∧
      (∀ fault, action.fault? r = some fault → response = a.signed fault) ∧
      (response.status = 403 ↔ action.fault? r = none) ∧
      response.status ∈ [403, 415, 413, 422, 400] := by
  have hrole := (BearerTokens.roleFor_eq_viewer_iff_showsViewer htokens).mpr hviewer
  refine ⟨a.signed ((action.fault? r).getD .readOnly), ?_, ?_⟩
  · rw [handle_viewer hrole haction hchanges, Program.run]
  cases hfault : action.fault? r with
  | none =>
    have hstatus : (a.signed .readOnly).status = 403 := signed_status a _
    refine ⟨fun _ => rfl, nofun, ⟨fun _ => rfl, fun _ => hstatus⟩, ?_⟩
    rw [Option.getD_none, hstatus]
    exact List.mem_cons_self
  | some fault =>
    obtain ⟨status, hmem, rfl⟩ := Action.fault?_cases hfault
    have hstatus : (a.signed (.bare status)).status = status := signed_status a _
    have hother : status ≠ 403 := by
      rintro rfl
      exact absurd hmem (by decide)
    rw [Option.getD_some, hstatus]
    refine ⟨nofun, ?_, ⟨fun h => absurd h hother, nofun⟩, List.mem_cons_of_mem _ hmem⟩
    rintro _ ⟨⟩
    rfl

/-- A viewer wants to end the silence. -/
def forbidden : Request :=
  { method := .delete, target := "/api/v1/alerts/silence", authorization := some "Bearer view" }

/-- A viewer wants to change the configuration and sends nothing. -/
def bodiless : Request :=
  { method := .put, target := "/api/v1/alerts/config", authorization := some "Bearer view" }

theorem showsViewer_view : guarded.tokens.ShowsViewer (some "Bearer view") :=
  (BearerTokens.roleFor_eq_viewer_iff_showsViewer (by decide)).mp rfl

theorem viewer_refused_bodiless :
    guarded.tokens.viewer ≠ guarded.tokens.admin ∧
      guarded.tokens.ShowsViewer forbidden.authorization ∧
      forbidden.action? = some .endSilence ∧ Action.endSilence.Changes ∧
      ((guarded.handle forbidden).run idle).1.status = 403 ∧
      guarded.tokens.ShowsViewer bodiless.authorization ∧
      bodiless.action? = some .changeConfig ∧ Action.changeConfig.Changes ∧
      ((guarded.handle bodiless).run idle).1.status ≠ 403 := by
  have htokens : guarded.tokens.viewer ≠ guarded.tokens.admin := by decide
  have hforbidden : forbidden.action? = some .endSilence := by decide +kernel
  have hbodiless : bodiless.action? = some .changeConfig := by decide +kernel
  have hfault : Action.changeConfig.fault? bodiless = some (.bare 415) := rfl
  obtain ⟨response, hrun, -, -, hiff, -⟩ :=
    viewer_refused htokens (r := forbidden) showsViewer_view hforbidden trivial idle
  obtain ⟨response', hrun', -, -, hiff', -⟩ :=
    viewer_refused htokens (r := bodiless) showsViewer_view hbodiless trivial idle
  refine ⟨htokens, showsViewer_view, hforbidden, trivial, ?_, showsViewer_view, hbodiless,
    trivial, ?_⟩
  · rw [hrun]
    exact hiff.mpr rfl
  · rw [hrun', Ne, hiff', hfault]
    nofun

/-- Who may only read is not always told so: a viewer who wants to change the
configuration and sends no body is told that it is of the wrong type. -/
theorem viewer_not_forbidden :
    ¬ ∀ (a : Api) (r : Request) (w : World), a.tokens.viewer ≠ a.tokens.admin →
      a.tokens.ShowsViewer r.authorization →
      (∃ action, r.action? = some action ∧ action.Changes) →
      ((a.handle r).run w).1.status = 403 := by
  intro h
  have hbodiless : bodiless.action? = some .changeConfig := by decide +kernel
  have hstatus : ((guarded.handle bodiless).run idle).1.status = 415 := rfl
  have hforbidden := h guarded bodiless idle (by decide) showsViewer_view
    ⟨.changeConfig, hbodiless, trivial⟩
  rw [hstatus] at hforbidden
  exact absurd hforbidden (by decide)

end Api

end CpuAlert
