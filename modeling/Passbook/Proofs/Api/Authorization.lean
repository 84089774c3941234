import Passbook.Proofs.Api.Requests

namespace Passbook.App
variable {app : App} {now : Int} {r : Request} {owner : Uuid}

/-- The request's authorization is a bearer's token whose claims hold at this time, and whose
subject is the owner's identifier. -/
def IsFrom (app : App) (now : Int) (r : Request) (owner : Uuid) : Prop :=
  ∃ token claims subject, bearerToken? r.authorization = some token ∧
    Token.claims app.secret now token = .ok claims ∧
    claims.field? "sub" = some (.string subject) ∧ Uuid.ofSubject? subject = some owner

theorem owner_eq_ok {secret token : String} :
    Token.owner secret now token = .ok owner ↔ ∃ claims subject,
      Token.claims secret now token = .ok claims ∧ claims.field? "sub" = some (.string subject) ∧
        Uuid.ofSubject? subject = some owner := by
  unfold Token.owner
  constructor
  · intro h
    split at h
    · cases h
    · rename_i claims held
      split at h
      · rename_i subject named
        split at h
        · rename_i id found
          cases h
          exact ⟨claims, subject, held, named, found⟩
        · cases h
      · cases h
  · rintro ⟨claims, subject, held, named, found⟩
    simp only [held, named, found]

theorem ownerOf_eq_ok : app.ownerOf now r = .ok owner ↔ app.IsFrom now r owner := by
  unfold ownerOf
  constructor
  · intro h
    split at h
    · cases h
    · rename_i token given
      split at h <;> cases h
      rename_i found
      obtain ⟨claims, subject, valid⟩ := owner_eq_ok.1 found
      exact ⟨token, claims, subject, given, valid⟩
  · rintro ⟨token, claims, subject, given, valid⟩
    simp only [given, owner_eq_ok.2 ⟨claims, subject, valid⟩]

theorem prepare_unauthorized (none : ∀ owner, ¬app.IsFrom now r owner) (action : Action) :
    ∃ response, ∀ hasStores, app.prepare now r hasStores action = .error response := by
  obtain ⟨denied, unknown⟩ : ∃ response, app.ownerOf now r = .error response := by
    cases found : app.ownerOf now r with
    | error response => exact ⟨response, rfl⟩
    | ok owner => exact absurd (ownerOf_eq_ok.1 found) (none owner)
  simp only [prepare, unknown, Except.error_bind]
  split
  · cases Payload.ofRequest r with
    | error response => exact ⟨response, fun _ => rfl⟩
    | ok payload => exact ⟨denied, fun _ => rfl⟩
  · exact ⟨denied, fun _ => rfl⟩

theorem respond_unauthorized (none : ∀ owner, ¬app.IsFrom now r owner) :
    ∃ answer : Option StorageMode → Response, ∀ world : Option World,
      app.respond now r world = ⟨answer (world.map World.storageMode), world, [], []⟩ := by
  unfold respond
  cases Endpoint.at? r.method r.path with
  | error response => exact ⟨fun _ => response, fun _ => rfl⟩
  | ok endpoint =>
    cases endpoint with
    | health =>
      exact ⟨fun mode => ⟨200, .health app.version ((mode.map StorageMode.name).getD "unknown")⟩,
        fun _ => rfl⟩
    | manual => exact ⟨fun _ => .manual, fun _ => rfl⟩
    | ledger action =>
      obtain ⟨response, refused⟩ := prepare_unauthorized none action
      refine ⟨fun _ => response, fun world => ?_⟩
      simp only [refused]

/-- A request without a token that holds and names an owner reaches no store and leaves everything
as it was, the draws of account numbers included, and so does a run of requests that it is among.
Its response is the same in all worlds of one storage mode. -/
theorem handle_unauthorized (app : App) (now : Int) (r : Request)
    (unauthorized : ∀ owner, ¬app.IsFrom now r owner) (world : Option World) :
    let handled := app.handle now r world
    handled.calls = [] ∧ handled.world = world ∧ handled.log = [] ∧
      (∀ other : Option World, other.map World.storageMode = world.map World.storageMode →
        (app.handle now r other).response = handled.response) ∧
      ∀ before after : List (Int × Request),
        app.worldAfter (before ++ (now, r) :: after) world =
          app.worldAfter (before ++ after) world := by
  have none : ∀ owner, ¬app.IsFrom now { r with method := Text.upper r.method } owner :=
    unauthorized
  obtain ⟨answer, answered⟩ := respond_unauthorized none
  obtain ⟨answer, handled⟩ : ∃ answer : Option StorageMode → Response, ∀ world : Option World,
      app.handle now r world = ⟨answer (world.map World.storageMode), world, [], []⟩ := by
    simp only [handle, answered]
    split
    · exact ⟨fun mode => (answer mode).withoutBody, fun _ => rfl⟩
    · exact ⟨answer, fun _ => rfl⟩
  refine ⟨by rw [handled], by rw [handled], by rw [handled], fun other same => ?_, ?_⟩
  · simp only [handled, same]
  · intro before after
    simp only [worldAfter, List.foldl_append, List.foldl_cons, handled]

theorem handle_unauthorized_unsigned :
    let payload := "\x7b\"sub\": \"" ++ (⟨1⟩ : Uuid).text ++ "\"\x7d"
    let header := Token.encodePart "\x7b\"alg\": \"none\"\x7d"
    let token := header ++ '.' :: Token.encodePart payload ++ ['.']
    let r : Request :=
      { method := "GET", path := "/payees", query := []
        authorization := some ("Bearer " ++ String.ofList token), contentType := none, body := "" }
    let world : Option World := some ⟨Book.empty, none, ⟨0, 0, 0, fun _ => 0⟩, .empty⟩
    (∀ owner, ¬sampleApp.IsFrom 0 r owner) ∧ (sampleApp.handle 0 r world).world = world := by
  intro payload header token r world
  have unknown : (sampleApp.ownerOf 0 r).toOption = none := by decide +kernel
  have unauthorized : ∀ owner, ¬sampleApp.IsFrom 0 r owner := by
    intro owner known
    rw [ownerOf_eq_ok.2 known] at unknown
    cases unknown
  exact ⟨unauthorized, (handle_unauthorized sampleApp 0 r unauthorized world).2.1⟩

end Passbook.App
