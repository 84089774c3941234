import Passbook.Api.App
import Passbook.Proofs.Ledger.Failure

namespace Passbook
open Passbook.Text

namespace App
variable {app : App} {now : Int} {r : Request}

def call? (app : App) (now : Int) (r : Request) : Option Call :=
  let r := { r with method := upper r.method }
  match Endpoint.at? r.method r.path with
  | .ok (.ledger action) => (app.prepare now r true action).toOption
  | _ => none

def calls (app : App) (requests : List (Int × Request)) : List Call :=
  requests.filterMap fun request => app.call? request.1 request.2

def worldAfter (app : App) (requests : List (Int × Request)) (world : Option World) :
    Option World :=
  requests.foldl (fun world request => (app.handle request.1 request.2 world).world) world

theorem prepare_ok {action : Action} {call : Call}
    (h : app.prepare now r true action = .ok call) :
    ∃ owner payload, callOf owner r.query payload action = .ok call := by
  simp only [prepare, Bool.not_true, Bool.false_eq_true, if_false] at h
  split_ifs at h <;> obtain ⟨payload, -, h⟩ := Except.bind_eq_ok.1 h <;>
    obtain ⟨owner, -, h⟩ := Except.bind_eq_ok.1 h <;>
    exact ⟨owner, payload, Except.mapError_eq_ok.1 h⟩

theorem ownerOf_congr {s : Request} (same : r.authorization = s.authorization) :
    app.ownerOf now r = app.ownerOf now s := by
  rw [ownerOf, ownerOf, same]

theorem prepare_toOption {owner : Uuid} {action : Action} (found : app.ownerOf now r = .ok owner)
    (body : action.hasBody) :
    (app.prepare now r true action).toOption = (Payload.ofRequest r).toOption.bind fun payload =>
      (callOf owner r.query payload action).toOption := by
  simp only [prepare, body, found, if_true, Bool.not_true, Bool.false_eq_true, if_false]
  cases Payload.ofRequest r with
  | error response => rfl
  | ok payload =>
    simp only [Except.ok_bind]
    cases h : callOf owner r.query payload action <;> simp [h, Except.mapError, Except.toOption]

theorem respond_world (app : App) (now : Int) (r : Request) (w : World) :
    (app.respond now r (some w)).world =
      match Endpoint.at? r.method r.path with
      | .ok (.ledger action) =>
        some (((app.prepare now r true action).toOption).elim w fun call =>
          (w.perform app.terms call).state)
      | _ => some w := by
  unfold respond
  cases Endpoint.at? r.method r.path with
  | error response => rfl
  | ok endpoint =>
    cases endpoint with
    | health | manual => rfl
    | ledger action =>
      simp only [Option.isSome_some]
      cases app.prepare now r true action <;> rfl

theorem handle_world (app : App) (now : Int) (r : Request) (w : World) :
    (app.handle now r (some w)).world =
      some ((app.call? now r).elim w fun call => (w.perform app.terms call).state) := by
  have same : (app.handle now r (some w)).world =
      (app.respond now { r with method := upper r.method } (some w)).world := by
    simp only [handle]
    split <;> rfl
  rw [same, respond_world]
  simp only [call?]
  split <;> rfl

theorem worldAfter_calls (app : App) (requests : List (Int × Request)) (w : World) :
    app.worldAfter requests (some w) = some (World.run app.terms (app.calls requests) w).2 := by
  induction requests generalizing w with
  | nil => rfl
  | cons request requests ih =>
    rw [worldAfter, List.foldl_cons, handle_world, ← worldAfter, ih, calls, calls,
      List.filterMap_cons]
    cases app.call? request.1 request.2 <;> rfl

end App

def sampleApp : App := ⟨.standard, "0.1.0", "secret"⟩

def sampleAuthorization : String := "Bearer " ++ Token.issue sampleApp.secret ⟨1⟩

theorem sampleApp_owner {r : Request} (h : r.authorization = some sampleAuthorization) :
    sampleApp.ownerOf 0 r = .ok ⟨1⟩ := by
  let bare : Request := ⟨"GET", "/", [], some sampleAuthorization, none, ""⟩
  have known : (sampleApp.ownerOf 0 bare).toOption = some ⟨1⟩ := by decide +kernel
  rw [App.ownerOf_congr (s := bare) h]
  exact Except.toOption_eq_some.1 known

end Passbook
