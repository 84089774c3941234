import Passbook.Proofs.Owner.Accounts
import Passbook.Proofs.Owner.Draws
import Passbook.Proofs.Owner.Healing

/-!
# Owners do not see one another

- `answersTo`: the answers to one owner's calls
- `run_paced`: these are the answers of the owner's calls alone, under a renaming that keeps pace
- `exists_paced`: there is such a renaming
- `owner_isolation`: what an owner sees does not depend on the calls of others
-/

namespace Passbook.World
open Supply (Aligned Tracked)

variable {ρ : Renaming} {owner : Uuid} {w v : World} {terms : Terms} {s t : Supply}

def answersTo (owner : Uuid) :
    List Call → List (Except Failure Answer) → List (Except Failure Answer)
  | call :: calls, answer :: answers =>
    if call.owner = owner then answer :: answersTo owner calls answers
    else answersTo owner calls answers
  | _, _ => []

/-- Along a run, the renaming carries what the owner's calls would take from `s`, were they alone,
to what they take. -/
def Paced (ρ : Renaming) (terms : Terms) (owner : Uuid) : List Call → World → Supply → Prop
  | [], _, _ => True
  | call :: calls, w, s =>
    let w' := (w.perform terms call).state
    if call.owner = owner then
      Aligned ρ s w.supply w'.supply ∧ Paced ρ terms owner calls w' (s.advanced w.supply w'.supply)
    else Paced ρ terms owner calls w' s

theorem exists_paced (ρ : Renaming) (terms : Terms) (owner : Uuid) (o : Supply)
    (draws : Function.Injective o.draw) (rising : o.clock.Rising) (calls : List Call) (w : World)
    (s : Supply) (later : o.Later s) (shares : o.Shares w.supply)
    (tracked : Tracked ρ o s w.supply) :
    ∃ ρ', ρ.Agrees ρ' o s ∧ Paced ρ' terms owner calls w s := by
  induction calls generalizing ρ w s with
  | nil => exact ⟨ρ, .refl ρ o s, trivial⟩
  | cons call calls ih =>
    have taken := perform_later terms call w
    have shares' := shares.trans taken.shares
    -- Only the owner's own calls need the renaming continued; others merely use up the supply.
    by_cases own : call.owner = owner
    · obtain ⟨ρ₁, agrees, aligned⟩ := Supply.exists_aligned draws rising later.shares shares tracked
        (w.perform terms call).state.supply
      have later' := s.later_advanced w.supply (w.perform terms call).state.supply
      obtain ⟨ρ', agrees', paced⟩ := ih ρ₁ (w.perform terms call).state
        (s.advanced w.supply (w.perform terms call).state.supply) (later.trans later') shares'
        (tracked.advanced agrees aligned rising later.shares shares taken)
      refine ⟨ρ', agrees.trans (agrees'.before later'), ?_⟩
      simp only [Paced, own, if_true]
      exact ⟨aligned.agrees later agrees', paced⟩
    · obtain ⟨ρ', agrees, paced⟩ := ih ρ (w.perform terms call).state s later shares'
        (tracked.mono rising taken)
      refine ⟨ρ', agrees, ?_⟩
      simp only [Paced, own, if_false]
      exact paced

theorem run_paced (calls : List Call) (alike : Alike ρ owner w v) (steady : v.Steady)
    (paced : Paced ρ terms owner calls v w.supply) :
    answersTo owner calls (run terms calls v).1 =
      (run terms ((calls.filter (·.owner = owner)).map (Call.renamed ρ.id.symm)) w).1.map
        ρ.result := by
  induction calls generalizing w v with
  | nil => rfl
  | cons call calls ih =>
    have steady' := perform_steady terms call steady
    by_cases own : call.owner = owner
    · simp only [Paced, own, if_true] at paced
      obtain ⟨aligned, paced⟩ := paced
      -- In the one world the call names the accounts that the renaming takes to those named here.
      have named : (call.renamed ρ.id.symm).renamed ρ.id = call :=
        call.renamed_renamed ρ.id.apply_symm_apply
      have mirrors : Mirrors ρ owner w.supply v.supply (v.perform terms call).state.supply w v :=
        ⟨alike, .start aligned⟩
      have performed := @perform_mirrors _ _ _ _ _ _ _ terms (call.renamed ρ.id.symm) mirrors
        ((call.renamed_owner _).trans own)
      rw [named] at performed
      obtain ⟨result, after⟩ := performed (.refl _)
      rw [← after.supply.taken] at paced
      have rest := ih after.toAlike steady' paced
      simp only [run, answersTo, own, if_true, List.filter_cons, decide_true, List.map_cons,
        result, rest]
    · simp only [Paced, own, if_false] at paced
      have rest := ih (perform_alike alike steady own) steady' paced
      simp only [run, answersTo, own, if_false, List.filter_cons, decide_false,
        Bool.false_eq_true, rest]

/-! ## New services -/

/-- A service that nobody has asked anything yet, without a database, with one that has no tables,
or with one that can never be opened. -/
structure IsNew (w : World) : Prop where
  book : w.book = .empty
  quiet : w.script = .empty
  durable : w.durable = none ∨ w.durable = some ⟨.empty, []⟩ ∨ w.durable = some ⟨.unreachable, []⟩

theorem IsNew.faultFree (h : w.IsNew) : w.FaultFree :=
  ⟨h.quiet, h.durable.imp_right (.imp_left fun durable => ⟨_, durable, rfl⟩)⟩

theorem IsNew.owned (h : w.IsNew) : w.Owned := by
  have unheld (owner id : Uuid) : ¬w.Holds owner id := by
    rintro (mem | ⟨row, mem, -⟩)
    · rw [h.book] at mem
      cases mem
    · rcases h.durable with none | durable | durable
      · rw [rows, database?, none] at mem
        cases mem
      · rw [rows_of_durable durable] at mem
        cases mem
      · rw [rows_of_durable durable] at mem
        cases mem
  exact ⟨fun held => absurd held (unheld _ _), fun held => absurd held (unheld _ _)⟩

theorem IsNew.draws (h : w.IsNew) {f : Nat → Nat} {n : Nat} (draws : Function.Injective f)
    (same : w.supply.Draws f n) : (w.redraw f).Draws w.supply.draw n := by
  refine ⟨⟨draws, fun number mem => ?_, fun d durable row mem => ?_⟩,
    fun i ge lt => (same i ge lt).symm⟩
  · have mem : number ∈ w.book.numbers := mem
    rw [h.book] at mem
    cases mem
  · have known : w.durable = some d := durable
    rcases h.durable with is | is | is <;> rw [is] at known <;> cases known <;> cases mem

theorem IsNew.run_redraw (h : w.IsNew) (terms : Terms) {f : Nat → Nat} {n : Nat}
    (draws : Function.Injective f) (same : w.supply.Draws f (2 * n)) {calls : List Call}
    (few : calls.length ≤ n) : (run terms calls w).1 = (run terms calls (w.redraw f)).1 := by
  have room := (h.draws draws same).mono (Nat.mul_le_mul_left 2 few)
  have back := World.run_redraw terms calls room
  have same : (w.redraw f).redraw w.supply.draw = w := rfl
  rw [same] at back
  rw [back]

inductive IsBlank : Option Durable → Prop
  | none : IsBlank none
  | empty : IsBlank (some ⟨Database.empty.provisioned, []⟩)
  | unreachable : IsBlank (some ⟨.unreachable, []⟩)

variable {durable : Option Durable}

theorem IsBlank.numbered (h : IsBlank durable) (draws : Function.Injective s.draw) :
    (blank durable s).Numbered := by
  refine ⟨draws, by simp [blank, Book.Numbered, Book.empty], fun d same row mem => ?_⟩
  cases h <;> cases same <;> cases mem

theorem IsBlank.steady (h : IsBlank durable) (s : Supply) : (blank durable s).Steady := by
  refine ⟨rfl, fun d same => ?_, fun d same => ?_⟩
  · cases h <;> cases same <;> rfl
  · cases h <;> cases same
    · exact .inl ⟨rfl, rfl⟩
    · exact .inr rfl

theorem IsBlank.alike (h : IsBlank durable) (ρ : Renaming) (owner : Uuid)
    (draws : Function.Injective s.draw) (draws' : Function.Injective t.draw) :
    Alike ρ owner (blank durable s) (blank durable t) := by
  refine ⟨rfl, ?_, rfl, rfl, h.numbered draws, h.numbered draws'⟩
  cases h with
  | none => exact .none
  | empty =>
    exact .some ⟨rfl, rfl, rfl, .some rfl, .some rfl, .some rfl, ⟨nofun, nofun, nofun⟩⟩
  | unreachable => exact .some ⟨rfl, rfl, rfl, .none, .none, .none, ⟨nofun, nofun, nofun⟩⟩

def callsOf (owner : Uuid) (f : Uuid → Uuid) (calls : List Call) : List Call :=
  (calls.filter (·.owner = owner)).map (Call.renamed f)

theorem IsBlank.answers (h : IsBlank durable) (terms : Terms) (owner : Uuid) (calls : List Call)
    (same : t.draw = s.draw) (clock : t.clock = s.clock) (draws : Function.Injective s.draw)
    (rising : s.clock.Rising) :
    ∃ ρ : Renaming, ρ.moments = Set.range s.clock.time ∧
      answersTo owner calls (run terms calls (blank durable t)).1 =
        (run terms (callsOf owner ρ.id.symm calls) (blank durable s)).1.map ρ.result := by
  obtain ⟨ρ₀, tracked⟩ := Supply.exists_tracked rising clock
  obtain ⟨ρ, agrees, paced⟩ := exists_paced ρ₀ terms owner s draws rising calls (blank durable t) s
    (.refl s) ⟨same, congrArg Clock.time clock⟩ tracked
  exact ⟨ρ, agrees.moments.trans tracked.moments,
    run_paced calls (h.alike ρ owner draws (same ▸ draws)) (h.steady t) paced⟩

theorem lost_renamed (terms : Terms) (f : Uuid → Uuid) (calls : List Call) :
    lost terms (calls.map (Call.renamed f)) = lost terms calls := by
  induction calls with
  | nil => rfl
  | cons call calls ih =>
    simp only [List.map_cons, lost, Call.operation_renamed]
    cases call.operation terms with
    | error failure => exact ih
    | ok op => simp only [Except.map, Operation.renamed_method, ih]

theorem IsNew.answers_of_injective (new : w.IsNew) (terms : Terms) (owner : Uuid)
    (calls : List Call) (draws : Function.Injective w.supply.draw)
    (rising : w.supply.clock.Rising) :
    ∃ ρ : Renaming, ρ.moments = Set.range w.supply.clock.time ∧
      answersTo owner calls (run terms calls w).1 =
        (run terms (callsOf owner ρ.id.symm calls) w).1.map ρ.result := by
  obtain ⟨book, durable, s, script⟩ := w
  obtain ⟨rfl, rfl, rfl | rfl | rfl⟩ := new
  · exact IsBlank.none.answers terms owner calls rfl rfl draws rising
  · -- The renaming starts where the tables have been created, in either run.
    let alone := lost terms (calls.filter (·.owner = owner))
    obtain ⟨ρ, moments, same⟩ := IsBlank.empty.answers (s := s.wasted alone)
      (t := s.wasted (lost terms calls)) terms owner calls rfl rfl draws rising
    refine ⟨ρ, moments, ?_⟩
    have full := run_healed terms calls s
    have alone := run_healed terms (callsOf owner ρ.id.symm calls) s
    rw [callsOf, lost_renamed] at alone
    rw [blank] at full alone
    rw [full, callsOf, alone]
    exact same
  · exact IsBlank.unreachable.answers terms owner calls rfl rfl draws rising

theorem IsNew.answers (new : w.IsNew) (terms : Terms) (owner : Uuid) (calls : List Call)
    (draws : Set.InjOn w.supply.draw (Set.Ico w.supply.drawn (w.supply.drawn + 2 * calls.length)))
    (rising : w.supply.clock.Rising) :
    ∃ ρ : Renaming, ρ.moments = Set.range w.supply.clock.time ∧
      answersTo owner calls (run terms calls w).1 =
        (run terms (callsOf owner ρ.id.symm calls) w).1.map ρ.result := by
  obtain ⟨f, injective, same⟩ := Supply.exists_draws draws
  have redrawn : (w.redraw f).IsNew := ⟨new.book, new.quiet, new.durable⟩
  obtain ⟨ρ, moments, answers⟩ :=
    redrawn.answers_of_injective terms owner calls injective rising
  have fewer : (callsOf owner ρ.id.symm calls).length ≤ calls.length :=
    (List.length_map _).trans_le (List.length_filter_le _ _)
  refine ⟨ρ, moments, ?_⟩
  rw [new.run_redraw terms injective same le_rfl, new.run_redraw terms injective same fewer]
  exact answers

/-- Of two services that are given the same calls but for those of other owners, an owner gets the
same answers, up to identifiers, account numbers and moments. At any time a call on an account that
someone else holds is answered like one on an account that nobody does, and what other owners do
leaves the owner's accounts, transactions and payees alone. Only the draws that calls may take, two
at most for each, must not repeat. -/
theorem owner_isolation (new : w.IsNew) (terms : Terms) (calls : List Call)
    (draws : Set.InjOn w.supply.draw (Set.Ico w.supply.drawn (w.supply.drawn + 2 * calls.length)))
    (rising : w.supply.clock.Rising) (owner : Uuid) :
    (∃ ρ : Renaming, ρ.moments = Set.range w.supply.clock.time ∧
        answersTo owner calls (run terms calls w).1 =
          (run terms (callsOf owner ρ.id.symm calls) w).1.map ρ.result) ∧
      let v := (run terms calls w).2
      (∀ call id, call.owner = owner → call.account? = some id →
          ((∃ other ≠ owner, v.Holds other id) ∨ ∀ other, ¬v.Holds other id) →
          (v.perform terms call).result = call.missing terms id) ∧
        ∀ call : Call, call.owner ≠ owner →
          (v.perform terms call).state.book.shelf owner = v.book.shelf owner ∧
            (v.perform terms call).state.rows.of owner = v.rows.of owner := by
  refine ⟨new.answers terms owner calls draws rising, ?_⟩
  intro v
  have faultFree : v.FaultFree :=
    run_induction FaultFree (fun call _ => perform_faultFree terms call) calls w new.faultFree
  have owned : v.Owned :=
    run_induction Owned (fun call _ => perform_owned terms call) calls w new.owned
  refine ⟨fun call id own names elsewhere => ?_, fun call other => perform_apart terms v other⟩
  apply perform_missing faultFree names
  rw [own]
  rcases elsewhere with ⟨other, ne, held⟩ | nobody
  · exact fun mine => ne (owned.one held mine)
  · exact nobody owner

def newService : World := ⟨.empty, some ⟨.empty, []⟩, ⟨0, 0, 0, (· % 900000000000)⟩, .empty⟩

def sharedCalls : List Call :=
  [.createAccount ⟨1⟩ none none (some (some (.ofCents 10000))),
   .createAccount ⟨2⟩ none none (some (some (.ofCents 5000))),
   .applyTransaction ⟨2⟩ (Supply.issuedId 4) (some (.ofCents 1000)) (some "debit") none none]

theorem owner_isolation_shared :
    let v := (run .standard sharedCalls newService).2
    newService.IsNew ∧ Set.InjOn newService.supply.draw (Set.Ico 0 6) ∧
      newService.supply.clock.Rising ∧
      v.Holds ⟨2⟩ (Supply.issuedId 4) ∧
      (v.perform .standard (.listTransactions ⟨1⟩ (some (Supply.issuedId 4)))).result =
        .error (.refused (.accountNotFound (Supply.issuedId 4))) ∧
      ∃ ρ : Renaming, ρ.moments = Set.range newService.supply.clock.time ∧
        answersTo ⟨1⟩ sharedCalls (run .standard sharedCalls newService).1 =
          (run .standard [.createAccount ⟨1⟩ none none (some (some (.ofCents 10000)))]
            newService).1.map ρ.result := by
  intro v
  have new : newService.IsNew := ⟨rfl, rfl, .inr (.inl rfl)⟩
  have draws : Set.InjOn newService.supply.draw (Set.Ico 0 6) := fun i hi j hj same => by
    rw [Set.mem_Ico] at hi hj
    simp only [newService] at same
    omega
  have held : v.Holds ⟨2⟩ (Supply.issuedId 4) := by
    unfold Holds
    decide +kernel
  have rising : newService.supply.clock.Rising := Clock.rising_ofNat 0
  obtain ⟨alone, missing, -⟩ := owner_isolation new .standard sharedCalls draws rising ⟨1⟩
  refine ⟨new, draws, rising, held, ?_, alone⟩
  exact missing (.listTransactions ⟨1⟩ (some (Supply.issuedId 4))) _ rfl rfl
    (.inl ⟨⟨2⟩, by decide, held⟩)

end Passbook.World
