import Passbook.Proofs.Service.Failover
import Passbook.Proofs.Store.Rows

namespace Passbook.World
variable {terms : Terms} {call : Call} {w w' : World} {d : Durable} {store : Option StoreCall}
  {result : Except Failure Answer}

/-- The rows of the durable store; without one, or where a table is missing, there are none. -/
def rows (w : World) : Rows := (w.database?.map Database.rows).getD ⟨[], [], []⟩

theorem rows_of_durable (durable : w.durable = some d) : w.rows = d.database.rows := by
  rw [rows, database?, durable]
  rfl

theorem rows_of_none (none : w.durable = none) : w.rows = ⟨[], [], []⟩ := by
  rw [rows, database?, none]
  rfl

theorem Filled.rows (h : Filled w w') : w'.rows = w.rows := by
  unfold World.rows
  rcases h with same | same <;> rw [same]
  cases w.database? <;> rfl

theorem exists_effect (terms : Terms) (call : Call) (w : World) : ∃ store,
    Effect terms call w store (w.perform terms call).result (w.perform terms call).state ∧
      Attributed store (w.perform terms call) := by
  cases durable : w.durable with
  | some d => exact perform_effect terms call durable
  | none =>
    unfold perform
    split
    · exact ⟨none, .failed (.refl w), fun answer ok => by cases ok⟩
    · rename_i op valid
      obtain ⟨store, effect, attributed⟩ := serveFromMemory_effect valid (w := w) w
      rw [serve_memory durable]
      exact ⟨store, effect, attributed.after [.noDurableStore op.method] []⟩

theorem Effect.durable_does {answer : Answer}
    (effect : Effect terms call w (some .durable) (.ok answer) w') :
    ∃ op s, call.operation terms = .ok op ∧ w.supply.Later s ∧ s.stamp.2.Later w'.supply ∧
      Rows.Does s.stamp.1 w.rows op answer w'.rows ∧ w'.book = w.book := by
  cases effect with
  | @durable w' op d₀ d' supply answer log valid before after later operation book =>
    obtain ⟨s, taken, left, does, -⟩ := Durable.run_does (congrArg Outcome.result operation)
    rw [operation] at left does
    refine ⟨op, s, valid, later.trans taken, left, ?_, book⟩
    rw [rows_of_durable before, rows_of_durable after]
    exact does

theorem Effect.memory_does {answer : Answer}
    (effect : Effect terms call w (some .memory) (.ok answer) w') :
    ∃ op s, call.operation terms = .ok op ∧ w.supply.Later s ∧ s.stamp.2.Later w'.supply ∧
      Book.Does terms.forBook s.stamp.1 w.book op (.ok answer) w'.book ∧ w'.rows = w.rows := by
  cases effect with
  | @memory w' op supply answer log valid later operation filled =>
    have does : Book.Does terms.forBook supply.stamp.1 w.book op _ _ :=
      Book.run_does (Call.operation_checked valid)
    have left : Supply.Later supply.stamp.2 (w.book.run terms.forBook op supply).state.2 :=
      Book.run_stamp
    rw [operation] at does left
    exact ⟨op, supply, valid, later, left, does, filled.rows⟩

/-- What an operation does, it does with what the supply gives out at `s`. -/
inductive Change (terms : Terms) (call : Call) (w : World) (result : Except Failure Answer)
    (w' : World) : Prop
  | failed {failure} (answered : result = .error failure) (book : w'.book = w.book)
      (rows : w'.rows = w.rows) (later : w.supply.Later w'.supply)
  | database {op answer s} (valid : call.operation terms = .ok op) (answered : result = .ok answer)
      (before : w.supply.Later s) (after : s.stamp.2.Later w'.supply)
      (does : Rows.Does s.stamp.1 w.rows op answer w'.rows) (book : w'.book = w.book)
  | memory {op answer s} (valid : call.operation terms = .ok op) (answered : result = .ok answer)
      (before : w.supply.Later s) (after : s.stamp.2.Later w'.supply)
      (does : Book.Does terms.forBook s.stamp.1 w.book op (.ok answer) w'.book)
      (rows : w'.rows = w.rows)

theorem Change.later {result : Except Failure Answer} (change : Change terms call w result w') :
    w.supply.Later w'.supply := by
  cases change with
  | failed answered book rows later => exact later
  | database valid answered before after | memory valid answered before after =>
    exact before.trans ((Supply.later_stamp _).trans after)

theorem Effect.change (effect : Effect terms call w store result w') :
    Change terms call w result w' := by
  cases effect with
  | failed kept => exact .failed rfl kept.book kept.filled.rows kept.supply
  | durable valid before after later operation book =>
    obtain ⟨_, _, valid, taken, left, does, same⟩ :=
      (Effect.durable valid before after later operation book).durable_does
    exact .database valid rfl taken left does same
  | memory valid later operation filled =>
    obtain ⟨_, _, valid, taken, left, does, same⟩ :=
      (Effect.memory valid later operation filled).memory_does
    exact .memory valid rfl taken left does same

theorem perform_change (terms : Terms) (call : Call) (w : World) :
    Change terms call w (w.perform terms call).result (w.perform terms call).state := by
  obtain ⟨store, effect, -⟩ := exists_effect terms call w
  exact effect.change

end Passbook.World
