import Passbook.Proofs.Owner.Pace
import Passbook.Proofs.Store.Book

namespace Passbook
open Passbook.Except (Paired)

def Supply.Drawn (s : Supply) (number : String) : Prop :=
  ∃ k < s.drawn, number = accountNumber (s.draw k)

namespace Supply
variable {ρ : Renaming} {s s' t s₀ t₀ u : Supply} {number : String}

theorem Drawn.later (h : s.Drawn number) (later : Later s s') : s'.Drawn number := by
  obtain ⟨k, hk, rfl⟩ := h
  exact ⟨k, hk.trans_le later.drawn, by rw [later.draw]⟩

theorem drawn_drawNumber (s : Supply) : s.drawNumber.2.Drawn s.drawNumber.1 :=
  ⟨s.drawn, Nat.lt_succ_self _, rfl⟩

theorem Drawn.ne (draws : Function.Injective s.draw) (h : s.Drawn number) :
    number ≠ s.drawNumber.1 := by
  obtain ⟨k, hk, rfl⟩ := h
  intro same
  exact hk.ne (draws (accountNumber_injective same))

theorem findNumber_drawn {taken : String → Bool} {attempts : Nat}
    (h : s.findNumber taken attempts = (some number, s')) : s'.Drawn number := by
  induction attempts generalizing s with
  | zero => cases h
  | succ attempts ih =>
    simp only [findNumber] at h
    split_ifs at h
    · exact ih h
    · cases h
      exact s.drawn_drawNumber

theorem findNumber_abreast {taken taken' : String → Bool} (attempts : Nat)
    (h : Abreast ρ s₀ t₀ u s t) (free : taken s.drawNumber.1 = false)
    (free' : taken' t.drawNumber.1 = false) (later : Later (t.findNumber taken' attempts).2 u) :
    (t.findNumber taken' attempts).1 = (s.findNumber taken attempts).1.map ρ.number ∧
      Abreast ρ s₀ t₀ u (s.findNumber taken attempts).2 (t.findNumber taken' attempts).2 := by
  cases attempts with
  | zero => exact ⟨rfl, h⟩
  | succ attempts =>
    simp only [findNumber, free, free', Bool.false_eq_true, if_false] at later ⊢
    obtain ⟨same, next⟩ := h.drawNumber later
    exact ⟨congrArg some same.symm, next⟩

end Supply

namespace Book
variable {ρ : Renaming} {owner : Uuid} {b b' : Book} {s t s₀ t₀ u : Supply} {terms : BookTerms}
  {op : Operation} {stamp : Stamp}

def Mirrors (ρ : Renaming) (owner : Uuid) (b b' : Book) : Prop :=
  b'.shelf owner = ρ.shelf (b.shelf owner)

theorem Mirrors.accounts (h : Mirrors ρ owner b b') :
    (b'.shelf owner).accounts = (b.shelf owner).accounts.map ρ.account := by
  rw [h]
  rfl

theorem Mirrors.transactions (h : Mirrors ρ owner b b') :
    (b'.shelf owner).transactions = (b.shelf owner).transactions.map ρ.transaction := by
  rw [h]
  rfl

theorem Mirrors.payees (h : Mirrors ρ owner b b') :
    (b'.shelf owner).payees = (b.shelf owner).payees.map ρ.payee := by
  rw [h]
  rfl

def Matched (ρ : Renaming) (owner : Uuid) (r r' : Answer × Book) : Prop :=
  r'.1 = ρ.answer r.1 ∧ Mirrors ρ owner r.2 r'.2

theorem addAccount_mirrors {a : Account} (h : Mirrors ρ owner b b') (own : a.owner = owner) :
    Mirrors ρ owner (b.addAccount a) (b'.addAccount (ρ.account a)) := by
  subst own
  simp [Mirrors, Renaming.shelf, h.accounts, h.transactions, h.payees]

theorem addTransaction_mirrors {a : Transaction} (h : Mirrors ρ owner b b') (own : a.owner = owner) :
    Mirrors ρ owner (b.addTransaction a) (b'.addTransaction (ρ.transaction a)) := by
  subst own
  simp [Mirrors, Renaming.shelf, h.accounts, h.transactions, h.payees]

theorem addPayee_mirrors {p : Payee} (h : Mirrors ρ owner b b') (own : p.owner = owner) :
    Mirrors ρ owner (b.addPayee p) (b'.addPayee (ρ.payee p)) := by
  subst own
  simp [Mirrors, Renaming.shelf, h.accounts, h.transactions, h.payees]

theorem createAccount_mirrors (h : Mirrors ρ owner b b') (stamp : Stamp) (number : String)
    (label currency : Option String) (opening : Decimal) :
    (b'.createAccount (ρ.stamp stamp) (ρ.number number) owner label currency opening).1 =
        ρ.result (b.createAccount stamp number owner label currency opening).1 ∧
      Mirrors ρ owner (b.createAccount stamp number owner label currency opening).2
        (b'.createAccount (ρ.stamp stamp) (ρ.number number) owner label currency opening).2 := by
  have added : Mirrors ρ owner
      (b.addAccount (.opened stamp number owner label currency opening)) _ :=
    addAccount_mirrors h rfl
  simp only [createAccount]
  cases opening.exceeds? Money.zero with
  | none => exact ⟨rfl, added⟩
  | some above =>
    cases above with
    | false => exact ⟨rfl, added⟩
    | true => exact ⟨rfl, addTransaction_mirrors added rfl⟩

theorem listTransactions_mirrors (h : Mirrors ρ owner b b') (account : Option Uuid) :
    b'.listTransactions owner (account.map ρ.id) = ρ.result (b.listTransactions owner account) := by
  cases account with
  | none => simp [listTransactions, Renaming.result, Renaming.answer, h.transactions]
  | some id =>
    simp only [listTransactions, Option.map_some, h.accounts, h.transactions, List.any_map,
      Function.comp_def, Renaming.account, Renaming.id_beq]
    split_ifs
    · simp [Renaming.result, Renaming.answer, List.filter_map, Function.comp_def,
        Renaming.transaction]
    · rfl

theorem replaceAccount_renamed (ρ : Renaming) (a : Account) (accounts : List Account) :
    replaceAccount (ρ.account a) (accounts.map ρ.account) =
      (replaceAccount a accounts).map ρ.account := by
  induction accounts with
  | nil => rfl
  | cons other rest ih =>
    have same : (ρ.account other).id = (ρ.account a).id ↔ other.id = a.id := ρ.id.injective.eq_iff
    simp only [replaceAccount, List.map_cons, same]
    split_ifs
    · rfl
    · rw [ih, List.map_cons]

theorem apply_mirrors (h : Mirrors ρ owner b b') (stamp : Stamp) (id : Uuid) (amount : Decimal)
    (currency : Option String) (kind : Kind) (description : Option String) :
    Paired ρ.failure (Matched ρ owner)
      (b.apply stamp owner id amount currency kind description)
      (b'.apply (ρ.stamp stamp) owner (ρ.id id) amount currency kind description) := by
  simp only [apply, h.accounts, List.find?_map, Function.comp_def, Renaming.account,
    Renaming.id_beq]
  cases found : (b.shelf owner).accounts.find? (·.id == id) with
  | none => exact .error _
  | some account =>
    apply (signedDelta_renamed ρ account.id account.balance amount kind).bind
    rintro delta - rfl
    have sum : (ρ.account account).balance.add? delta = account.balance.add? delta := rfl
    rw [sum]
    cases account.balance.add? delta with
    | error fault => exact .error (Failure.arithmetic fault)
    | ok balance =>
      have replaced := replaceAccount_renamed ρ
        { account with balance, updatedAt := stamp.now } (b.shelf owner).accounts
      refine .ok ⟨rfl, ?_⟩
      simp only [Mirrors, shelf_setShelf, if_true, Renaming.shelf, List.map_append,
        ← replaced, h.transactions, h.payees]
      rfl

theorem listPayees_mirrors (h : Mirrors ρ owner b b') (stamp : Stamp) :
    (b'.listPayees (ρ.stamp stamp) owner).1 = (b.listPayees stamp owner).1.map ρ.payee ∧
      Mirrors ρ owner (b.listPayees stamp owner).2 (b'.listPayees (ρ.stamp stamp) owner).2 := by
  simp only [listPayees, h.payees, List.isEmpty_map]
  by_cases bare : (b.shelf owner).payees.isEmpty
  · have added := addPayee_mirrors (p := demoPayee stamp owner) h rfl
    have same : demoPayee (ρ.stamp stamp) owner = ρ.payee (demoPayee stamp owner) := rfl
    simp only [bare, if_true, same, added.payees, List.map_reverse]
    exact ⟨trivial, added⟩
  · simp only [bare, Bool.false_eq_true, if_false, h.payees, List.map_reverse]
    exact ⟨trivial, h⟩

theorem createPayee_mirrors (h : Mirrors ρ owner b b') (stamp : Stamp)
    (name number : Option String) :
    Paired ρ.failure (Matched ρ owner) (b.createPayee stamp owner name number)
      (b'.createPayee (ρ.stamp stamp) owner name number) := by
  simp only [createPayee, h.payees, List.any_map, Function.comp_def, Renaming.payee]
  refine .ite Iff.rfl (.error _) (.ok ⟨rfl, ?_⟩)
  have added : Mirrors ρ owner (b.addPayee ⟨stamp.first, owner, name, number, stamp.now⟩) _ :=
    addPayee_mirrors h rfl
  exact added

theorem deletePayees_mirrors (h : Mirrors ρ owner b b') :
    (b'.deletePayees owner).1 = (b.deletePayees owner).1 ∧
      Mirrors ρ owner (b.deletePayees owner).2 (b'.deletePayees owner).2 := by
  simp [deletePayees, Mirrors, Renaming.shelf, h.accounts, h.transactions, h.payees]

/-! ## All operations -/

theorem settle_mirrors {x x' : Except Failure (Answer × Book)} (s t : Supply)
    (h : Mirrors ρ owner b b')
    (paired : Paired ρ.failure (Matched ρ owner) x x') :
    (settle b' t x').result = ρ.result (settle b s x).result ∧
      Mirrors ρ owner (settle b s x).state.1 (settle b' t x').state.1 := by
  cases paired with
  | error failure => exact ⟨rfl, h⟩
  | ok matched => exact ⟨congrArg _ matched.1, matched.2⟩

@[simp] theorem settle_supply (x : Except Failure (Answer × Book)) :
    (settle b s x).state.2 = s := by
  cases x <;> rfl

theorem run_mirrors (h : Mirrors ρ owner b b') (own : op.owner = owner)
    (free : b.isTaken s.drawNumber.1 = false) (free' : b'.isTaken t.drawNumber.1 = false)
    (abreast : Supply.Abreast ρ s₀ t₀ u s t)
    (later : (b'.run terms (op.renamed ρ.id) t).state.2.Later u) :
    (b'.run terms (op.renamed ρ.id) t).result = ρ.result (b.run terms op s).result ∧
      Mirrors ρ owner (b.run terms op s).state.1 (b'.run terms (op.renamed ρ.id) t).state.1 ∧
      Supply.Abreast ρ s₀ t₀ u (b.run terms op s).state.2
        (b'.run terms (op.renamed ρ.id) t).state.2 := by
  obtain ⟨stamp, next⟩ := abreast.stamp (run_stamp.trans later)
  subst own
  have taken : ∀ s : Supply, s.stamp.2.drawNumber.1 = s.drawNumber.1 := fun _ => rfl
  rw [← taken s] at free
  rw [← taken t] at free'
  cases op with
  | createAccount owner label currency opening =>
    simp only [Operation.renamed, run, ← stamp] at later ⊢
    have found := Supply.findNumber_abreast terms.attempts next free free'
    rcases result : s.stamp.2.findNumber b.isTaken terms.attempts with ⟨_ | number, s'⟩ <;>
      rcases result' : t.stamp.2.findNumber b'.isTaken terms.attempts with ⟨_ | number', t'⟩ <;>
      simp only [result, result'] at found later ⊢ <;>
      obtain ⟨same, after⟩ := found later <;> cases same
    · exact ⟨rfl, h, after⟩
    · obtain ⟨result, mirrors⟩ := createAccount_mirrors h s.stamp.1 number label currency opening
      exact ⟨result, mirrors, after⟩
  | listAccounts owner =>
    replace h : Mirrors ρ owner b b' := h
    simp only [Operation.renamed, run, ← stamp, h.accounts, List.isEmpty_map] at later ⊢
    by_cases bare : (b.shelf owner).accounts.isEmpty
    · simp only [bare, if_true] at later ⊢
      have found := Supply.findNumber_abreast terms.attempts next free free'
      rcases result : s.stamp.2.findNumber b.isTaken terms.attempts with ⟨_ | number, s'⟩ <;>
        rcases result' : t.stamp.2.findNumber b'.isTaken terms.attempts with ⟨_ | number', t'⟩ <;>
        simp only [result, result'] at found later ⊢ <;>
        obtain ⟨same, after⟩ := found later <;> cases same
      · exact ⟨rfl, h, after⟩
      · exact ⟨rfl, addAccount_mirrors h rfl, after⟩
    · simp only [bare, Bool.false_eq_true, if_false]
      exact ⟨rfl, h, next⟩
  | listTransactions owner account =>
    exact ⟨listTransactions_mirrors h account, h, next⟩
  | applyTransaction owner id amount currency kind description =>
    simp only [Operation.renamed, run, ← stamp, settle_supply]
    obtain ⟨result, mirrors⟩ := settle_mirrors s.stamp.2 t.stamp.2 h
      (apply_mirrors h s.stamp.1 id amount currency kind description)
    exact ⟨result, mirrors, next⟩
  | listPayees owner =>
    simp only [Operation.renamed, run, ← stamp]
    replace h : Mirrors ρ owner b b' := h
    obtain ⟨payees, mirrors⟩ := listPayees_mirrors h s.stamp.1
    refine ⟨?_, mirrors, next⟩
    rw [payees]
    rfl
  | createPayee owner name number =>
    simp only [Operation.renamed, run, ← stamp, settle_supply]
    obtain ⟨result, mirrors⟩ := settle_mirrors s.stamp.2 t.stamp.2 h
      (createPayee_mirrors h s.stamp.1 name number)
    exact ⟨result, mirrors, next⟩
  | deletePayees owner =>
    simp only [Operation.renamed, run]
    replace h : Mirrors ρ owner b b' := h
    obtain ⟨count, mirrors⟩ := deletePayees_mirrors h
    refine ⟨?_, mirrors, next⟩
    rw [count]
    rfl

/-! ## Numbers in use -/

def Numbered (b : Book) (s : Supply) : Prop := ∀ number ∈ b.numbers, s.Drawn number

theorem Numbered.free (h : b.Numbered s) (draws : Function.Injective s.draw) :
    b.isTaken s.drawNumber.1 = false := by
  rw [isTaken, List.contains_eq_mem, decide_eq_false_iff_not]
  intro taken
  exact (h _ taken).ne draws rfl

theorem Numbered.later (h : b.Numbered s) (later : s.Later t) : b.Numbered t :=
  fun number mem => (h number mem).later later

theorem settle_numbered {x : Except Failure (Answer × Book)} (h : b.Numbered s)
    (same : ∀ answer b', x = .ok (answer, b') → b'.numbers = b.numbers) :
    (settle b s x).state.1.Numbered s := by
  cases x with
  | error failure => exact h
  | ok done =>
    intro number mem
    exact h number (same done.1 done.2 rfl ▸ mem)

theorem run_numbered (h : b.Numbered s) :
    (b.run terms op s).state.1.Numbered (b.run terms op s).state.2 := by
  have kept : b.Numbered (b.run terms op s).state.2 := h.later run_later
  cases op with
  | createAccount owner label currency opening =>
    simp only [run] at kept ⊢
    rcases found : s.stamp.2.findNumber b.isTaken terms.attempts with ⟨_ | number, s'⟩ <;>
      simp only [found] at kept ⊢
    · exact kept
    · intro other mem
      have numbers : (b.createAccount s.stamp.1 number owner label currency opening).2.numbers =
          number :: b.numbers := by
        simp only [createAccount]
        split <;> rfl
      rw [numbers] at mem
      rcases List.mem_cons.1 mem with rfl | mem
      · exact Supply.findNumber_drawn found
      · exact kept other mem
  | listAccounts owner =>
    simp only [run] at kept ⊢
    split_ifs at kept ⊢
    · rcases found : s.stamp.2.findNumber b.isTaken terms.attempts with ⟨_ | number, s'⟩ <;>
        simp only [found] at kept ⊢
      · exact kept
      · intro other mem
        rcases List.mem_cons.1 mem with rfl | mem
        · exact Supply.findNumber_drawn found
        · exact kept other mem
    · exact kept
  | listTransactions owner account => exact kept
  | applyTransaction owner id amount currency kind description =>
    simp only [run, settle_supply] at kept ⊢
    apply settle_numbered kept
    intro answer b' done
    obtain ⟨account, delta, balance, -, -, -, -, rfl⟩ := apply_eq_ok.1 done
    rfl
  | listPayees owner =>
    have same : (b.listPayees s.stamp.1 owner).2.numbers = b.numbers := by
      simp only [listPayees]
      split <;> rfl
    intro number mem
    exact h.later s.later_stamp number (same ▸ mem)
  | createPayee owner name number =>
    simp only [run, settle_supply] at kept ⊢
    apply settle_numbered kept
    intro answer b' done
    simp only [createPayee] at done
    split_ifs at done
    · cases done
    · cases done
      rfl
  | deletePayees owner => exact kept

end Book
end Passbook
