import Mathlib.Data.Multiset.OrderedMonoid
import Mathlib.Algebra.Order.Sub.Basic

namespace Ledger

variable {α β : Type*}

/-- A block is taken from an allocator or given back to it. -/
inductive Entry (α : Type*)
  | take (block : α)
  | give (block : α)

def taken : List (Entry α) → Multiset α
  | [] => 0
  | .take a :: l => a ::ₘ taken l
  | .give _ :: l => taken l

def given : List (Entry α) → Multiset α
  | [] => 0
  | .take _ :: l => given l
  | .give a :: l => a ::ₘ given l

/-- The takes alone. -/
def takes : List (Entry α) → List (Entry α)
  | [] => []
  | .take a :: l => .take a :: takes l
  | .give _ :: l => takes l

theorem takes_eq_nil {l : List (Entry α)} (h : taken l = 0) : takes l = [] := by
  induction l with
  | nil => rfl
  | cons e l ih =>
    cases e with
    | take a => exact absurd h Multiset.cons_ne_zero
    | give a => exact ih h

@[simp] theorem taken_append (l k : List (Entry α)) : taken (l ++ k) = taken l + taken k := by
  induction l with
  | nil => simp [taken]
  | cons e l ih => cases e <;> simp [taken, ih]

/-- What is held at the start and what is taken is given back, each block once and only while it
is held. -/
inductive Settles : Multiset α → List (Entry α) → Prop
  | done : Settles 0 []
  | take {a : α} {held : Multiset α} {l : List (Entry α)} :
      Settles (a ::ₘ held) l → Settles held (.take a :: l)
  | give {a : α} {held : Multiset α} {l : List (Entry α)} :
      Settles held l → Settles (a ::ₘ held) (.give a :: l)

/-- What is left to give back. -/
def outstanding [DecidableEq α] (held : Multiset α) (l : List (Entry α)) : Multiset α :=
  taken l + held - given l

namespace Settles

variable {held held' : Multiset α} {l k : List (Entry α)}

theorem given_eq (h : Settles held l) : given l = taken l + held := by
  induction h with
  | done => rfl
  | take _ ih => rw [given, taken, ih, Multiset.add_cons, Multiset.cons_add]
  | give _ ih => rw [given, taken, ih, Multiset.add_cons]

theorem outstanding_eq_zero [DecidableEq α] (h : Settles held l) : outstanding held l = 0 := by
  rw [outstanding, h.given_eq, tsub_self]

theorem append (hl : Settles held l) (hk : Settles held' k) : Settles (held + held') (l ++ k) := by
  induction hl with
  | done => simpa using hk
  | take _ ih =>
    rw [Multiset.cons_add] at ih
    exact ih.take
  | give _ ih =>
    rw [Multiset.cons_add]
    exact ih.give

/-- A run settles what each of its parts settles. -/
theorem flatMap {xs : List β} {f : β → Multiset α} {g : β → List (Entry α)}
    (h : ∀ x ∈ xs, Settles (f x) (g x)) : Settles (xs.map f).sum (xs.flatMap g) := by
  induction xs with
  | nil => exact .done
  | cons x xs ih =>
    have rest := ih fun y hy => h y (List.mem_cons_of_mem _ hy)
    rw [List.map_cons, List.sum_cons, List.flatMap_cons]
    exact (h x List.mem_cons_self).append rest

theorem giveAll (blocks : List α) : Settles (blocks : Multiset α) (blocks.map .give) := by
  induction blocks with
  | nil => exact .done
  | cons a blocks ih => exact ih.give

/-- A block taken first and given back last, after everything that is held. -/
theorem loan (a : α) (blocks : List α) :
    Settles (blocks : Multiset α) (.take a :: (blocks.map .give ++ [.give a])) := by
  refine .take ?_
  have last : a ::ₘ (blocks : Multiset α) = blocks + ([a] : List α) := by
    rw [Multiset.coe_singleton, ← Multiset.singleton_add, add_comm]
  rw [last]
  exact (giveAll blocks).append (giveAll [a])

end Settles

end Ledger
