import Mathlib.Tactic.Common

/-!
# Tables and results

Where a look-up leads, and where a result that was mapped comes from.
-/

namespace JavaSource

variable {ε ε' κ α β : Type}

section Tables

variable [BEq κ] [LawfulBEq κ] {key : κ}

lemma mem_of_lookup {table : List (κ × α)} {a : α} (h : table.lookup key = some a) : (key, a) ∈ table := by
  obtain ⟨before, behind, rfl, -⟩ := List.lookup_eq_some_iff.mp h
  simp

/-- What a table of functions answers is the answer of one of its entries. -/
lemma exists_of_lookup {table : List (κ × (α → Option β))} {a : α} {b : β}
    (h : ((table.lookup key).bind fun f => f a) = some b) : ∃ entry ∈ table, entry.2 a = some b := by
  obtain ⟨f, hf, hb⟩ := Option.bind_eq_some_iff.mp h
  exact ⟨(key, f), mem_of_lookup hf, hb⟩

end Tables

section Results

lemma exists_of_map_eq_ok {f : α → β} {x : Except ε α} {b : β} (h : x.map f = .ok b) : ∃ a, x = .ok a ∧ f a = b := by
  cases x with
  | error e => cases h
  | ok a =>
      cases h
      exact ⟨a, rfl, rfl⟩

lemma eq_ok_of_mapError {f : ε → ε'} {x : Except ε α} {a : α} (h : x.mapError f = .ok a) : x = .ok a := by
  cases x with
  | error e => cases h
  | ok a' =>
      cases h
      rfl

end Results

end JavaSource
