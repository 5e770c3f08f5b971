import JavaSource.Template.Cache
import Mathlib.Data.Finset.Card
import Mathlib.Data.List.DropRight

/-!
# The cache of templates is transparent

Nobody who asks a cache can tell whether a template was read just now or long ago: **every look-up answers what a reading
of its source answers**, whatever was asked before.  What can be told is the size, and it is exactly the number of
different sources with delimiters that were looked up with success since the cache was emptied.

A look-up has three outcomes (`get_cases`): it finds a template, it reads one and keeps it, or it fails and changes
nothing.  The invariant `Remembers` says which keys a cache holds, each of them once, and that under each of them stands
the template of this very source with these delimiters.  It is preserved by every call, so it holds after all of them
(`after_remembers`).
-/

namespace JavaSource

namespace TemplateCache

/-! ## Calls -/

/-- What is asked of a cache. -/
inductive Call where
  | lookUp (source : Text) (m : Markers := {})
  | clear
deriving DecidableEq

/-- The cache after a call. -/
def step (c : TemplateCache) : Call → TemplateCache
  | .lookUp source m => (c.get source m).2
  | .clear => c.clear

/-- The cache after calls, of which the first is made to an empty one. -/
def after (calls : List Call) : TemplateCache := calls.foldl step {}

/-- The source and the delimiters of a look-up, if there is a template to be found. -/
def Call.found? : Call → Option (Text × Markers)
  | .lookUp source m => if (Template.parse source m).isOk then some (source, m) else none
  | .clear => none

/-- What was looked up with success since the cache was last emptied. -/
def found (calls : List Call) : Finset (Text × Markers) :=
  ((calls.rtakeWhile (· ≠ .clear)).filterMap Call.found?).toFinset

variable {c : TemplateCache} {keys : Finset (Text × Markers)} {source : Text} {m : Markers}

@[simp] lemma after_concat (calls : List Call) (call : Call) : after (calls ++ [call]) = (after calls).step call := by
  simp [after]

@[simp] lemma found_concat_clear (calls : List Call) : found (calls ++ [.clear]) = ∅ := by
  simp [found]

@[simp] lemma found_concat_lookUp (calls : List Call) (source : Text) (m : Markers) :
    found (calls ++ [.lookUp source m]) =
      if (Template.parse source m).isOk then insert (source, m) (found calls) else found calls := by
  rw [found, List.rtakeWhile_concat_pos _ _ _ (by simp), List.filterMap_append, List.toFinset_append]
  split <;> simp [found, Call.found?, *]

/-! ## What a look-up does -/

/-- **A look-up finds, reads or fails.** -/
lemma get_cases (source : Text) (m : Markers) (c : TemplateCache) :
    (∃ shared, ((source, m), shared) ∈ c.entries ∧ c.get source m = (.ok shared, c)) ∨
    (∃ t, (source, m) ∉ c.entries.map Prod.fst ∧ Template.parse source m = .ok t ∧
      c.get source m = (.ok ⟨c.reads, t⟩, ⟨c.entries ++ [((source, m), ⟨c.reads, t⟩)], c.reads + 1⟩)) ∨
    (∃ e, Template.parse source m = .error e ∧ c.get source m = (.error e, c)) := by
  cases hlook : c.entries.lookup (source, m) with
  | some shared =>
      obtain ⟨before, behind, hentries, -⟩ := List.lookup_eq_some_iff.mp hlook
      exact .inl ⟨shared, by simp [hentries], by simp [get, hlook]⟩
  | none =>
      right
      cases hparse : Template.parse source m with
      | error e => exact .inr ⟨e, rfl, by simp [get, hlook, hparse]⟩
      | ok t =>
          have hnew : (source, m) ∉ c.entries.map Prod.fst := by
            rw [List.mem_map]
            rintro ⟨entry, hentry, hkey⟩
            simpa [hkey] using List.lookup_eq_none_iff.mp hlook entry hentry
          exact .inl ⟨t, hnew, rfl, by simp [get, hlook, hparse]⟩

/-- A look-up that fails leaves no trace. -/
lemma get_of_error {e : ParseError} (h : (c.get source m).1 = .error e) : (c.get source m).2 = c := by
  rcases get_cases source m c with ⟨shared, -, hget⟩ | ⟨t, -, -, hget⟩ | ⟨e', -, hget⟩
  · simp [hget] at h
  · simp [hget] at h
  · rw [hget]

/-! ## The invariant -/

/-- The cache holds the templates of exactly these sources with their delimiters. -/
structure Remembers (c : TemplateCache) (keys : Finset (Text × Markers)) : Prop where
  parsed : ∀ {source m shared}, ((source, m), shared) ∈ c.entries → Template.parse source m = .ok shared.template
  nodup : (c.entries.map Prod.fst).Nodup
  keys_eq : (c.entries.map Prod.fst).toFinset = keys

namespace Remembers

lemma empty (h : c.entries = []) : c.Remembers ∅ := by
  refine ⟨?_, ?_, ?_⟩ <;> simp [h]

lemma size_eq (h : c.Remembers keys) : c.size = keys.card := by
  rw [← h.keys_eq, List.toFinset_card_of_nodup h.nodup, List.length_map, size]

/-- Whether a template is found or read, it is the one that a reading gives. -/
lemma get_eq_parse (h : c.Remembers keys) (source : Text) (m : Markers) :
    (c.get source m).1.map SharedTemplate.template = Template.parse source m := by
  rcases get_cases source m c with ⟨shared, hentry, hget⟩ | ⟨t, -, hparse, hget⟩ | ⟨e, hparse, hget⟩
  · rw [hget, h.parsed hentry]
    rfl
  · rw [hget, hparse]
    rfl
  · rw [hget, hparse]
    rfl

lemma insert_found (h : c.Remembers keys) {shared : SharedTemplate} (hentry : ((source, m), shared) ∈ c.entries) :
    insert (source, m) keys = keys := by
  rw [Finset.insert_eq_self, ← h.keys_eq, List.mem_toFinset]
  exact List.mem_map_of_mem hentry

/-- A new key with the template of its source. -/
lemma keep (h : c.Remembers keys) {shared : SharedTemplate} (hnew : (source, m) ∉ c.entries.map Prod.fst)
    (hparse : Template.parse source m = .ok shared.template) (reads : Nat) :
    Remembers ⟨c.entries ++ [((source, m), shared)], reads⟩ (insert (source, m) keys) where
  parsed hentry := by
    rcases List.mem_append.mp hentry with hold | hlast
    · exact h.parsed hold
    · cases List.mem_singleton.mp hlast
      exact hparse
  nodup := by
    rw [List.map_append, List.map_singleton, ← List.concat_eq_append]
    exact h.nodup.concat hnew
  keys_eq := by
    rw [List.map_append, List.toFinset_append, h.keys_eq, Finset.insert_eq, Finset.union_comm]
    rfl

/-- **A look-up preserves the invariant**, and adds its key if it succeeds. -/
lemma get (h : c.Remembers keys) (source : Text) (m : Markers) :
    (c.get source m).2.Remembers
      (if (Template.parse source m).isOk then insert (source, m) keys else keys) := by
  rcases get_cases source m c with ⟨shared, hentry, hget⟩ | ⟨t, hnew, hparse, hget⟩ | ⟨e, hparse, hget⟩
  · rw [hget, h.insert_found hentry, ite_self]
    exact h
  · rw [hget, if_pos (by simp [hparse, Except.isOk, Except.toBool])]
    exact h.keep hnew hparse _
  · rw [hget, if_neg (by simp [hparse, Except.isOk, Except.toBool])]
    exact h

end Remembers

/-- **After any calls, a cache holds what was found since it was emptied.** -/
lemma after_remembers (calls : List Call) : (after calls).Remembers (found calls) := by
  -- the last call decides what the cache holds, so the calls are peeled off from the end
  induction calls using List.reverseRecOn with
  | nil => exact .empty rfl
  | append_singleton calls call ih =>
      cases call with
      | lookUp source m => simpa [step] using ih.get source m
      | clear => simpa [step] using Remembers.empty rfl

/-! ## Transparency -/

/-- **The cache is transparent.**  After any calls a look-up answers what reading its source answers, a look-up that fails
leaves the cache as it is, and the size counts what was found since the cache was emptied. -/
theorem answers_as_uncached (calls : List Call) :
    (∀ source m, ((after calls).get source m).1.map SharedTemplate.template = Template.parse source m) ∧
      (∀ source m e, ((after calls).get source m).1 = .error e → ((after calls).get source m).2 = after calls) ∧
      (after calls).size = (found calls).card :=
  ⟨(after_remembers calls).get_eq_parse, fun _ _ _ => get_of_error, (after_remembers calls).size_eq⟩

/-- Before and after the cache is emptied: one source with two pairs of delimiters, an unknown code that another pair
does not see, and delimiters that are no delimiters. -/
theorem answers_as_uncached_refilled :
    let calls : List Call :=
      [.lookUp "lost", .lookUp "%N\x7b\x7b$\x7d\x7d", .clear, .lookUp "%N\x7b\x7b$\x7d\x7d",
        .lookUp "%N\x7b\x7b$\x7d\x7d" ⟨"%", "\x7b"⟩, .lookUp "%?%" ⟨"%", "%"⟩, .lookUp "lost" ⟨"", "%"⟩,
        .lookUp "%?%", .lookUp "%N\x7b\x7b$\x7d\x7d" ⟨"%", "\x7b"⟩]
    ((after calls).get "%N\x7b\x7b$\x7d\x7d" ⟨"%", "\x7b"⟩).1.map SharedTemplate.template =
        .ok ⟨[.marker ⟨.name, "%N\x7b", none, 0, 3⟩, .text "\x7b$\x7d\x7d"]⟩ ∧
      ((after calls).get "%?%" ⟨"%", "%"⟩).1 = .error (.unknownAction 0 3 "?") ∧
      ((after calls).get "%?%" ⟨"%", "%"⟩).2 = after calls ∧
      (after calls).size = 3 := by
  intro calls
  obtain ⟨hanswer, hfailed, hsize⟩ := answers_as_uncached calls
  have hparse : Template.parse "%?%" ⟨"%", "%"⟩ = .error (.unknownAction 0 3 "?") := by decide +kernel
  have hunknown : ((after calls).get "%?%" ⟨"%", "%"⟩).1 = .error (.unknownAction 0 3 "?") := by
    have hanswer := (hanswer "%?%" ⟨"%", "%"⟩).trans hparse
    cases hget : ((after calls).get "%?%" ⟨"%", "%"⟩).1 with
    | error e =>
        rw [hget] at hanswer
        cases hanswer
        rfl
    | ok shared =>
        rw [hget] at hanswer
        cases hanswer
  refine ⟨?_, hunknown, hfailed _ _ _ hunknown, ?_⟩
  · rw [hanswer]
    decide +kernel
  · rw [hsize]
    decide +kernel

end TemplateCache

end JavaSource
