import JavaSource.Value.OfJson
import JavaSource.Proofs.Decimal.Integer

/-!
# Paths into JSON

A JSON value becomes a value of its own kind, and arrays and objects are known by what their accessors answer.  This
file shows that a path into the value finds what the same path finds in the JSON.

**Plain look-up** knows nothing of accessors: an object holds the value of a field under its key, an array holds an item
under the decimal form of its index (`Holds`), and a list of segments leads from one to the next (`Leads`).

**Why they agree.**  The accessor of an object asks its fields first, so no member that every object has can hide a
field; and the members of an array are no numbers.  There is one exception, which is made before any accessor is asked:
the class of a value is answered under `class` and `getClass`.  **A field under one of these two keys cannot be
reached** (`class_field_hidden`).
-/

namespace JavaSource.Json

/-! ## Plain look-up -/

/-- The JSON value holds another one under a segment of a path.  Positions in an array are machine words. -/
inductive Holds : Json → Text → Json → Prop
  | field {fields : List (Text × Json)} {key : Text} {j : Json} (found : fields.lookup key = some j) :
      Holds (.object fields) key j
  | item {items : List Json} {i : UInt64} {j : Json} (found : items[i.toNat]? = some j) :
      Holds (.array items) (Decimal.ofNat i.toNat) j

/-- The segments of a path lead from the JSON value to another one. -/
inductive Leads : Json → List Text → Json → Prop
  | nil (j : Json) : Leads j [] j
  | cons {j k m : Json} {segment : Text} {rest : List Text} (here : Holds j segment k) (further : Leads k rest m) :
      Leads j (segment :: rest) m

/-- The members under which every value answers its class. -/
def classKeys : List Text := ["class", "getClass"]

/-! ## Values -/

variable {j k : Json}

lemma toValues_eq_map : ∀ items : List Json, toValues items = items.map toValue
  | [] => rfl
  | j :: rest => by rw [toValues, toValues_eq_map rest, List.map_cons]

lemma lookup_fieldValues (key : Text) : ∀ fields : List (Text × Json),
    (fieldValues fields).lookup key = (fields.lookup key).map toValue
  | [] => rfl
  | (k, j) :: rest => by
      rw [fieldValues, List.lookup_cons, List.lookup_cons]
      cases key == k with
      | true => rfl
      | false => exact lookup_fieldValues key rest

/-- Asked for anything but its class, an object or an array answers what its accessor does. -/
lemma access_object {c : ClassRef} {accessor : Text → Option Value} {member : Text} (h : member ∉ classKeys) :
    (Value.object c accessor).access member = accessor member := by
  simp only [classKeys, List.mem_cons, List.not_mem_nil, or_false] at h
  rw [Value.access, if_neg h, Value.ownMember]

/-- **One segment.** -/
lemma Holds.step {segment : Text} (h : j.Holds segment k) (hclass : segment ∉ classKeys) :
    (toValue j).step segment = some (toValue k) := by
  have haccess : (toValue j).access segment = some (toValue k) := by
    cases h with
    | @field fields key j found =>
        rw [toValue, access_object hclass, mapAccessor, lookup_fieldValues, found]
        rfl
    | @item items i j found =>
        have hsize : ¬ (Decimal.ofNat i.toNat = "size" ∨ Decimal.ofNat i.toNat = "length") :=
          not_or.mpr ⟨Decimal.ofNat_ne (by decide), Decimal.ofNat_ne (by decide)⟩
        have hword : i.toNat ≤ Decimal.maxWord := Nat.le_of_lt_succ i.toNat_lt
        rw [toValue, access_object hclass, listAccessor, if_neg hsize, if_neg (Decimal.ofNat_ne (by decide)),
          Decimal.readWord?_ofNat hword, Option.bind_some, toValues_eq_map, List.getElem?_map, found, Option.map_some]
  rw [Value.step, haccess]

/-- **A path.**  What is left of it goes on from the value of what the segments lead to. -/
lemma Leads.walkAlong {segments : List Text} (h : j.Leads segments k) (hclass : ∀ s ∈ segments, s ∉ classKeys)
    (path : Text) (rest : List Text) :
    Value.walkAlong path (segments ++ rest) (toValue j) = Value.walkAlong path rest (toValue k) := by
  induction h with
  | nil j => rfl
  | cons here further ih =>
      obtain ⟨hfirst, hfurther⟩ := List.forall_mem_cons.mp hclass
      rw [List.cons_append, Value.walkAlong, here.step hfirst]
      exact ih hfurther

lemma walk_join {v : Value} {segments : List Text} (hne : segments ≠ []) (hdots : ∀ s ∈ segments, '.' ∉ s) :
    v.walk (Text.join "." segments) = Value.walkAlong (Text.join "." segments) segments v := by
  have hsplit : (Text.join "." segments).splitOn '.' = segments := List.splitOn_intercalate '.' hdots hne
  rw [Value.walk, hsplit]

/-- **Every field is reachable by its path**, unless a key on the way is one under which values answer their class.  Under
such a key an object answers its class, whatever fields it has. -/
theorem fields_reachable_by_path (j k : Json) (segments : List Text) (hdots : ∀ s ∈ segments, '.' ∉ s)
    (hclass : ∀ s ∈ segments, s ∉ classKeys) (h : j.Leads segments k) :
    (segments ≠ [] → (toValue j).walk (Text.join "." segments) = .ok (toValue k)) ∧
      ∀ fields, k = .object fields → ∀ key ∈ classKeys,
        (toValue j).walk (Text.join "." (segments ++ [key])) = .ok (.classRef mapClass) := by
  constructor
  · intro hne
    have hwalk := h.walkAlong hclass (Text.join "." segments) []
    rw [List.append_nil] at hwalk
    rw [walk_join hne hdots, hwalk, Value.walkAlong]
  · rintro fields rfl key hkey
    have hkeyDots : ∀ key ∈ classKeys, '.' ∉ key := by decide
    have hall : ∀ s ∈ segments ++ [key], '.' ∉ s :=
      List.forall_mem_append.mpr ⟨hdots, List.forall_mem_singleton.mpr (hkeyDots key hkey)⟩
    have hanswer : (toValue (.object fields)).step key = some (.classRef mapClass) := by
      have hmember : key = "class" ∨ key = "getClass" := by simpa [classKeys] using hkey
      rw [toValue, Value.step, Value.access, if_pos hmember]
      rfl
    rw [walk_join (by simp) hall, h.walkAlong hclass, Value.walkAlong, hanswer]
    rfl

/-- A field that is named like a member of every object is reached, and its neighbour under `class` is not. -/
theorem fields_reachable_by_path_size :
    let part : List (Text × Json) := [("class", .bool true), ("size", .int 3)]
    let j : Json := .object [("owner", .object [("tags", .array [.string "x", .object part])])]
    let front : List Text := ["owner", "tags", "1"]
    j.Leads front (.object part) ∧ j.Leads (front ++ [String.toList "size"]) (.int 3) ∧
      (toValue j).walk "owner.tags.1.size" = .ok (.int 3) ∧
      (toValue j).walk "owner.tags.1.class" = .ok (.classRef mapClass) := by
  intro part j front
  have hpart : j.Leads front (.object part) :=
    .cons (.field rfl) (.cons (.field rfl) (.cons (.item (i := 1) rfl) (.nil _)))
  have hsize : j.Leads (front ++ [String.toList "size"]) (.int 3) :=
    .cons (.field rfl) (.cons (.field rfl) (.cons (.item (i := 1) rfl) (.cons (.field rfl) (.nil _))))
  refine ⟨hpart, hsize, ?_, ?_⟩
  · exact (fields_reachable_by_path j _ _ (by decide) (by decide) hsize).1 (by decide)
  · exact (fields_reachable_by_path j _ _ (by decide) (by decide) hpart).2 part rfl "class" (by decide)

/-- **Not every field is reachable**: one under the key `class` is hidden by the class of the object. -/
theorem class_field_hidden :
    ¬ ∀ (j k : Json) (segments : List Text), segments ≠ [] → (∀ s ∈ segments, s ≠ [] ∧ '.' ∉ s) →
      j.Leads segments k → (toValue j).walk (Text.join "." segments) = .ok (toValue k) := by
  intro hreachable
  have hleads : Leads (.object [("class", .int 1)]) ["class"] (.int 1) := .cons (.field rfl) (.nil _)
  have hwalk := hreachable _ _ _ (by decide) (by decide) hleads
  have hclass : (toValue (.object [("class", .int 1)])).walk "class" = .ok (.classRef mapClass) := rfl
  have hboth : Value.classRef mapClass = toValue (.int 1) := Except.ok.inj (hclass.symm.trans hwalk)
  cases hboth

end JavaSource.Json
