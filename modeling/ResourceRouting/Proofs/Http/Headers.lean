import ResourceRouting.Http.Headers

/-!
# The values of header fields

A name may have several values.  Inserting a value replaces those of its own name and leaves the
others as they are.
-/

namespace ResourceRouting
namespace Headers

/-- All values of a name, in order. -/
def values (headers : Headers) (name : Text) : List Text :=
  (headers.fields.filter (·.1 = Text.lowerAscii name)).map Prod.snd

/-- The first value of a name is the first one of its values. -/
theorem get?_eq_head?_values (headers : Headers) (name : Text) :
    headers.get? name = (headers.values name).head? := by
  obtain ⟨fields⟩ := headers
  simp only [get?, values]
  induction fields with
  | nil => rfl
  | cons field fields ih =>
      obtain ⟨key, value⟩ := field
      by_cases own : key = Text.lowerAscii name
      · simp [own]
      · simp [List.lookup_cons, beq_false_of_ne (Ne.symm own), own, ih]

/-- An inserted value is the only one of its name. -/
@[simp]
theorem values_insert (headers : Headers) (name value : Text) :
    (headers.insert name value).values name = [value] := by
  simp [values, insert, append, erase, List.filter_filter]

/-- An inserted value leaves those of other names as they are. -/
theorem values_insert_of_ne
    {name other : Text}
    (distinct : Text.lowerAscii other ≠ Text.lowerAscii name)
    (headers : Headers)
    (value : Text) :
    (headers.insert name value).values other = headers.values other := by
  have kept : ∀ field ∈ headers.fields,
      (decide (field.1 = Text.lowerAscii other) && decide (field.1 ≠ Text.lowerAscii name)) =
        decide (field.1 = Text.lowerAscii other) := by
    intro field _
    by_cases own : field.1 = Text.lowerAscii other
    · simp [own, distinct]
    · simp [own]
  simp only [values, insert, append, erase, List.filter_append, List.filter_filter,
    List.filter_congr kept]
  simp [Ne.symm distinct]

theorem get?_insert_of_ne
    {name other : Text}
    (distinct : Text.lowerAscii other ≠ Text.lowerAscii name)
    (headers : Headers)
    (value : Text) :
    (headers.insert name value).get? other = headers.get? other := by
  simp only [get?_eq_head?_values, values_insert_of_ne distinct]

/-- Of two values that are inserted under one name the second one stays. -/
theorem insert_insert (headers : Headers) (name first second : Text) :
    (headers.insert name first).insert name second = headers.insert name second := by
  simp [insert, append, erase, List.filter_filter]

/-- The fields with a value for a name that has none. -/
def supply (headers : Headers) (name value : Text) : Headers :=
  if headers.contains name then headers else headers.insert name value

/-- Values of other names do not change when one is supplied. -/
theorem values_supply_of_ne
    {name other : Text}
    (distinct : Text.lowerAscii other ≠ Text.lowerAscii name)
    (headers : Headers)
    (value : Text) :
    (headers.supply name value).values other = headers.values other := by
  unfold supply
  split
  · rfl
  · exact values_insert_of_ne distinct headers value

/-- A name that has values keeps them. -/
theorem values_supply_of_contains
    {headers : Headers}
    {name : Text}
    (present : headers.contains name = true)
    (value : Text) :
    (headers.supply name value).values name = headers.values name := by
  rw [supply, if_pos present]

/-- A name without values gets the one that is supplied. -/
theorem values_supply_of_not_contains
    {headers : Headers}
    {name : Text}
    (missing : headers.contains name = false)
    (value : Text) :
    (headers.supply name value).values name = [value] := by
  rw [supply, if_neg (by simp [missing]), values_insert]

/-- Whether a name has values depends on the values only. -/
theorem contains_congr
    {first second : Headers}
    {name : Text}
    (same : first.values name = second.values name) :
    first.contains name = second.contains name := by
  simp only [contains, get?_eq_head?_values, same]

end Headers
end ResourceRouting
