/-!
# One value per frequency

A `FreqTable` remembers a value for each frequency it was told of, the latest one. `get?_insert` says
what a table answers after an insertion.
-/

namespace ChannelSurvey

/-- At most one value for each frequency. -/
structure FreqTable (α : Type) where
  entries : List (UInt32 × α) := []

namespace FreqTable

variable {α : Type}

def get? (t : FreqTable α) (freq : UInt32) : Option α :=
  t.entries.lookup freq

/-- The table with the value of one frequency replaced. -/
def insert (t : FreqTable α) (freq : UInt32) (value : α) : FreqTable α :=
  ⟨(freq, value) :: t.entries.filter (·.1 != freq)⟩

/-- Removing the entries of one frequency leaves the others alone. -/
theorem lookup_filter_of_ne {entries : List (UInt32 × α)} {freq other : UInt32} (h : other ≠ freq) :
    (entries.filter (·.1 != freq)).lookup other = entries.lookup other := by
  induction entries with
  | nil => rfl
  | cons e rest ih =>
    obtain ⟨key, value⟩ := e
    by_cases hkey : key = freq
    · have hne : (other == key) = false := beq_eq_false_iff_ne.mpr (hkey ▸ h)
      have hdrop : (key != freq) = false := by rw [hkey, bne_self_eq_false]
      simp only [List.filter_cons, hdrop, Bool.false_eq_true, ↓reduceIte, ih]
      rw [List.lookup_cons, hne]
    · have hkeep : (key != freq) = true := bne_iff_ne.mpr hkey
      simp only [List.filter_cons, hkeep, ↓reduceIte]
      rw [List.lookup_cons, List.lookup_cons, ih]

/-- A table answers with what was inserted last. -/
theorem get?_insert (t : FreqTable α) (freq other : UInt32) (value : α) :
    (t.insert freq value).get? other = if other = freq then some value else t.get? other := by
  by_cases h : other = freq
  · simp only [get?, insert, h, List.lookup_cons, beq_self_eq_true, ↓reduceIte]
  · have hne : (other == freq) = false := beq_eq_false_iff_ne.mpr h
    simp only [get?, insert, List.lookup_cons, hne, lookup_filter_of_ne h, h, ↓reduceIte]

end FreqTable

end ChannelSurvey
