import IdlScout.Text.NameMap

/-! A map of names holds the last value given to each of them, in the order of the names. -/

namespace IdlScout
namespace Text

/-- The order of texts is the lexical one. -/
theorem order_eq_lt_iff {a b : Text} : order a b = .lt ↔ a < b := by
  induction a generalizing b with
  | nil => cases b <;> simp [order]
  | cons c rest ih =>
    cases b with
    | nil => simp [order]
    | cons d more =>
      rw [order, List.cons_lt_cons_iff]
      -- The first characters that differ decide.
      by_cases same : c = d
      · subst same
        simp [ih]
      · rw [if_neg same]
        split
        · rename_i less
          exact ⟨fun _ => .inl less, fun _ => rfl⟩
        · rename_i notLess
          simp [same, show ¬ c < d from notLess]

/-- Only equal texts stand at one place of the order. -/
theorem order_eq_eq_iff {a b : Text} : order a b = .eq ↔ a = b := by
  induction a generalizing b with
  | nil => cases b <;> simp [order]
  | cons c rest ih =>
    cases b with
    | nil => simp [order]
    | cons d more =>
      rw [order]
      -- Texts that differ in a character are not equal, whichever is the greater.
      by_cases same : c = d
      · simp [same, ih]
      · rw [if_neg same]
        split <;> simp [same]

/-- A text that stands after another is greater. -/
theorem lt_of_order_eq_gt {a b : Text} (after : order a b = .gt) : b < a := by
  have notBefore : ¬ a < b := fun less => by simp [order_eq_lt_iff.mpr less] at after
  have different : a ≠ b := fun same => by simp [order_eq_eq_iff.mpr same] at after
  exact (List.le_iff_lt_or_eq.mp (List.not_lt.mp notBefore)).resolve_right (Ne.symm different)

end Text

namespace NameMap

variable {α : Type} {map : NameMap α}

/-- Each name stands once, and before all greater names. -/
def IsOrdered (map : NameMap α) : Prop :=
  map.names.Pairwise (· < ·)

/-- The first entry answers for its name alone. -/
theorem lookup_cons (name first : Text) (value : α) (rest : NameMap α) :
    List.lookup name ((first, value) :: rest) =
      if name = first then some value else List.lookup name rest := by
  by_cases same : name = first
  · simp [same]
  · have apart : (name == first) = false := by simpa using same
    rw [List.lookup_cons, apart, if_neg same]

/-- A name is looked up where it was put last, and all others as before. -/
theorem lookup_insert (name other : Text) (value : α) (map : NameMap α) :
    List.lookup other (insert name value map) =
      if other = name then some value else List.lookup other map := by
  induction map with
  | nil => rw [insert, lookup_cons]
  | cons entry rest ih =>
    obtain ⟨first, kept⟩ := entry
    -- The new entry is before the first, in its place or behind it.
    cases place : Text.order name first with
    | lt => simp only [insert, place, lookup_cons]
    | eq =>
      obtain rfl := Text.order_eq_eq_iff.mp place
      simp only [insert, place, lookup_cons]
      split <;> rfl
    | gt =>
      simp only [insert, place, lookup_cons, ih]
      -- The entry passed over has another name than the new one.
      by_cases here : other = first
      · have different : other ≠ name := fun same => by
          have greater := Text.lt_of_order_eq_gt place
          rw [← here, same] at greater
          exact List.lt_irrefl _ greater
        rw [if_pos here, if_neg different, if_pos here]
      · rw [if_neg here, if_neg here]

/-- A new name joins the names. -/
theorem mem_names_insert {name other : Text} {value : α} :
    other ∈ (insert name value map).names ↔ other = name ∨ other ∈ map.names := by
  induction map with
  | nil => simp [insert, names]
  | cons entry rest ih =>
    obtain ⟨first, kept⟩ := entry
    -- Only an entry with the same name is replaced, and its name stays.
    cases place : Text.order name first with
    | lt => simp [insert, place, names]
    | eq =>
      obtain rfl := Text.order_eq_eq_iff.mp place
      simp [insert, place, names]
    | gt =>
      simp only [names] at ih ⊢
      simp only [insert, place, List.map_cons, List.mem_cons, ih]
      exact or_left_comm

/-- A name takes its place in the order. -/
theorem IsOrdered.insert (ordered : map.IsOrdered) (name : Text) (value : α) :
    (NameMap.insert name value map).IsOrdered := by
  induction map with
  | nil => simp [NameMap.insert, IsOrdered, names]
  | cons entry rest ih =>
    obtain ⟨first, kept⟩ := entry
    have parts := List.pairwise_cons.mp ordered
    cases place : Text.order name first with
    | lt =>
      -- The new name is less than the first, and so than all.
      have less := Text.order_eq_lt_iff.mp place
      simp only [NameMap.insert, place, IsOrdered, names, List.map_cons]
      refine List.pairwise_cons.mpr ⟨fun other member => ?_, ordered⟩
      rcases List.mem_cons.mp member with rfl | later
      · exact less
      · exact List.lt_trans less (parts.1 other later)
    | eq =>
      obtain rfl := Text.order_eq_eq_iff.mp place
      simpa only [NameMap.insert, place, IsOrdered, names, List.map_cons] using ordered
    | gt =>
      have greater := Text.lt_of_order_eq_gt place
      simp only [NameMap.insert, place]
      -- The first is less than the names behind it and than the new one.
      refine List.pairwise_cons.mpr ⟨fun other member => ?_, ih parts.2⟩
      rcases mem_names_insert.mp member with rfl | later
      · exact greater
      · exact parts.1 other later

/-- What stands in an ordered map under a name is found under it. -/
theorem IsOrdered.lookup_of_mem (ordered : map.IsOrdered) {name : Text} {value : α}
    (member : (name, value) ∈ map) : List.lookup name map = some value := by
  induction map with
  | nil => cases member
  | cons entry rest ih =>
    have parts := List.pairwise_cons.mp ordered
    rcases List.mem_cons.mp member with rfl | later
    · rw [lookup_cons, if_pos rfl]
    · -- A later name is greater than the first.
      obtain ⟨first, kept⟩ := entry
      have less : first < name := parts.1 name (List.mem_map_of_mem later)
      have different : name ≠ first := fun same => List.lt_irrefl _ (same ▸ less)
      rw [lookup_cons, if_neg different]
      exact ih parts.2 later

/-- What is found under a name stands in the map. -/
theorem mem_of_lookup {name : Text} {value : α} (found : List.lookup name map = some value) :
    (name, value) ∈ map := by
  obtain ⟨before, after, rfl, -⟩ := List.lookup_eq_some_iff.mp found
  simp

/-- Of two entries of an ordered map the first has the lesser name. -/
theorem IsOrdered.pairwise (ordered : map.IsOrdered) :
    map.Pairwise fun first later => first.1 < later.1 :=
  List.pairwise_map.mp ordered

/-- Ordered maps that give each name the same value are the same. -/
theorem IsOrdered.ext {other : NameMap α} (ordered : map.IsOrdered) (ordered' : other.IsOrdered)
    (same : ∀ name, List.lookup name map = List.lookup name other) : map = other := by
  -- Entries in order are different ones.
  have single {entries : NameMap α} (ordered : entries.IsOrdered) : entries.Nodup :=
    ordered.pairwise.imp fun {first later} less alike => by
      rw [alike] at less
      exact List.lt_irrefl _ less
  have members (entry : Text × α) : entry ∈ map ↔ entry ∈ other := by
    refine ⟨fun member => ?_, fun member => ?_⟩
    · have found := ordered.lookup_of_mem member
      rw [same] at found
      exact mem_of_lookup found
    · have found := ordered'.lookup_of_mem member
      rw [← same] at found
      exact mem_of_lookup found
  have permuted := (List.perm_ext_iff_of_nodup (single ordered) (single ordered')).mpr members
  -- The same entries have one order only.
  refine permuted.eq_of_pairwise (fun first later _ _ less more => ?_) ordered.pairwise
    ordered'.pairwise
  exact absurd (List.lt_trans less more) (List.lt_irrefl _)

end NameMap
end IdlScout
