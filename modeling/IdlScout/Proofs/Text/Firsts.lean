import IdlScout.Text.Basic
import Mathlib.Data.List.Induction
import Mathlib.Data.List.Nodup

/-! The first of each group of equal elements: what is kept, and when that is everything. -/

namespace IdlScout
namespace Text

variable {α β : Type}

/-- The first ones are some of the elements, in order. -/
theorem firstsBy_sublist (same : α → α → Bool) (all : List α) :
    (firstsBy same all).Sublist all := by
  induction all with
  | nil => exact List.Sublist.slnil
  | cons first rest ih => exact (List.filter_sublist.trans ih).cons_cons first

/-- Everything is kept exactly if no element is equal to an earlier one. -/
theorem firstsBy_eq_self_iff {same : α → α → Bool} {all : List α} :
    firstsBy same all = all ↔ all.Pairwise fun a b => same a b = false := by
  induction all with
  | nil => simp [firstsBy]
  | cons first rest ih =>
    rw [firstsBy, List.cons.injEq, List.pairwise_cons, ← ih]
    refine ⟨fun ⟨_, kept⟩ => ?_, fun ⟨apart, kept⟩ => ⟨rfl, ?_⟩⟩
    · -- What is left after two selections is everything, so each of them keeps all.
      have whole : firstsBy same rest = rest := by
        refine (firstsBy_sublist same rest).eq_of_length_le ?_
        have fewer := List.length_filter_le (fun y => !same first y) (firstsBy same rest)
        rwa [kept] at fewer
      rw [whole, List.filter_eq_self] at kept
      exact ⟨fun other listed => by simpa using kept other listed, whole⟩
    · rw [kept, List.filter_eq_self]
      exact fun other listed => by simp [apart other listed]

/-- Behind others the first ones are kept that are not equal to one of those. -/
theorem firstsBy_append (same : α → α → Bool) (before after : List α) :
    firstsBy same (before ++ after) =
      firstsBy same before ++ (firstsBy same after).filter fun x => before.all (!same · x) := by
  induction before with
  | nil => simp [firstsBy]
  | cons first rest ih =>
    rw [List.cons_append, firstsBy, ih, List.filter_append, List.filter_filter, firstsBy,
      List.cons_append]
    simp only [List.all_cons]

/-- An element is kept exactly if it is not equal to any before it. -/
theorem firstsBy_eq_filter_zipIdx (same : α → α → Bool) (all : List α) :
    firstsBy same all =
      (all.zipIdx.filter fun entry => (all.take entry.2).all (!same · entry.1)).map Prod.fst := by
  induction all using List.reverseRecOn with
  | nil => rfl
  | append_singleton front last ih =>
    -- What is before the others is so whatever comes last.
    have earlier : front.zipIdx.filter
          (fun entry => ((front ++ [last]).take entry.2).all (!same · entry.1)) =
        front.zipIdx.filter fun entry => (front.take entry.2).all (!same · entry.1) := by
      refine List.filter_congr fun entry listed => ?_
      have within : entry.2 ≤ front.length := by
        have bound := (List.mem_zipIdx listed).2.1
        omega
      rw [List.take_append_of_le_length within]
    rw [firstsBy_append, List.zipIdx_append, List.filter_append, earlier, List.map_append, ← ih]
    cases apart : front.all (!same · last) <;> simp [firstsBy, apart]

/-- The first elements among images are the images of the first elements whose images count. -/
theorem firstsBy_map (same : β → β → Bool) (image : α → β) (all : List α) :
    firstsBy same (all.map image) =
      (firstsBy (fun a b => same (image a) (image b)) all).map image := by
  induction all with
  | nil => rfl
  | cons first rest ih =>
    -- What is left out behind the first image is what is left out behind the first element.
    rw [List.map_cons, firstsBy, ih, List.filter_map, firstsBy, List.map_cons]
    rfl

variable [BEq β] [LawfulBEq β]

/-- Where elements with one key count as equal, duplicates are erased among selected elements as
among all, as long as a selection takes either all elements with a key or none. -/
theorem eraseDupsBy_filter (key : α → β) {keep : α → Bool}
    (together : ∀ a b, key a = key b → keep a = keep b) (all : List α) :
    (all.filter keep).eraseDupsBy (fun a b => key a == key b) =
      (all.eraseDupsBy fun a b => key a == key b).filter keep := by
  -- Erasing goes on with a shorter list, which is not the rest of this one.
  induction size : all.length using Nat.strongRecOn generalizing all with
  | ind bound ih =>
    cases all with
    | nil => rfl
    | cons first rest =>
      let other := fun later => decide ((key later == key first) = false)
      have shorter : (rest.filter other).length < bound := by
        have fewer := List.length_filter_le other rest
        rw [← size, List.length_cons]
        omega
      have later := ih _ shorter (rest.filter other) rfl
      rw [List.eraseDupsBy_cons]
      cases kept : keep first with
      | true =>
        rw [List.filter_cons_of_pos kept, List.filter_cons_of_pos kept, List.eraseDupsBy_cons,
          List.filter_comm, later]
      | false =>
        -- The first element is left out in any case, and so is every other one with its key.
        have apart : (rest.filter other).filter keep = rest.filter keep := by
          rw [List.filter_filter]
          refine List.filter_congr fun later _ => ?_
          by_cases same : key later = key first
          · simp [together later first same, kept]
          · simp [other, same]
        rw [List.filter_cons_of_neg (by simp [kept]), List.filter_cons_of_neg (by simp [kept]),
          ← later, apart]

/-- Duplicates are erased among selected elements as among all. -/
theorem eraseDups_filter (keep : β → Bool) (all : List β) :
    (all.filter keep).eraseDups = all.eraseDups.filter keep :=
  -- Each element is its own key.
  eraseDupsBy_filter id (fun _ _ same => congrArg keep same) all

/-- The first elements of each key are what is left when later ones with their keys are erased. -/
theorem firstsBy_eq_eraseDupsBy (key : α → β) (all : List α) :
    firstsBy (fun a b => key a == key b) all = all.eraseDupsBy fun a b => key a == key b := by
  induction all with
  | nil => rfl
  | cons first rest ih =>
    -- Whether the others are erased before or after the rest is gone over makes no difference.
    rw [firstsBy, ih, List.eraseDupsBy_cons, eraseDupsBy_filter key]
    · congr 1
      refine List.filter_congr fun other _ => ?_
      simp [BEq.comm]
    · intro a b same
      rw [same]

/-- The keys of the first elements of each key are all keys without duplicates. -/
theorem map_firstsBy (key : α → β) (all : List α) :
    (firstsBy (fun a b => key a == key b) all).map key = (all.map key).eraseDups := by
  induction all with
  | nil => rfl
  | cons first rest ih =>
    rw [firstsBy, List.map_cons, List.map_cons, List.eraseDups_cons, eraseDups_filter, ← ih,
      List.filter_map]
    congr 2
    refine List.filter_congr fun other _ => ?_
    simp [BEq.comm]

/-- Without duplicates nothing is there twice. -/
theorem nodup_eraseDups (all : List β) : all.eraseDups.Nodup := by
  induction all with
  | nil => exact List.nodup_nil
  | cons first rest ih =>
    rw [List.eraseDups_cons, eraseDups_filter]
    exact List.nodup_cons.mpr ⟨by simp, ih.filter _⟩

/-- Where nothing is there twice, no duplicate is erased. -/
theorem eraseDups_of_nodup {all : List β} (single : all.Nodup) : all.eraseDups = all := by
  induction all with
  | nil => rfl
  | cons first rest ih =>
    obtain ⟨absent, others⟩ := List.nodup_cons.mp single
    rw [List.eraseDups_cons, eraseDups_filter, ih others, List.filter_eq_self.mpr]
    rintro other listed
    have apart : other ≠ first := by
      rintro rfl
      exact absent listed
    simpa using apart

end Text
end IdlScout
