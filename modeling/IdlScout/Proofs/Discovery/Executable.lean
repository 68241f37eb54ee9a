import IdlScout.Discovery.Executable
import IdlScout.Proofs.Files.Alike
import IdlScout.Proofs.Text.Firsts

/-! The folders that are searched for the executable: each is searched once, under the spelling that
comes first. -/

namespace IdlScout

/-- Among paths the first spellings are kept, and their components are all that there are, each
once. -/
theorem Path.map_components_distinct (paths : List Text) :
    (distinct paths).map components = (paths.map components).eraseDups :=
  -- Paths are the same when they have the same components.
  Text.map_firstsBy components paths

/-- Of the entries of a library path that are not empty, and the working directory behind them, the
folders to search are those that are not spelled like an earlier one but for padding, as they are
written. So no two of them are alike, and each entry is like one of them. Alike are the paths with
the same components. -/
theorem searchRoots_keeps_firsts (libraryPath workingFolder : Option Text) :
    let entries := (libraryPath.toList.flatMap fun value =>
      (value.splitOn ':').filter (· ≠ [])) ++ workingFolder.toList
    let roots := searchRoots libraryPath workingFolder
    roots = (entries.zipIdx.filter fun (entry : Text × Nat) =>
        ∀ earlier ∈ entries.take entry.2, ¬ Path.Alike earlier entry.1).map Prod.fst ∧
      roots.Pairwise (fun root other => ¬ Path.Alike root other) ∧
      (∀ entry ∈ entries, ∃ root ∈ roots, Path.Alike root entry) ∧
      ∀ a b, Path.Alike a b ↔ Path.components a = Path.components b := by
  intro entries roots
  have distinct : roots = Path.distinct entries := by
    cases libraryPath with
    | none => rfl
    | some value =>
      simp only [roots, entries, searchRoots, Text.cut_eq_splitOn, Option.toList_some,
        List.flatMap_singleton]
      congr 3
      funext entry
      cases entry <;> rfl
  have components := Path.map_components_distinct entries
  rw [← distinct] at components
  refine ⟨?_, ?_, fun entry listed => ?_, fun _ _ => Path.alike_iff⟩
  · rw [distinct, Path.distinct, Text.firstsBy_eq_filter_zipIdx]
    congr 1
    refine List.filter_congr fun entry _ => ?_
    rw [Bool.eq_iff_iff]
    simp [Path.alike_iff, Path.same]
  · -- The components of the roots are not there twice.
    have single : (roots.map Path.components).Nodup := components ▸ Text.nodup_eraseDups _
    rw [List.Nodup, List.pairwise_map] at single
    exact single.imp fun apart alike => apart (Path.alike_iff.mp alike)
  · have kept : Path.components entry ∈ roots.map Path.components := by
      rw [components, List.mem_eraseDups]
      exact List.mem_map_of_mem listed
    obtain ⟨root, inRoots, same⟩ := List.mem_map.mp kept
    exact ⟨root, inRoots, Path.alike_iff.mpr same⟩

example : searchRoots (some "/a/b:.//c::/a/./b/:c:./c/.".toList) (some "/a//b".toList) =
    ["/a/b".toList, ".//c".toList, "c".toList] := by decide

end IdlScout
