import IdlScout.Proofs.Files.Growth

/-! A file that is set aside until something is written to it: what is written elsewhere before
leaves it as it was. -/

namespace IdlScout
namespace FileTree

/-- A tree grows, and of the files only those that some paths lead to are written. -/
def GrowsAt (paths : List Text) (before after : FileTree) : Prop :=
  ∃ written, Grows [] written before after ∧
    ∀ place ∈ written, ∃ path ∈ paths, after.locate true path = .ok (.present place)

namespace GrowsAt

variable {paths : List Text} {before middle after : FileTree}

/-- Folders may be made anywhere. -/
theorem of_grows (grows : Grows [] [] before after) : GrowsAt paths before after :=
  ⟨[], grows, by simp⟩

theorem refl (paths : List Text) (tree : FileTree) : GrowsAt paths tree tree :=
  of_grows (.refl _ _ _)

/-- A file that one of the paths leads to may be written. -/
theorem of_written {place : Location} {path : Text} (grows : Grows [] [place] before after)
    (listed : path ∈ paths) (leads : after.locate true path = .ok (.present place)) :
    GrowsAt paths before after := by
  refine ⟨[place], grows, fun other member => ⟨path, listed, ?_⟩⟩
  rw [List.mem_singleton.mp member]
  exact leads

theorem trans (first : GrowsAt paths before middle) (second : GrowsAt paths middle after) :
    GrowsAt paths before after := by
  obtain ⟨written, grows, led⟩ := first
  obtain ⟨more, growsOn, ledOn⟩ := second
  -- A path that led to a file in the middle still leads there at the end.
  refine ⟨written ++ more, grows.trans growsOn, fun place member => ?_⟩
  rcases List.mem_append.mp member with earlier | later
  · obtain ⟨path, listed, leads⟩ := led place earlier
    exact ⟨path, listed, growsOn.locate leads⟩
  · exact ledOn place later

/-- What a path leads to it leads to still. -/
theorem locate (grows : GrowsAt paths before after) {path : Text} {place : Location}
    (leads : before.locate true path = .ok (.present place)) :
    after.locate true path = .ok (.present place) :=
  grows.choose_spec.1.locate leads

theorem home (grows : GrowsAt paths before after) : after.home = before.home :=
  grows.choose_spec.1.home

end GrowsAt

/-- Others may change files, but what a path and some others lead to they lead to still, and what
the first one leads to stays as it is. -/
structure Avoids (path : Text) (paths : List Text) (before after : FileTree) : Prop where
  leads : ∀ other ∈ path :: paths, ∀ place, before.locate true other = .ok (.present place) →
    after.locate true other = .ok (.present place)
  same : ∀ place, before.locate true path = .ok (.present place) →
    after.entry? place = before.entry? place

/-- Files that stay as they are avoid every path. -/
theorem Avoids.refl (path : Text) (paths : List Text) (tree : FileTree) :
    Avoids path paths tree tree :=
  ⟨fun _ _ _ leads => leads, fun _ _ => rfl⟩

/-- A path leads to a file that is set aside with some content, unless what is written there is lost
or one of some other paths leads there too. -/
structure SetsAside (path : Text) (paths : List Text) (place : Location) (kept : Bytes)
    (tree : FileTree) : Prop where
  leads : tree.locate true path = .ok (.present place)
  content : tree.entry? place = some .void ∨
    (∃ other ∈ paths, tree.locate true other = .ok (.present place)) ∨
    ∃ executable, tree.entry? place = some (.file kept executable)

namespace SetsAside

variable {path : Text} {paths : List Text} {place : Location} {kept : Bytes}
  {before after : FileTree}

/-- What is written where the other paths lead leaves the file alone. -/
theorem grows (aside : before.SetsAside path paths place kept)
    (grows : GrowsAt paths before after) :
    after.SetsAside path paths place kept := by
  refine ⟨grows.locate aside.leads, ?_⟩
  rcases aside.content with lost | ⟨other, listed, leads⟩ | ⟨executable, found⟩
  · exact .inl (grows.choose_spec.1.kept (fun _ _ => by simp) lost)
  · exact .inr (.inl ⟨other, listed, grows.locate leads⟩)
  · obtain ⟨written, grows, led⟩ := grows
    -- If the file itself was written, then one of the paths leads to it.
    by_cases isWritten : place ∈ written
    · exact .inr (.inl (led place isWritten))
    · exact .inr (.inr ⟨executable, grows.unwritten isWritten found⟩)

/-- So do others. -/
theorem avoids (aside : before.SetsAside path paths place kept)
    (avoids : Avoids path paths before after) : after.SetsAside path paths place kept := by
  have same := avoids.same place aside.leads
  refine ⟨avoids.leads path List.mem_cons_self place aside.leads, ?_⟩
  rcases aside.content with lost | ⟨other, listed, leads⟩ | ⟨executable, found⟩
  · exact .inl (same.trans lost)
  · exact .inr (.inl ⟨other, listed, avoids.leads other (.tail _ listed) place leads⟩)
  · exact .inr (.inr ⟨executable, same.trans found⟩)

/-- What is written to the file itself follows what was kept of it. -/
theorem write {append : Bool} {bytes : Bytes} (aside : before.SetsAside path paths place kept)
    (nonempty : bytes ≠ []) (fresh : kept = [] ∨ append = true) :
    (before.write ⟨place, 0, append⟩ bytes).2.SetsAside path paths place (kept ++ bytes) := by
  have grows := (write_grows before ⟨place, 0, append⟩ bytes).1
  refine ⟨grows.locate aside.leads, ?_⟩
  -- Where the content is not vouched for, writing changes nothing about that.
  rcases aside.content with lost | ⟨other, listed, leads⟩ | ⟨executable, found⟩
  · exact .inl (grows.kept (fun _ _ => by simp) lost)
  · exact .inr (.inl ⟨other, listed, grows.locate leads⟩)
  · have inner : place ≠ [] := by
      rintro rfl
      cases found
    -- Without append the bytes go to the start, but then nothing was kept.
    have whole : overwrite kept (if append then kept.length else 0) bytes = kept ++ bytes := by
      rcases fresh with rfl | rfl <;> simp [overwrite]
    refine .inr (.inr ⟨executable, ?_⟩)
    simp only [FileTree.write, found, List.isEmpty_iff, nonempty, if_false, whole]
    rw [entry_put before inner, if_pos rfl]

/-- A file that was set aside holds its content, if nothing is lost and no other path leads
there. -/
theorem read (aside : before.SetsAside path paths place kept)
    (lossless : ∀ place, before.find path ≠ .ok (place, .void))
    (apart : ∀ other ∈ paths, before.locate true other ≠ before.locate true path) :
    before.read path = .ok kept := by
  have found {entry : Entry} (stands : before.entry? place = some entry) :
      before.find path = .ok (place, entry) := by
    simp [find, aside.leads, Bind.bind, Except.bind, arrive, stands]
  rcases aside.content with lost | ⟨other, listed, shared⟩ | ⟨executable, stands⟩
  · exact absurd (found lost) (lossless place)
  · exact absurd (shared.trans aside.leads.symm) (apart other listed)
  · simp [FileTree.read, found stands, Bind.bind, Except.bind, pure, Except.pure]

end SetsAside
end FileTree
end IdlScout
