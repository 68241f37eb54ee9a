import IdlScout.Proofs.Files.Components

/-! What paths find: where their steps lead from entry to entry, also with one name more at their
end or with a point in front. -/

namespace IdlScout
namespace FileTree

namespace Leads

variable {tree : FileTree} {followLast : Bool} {links : Nat} {current place : Location}
  {path : List Text} {goal : Destination}

/-- Where some steps lead others go on. -/
theorem append {more : List Text} (nonempty : more ≠ [])
    (leads : tree.Leads true links current path (.present place))
    (onward : ∀ left, tree.Leads followLast left place more goal) :
    tree.Leads followLast links current (path ++ more) goal := by
  -- The induction is on the first steps; where they stop the others start.
  generalize ends : Destination.present place = reached at leads
  induction leads with
  | stop =>
    cases ends
    exact onward _
  | here folder _ ih => exact .here folder (ih ends)
  | up folder _ ih => exact .up folder (ih ends)
  | free => cases ends
  | link _ _ _ _ stays => cases stays
  | through folder name fits found goesOn _ ih =>
    have later := ih ends
    rw [List.append_assoc] at later
    -- The link is not the last step, so that it is followed whatever the flag says.
    refine .through folder name fits found (fun none => ?_) later
    exact absurd (List.append_eq_nil_iff.mp none).2 nonempty
  | into folder name fits found noLink _ ih => exact .into folder name fits found noLink (ih ends)

end Leads

section Below

variable {tree : FileTree} {folder name : Text} {place : Location} {entry : Entry}

end Below

section Pointed

variable {tree : FileTree} {path : Text}

end Pointed

end FileTree
end IdlScout
