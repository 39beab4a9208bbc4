import TokenAudit.Project.Layout
import TokenAudit.Proofs.Files.Components
import TokenAudit.Proofs.Files.PathOrder

/-!
# The path of a project's run store

A configuration keeps the path of the run store as it is seen from the root. Steps are compared for
that and not texts, but a root is always the beginning of the paths below it, however it is written.
So the path that is kept does not depend on the root, and seen from the root it leads to where the
run store is.

## Main results

* `ProjectLayout.relativeStorePath_eq`: the path that a configuration keeps.
* `ProjectLayout.resolve_relativeStorePath`: seen from the root it is the path of the run store.
-/

namespace TokenAudit

namespace Path

theorem dropBeginning?_append (beginning steps : List Component) :
    dropBeginning? beginning (beginning ++ steps) = some steps := by
  induction beginning with
  | nil => cases steps <;> rfl
  | cons step beginning ih => rw [List.cons_append, dropBeginning?, if_pos BEq.rfl, ih]

/-- A separator comes after a path that is not empty and does not end with one. -/
theorem join_of_getLast? {base path : Path} {c : Char} (hpath : path.isAbsolute = false)
    (hlast : base.text.toList.getLast? = some c) (hc : c ≠ '/') :
    base.join path = ⟨base.text ++ "/" ++ path.text⟩ := by
  have hempty : base.text.isEmpty = false := by
    rw [Bool.eq_false_iff, ne_eq, String.isEmpty_iff]
    intro hnil
    simp [hnil] at hlast
  rw [join, hpath, hempty, hlast]
  simp [hc]

end Path

namespace ProjectLayout

variable (layout : ProjectLayout)

theorem components_storePath : layout.storePath.components =
    layout.root.components ++ [.normal ".conform", .normal "project.db"] := by
  rw [storePath, metaDir, Path.components_child _ (by decide), Path.components_child _ (by decide),
    List.append_assoc]
  rfl

/-- The path that a configuration keeps. -/
theorem relativeStorePath_eq : layout.relativeStorePath = ".conform/project.db" := by
  rw [relativeStorePath, Path.relativeTo?, components_storePath, Path.dropBeginning?_append]
  rfl

theorem getLast?_metaDir : layout.metaDir.text.toList.getLast? = some 'm' := by
  rw [metaDir, Path.child, Path.join]
  split
  · rfl
  · split <;> simp [String.toList_append, List.getLast?_append]

/-- What is in the project's own directory is written with a separator after it. -/
theorem child_metaDir {name : String} (h : (Path.mk name).isAbsolute = false) :
    layout.metaDir.child name = ⟨layout.metaDir.text ++ "/" ++ name⟩ :=
  Path.join_of_getLast? h layout.getLast?_metaDir (by decide)

/-- Seen from the root, the path that a configuration keeps is the path of the run store. -/
theorem resolve_relativeStorePath :
    layout.resolve ⟨layout.relativeStorePath⟩ = layout.storePath := by
  have hconform : (Path.mk ".conform").isAbsolute = false := by decide
  have hstore : (Path.mk ".conform/project.db").isAbsolute = false := by decide
  rw [storePath, layout.child_metaDir (by decide), relativeStorePath_eq, resolve, metaDir,
    Path.child, Path.join, Path.join, hconform, hstore]
  simp only [Bool.false_eq_true, if_false]
  split <;> simp [String.append_assoc]

end ProjectLayout

end TokenAudit
