import GatewayMigration.Files
/-!
# Reading what was written

A file is written at the place that its path means, and no directory on the way there is touched.
Main statement: `FileTree.read_write`, what was written can be read under the same path.
-/

namespace GatewayMigration.FileTree

variable {t : FileTree} {place : List String} {node : FileNode}

theorem at?_insert_self (below : isTop place = false) :
    (⟨t.nodes.insert place node⟩ : FileTree).at? place = some node := by
  simp only [at?, below, Bool.false_eq_true, if_false, OrderedMap.get?_insert, if_true]

theorem at?_insert_of_ne {other : List String} (ne : place ≠ other) :
    (⟨t.nodes.insert place node⟩ : FileTree).at? other = t.at? other := by
  simp only [at?, OrderedMap.get?_insert, if_neg ne]

/-- A way through directories stays one if what changes is none of them. -/
theorem walk_insert (other : t.at? place ≠ some .directory) {start target : List String}
    {parts : List String} (found : t.walk start parts = .ok target) :
    (⟨t.nodes.insert place node⟩ : FileTree).walk start parts = .ok target := by
  induction parts generalizing start with
  | nil => exact found
  | cons p ps ih =>
    rw [walk] at found ⊢
    cases here : t.at? start with
    | none =>
      rw [here] at found
      cases found
    | some n =>
      rw [here] at found
      cases n with
      | file octets => cases found
      | directory =>
        have elsewhere : place ≠ start := fun same => other (same ▸ here)
        rw [at?_insert_of_ne elsewhere, here]
        exact ih found

theorem isTop_of_at?_ne (other : t.at? place ≠ some .directory) : isTop place = false := by
  cases top : isTop place with
  | false => rfl
  | true => exact absurd (by rw [at?, top]; rfl) other

theorem read_write {t' : FileTree} {p : FilePath} {octets : List UInt8}
    (written : t.write p octets = .ok t') : t'.read p = .ok octets := by
  unfold write at written
  split at written
  · cases written
  · rename_i place resolved
    split at written
    · cases written
    · rename_i other
      cases written
      have same : (⟨t.nodes.insert place (.file octets)⟩ : FileTree).resolve p = .ok place :=
        walk_insert other resolved
      rw [read, same]
      dsimp only
      rw [at?_insert_self (isTop_of_at?_ne other)]

end GatewayMigration.FileTree
