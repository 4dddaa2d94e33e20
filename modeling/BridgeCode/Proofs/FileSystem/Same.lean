import BridgeCode.Proofs.FileSystem.Growth

/-!
Disks that hold the same.

A disk is a list of entries, and two lists can hold the same entries in another order. `Same` is
equality of what stands where. Nothing that is read from a disk tells two such disks apart
(`Same.locate_eq`, `Same.isDirectory_eq`), and creating the same folders on both leaves two such
disks again (`Same.makeFolders`).
-/

namespace BridgeCode.FileSystem

/-- The same things stand at the same places, with the same texts. -/
structure Same (fs fs' : FileSystem) : Prop where
  cwd : fs'.cwd = fs.cwd
  node : ∀ place, fs'.node? place = fs.node? place

namespace Same

variable {fs fs' : FileSystem}

theorem refl (fs : FileSystem) : fs.Same fs := ⟨rfl, fun _ => rfl⟩

theorem walk_eq (same : fs.Same fs') (links : Nat) (place : Location) (path : List String) :
    fs'.walk links place path = fs.walk links place path := by
  induction links, place, path using walk_induction with
  | nil links place => rw [walk_nil, walk_nil]
  | cons links place step rest shorter fewer =>
      rw [walk_cons, walk_cons, same.node, shorter, shorter, shorter]
      cases links with
      | zero => rfl
      | succ links =>
          have linked : ∀ target,
              fs'.walk links (startOf place target) (steps target ++ rest) =
                fs.walk links (startOf place target) (steps target ++ rest) :=
            fun target => fewer links _ _ (Nat.lt_succ_self _)
          simp only [linked]

theorem locate_eq (same : fs.Same fs') (path : String) : fs'.locate path = fs.locate path := by
  rw [locate, locate, same.cwd, same.walk_eq]

theorem isDirectory_eq (same : fs.Same fs') (path : String) :
    fs'.isDirectory path = fs.isDirectory path := by
  simp only [isDirectory, same.locate_eq, same.node]

theorem put (same : fs.Same fs') {place : Location} (below : place ≠ []) (node : FileNode) :
    (fs.put place node).Same (fs'.put place node) := by
  refine ⟨same.cwd, fun other => ?_⟩
  rw [node?_put _ _ _ _ below, node?_put _ _ _ _ below, same.node]

theorem makeFoldersFrom (same : fs.Same fs') (place : Location) (path : List String) :
    (fs.makeFoldersFrom place path).1.Same (fs'.makeFoldersFrom place path).1 := by
  induction path generalizing fs fs' place with
  | nil => exact same
  | cons step rest ih =>
      rw [FileSystem.makeFoldersFrom, FileSystem.makeFoldersFrom, same.walk_eq]
      split
      · exact ih same place
      split
      · exact ih same place.dropLast
      split
      · exact same
      · next reached _ =>
          rw [same.node]
          split
          · exact ih same reached
          · exact same
      · rw [same.node]
        split
        · exact same
        · exact ih (same.put (by simp) .directory) (place ++ [step])

theorem makeFolders (same : fs.Same fs') (path : String) :
    (fs.makeFolders path).1.Same (fs'.makeFolders path).1 := by
  rw [FileSystem.makeFolders, FileSystem.makeFolders, same.cwd]
  split
  · exact same
  · exact same.makeFoldersFrom _ _

end Same

end BridgeCode.FileSystem
