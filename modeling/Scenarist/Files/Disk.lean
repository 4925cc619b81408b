import Scenarist.Files.Tree

/-!
# Disks

What a program needs of a file system, in any monad: looking whether there is something at a
path, reading and writing a file, and making directories. A file tree as the state is one such
disk.
-/

namespace Scenarist

/-- The operations of a file system. -/
structure Disk (m : Type → Type) where
  exists? : String → m Bool
  read : String → m (Except FileError String)
  write : String → String → m (Except FileError Unit)
  makeDirectories : String → m (Except FileError Unit)

namespace Disk

/-- An operation that changes a file tree unless it fails. -/
def changing (f : FileTree → Except FileError FileTree) : StateM FileTree (Except FileError Unit) :=
  fun t =>
    match f t with
    | .ok u => (.ok (), u)
    | .error e => (.error e, t)

/-- A file tree as a disk. -/
def ofTree : Disk (StateM FileTree) where
  exists? path := fun t => (t.exists? path, t)
  read path := fun t => (t.read path, t)
  write path content := changing (·.write path content)
  makeDirectories path := changing (·.makeDirectories path)

end Disk

end Scenarist
