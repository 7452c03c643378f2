import RpcStubs.Store.FileError
import RpcStubs.Store.Path

/-!
# Files

What a script can ask of the files that it is carried out on, whatever they are kept in. An operation
that fails gives nothing new: it leaves everything as it was.
-/

namespace RpcStubs

/-- The operations on files that are kept in some way. -/
class Files (σ : Type) where
  readFile : σ → Path → Except FileError ByteArray
  /-- Whether a path leads to a folder. -/
  isFolder : σ → Path → Bool
  /-- Whether a path leads anywhere. -/
  isPresent : σ → Path → Bool
  makeFolder : σ → Path → Except FileError σ
  writeFile : σ → Path → ByteArray → Except FileError σ
  renameFile : σ → (source destination : Path) → Except FileError σ
  removeFile : σ → Path → Except FileError σ

end RpcStubs
