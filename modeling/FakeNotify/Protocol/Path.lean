-- Paths as the daemon's tables compare them. `PathBuf`'s `Eq` and `Hash` go
-- through `Path::components`, so the keys of `path_to_wd` are component lists:
-- "/tmp/x/" and "/tmp/./x" are one key, "/tmp/x/../x" is another.
import FakeNotify.Protocol.Bytes
import Mathlib.Data.List.Defs

namespace fakenotify.path

open fakenotify.bytes

/-- `std::path::Component` on Unix, where paths have no prefix. -/
inductive Component
  | RootDir
  | CurDir
  | ParentDir
  | Normal (name : List UInt8)
deriving DecidableEq

/-- `Components::parse_single_component`: the bytes between two separators. The empty
piece and `.` give no component. -/
def parseSingleComponent (comp : List UInt8) : Option Component :=
  if comp = [] ∨ comp = [46] then none
  else if comp = [46, 46] then some .ParentDir
  else some (.Normal comp)

/-- `Path::has_root`: the path starts with `/`. -/
def hasRoot (p : PathBuf) : Bool := p.head? = some 47

/-- `Components::include_cur_dir`: a path without a root that starts with `.` alone or
with `./` keeps that `.` as its first component. -/
def includeCurDir (p : PathBuf) : Bool := !hasRoot p && (p = [46] || p.take 2 = [46, 47])

/-- `Path::components`. -/
def components (p : PathBuf) : List Component :=
  (if hasRoot p then [.RootDir] else []) ++ (if includeCurDir p then [.CurDir] else []) ++
    (p.splitOn 47).filterMap parseSingleComponent

/-! ## What a path names -/

/-- One component of a path, followed from the directory `dir` (a list of names from
the root) on a file system without symbolic links. -/
def resolveStep (dir : List (List UInt8)) : Component → List (List UInt8)
  | .RootDir => []
  | .CurDir => dir
  | .ParentDir => dir.dropLast
  | .Normal name => dir ++ [name]

/-- The directory a path names from the working directory `cwd` when no component is a
symbolic link: what `fs::canonicalize` returns there. -/
def resolve (cwd : List (List UInt8)) (p : PathBuf) : List (List UInt8) :=
  (components p).foldl resolveStep cwd

end fakenotify.path
