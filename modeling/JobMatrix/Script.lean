import JobMatrix.Files.Tree
import JobMatrix.Lines

/-!
What a program asks of the outside: which lines it shows and which files it reads and appends to,
one after the other. What comes next depends only on the answers. A script can be acted out on a
file tree, and so reasoned about, or on the real files.
-/
namespace JobMatrix

inductive Script (α : Type) where
  | done (result : α)
  | display (lines : List String) (next : Script α)
  | read (path : String) (next : Except FileFault String → Script α)
  | append (path text : String) (next : Except AppendFault Unit → Script α)

structure Performance (α : Type) where
  result : α
  shown : String
  tree : FileTree

namespace Script

variable {α β : Type}

def andThen : Script α → (α → Script β) → Script β
  | .done result, next => next result
  | .display lines rest, next => .display lines (rest.andThen next)
  | .read path rest, next => .read path fun answer => (rest answer).andThen next
  | .append path text rest, next => .append path text fun answer => (rest answer).andThen next

def perform (tree : FileTree) : Script α → Performance α
  | .done result => ⟨result, "", tree⟩
  | .display lines next =>
    let rest := next.perform tree
    { rest with shown := linesText lines ++ rest.shown }
  | .read path next => (next (tree.read path)).perform tree
  | .append path text next =>
    match tree.append path text with
    | .ok changed => (next (.ok ())).perform changed
    | .error fault => (next (.error fault)).perform tree

end Script

end JobMatrix
