import Mathlib.Data.List.DropRight
import Polyglot.FileTree

/-!
# Parents of paths

The parent of a path is the path without its last name, as it is written (`parent?`). The paths
above a path are its parent, the parent of its parent and so on; there are no more of them than the
path has parts (`nthParent?_eq_none`), and they are all that `upward` lists behind the path itself,
in this order (`getElem?_upward`).

What means nothing at the end of a path plays no part for what a name stands for inside the
directory (`read?_trimmed`).
-/

set_option autoImplicit false

namespace Polyglot

namespace Path

/-- The path without what means nothing at its end. -/
def trimmed (path : Path) : Path :=
  path.rdropWhile fun part => !isName part

/-- The path without its last name and what stands behind it, if it has a name. -/
def parent? (path : Path) : Option Path :=
  if path.trimmed = [] then none else some (trimmed path.trimmed.dropLast)

/-- What so many steps from a path to its parent lead to. -/
def nthParent? : Nat → Path → Option Path
  | 0, path => some path
  | n + 1, path => path.parent?.bind (nthParent? n)

variable {path : Path} {n : Nat}

/-- In reverse a path is trimmed at its beginning. -/
theorem reverse_trimmed (path : Path) : path.trimmed.reverse = dropBlanks path.reverse := by
  rw [trimmed, List.rdropWhile, List.reverse_reverse]
  rfl

/-- A path in reverse without its last blanks begins with its last name. -/
theorem upwardFrom_eq (reversed : List String) :
    upwardFrom reversed = dropBlanks reversed ::
      match dropBlanks reversed with
      | [] => []
      | _ :: parts => upwardFrom parts := by
  induction reversed with
  | nil => rfl
  | cons part parts ih =>
      by_cases hname : isName part = true
      · simp [upwardFrom, dropBlanks, hname]
      · rw [upwardFrom, if_neg hname, ih]
        simp [dropBlanks, hname]

/-- What means nothing at the end of a path has no part in the paths above it. -/
theorem upwardFrom_dropBlanks (reversed : List String) :
    upwardFrom (dropBlanks reversed) = upwardFrom reversed := by
  have hdrop : dropBlanks (dropBlanks reversed) = dropBlanks reversed :=
    List.dropWhile_idempotent _ reversed
  rw [upwardFrom_eq, hdrop, ← upwardFrom_eq]

/-- The paths above a path are its parent and the paths above that. -/
theorem upward_eq (path : Path) :
    path.upward = path.trimmed :: (path.parent?.map upward).getD [] := by
  rw [upward, upwardFrom_eq, ← reverse_trimmed, List.map_cons, List.reverse_reverse, parent?]
  rcases List.eq_nil_or_concat path.trimmed with hnil | ⟨front, last, hlast⟩
  · simp [hnil]
  · rw [hlast, if_neg (by simp)]
    simp only [List.concat_eq_append, List.reverse_append, List.reverse_singleton,
      List.singleton_append, List.dropLast_concat, Option.map_some, Option.getD_some, upward,
      reverse_trimmed, upwardFrom_dropBlanks]

/-- The paths that are listed are those that the steps to the parent lead to. -/
theorem getElem?_upward (n : Nat) (path : Path) :
    path.upward[n]? = (nthParent? n path).map trimmed := by
  induction n generalizing path with
  | zero => rw [upward_eq]; rfl
  | succ n ih =>
      rw [upward_eq, List.getElem?_cons_succ, nthParent?]
      cases path.parent? with
      | none => rfl
      | some parent => exact ih parent

/-- The name that leads up again is a name like any other. -/
example : nthParent? 2 ["a", "..", "b", "."] = some ["a"] := by
  decide

/-- There are no more paths above a path than it has parts. -/
theorem length_upwardFrom_le (reversed : List String) :
    (upwardFrom reversed).length ≤ reversed.length + 1 := by
  induction reversed with
  | nil => exact Nat.le_refl 1
  | cons part parts ih =>
      rw [upwardFrom]
      split
      · exact Nat.succ_le_succ ih
      · exact ih.trans (Nat.le_succ _)

/-- There are no more paths above a path than it has parts. -/
theorem nthParent?_eq_none (h : path.length < n) : nthParent? n path = none := by
  have hlength := length_upwardFrom_le path.reverse
  rw [List.length_reverse] at hlength
  have hnone : path.upward[n]? = none := by
    rw [List.getElem?_eq_none_iff, upward, List.length_map]
    omega
  rw [getElem?_upward] at hnone
  exact Option.map_eq_none_iff.1 hnone

end Path

namespace FileTree

/-- What means nothing between two parts of a path may be left out. -/
theorem follow_append_blanks (above : List FileTree) (here : FileTree) (parts : List String)
    {blanks : List String} (hblanks : ∀ part ∈ blanks, Path.isName part = false) (name : String) :
    follow above here (parts ++ (blanks ++ [name])) = follow above here (parts ++ [name]) := by
  induction parts generalizing above here with
  | nil =>
      induction blanks with
      | nil => rfl
      | cons blank blanks ih =>
          obtain ⟨hblank, hrest⟩ := List.forall_mem_cons.1 hblanks
          cases here with
          | file bytes => rfl
          | directory entries => simpa [follow, hblank] using ih hrest
  | cons part parts ih =>
      cases here with
      | file bytes => rfl
      | directory entries =>
          -- Both ways take the same first step.
          simp only [List.cons_append, follow]
          split
          · exact ih above _
          · split
            · cases above with
              | nil => exact ih [] _
              | cons parent above => exact ih above parent
            · cases lookup part entries with
              | none => rfl
              | some child => exact ih _ child

/-- A file is read through the trimmed path of its directory as well. -/
theorem read?_trimmed (tree : FileTree) (path : Path) (name : String) :
    tree.read? (path.trimmed ++ [name]) = tree.read? (path ++ [name]) := by
  have hblanks : ∀ part ∈ path.rtakeWhile fun part => !Path.isName part,
      Path.isName part = false := by
    intro part hpart
    simpa using List.mem_rtakeWhile_imp hpart
  have hfollow := follow_append_blanks [] tree path.trimmed hblanks name
  rw [← List.append_assoc, Path.trimmed, List.rdropWhile_append_rtakeWhile] at hfollow
  rw [read?, read?, find?, find?, hfollow, Path.trimmed]

end FileTree

end Polyglot
