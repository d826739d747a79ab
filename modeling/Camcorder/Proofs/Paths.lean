import Mathlib
import Camcorder.FileTree

/-!
# Paths as they are typed

The path of a name in a directory takes the steps of the directory, and then the one to the name
(`FileTree.steps_join`). It begins where the path of the directory begins, and does not ask for a directory.
-/

namespace Camcorder

namespace FileTree

open String

/-! ## Steps -/

theorem steps_empty : steps "" = [] := rfl

/-- The steps of two paths, one after the other. -/
theorem steps_append_slash (path rest : String) : steps (path ++ "/" ++ rest) = steps path ++ steps rest := by
  have parts : (path ++ "/" ++ rest).toList = path.toList ++ '/' :: rest.toList := by
    rw [toList_append, toList_append, List.append_assoc]
    rfl
  unfold steps
  rw [parts, List.splitOn_append_cons_self, List.map_append, List.filter_append]

/-! ## Names -/

/-- A name for something in a directory: it has no slash in it, and does not stand for a step to elsewhere. -/
structure Plain (name : String) : Prop where
  slashless : '/' ∉ name.toList
  nonempty : name ≠ ""
  inner : name ≠ "."
  below : name ≠ ".."

variable {folder name : String}

/-- A plain name is one step. -/
theorem Plain.steps (plain : Plain name) : steps name = [name] := by
  have proper : (name != "") = true := by simpa using plain.nonempty
  unfold FileTree.steps
  rw [List.splitOn_eq_singleton plain.slashless]
  simp [proper]

theorem Plain.toList_ne_nil (plain : Plain name) : name.toList ≠ [] := by
  intro empty
  exact plain.nonempty (toList_eq_nil_iff.mp empty)

/-- The path of a name in a directory has a slash between them, unless it is there already, or the directory has no
name itself. -/
theorem join_cases (folder name : String) :
    (folder = "" ∧ join folder name = name) ∨
    (∃ above, folder = above ++ "/" ∧ join folder name = above ++ "/" ++ name) ∨
    (folder ≠ "" ∧ join folder name = folder ++ "/" ++ name) := by
  unfold join
  by_cases empty : folder = ""
  · subst empty
    exact .inl ⟨rfl, empty_append⟩
  · right
    have proper : (folder == "") = false := by simpa using empty
    rw [proper, Bool.false_or]
    cases ends : folder.endsWith "/" with
    | true =>
      left
      rw [endsWith_eq_endsWith_toSlice, Slice.endsWith_string_iff, copy_toSlice] at ends
      obtain ⟨above, parts⟩ := ends
      have whole : folder = ofList above ++ "/" := by
        apply toList_inj.mp
        rw [toList_append, toList_ofList]
        exact parts.symm
      exact ⟨ofList above, whole, by rw [if_pos rfl, whole]⟩
    | false => exact .inr ⟨empty, if_neg Bool.false_ne_true⟩

/-- A name in a folder is one step further. -/
theorem steps_join (folder : String) (plain : Plain name) : steps (join folder name) = steps folder ++ [name] := by
  rcases join_cases folder name with ⟨rfl, joined⟩ | ⟨above, rfl, joined⟩ | ⟨_, joined⟩
  · rw [joined, plain.steps, steps_empty, List.nil_append]
  · have same : steps (above ++ "/") = steps above := by
      rw [← append_empty (s := above ++ "/"), steps_append_slash, steps_empty, List.append_nil]
    rw [joined, steps_append_slash, plain.steps, same]
  · rw [joined, steps_append_slash, plain.steps]

theorem isAbsolute_eq (path : String) : isAbsolute path = decide (path.toList.head? = some '/') := by
  unfold isAbsolute
  rw [Bool.eq_iff_iff, decide_eq_true_iff, startsWith_string_iff]
  cases path.toList with
  | nil => simp
  | cons c rest => simp [eq_comm]

/-- Where a path begins does not depend on its last name. -/
theorem isAbsolute_join (folder : String) (plain : Plain name) : isAbsolute (join folder name) = isAbsolute folder := by
  rw [isAbsolute_eq, isAbsolute_eq]
  rcases join_cases folder name with ⟨rfl, joined⟩ | ⟨above, rfl, joined⟩ | ⟨nonempty, joined⟩
  · -- The first character is that of the name.
    have other : name.toList.head? ≠ some '/' := fun first => plain.slashless (List.mem_of_head? first)
    rw [joined]
    simp [other]
  · rw [joined, toList_append, List.head?_append_of_ne_nil]
    simp
  · rw [joined, toList_append, toList_append, List.append_assoc, List.head?_append_of_ne_nil]
    simpa using nonempty

/-- A plain name does not ask for a directory. -/
theorem asksForDirectory_join (folder : String) (plain : Plain name) : asksForDirectory (join folder name) = false := by
  have ends : ∃ front, (join folder name).toList = front ++ name.toList := by
    rcases join_cases folder name with ⟨_, joined⟩ | ⟨above, _, joined⟩ | ⟨_, joined⟩
    · exact ⟨[], by rw [joined, List.nil_append]⟩
    · exact ⟨(above ++ "/").toList, by rw [joined, toList_append]⟩
    · exact ⟨(folder ++ "/").toList, by rw [joined, toList_append]⟩
  obtain ⟨front, ends⟩ := ends
  unfold asksForDirectory
  rw [endsWith_eq_endsWith_toSlice, Bool.eq_false_iff, Ne, Slice.endsWith_string_iff, copy_toSlice, ends]
  rintro ⟨rest, parts⟩
  -- The last character is that of the name.
  have last : name.toList.getLast plain.toList_ne_nil = '/' := by
    have same := congrArg List.getLast? parts
    rw [List.getLast?_append_of_ne_nil front plain.toList_ne_nil, List.getLast?_eq_getLast_of_ne_nil plain.toList_ne_nil] at same
    simpa using same.symm
  exact plain.slashless (last ▸ List.getLast_mem plain.toList_ne_nil)

theorem join_ne_empty (folder : String) (plain : Plain name) : join folder name ≠ "" := by
  intro empty
  have steps := steps_join folder plain
  rw [empty, steps_empty] at steps
  exact List.append_ne_nil_of_right_ne_nil _ (List.cons_ne_nil name []) steps.symm

end FileTree

end Camcorder
