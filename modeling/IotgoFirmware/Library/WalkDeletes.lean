import Mathlib.Data.List.Induction
import Mathlib.Data.Nat.Notation

/-!
# Deleting by name during a walk

A walk passes the items of a list in their order, and each selected one deletes the
first item of the list that is the same as it. When the selection and the sameness
do not agree, that is not always the item the walk stands at.
-/

namespace IotgoFirmware.Library.WalkDeletes

set_option autoImplicit false

section Walks

variable {Item : Type*} (selected : Item → Bool) (same : Item → Item → Bool)

def deleteAt (kept : List Item) (item : Item) : List Item :=
  if selected item = true then kept.eraseP fun other => same other item else kept

def walkDelete (walk items : List Item) : List Item :=
  walk.foldl (deleteAt selected same) items

theorem walk_delete_concat (walk items : List Item) (item : Item) :
    walkDelete selected same (walk ++ [item]) items =
      deleteAt selected same (walkDelete selected same walk items) item := by
  rw [walkDelete, walkDelete, List.foldl_append, List.foldl_cons, List.foldl_nil]

variable {same}

theorem delete_at_append (itself : ∀ item, same item item = true) (kept rest : List Item)
    (item : Item) :
    deleteAt selected same (kept ++ item :: rest) item =
      deleteAt selected same (kept ++ [item]) item ++ rest := by
  have split : kept ++ item :: rest = (kept ++ [item]) ++ rest := by simp
  unfold deleteAt
  split
  · rw [split]
    exact List.eraseP_append_left (p := fun other => same other item) (itself item) rest
      (List.mem_append_right kept (List.mem_singleton_self item))
  · exact split

theorem walk_delete_ahead (itself : ∀ item, same item item = true) (walk rest : List Item) :
    walkDelete selected same walk (walk ++ rest) = walkDelete selected same walk walk ++ rest := by
  induction walk using List.reverseRecOn generalizing rest with
  | nil => rfl
  | append_singleton walk item ih =>
      rw [walk_delete_concat, walk_delete_concat, List.append_assoc, List.singleton_append,
        ih (item :: rest), ih [item]]
      exact delete_at_append selected itself _ rest item

theorem walk_delete_next (itself : ∀ item, same item item = true) (walk : List Item)
    (item : Item) :
    walkDelete selected same (walk ++ [item]) (walk ++ [item]) =
      deleteAt selected same (walkDelete selected same walk walk ++ [item]) item := by
  rw [walk_delete_concat, walk_delete_ahead selected itself]

theorem erase_last {kept : List Item} {item : Item} (itself : same item item = true)
    (spared : ∀ other ∈ kept, ¬ same other item = true) :
    (kept ++ [item]).eraseP (fun other => same other item) = kept := by
  have last : [item].eraseP (fun other => same other item) = [] :=
    List.eraseP_cons_of_pos (p := fun other => same other item) itself
  rw [List.eraseP_append_right _ spared, last, List.append_nil]

theorem erase_appended_iff {kept left : List Item} {item : Item} (itself : same item item = true)
    (absent : item ∉ left) :
    (kept ++ [item]).eraseP (fun other => same other item) = left ↔
      kept = left ∧ ∀ other ∈ kept, ¬ same other item = true := by
  constructor
  · intro erased
    have spared : ∀ other ∈ kept, ¬ same other item = true := by
      intro other member found
      rw [List.eraseP_append_left (p := fun other => same other item) found _ member] at erased
      exact absent (erased ▸ List.mem_append_right _ (List.mem_singleton_self item))
    exact ⟨(erase_last itself spared).symm.trans erased, spared⟩
  · rintro ⟨rfl, spared⟩
    exact erase_last itself spared

/-- The selected items and no other are deleted just when no item that is not selected
stands before a selected one that is the same. -/
theorem walk_delete_eq_filter_iff (itself : ∀ item, same item item = true)
    (items : List Item) :
    walkDelete selected same items items = items.filter (fun item => !selected item) ↔
      items.Pairwise fun earlier item =>
        selected earlier = false → selected item = true → same earlier item = false := by
  induction items using List.reverseRecOn with
  | nil => exact iff_of_true rfl .nil
  | append_singleton walk item ih =>
      rw [walk_delete_next selected itself, List.filter_append, List.pairwise_append]
      by_cases picked : selected item = true
      · have dropped : [item].filter (fun item => !selected item) = [] := by simp [picked]
        have absent : item ∉ walk.filter fun item => !selected item := by simp [picked]
        rw [deleteAt, if_pos picked, dropped, List.append_nil,
          erase_appended_iff (itself item) absent]
        constructor
        · rintro ⟨left, spared⟩
          refine ⟨ih.1 left, List.pairwise_singleton _ _, fun earlier before last member => ?_⟩
          intro unpicked _
          rw [List.mem_singleton.1 member]
          rw [left] at spared
          exact eq_false_of_ne_true
            (spared earlier (List.mem_filter.2 ⟨before, by simp [unpicked]⟩))
        · rintro ⟨pairs, -, apart⟩
          have left := ih.2 pairs
          refine ⟨left, fun other member => ?_⟩
          rw [left] at member
          have unpicked := List.mem_filter.1 member
          have differs := apart other unpicked.1 item (List.mem_singleton_self item)
            (by simpa using unpicked.2) picked
          simp [differs]
      · have kept : [item].filter (fun item => !selected item) = [item] := by simp [picked]
        rw [deleteAt, if_neg picked, kept, List.append_left_inj, ih]
        constructor
        · intro pairs
          refine ⟨pairs, List.pairwise_singleton _ _, fun earlier _ last member => ?_⟩
          intro _ selectedLast
          rw [List.mem_singleton.1 member] at selectedLast
          exact absurd selectedLast picked
        · exact fun all => all.1

end Walks

end IotgoFirmware.Library.WalkDeletes
