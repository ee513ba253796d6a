/-
  Collected items — what a container keeps of the items that are added to it.

  A set keeps each item once, wherever it came in first.  An ascending list is determined by its
  members, so a hash set that is filled from an index set is the hash set of everything that was
  added to the index set (`hashSet_indexSet`).

  What a container holds is said of the list of its items (`Container.Holds`): a hash set alone may
  be gone through in more than one order.  Filling a container from another one is adding the items
  of that one in any order in which it can be gone through (`collector_contents`).  Listed in
  ascending order, the items of a hash set are determined too (`Container.listed_iff`).
-/
import FluentBuilders.Support.Collector
import Mathlib.Data.List.Induction
import Mathlib.Data.List.Sort

namespace FluentBuilders.Support

variable {α : Type} [LinearOrder α] {x y : α} {l xs : List α}

namespace Container

theorem ofList_concat (k : Container) (xs : List α) (x : α) :
    k.ofList (xs ++ [x]) = k.insert (k.ofList xs) x := by
  rw [ofList, List.foldl_append]
  rfl

/-! ## Sequences -/

/-- A sequence keeps everything, in order. -/
theorem ofList_vec (xs : List α) : Container.vec.ofList xs = xs := by
  induction xs using List.reverseRecOn with
  | nil => rfl
  | append_singleton xs x ih =>
    rw [ofList_concat, ih]
    rfl

/-! ## Index sets -/

theorem insert_indexSet_of_mem (h : x ∈ l) : Container.indexSet.insert l x = l := if_pos h

theorem insert_indexSet_of_not_mem (h : x ∉ l) :
    Container.indexSet.insert l x = l ++ [x] := if_neg h

/-- An index set has the items that were added. -/
theorem mem_ofList_indexSet : y ∈ Container.indexSet.ofList xs ↔ y ∈ xs := by
  induction xs using List.reverseRecOn with
  | nil => rfl
  | append_singleton xs x ih =>
    rw [ofList_concat, List.mem_append, List.mem_singleton, ← ih]
    by_cases h : x ∈ Container.indexSet.ofList xs
    · rw [insert_indexSet_of_mem h]
      constructor
      · exact .inl
      · rintro (hy | rfl)
        · exact hy
        · exact h
    · rw [insert_indexSet_of_not_mem h, List.mem_append, List.mem_singleton]

/-- An index set keeps the first of equal items. -/
theorem ofList_indexSet (xs : List α) : Container.indexSet.ofList xs = xs.eraseDups := by
  induction xs using List.reverseRecOn with
  | nil => rfl
  | append_singleton xs x ih =>
    rw [ofList_concat, List.eraseDups_append, ← ih]
    by_cases h : x ∈ xs
    · have hnone : [x].removeAll xs = [] := by simp [List.removeAll, h]
      rw [insert_indexSet_of_mem (mem_ofList_indexSet.mpr h), hnone, List.eraseDups_nil,
        List.append_nil]
    · have hall : [x].removeAll xs = [x] := by simp [List.removeAll, h]
      rw [insert_indexSet_of_not_mem fun hm => h (mem_ofList_indexSet.mp hm), hall]
      rfl

/-- An index set holds each item once. -/
theorem nodup_ofList_indexSet (xs : List α) : (Container.indexSet.ofList xs).Nodup := by
  induction xs using List.reverseRecOn with
  | nil => exact List.nodup_nil
  | append_singleton xs x ih =>
    rw [ofList_concat]
    by_cases h : x ∈ Container.indexSet.ofList xs
    · rw [insert_indexSet_of_mem h]
      exact ih
    · rw [insert_indexSet_of_not_mem h, ← List.concat_eq_append]
      exact ih.concat h

/-- Nothing is left out of a list that has each item once. -/
theorem ofList_indexSet_of_nodup (h : xs.Nodup) : Container.indexSet.ofList xs = xs := by
  induction xs using List.reverseRecOn with
  | nil => rfl
  | append_singleton xs x ih =>
    obtain ⟨hxs, -, hx⟩ := List.nodup_append.mp h
    have hnot : x ∉ xs := fun hm => hx x hm x (List.mem_singleton.mpr rfl) rfl
    rw [ofList_concat, ih hxs, insert_indexSet_of_not_mem hnot]

/-- An index set that is filled from an index set is the same one. -/
theorem indexSet_indexSet (xs : List α) :
    Container.indexSet.ofList (Container.indexSet.ofList xs) = Container.indexSet.ofList xs :=
  ofList_indexSet_of_nodup (nodup_ofList_indexSet xs)

/-! ## Ascending sets -/

theorem mem_insertAscending : y ∈ insertAscending x l ↔ y = x ∨ y ∈ l := by
  induction l with
  | nil => rw [insertAscending, List.mem_singleton, or_iff_left List.not_mem_nil]
  | cons z zs ih =>
    rw [insertAscending]
    split
    · rename_i h
      constructor
      · exact .inr
      · rintro (rfl | hy)
        · rw [h]
          exact List.mem_cons_self
        · exact hy
    · split
      · exact List.mem_cons
      · rw [List.mem_cons, ih, List.mem_cons]
        exact or_left_comm

theorem pairwise_insertAscending (h : l.Pairwise (· < ·)) :
    (insertAscending x l).Pairwise (· < ·) := by
  induction l with
  | nil => exact List.pairwise_singleton _ _
  | cons z zs ih =>
    obtain ⟨hz, hzs⟩ := List.pairwise_cons.mp h
    rw [insertAscending]
    split
    · exact h
    · rename_i hne
      split
      · rename_i hlt
        refine List.pairwise_cons.mpr ⟨?_, h⟩
        intro w hw
        rcases List.mem_cons.mp hw with rfl | hw
        · exact hlt
        · exact lt_trans hlt (hz w hw)
      · rename_i hge
        -- the item goes further down, and what stays in front is below it too
        refine List.pairwise_cons.mpr ⟨?_, ih hzs⟩
        intro w hw
        rcases mem_insertAscending.mp hw with rfl | hw
        · exact lt_of_le_of_ne (not_lt.mp hge) (Ne.symm hne)
        · exact hz w hw

/-- A hash set has the items that were added. -/
theorem mem_ofList_hashSet : y ∈ Container.hashSet.ofList xs ↔ y ∈ xs := by
  induction xs using List.reverseRecOn with
  | nil => rfl
  | append_singleton xs x ih =>
    rw [ofList_concat, List.mem_append, List.mem_singleton, ← ih]
    exact mem_insertAscending.trans or_comm

/-- The items of a hash set are listed in ascending order. -/
theorem pairwise_ofList_hashSet (xs : List α) :
    (Container.hashSet.ofList xs).Pairwise (· < ·) := by
  induction xs using List.reverseRecOn with
  | nil => exact List.Pairwise.nil
  | append_singleton xs x ih =>
    rw [ofList_concat]
    exact pairwise_insertAscending ih

/-- **Hash sets by their members**: the order in which items came in, and how often, is lost. -/
theorem ofList_hashSet_congr {ys : List α} (h : ∀ z, z ∈ xs ↔ z ∈ ys) :
    Container.hashSet.ofList xs = Container.hashSet.ofList ys := by
  refine (pairwise_ofList_hashSet xs).eq_of_mem_iff (pairwise_ofList_hashSet ys) ?_
  intro z
  rw [mem_ofList_hashSet, mem_ofList_hashSet, h]

/-- A hash set that is filled from an index set has all that was added to that one. -/
theorem hashSet_indexSet (xs : List α) :
    Container.hashSet.ofList (Container.indexSet.ofList xs) = Container.hashSet.ofList xs :=
  ofList_hashSet_congr fun _ => mem_ofList_indexSet

/-! ## What a container holds -/

/-- What a container holds once some items are added to it, in an order in which it can be gone
    through. -/
def Holds (k : Container) (xs items : List α) : Prop :=
  match k with
  | .vec | .vecDeque | .linkedList => items = xs
  | .indexSet => items = xs.eraseDups
  | .treeSet => items.Pairwise (· < ·) ∧ ∀ x, x ∈ items ↔ x ∈ xs
  | .hashSet => items.Nodup ∧ ∀ x, x ∈ items ↔ x ∈ xs

/-- **A container holds what was added to it.** -/
theorem holds_ofList (k : Container) (xs : List α) : k.Holds xs (k.ofList xs) := by
  cases k with
  | vec | vecDeque | linkedList => exact ofList_vec xs
  | indexSet => exact ofList_indexSet xs
  | treeSet => exact ⟨pairwise_ofList_hashSet xs, fun _ => mem_ofList_hashSet⟩
  | hashSet => exact ⟨(pairwise_ofList_hashSet xs).imp ne_of_lt, fun _ => mem_ofList_hashSet⟩

/-- A set does not tell an index set from what was added to it. -/
theorem ofList_ofList_indexSet {k : Container} (hk : k.isSet = true) (xs : List α) :
    k.ofList (Container.indexSet.ofList xs) = k.ofList xs := by
  cases k with
  | vec | vecDeque | linkedList => cases hk
  | indexSet => exact indexSet_indexSet xs
  | treeSet | hashSet => exact hashSet_indexSet xs

end Container

/-! ## Collectors -/

theorem pushAll_concat (c : Collector α) (xs : List α) (x : α) :
    c.pushAll (xs ++ [x]) = (c.pushAll xs).push x := by
  rw [Collector.pushAll, List.foldl_append]
  rfl

/-- A collector holds what its container keeps of the items. -/
theorem pushAll_empty (k : Container) (xs : List α) :
    ({ container := k } : Collector α).pushAll xs = { container := k, items := k.ofList xs } := by
  induction xs using List.reverseRecOn with
  | nil => rfl
  | append_singleton xs x ih =>
    rw [pushAll_concat, ih, Container.ofList_concat]
    rfl

/-! ## Sequences -/

namespace Sequence

variable {β : Type}

/-- Where items are comparable, a sequence takes them as any collector does. -/
theorem toCollector_push (s : Sequence α) (x : α) :
    (s.push x).toCollector = s.toCollector.push x := by
  obtain ⟨⟨k, items⟩, hk⟩ := s
  cases k with
  | vec | vecDeque | linkedList => rfl
  | indexSet | treeSet | hashSet => cases hk

end Sequence

/-! ## Contents -/

/-- **What is gathered, and what it is turned into.**  A collector holds what its container keeps of
    the items.  Turned into another container it gives what that one keeps of the items held, in the
    order in which they are gone through, as if they had been added to it.  So a set has the same
    items whether they are gathered in a sequence or an index set first, or in the set itself. -/
theorem collector_contents (xs : List α) :
    (∀ k : Container, k.Holds xs (({ container := k } : Collector α).pushAll xs).items) ∧
    (∀ (c : Collector α) (k : Container),
      c.into k = (({ container := k } : Collector α).pushAll c.items).items ∧
        k.Holds c.items (c.into k)) ∧
    (∀ (k k' : Container) (items : List α), k.isSet = false ∨ k = .indexSet → k'.isSet = true →
      k.Holds xs items → ({ container := k, items } : Collector α).into k'
        = (({ container := k' } : Collector α).pushAll xs).items) := by
  refine ⟨fun k => ?_, fun c k => ⟨?_, ?_⟩, fun k k' items hk hk' hitems => ?_⟩
  · rw [pushAll_empty]
    exact k.holds_ofList xs
  · rw [pushAll_empty]
    rfl
  · exact k.holds_ofList c.items
  · rw [pushAll_empty]
    show k'.ofList items = k'.ofList xs
    rcases hk with hk | rfl
    · have hxs : items = xs := by
        cases k with
        | vec | vecDeque | linkedList => exact hitems
        | indexSet | treeSet | hashSet => cases hk
      rw [hxs]
    · have hxs : items = Container.indexSet.ofList xs := by
        rw [Container.ofList_indexSet]
        exact hitems
      rw [hxs, Container.ofList_ofList_indexSet hk']

/-- Numbers that are gathered in an index set, on their way to a tree set. -/
theorem collector_contents_numbers :
    ({ container := .indexSet, items := [3, 1, 2] } : Collector Int).into .treeSet
      = (({ container := .treeSet } : Collector Int).pushAll [3, 1, 3, 2, 1]).items := by
  have hholds : Container.indexSet.Holds ([3, 1, 3, 2, 1] : List Int) [3, 1, 2] := by
    show [3, 1, 2] = List.eraseDups [3, 1, 3, 2, 1]
    decide
  exact (collector_contents [3, 1, 3, 2, 1]).2.2 .indexSet .treeSet _ (.inr rfl) rfl hholds

end FluentBuilders.Support
