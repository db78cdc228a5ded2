import RealtimeEx.Support.StdContainers

/-!
# Grouping

A list whose elements are put into a map of lists, and a loop over such a map.
-/

namespace RealtimeEx.StdMap

open Std

universe u v w

variable {κ : Type u} {ν : Type v} {α : Type w} [Ord κ] [TransOrd κ] [LawfulEqOrd κ]
  [DecidableEq κ]

/-- The values of the elements under their keys, in the order of the list. -/
def group (f : α → κ) (g : α → ν) (xs : List α) : StdMap κ (List ν) :=
  xs.foldl (fun m x => m.insert (f x) (m[f x]?.getD [] ++ [g x])) ∅

variable {f : α → κ} {g : α → ν}

omit [LawfulEqOrd κ] [DecidableEq κ] in
theorem group_concat (xs : List α) (x : α) :
    group f g (xs ++ [x]) =
      (group f g xs).insert (f x) ((group f g xs)[f x]?.getD [] ++ [g x]) := by
  rw [group, List.foldl_append, List.foldl_cons, List.foldl_nil]
  rfl

/-- The values under a key are those of the elements with that key. -/
theorem getD_group (xs : List α) (k : κ) :
    (group f g xs)[k]?.getD [] = (xs.filter (f · = k)).map g := by
  induction xs using List.reverseRecOn with
  | nil => simp [group]
  | append_singleton xs x ih =>
      rw [group_concat, getElem?_insert, List.filter_append, List.map_append]
      by_cases hkey : f x = k
      · subst hkey
        rw [if_pos rfl, Option.getD_some, ih]
        simp
      · rw [if_neg hkey, ih]
        simp [hkey]

/-- A key is there if an element has it, and then it has a value. -/
theorem getElem?_group (xs : List α) (k : κ) :
    (group f g xs)[k]? =
      if ∃ x ∈ xs, f x = k then some ((xs.filter (f · = k)).map g) else none := by
  have hkeys : (group f g xs)[k]?.isSome ↔ ∃ x ∈ xs, f x = k := by
    induction xs using List.reverseRecOn with
    | nil => simp [group]
    | append_singleton xs x ih =>
        rw [group_concat, getElem?_insert]
        by_cases hkey : f x = k
        · simp [hkey]
        · rw [if_neg hkey, ih]
          simp [hkey]
  have hvalue := getD_group (f := f) (g := g) xs k
  split
  · rename_i hmem
    obtain ⟨vs, hvs⟩ := Option.isSome_iff_exists.mp (hkeys.mpr hmem)
    rw [hvs, Option.getD_some] at hvalue
    rw [hvs, hvalue]
  · rename_i hnot
    exact Option.not_isSome_iff_eq_none.mp (mt hkeys.mp hnot)

omit [TransOrd κ] [LawfulEqOrd κ] [Ord κ] in
/-- Of what a list of entries with different keys leads to, an element with key `k` comes from
the entry of `k`. -/
theorem filter_flatMap_of_pairwise {β : Type*} {es : List (κ × ν)} {F : κ × ν → List β}
    {key : β → κ} (hkey : ∀ e ∈ es, ∀ b ∈ F e, key b = e.1)
    (hes : es.Pairwise fun a b => a.1 ≠ b.1) (k : κ) :
    (es.flatMap F).filter (key · = k) = ((es.find? (·.1 = k)).map F).getD [] := by
  induction es with
  | nil => rfl
  | cons e es ih =>
      obtain ⟨hhead, htail⟩ := List.pairwise_cons.mp hes
      have hrest := ih (fun d hd => hkey d (List.mem_cons_of_mem e hd)) htail
      have hfirst := hkey e List.mem_cons_self
      rw [List.flatMap_cons, List.filter_append, hrest, List.find?_cons]
      by_cases heq : e.1 = k
      · have hnone : es.find? (·.1 = k) = none := by
          rw [List.find?_eq_none]
          intro d hd
          simpa [← heq] using (hhead d hd).symm
        have hall : (F e).filter (key · = k) = F e := by
          rw [List.filter_eq_self]
          intro b hb
          simpa [heq] using hfirst b hb
        simp [heq, hnone, hall]
      · have hnone : (F e).filter (key · = k) = [] := by
          rw [List.filter_eq_nil_iff]
          intro b hb
          simpa [hfirst b hb] using heq
        simp [heq, hnone]

/-- Of what a loop over a map leads to, an element with key `k` comes from the value of `k`. -/
theorem filter_flatMap_toList {β : Type*} {m : StdMap κ ν} {F : κ × ν → List β} {key : β → κ}
    (hkey : ∀ e ∈ m.toList, ∀ b ∈ F e, key b = e.1) (k : κ) :
    (m.toList.flatMap F).filter (key · = k) = (m[k]?.map fun v => F (k, v)).getD [] := by
  have hkeys : m.toList.Pairwise fun a b => a.1 ≠ b.1 :=
    m.distinct_keys_toList.imp fun h heq => h (by rw [heq]; exact compare_self)
  rw [filter_flatMap_of_pairwise hkey hkeys k]
  cases hget : m[k]? with
  | none =>
      have hnone : m.toList.find? (·.1 = k) = none := by
        rw [List.find?_eq_none]
        rintro ⟨a, v⟩ hmem heq
        have hkey : a = k := of_decide_eq_true heq
        rw [ExtTreeMap.mem_toList_iff_getElem?_eq_some, hkey, hget] at hmem
        cases hmem
      rw [hnone]
      rfl
  | some v =>
      have hmem := ExtTreeMap.mem_toList_iff_getElem?_eq_some.mpr hget
      cases hfind : m.toList.find? (·.1 = k) with
      | none =>
          rw [List.find?_eq_none] at hfind
          exact absurd (decide_eq_true rfl) (hfind _ hmem)
      | some e =>
          obtain ⟨a, w⟩ := e
          have hother := List.mem_of_find?_eq_some hfind
          have heq : a = k := by simpa using List.find?_some hfind
          rw [ExtTreeMap.mem_toList_iff_getElem?_eq_some, heq, hget] at hother
          obtain rfl := Option.some.inj hother
          rw [heq]
          rfl

end RealtimeEx.StdMap
