import Mathlib.Algebra.Order.Ring.Int
import Mathlib.Data.List.Induction
import Mathlib.Tactic.Common

/-!
# `std::map` and `std::set`

Ordered containers without duplicate keys, and the facts about iterating over
them that do not depend on what is stored.
-/

namespace RealtimeEx

open Std

universe u v

/-- `std::map<κ, ν>`. -/
abbrev StdMap (κ : Type u) (ν : Type v) [Ord κ] := ExtTreeMap κ ν

/-- `std::set<κ>`. -/
abbrev StdSet (κ : Type u) [Ord κ] := ExtTreeSet κ

variable {κ : Type u} {ν : Type v} [Ord κ] [TransOrd κ] [LawfulEqOrd κ]

namespace StdSet

@[simp] theorem mem_insert {s : StdSet κ} {k a : κ} :
    a ∈ s.insert k ↔ k = a ∨ a ∈ s := by
  simp [ExtTreeSet.mem_insert]

@[simp] theorem mem_erase {s : StdSet κ} {k a : κ} :
    a ∈ s.erase k ↔ k ≠ a ∧ a ∈ s := by
  simp [ExtTreeSet.mem_erase]

theorem empty_union (s : StdSet κ) : ∅ ∪ s = s := by
  apply ExtTreeSet.ext_mem
  simp

theorem union_empty (s : StdSet κ) : s ∪ ∅ = s := by
  apply ExtTreeSet.ext_mem
  simp

theorem mem_foldl_insert {s : StdSet κ} {ks : List κ} {a : κ} :
    a ∈ ks.foldl (fun s k => s.insert k) s ↔ a ∈ s ∨ a ∈ ks := by
  induction ks generalizing s with
  | nil => simp
  | cons k ks ih =>
      rw [List.foldl_cons, ih, mem_insert, List.mem_cons]
      constructor
      · rintro ((rfl | h) | h)
        · exact .inr (.inl rfl)
        · exact .inl h
        · exact .inr (.inr h)
      · rintro (h | rfl | h)
        · exact .inl (.inr h)
        · exact .inl (.inl rfl)
        · exact .inr h

/-- Inserting the elements of a set into another one is the union. -/
theorem foldl_insert_toList (s t : StdSet κ) :
    t.toList.foldl (fun s k => s.insert k) s = s ∪ t := by
  apply ExtTreeSet.ext_mem
  intro a
  rw [mem_foldl_insert, ExtTreeSet.mem_toList, ExtTreeSet.mem_union_iff]

/-- A set of different elements has as many. -/
theorem length_toList_foldl_insert {ks : List κ} (hks : ks.Nodup) :
    (ks.foldl (fun s k => s.insert k) (∅ : StdSet κ)).toList.length = ks.length := by
  rw [ExtTreeSet.length_toList]
  induction ks using List.reverseRecOn with
  | nil => exact ExtTreeSet.size_empty
  | append_singleton ks k ih =>
      obtain ⟨hfront, -, hdisjoint⟩ := List.nodup_append.mp hks
      have hnew : k ∉ ks.foldl (fun s k => s.insert k) (∅ : StdSet κ) := by
        rw [mem_foldl_insert]
        rintro (hempty | hmem)
        · exact ExtTreeSet.not_mem_empty hempty
        · exact hdisjoint k hmem k List.mem_cons_self rfl
      rw [← ExtTreeSet.contains_iff_mem] at hnew
      rw [List.foldl_append, List.foldl_cons, List.foldl_nil, ExtTreeSet.size_insert,
        if_neg hnew, ih hfront, List.length_append, List.length_singleton]

end StdSet

namespace StdMap

/-- Inserting entries computed from values: the keys are those that were there and the
computed ones. -/
theorem mem_foldl_insert {α : Type*} {f : α → κ} {g : α → ν} {xs : List α} {m : StdMap κ ν}
    {a : κ} :
    a ∈ xs.foldl (fun m x => m.insert (f x) (g x)) m ↔ a ∈ m ∨ ∃ x ∈ xs, f x = a := by
  induction xs generalizing m with
  | nil => simp
  | cons x xs ih =>
      rw [List.foldl_cons, ih, ExtTreeMap.mem_insert]
      simp only [LawfulEqCmp.compare_eq_iff_eq, List.mem_cons, exists_eq_or_imp]
      tauto

variable [DecidableEq κ]

@[simp] theorem getElem?_insert {m : StdMap κ ν} {k a : κ} {v : ν} :
    (m.insert k v)[a]? = if k = a then some v else m[a]? := by
  simp [ExtTreeMap.getElem?_insert]

@[simp] theorem getElem?_erase {m : StdMap κ ν} {k a : κ} :
    (m.erase k)[a]? = if k = a then none else m[a]? := by
  simp [ExtTreeMap.getElem?_erase]

/-- Inserting values under keys computed from them: every entry that was not
there before has its own key. -/
theorem key_of_getElem?_foldl_insert {f : ν → κ} {vs : List ν} {m : StdMap κ ν}
    {k : κ} {v : ν} (hm : ∀ k v, m[k]? = some v → f v = k)
    (h : (vs.foldl (fun m v => m.insert (f v) v) m)[k]? = some v) :
    f v = k := by
  induction vs generalizing m with
  | nil => exact hm k v h
  | cons w vs ih =>
      refine ih ?_ h
      intro k v hv
      rw [getElem?_insert] at hv
      split at hv
      · rename_i hkey
        obtain rfl := Option.some.inj hv
        exact hkey
      · exact hm k v hv

/-- After a series of insertions a key that was inserted has the value of one
of its insertions. -/
theorem exists_getElem?_foldl_insert {α : Type*} {f : α → κ} {g : α → ν}
    {xs : List α} (m : StdMap κ ν) {x : α} (hx : x ∈ xs) :
    ∃ y ∈ xs, f y = f x ∧
      (xs.foldl (fun m x => m.insert (f x) (g x)) m)[f x]? = some (g y) := by
  induction xs using List.reverseRecOn with
  | nil => simp at hx
  | append_singleton xs y ih =>
      rw [List.foldl_append, List.foldl_cons, List.foldl_nil, getElem?_insert]
      by_cases hkey : f y = f x
      · exact ⟨y, by simp, hkey, by rw [if_pos hkey]⟩
      · have hmem : x ∈ xs := by
          rcases List.mem_append.mp hx with h | h
          · exact h
          · exact absurd (congrArg f (List.mem_singleton.mp h).symm) hkey
        obtain ⟨z, hz, hzkey, hget⟩ := ih hmem
        exact ⟨z, List.mem_append_left _ hz, hzkey, by rw [if_neg hkey, hget]⟩

/-- A key that is not inserted keeps its value. -/
theorem getElem?_foldl_insert_of_forall_ne {α : Type*} {f : α → κ} {g : α → ν}
    {xs : List α} (m : StdMap κ ν) {k : κ} (hk : ∀ x ∈ xs, f x ≠ k) :
    (xs.foldl (fun m x => m.insert (f x) (g x)) m)[k]? = m[k]? := by
  induction xs generalizing m with
  | nil => rfl
  | cons x xs ih =>
      obtain ⟨hx, hxs⟩ := List.forall_mem_cons.mp hk
      rw [List.foldl_cons, ih _ hxs, getElem?_insert, if_neg hx]

/-- An entry after a series of insertions was there before or was inserted. -/
theorem exists_of_getElem?_foldl_insert {α : Type*} {f : α → κ} {g : α → ν}
    {xs : List α} {m : StdMap κ ν} {k : κ} {v : ν}
    (h : (xs.foldl (fun m x => m.insert (f x) (g x)) m)[k]? = some v) :
    m[k]? = some v ∨ ∃ x ∈ xs, f x = k ∧ g x = v := by
  by_cases hk : ∃ x ∈ xs, f x = k
  · obtain ⟨x, hx, rfl⟩ := hk
    obtain ⟨y, hy, hkey, hget⟩ := exists_getElem?_foldl_insert m hx
    exact .inr ⟨y, hy, hkey, Option.some.inj (hget.symm.trans h)⟩
  · rw [getElem?_foldl_insert_of_forall_ne m fun x hx hxk => hk ⟨x, hx, hxk⟩] at h
    exact .inl h

/-- What a series of insertions of new keys adds, when equal keys get equal
values. -/
theorem getElem?_foldl_insert_eq_some {α : Type*} {f : α → κ} {g : α → ν}
    {xs : List α} {m : StdMap κ ν}
    (hfun : ∀ x ∈ xs, ∀ y ∈ xs, f x = f y → g x = g y)
    (hnew : ∀ x ∈ xs, m[f x]? = none) {k : κ} {v : ν} :
    (xs.foldl (fun m x => m.insert (f x) (g x)) m)[k]? = some v ↔
      m[k]? = some v ∨ ∃ x ∈ xs, f x = k ∧ g x = v := by
  by_cases hk : ∃ x ∈ xs, f x = k
  · obtain ⟨x, hx, rfl⟩ := hk
    obtain ⟨y, hy, hkey, hget⟩ := exists_getElem?_foldl_insert m hx
    rw [hget, hnew x hx]
    constructor
    · rintro ⟨⟩
      exact .inr ⟨y, hy, hkey, rfl⟩
    · rintro (⟨⟨⟩⟩ | ⟨z, hz, hzkey, rfl⟩)
      rw [hfun y hy z hz (hkey.trans hzkey.symm)]
  · have hne : ∀ x ∈ xs, f x ≠ k := fun x hx hxk => hk ⟨x, hx, hxk⟩
    rw [getElem?_foldl_insert_of_forall_ne m hne]
    constructor
    · exact .inl
    · rintro (h | ⟨x, hx, hxk, -⟩)
      · exact h
      · exact absurd hxk (hne x hx)

theorem getElem?_foldl_erase {α : Type*} (f : α → κ) (xs : List α) (m : StdMap κ ν)
    (k : κ) :
    (xs.foldl (fun m x => m.erase (f x)) m)[k]? =
      if k ∈ xs.map f then none else m[k]? := by
  induction xs generalizing m with
  | nil => simp
  | cons x xs ih =>
      rw [List.foldl_cons, ih, getElem?_erase]
      by_cases hmem : k ∈ xs.map f
      · simp [hmem]
      · by_cases hkey : f x = k
        · simp [hkey]
        · simp [hmem, hkey, Ne.symm hkey]

/-- A map that lists a family of elements lists the remaining ones after the
keys of some of them are erased. -/
theorem getElem?_foldl_erase_eq_some {α : Type*} {P Q : α → Prop} {f : α → κ}
    {g : α → ν} {xs : List α} {m : StdMap κ ν}
    (hm : ∀ k v, m[k]? = some v ↔ ∃ x, P x ∧ f x = k ∧ g x = v)
    (hQ : ∀ x, Q x ↔ P x ∧ x ∉ xs)
    (hapart : ∀ x y, Q x → y ∈ xs → f x ≠ f y) {k : κ} {v : ν} :
    (xs.foldl (fun m x => m.erase (f x)) m)[k]? = some v ↔
      ∃ x, Q x ∧ f x = k ∧ g x = v := by
  rw [getElem?_foldl_erase]
  split
  · rename_i hmem
    obtain ⟨y, hy, rfl⟩ := List.mem_map.mp hmem
    refine iff_of_false (by simp) ?_
    rintro ⟨x, hx, heq, -⟩
    exact hapart x y hx hy heq
  · rename_i hmem
    rw [hm]
    constructor
    · rintro ⟨x, hx, rfl, rfl⟩
      exact ⟨x, (hQ x).mpr ⟨hx, fun hxs => hmem (List.mem_map_of_mem hxs)⟩, rfl, rfl⟩
    · rintro ⟨x, hx, heq⟩
      exact ⟨x, ((hQ x).mp hx).1, heq⟩

theorem foldl_insert_toList_aux (es : List (κ × ν)) (m : StdMap κ ν)
    (hes : es.Pairwise fun a b => a.1 ≠ b.1) (a : κ) :
    (es.foldl (fun m e => m.insert e.1 e.2) m)[a]? =
      ((es.find? fun e => decide (e.1 = a)).map Prod.snd).or m[a]? := by
  induction es generalizing m with
  | nil => simp
  | cons e es ih =>
      obtain ⟨hhead, htail⟩ := List.pairwise_cons.mp hes
      rw [List.foldl_cons, ih _ htail, List.find?_cons, getElem?_insert]
      by_cases hkey : e.1 = a
      · have hnone : es.find? (fun e => decide (e.1 = a)) = none := by
          rw [List.find?_eq_none]
          intro d hd
          simpa [← hkey] using (hhead d hd).symm
        simp [hkey, hnone]
      · simp [hkey]

/-- A map is rebuilt by inserting its entries one after the other. -/
theorem foldl_insert_toList (m : StdMap κ ν) :
    m.toList.foldl (fun m e => m.insert e.1 e.2) (∅ : StdMap κ ν) = m := by
  have hkeys : m.toList.Pairwise fun a b => a.1 ≠ b.1 :=
    m.distinct_keys_toList.imp fun h heq => h (by rw [heq]; exact compare_self)
  apply ExtTreeMap.ext_getElem?
  intro a
  rw [foldl_insert_toList_aux _ _ hkeys]
  cases hfind : m.toList.find? fun e => decide (e.1 = a) with
  | none =>
      have hall := List.find?_eq_none.mp hfind
      cases hget : m[a]? with
      | none => simp
      | some v =>
          have hmem := ExtTreeMap.mem_toList_iff_getElem?_eq_some.mpr hget
          simpa using hall _ hmem
  | some e =>
      have hmem := List.mem_of_find?_eq_some hfind
      have hkey : e.1 = a := by simpa using List.find?_some hfind
      have hget := ExtTreeMap.mem_toList_iff_getElem?_eq_some.mp hmem
      rw [← hkey, hget]
      simp

omit [DecidableEq κ] in
theorem nodup_toList (m : StdMap κ ν) : m.toList.Nodup :=
  m.distinct_keys_toList.imp fun h heq => h (by rw [heq]; exact compare_self)

theorem toList_insert_perm {m : StdMap κ ν} {k : κ} (hnone : m[k]? = none) (v : ν) :
    (m.insert k v).toList.Perm ((k, v) :: m.toList) := by
  have hnew : (k, v) ∉ m.toList := by
    rw [ExtTreeMap.mem_toList_iff_getElem?_eq_some, hnone]
    exact Option.not_mem_none _
  rw [List.perm_ext_iff_of_nodup (nodup_toList _) (List.nodup_cons.mpr ⟨hnew, nodup_toList m⟩)]
  rintro ⟨a, w⟩
  rw [ExtTreeMap.mem_toList_iff_getElem?_eq_some, List.mem_cons,
    ExtTreeMap.mem_toList_iff_getElem?_eq_some, getElem?_insert, Prod.mk.injEq]
  split
  · rename_i hkey
    obtain rfl := hkey
    rw [hnone]
    simp [eq_comm]
  · rename_i hkey
    simp [Ne.symm hkey]

theorem toList_erase_perm {m : StdMap κ ν} {k : κ} {v : ν} (hget : m[k]? = some v) :
    m.toList.Perm ((k, v) :: (m.erase k).toList) := by
  have hback : (m.erase k).insert k v = m := by
    apply ExtTreeMap.ext_getElem?
    intro a
    rw [getElem?_insert, getElem?_erase]
    split
    · rename_i hkey
      rw [← hkey, hget]
    · rfl
  have hperm := toList_insert_perm (m := m.erase k) (k := k) (by simp) v
  rwa [hback] at hperm

/-- A map of different keys has exactly the entries that were inserted. -/
theorem toList_foldl_insert_perm {α : Type*} {f : α → κ} (g : α → ν) {xs : List α}
    (hxs : (xs.map f).Nodup) :
    (xs.foldl (fun m x => m.insert (f x) (g x)) (∅ : StdMap κ ν)).toList.Perm
      (xs.map fun x => (f x, g x)) := by
  induction xs using List.reverseRecOn with
  | nil => exact List.Perm.of_eq rfl
  | append_singleton xs x ih =>
      rw [List.map_append, List.map_cons, List.map_nil] at hxs
      obtain ⟨hfront, -, hdisjoint⟩ := List.nodup_append.mp hxs
      have hnew : (xs.foldl (fun m x => m.insert (f x) (g x)) (∅ : StdMap κ ν))[f x]? =
          none := by
        rw [getElem?_foldl_insert_of_forall_ne]
        · exact ExtTreeMap.getElem?_empty
        · exact fun y hy => hdisjoint (f y) (List.mem_map_of_mem hy) (f x) List.mem_cons_self
      rw [List.foldl_append, List.foldl_cons, List.foldl_nil, List.map_append, List.map_cons,
        List.map_nil]
      exact (toList_insert_perm hnew (g x)).trans
        (((ih hfront).cons _).trans (List.perm_append_singleton _ _).symm)

end StdMap

/-- The element that a search finds is the one that is taken out. -/
theorem countP_eraseP_of_find? {α : Type*} {p q : α → Bool} {l : List α} {a : α}
    (h : l.find? p = some a) :
    l.countP q = (l.eraseP p).countP q + if q a then 1 else 0 := by
  induction l with
  | nil => cases h
  | cons b l ih =>
      rw [List.find?_cons] at h
      cases hb : p b with
      | true =>
          rw [hb] at h
          obtain rfl := Option.some.inj h
          rw [List.eraseP_cons_of_pos hb, List.countP_cons]
      | false =>
          rw [hb] at h
          rw [List.eraseP_cons_of_neg (by simp [hb]), List.countP_cons, List.countP_cons, ih h]
          omega

end RealtimeEx
