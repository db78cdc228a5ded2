import RealtimeEx.Support.DoublyLinked
import RealtimeEx.Support.LinkLists

/-!
# `TLink`

The lists of `link.inl`: a list owns two nodes that are always there, a node carries its own
pointers, and a node that is in a list is taken out without the list.  The operations are
modelled pointer by pointer; what they do to the lists is what `LinkLists` says, and no null
pointer is followed.
-/

set_option linter.unusedSectionVars false

namespace RealtimeEx.Base

/-- A node, or `m_head` or `m_tail` of a list. -/
inductive LinkPtr (κ : Type*)
  | head (k : κ)
  | tail (k : κ)
  | node (id : ℕ)
  deriving DecidableEq

/-- The pointers of all lists and nodes. -/
abbrev Links (κ : Type*) := LinkHeap (LinkPtr κ)

open LinkHeap LinkPtr

variable {κ : Type*} [DecidableEq κ]

/-! ## `TLinkNode` -/

namespace TLinkNode

def isLink (H : Links κ) (pNode : LinkPtr κ) : Bool :=
  (H.pNext pNode).isSome && (H.pPre pNode).isSome

def remove (H : Links κ) (pNode : LinkPtr κ) : Links κ :=
  match H.pNext pNode, H.pPre pNode with
  | some next, some pre =>
      (((H.setNext pre (some next)).setPre next (some pre)).setPre pNode none).setNext pNode none
  | _, _ => (H.setPre pNode none).setNext pNode none

end TLinkNode

/-! ## `TLink` -/

namespace TLink

open TLinkNode

/-- The constructors of the lists and the nodes have been run. -/
def initial : Links κ where
  pPre
    | tail k => some (head k)
    | _ => none
  pNext
    | head k => some (tail k)
    | _ => none

/-- `none` is a null pointer that is followed. -/
def pushTail (k : κ) (pNode : LinkPtr κ) (H : Links κ) : Option (Links κ × Bool) :=
  if isLink H pNode then
    some (H, false)
  else
    let H := H.setNext pNode (some (tail k))
    let H := H.setPre pNode (H.pPre (tail k))
    match H.pPre (tail k) with
    | none => none
    | some pre => some ((H.setNext pre (some pNode)).setPre (tail k) (some pNode), true)

def empty (k : κ) (H : Links κ) : Bool := decide (H.pNext (head k) = some (tail k))

def getTail (k : κ) (H : Links κ) : Option (LinkPtr κ) :=
  if empty k H then none else H.pPre (tail k)

def pushHead (k : κ) (pNode : LinkPtr κ) (H : Links κ) : Option (Links κ × Bool) :=
  if isLink H pNode then
    some (H, false)
  else
    let H := H.setPre pNode (some (head k))
    let H := H.setNext pNode (H.pNext (head k))
    match H.pNext (head k) with
    | none => none
    | some next => some ((H.setPre next (some pNode)).setNext (head k) (some pNode), true)

def getHead (k : κ) (H : Links κ) : Option (LinkPtr κ) :=
  if empty k H then none else H.pNext (head k)

def insert (pWhere pNode : LinkPtr κ) (H : Links κ) : Option (Links κ × Bool) :=
  if isLink H pNode || !isLink H pWhere then
    some (H, false)
  else
    let H := H.setNext pNode (H.pNext pWhere)
    let H := H.setPre pNode (some pWhere)
    match H.pNext pWhere with
    | none => none
    | some next => some ((H.setPre next (some pNode)).setNext pWhere (some pNode), true)

/-- `splice` of the list `k` into the list `rhs`: the pointers of `m_head` and `m_tail` are
copied, and nothing else. -/
def splice (k rhs : κ) (H : Links κ) : Links κ :=
  let H := (H.setPre (head rhs) (H.pPre (head k))).setNext (head rhs) (H.pNext (head k))
  let H := (H.setPre (tail rhs) (H.pPre (tail k))).setNext (tail rhs) (H.pNext (tail k))
  let H := (H.setNext (head k) (some (tail k))).setPre (tail k) (some (head k))
  (H.setPre (head k) none).setNext (tail k) none

end TLink

/-! ## The lists in memory -/

/-- The objects of a list from `m_head` to `m_tail`. -/
def line (L : LinkLists κ) (k : κ) : List (LinkPtr κ) :=
  head k :: ((L.list k).map node ++ [tail k])

/-- The pointers are those of the lists. -/
structure Represents (H : Links κ) (L : LinkLists κ) : Prop where
  laid : ∀ k, H.Laid (line L k)
  free : ∀ id, L.link id = none → H.pNext (node id) = none ∧ H.pPre (node id) = none
  pPre_head : ∀ k, H.pPre (head k) = none
  pNext_tail : ∀ k, H.pNext (tail k) = none

section

variable {H : Links κ} {L L' : LinkLists κ} {k : κ} {id : ℕ} {a b p : LinkPtr κ}
  {front back : List (LinkPtr κ)}

theorem mem_line_node : node id ∈ line L k ↔ L.link id = some k := by
  rw [← L.mem_list]
  simp [line]

theorem mem_line (hp : p ∈ line L k) :
    p = head k ∨ p = tail k ∨ ∃ id, p = node id ∧ L.link id = some k := by
  rw [line, List.mem_cons, List.mem_append, List.mem_singleton, List.mem_map] at hp
  rcases hp with rfl | ⟨id, hid, rfl⟩ | rfl
  · exact .inl rfl
  · exact .inr (.inr ⟨id, rfl, (L.mem_list k id).mp hid⟩)
  · exact .inr (.inl rfl)

/-- No object is in two lists. -/
theorem eq_of_mem_line {j : κ} (hj : p ∈ line L j) (hk : p ∈ line L k) : j = k := by
  rcases mem_line hj with rfl | rfl | ⟨id, rfl, hid⟩
  · rcases mem_line hk with heq | heq | ⟨id, heq, -⟩
    · exact LinkPtr.head.inj heq
    · cases heq
    · cases heq
  · rcases mem_line hk with heq | heq | ⟨id, heq, -⟩
    · cases heq
    · exact LinkPtr.tail.inj heq
    · cases heq
  · rw [mem_line_node] at hk
    exact Option.some.inj (hid.symm.trans hk)

theorem nodup_line : (line L k).Nodup := by
  have hnode : ((L.list k).map (node : ℕ → LinkPtr κ)).Nodup :=
    (L.nodup k).map fun _ _ heq => LinkPtr.node.inj heq
  rw [line, List.nodup_cons, List.nodup_append]
  refine ⟨by simp, hnode, List.nodup_singleton _, ?_⟩
  rintro p hp q hq rfl
  rw [List.mem_singleton] at hq
  subst hq
  simp at hp

/-- The left one of two neighbours is no `m_tail`, the right one no `m_head`. -/
theorem not_sentinel (hline : line L k = front ++ a :: b :: back) :
    (∀ j, a ≠ tail j) ∧ ∀ j, b ≠ head j := by
  constructor
  · rintro j rfl
    have hmem : tail j ∈ (line L k).dropLast := by
      rw [hline, List.dropLast_append_of_ne_nil (by simp)]
      simp
    rw [line, ← List.cons_append, List.dropLast_concat] at hmem
    simp at hmem
  · rintro j rfl
    have hmem : head j ∈ (line L k).tail := by
      rw [hline]
      cases front with
      | nil => simp
      | cons p front => simp
    simp [line] at hmem

theorem mem_of_line_eq (hline : line L k = front ++ a :: b :: back) :
    a ∈ line L k ∧ b ∈ line L k := by
  rw [hline]
  simp

/-- A node is put between two neighbours. -/
theorem Represents.between (h : Represents H L)
    (hline : line L k = front ++ a :: b :: back) (hid : L.link id = none)
    (hline' : line L' k = front ++ a :: node id :: b :: back)
    (hlist : ∀ j, j ≠ k → L'.list j = L.list j)
    (hlink : ∀ i, L'.link i = if i = id then some k else L.link i) :
    Represents (H.between a (node id) b) L' := by
  obtain ⟨ha, hb⟩ := mem_of_line_eq hline
  obtain ⟨hatail, hbhead⟩ := not_sentinel hline
  have hfree : ∀ j, node id ∉ line L j := by
    intro j hmem
    rw [mem_line_node, hid] at hmem
    cases hmem
  constructor
  · intro j
    by_cases hjk : j = k
    · subst hjk
      rw [hline']
      have hlaid := h.laid j
      have hnodup := nodup_line (L := L) (k := j)
      have hnot := hfree j
      rw [hline] at hlaid hnodup hnot
      exact hlaid.between hnodup hnot
    · have hsame : line L' j = line L j := by rw [line, line, hlist j hjk]
      rw [hsame]
      exact (h.laid j).between_of_not_mem (fun hmem => hjk (eq_of_mem_line hmem ha)) (hfree j)
        fun hmem => hjk (eq_of_mem_line hmem hb)
  · intro i hi
    rw [hlink] at hi
    split at hi
    · cases hi
    · rename_i hne
      have hother : ∀ {p : LinkPtr κ}, p ∈ line L k → node i ≠ p := by
        rintro p hp rfl
        rw [mem_line_node, hi] at hp
        cases hp
      have hnode : node i ≠ (node id : LinkPtr κ) := fun heq => hne (LinkPtr.node.inj heq)
      rw [pNext_between, pPre_between, if_neg (hother ha), if_neg (hother hb), if_neg hnode,
        if_neg hnode]
      exact h.free i hi
  · intro j
    rw [pPre_between, if_neg (Ne.symm (hbhead j)), if_neg (by simp)]
    exact h.pPre_head j
  · intro j
    rw [pNext_between, if_neg (Ne.symm (hatail j)), if_neg (by simp)]
    exact h.pNext_tail j

/-- A node is taken out from between its neighbours. -/
theorem Represents.without (h : Represents H L)
    (hline : line L k = front ++ a :: node id :: b :: back)
    (hline' : line L' k = front ++ a :: b :: back)
    (hlist : ∀ j, j ≠ k → L'.list j = L.list j)
    (hlink : ∀ i, L'.link i = if i = id then none else L.link i) :
    Represents (H.without a (node id) b) L' := by
  obtain ⟨hatail, -⟩ := not_sentinel hline
  have hshift : line L k = (front ++ [a]) ++ node id :: b :: back := by
    rw [hline, List.append_assoc, List.singleton_append]
  obtain ⟨-, hbhead⟩ := not_sentinel hshift
  obtain ⟨ha, hid⟩ := mem_of_line_eq hline
  obtain ⟨-, hb⟩ := mem_of_line_eq hshift
  constructor
  · intro j
    by_cases hjk : j = k
    · subst hjk
      rw [hline']
      have hlaid := h.laid j
      have hnodup := nodup_line (L := L) (k := j)
      rw [hline] at hlaid hnodup
      exact hlaid.without hnodup
    · have hsame : line L' j = line L j := by rw [line, line, hlist j hjk]
      rw [hsame]
      exact (h.laid j).without_of_not_mem (fun hmem => hjk (eq_of_mem_line hmem ha))
        (fun hmem => hjk (eq_of_mem_line hmem hid)) fun hmem => hjk (eq_of_mem_line hmem hb)
  · intro i hi
    rw [pNext_without, pPre_without]
    by_cases hii : i = id
    · rw [hii, if_pos rfl, if_pos rfl]
      exact ⟨rfl, rfl⟩
    · rw [hlink, if_neg hii] at hi
      have hother : ∀ {p : LinkPtr κ}, p ∈ line L k → node i ≠ p := by
        rintro p hp rfl
        rw [mem_line_node, hi] at hp
        cases hp
      rw [if_neg (hother hid), if_neg (hother hid), if_neg (hother ha), if_neg (hother hb)]
      exact h.free i hi
  · intro j
    rw [pPre_without, if_neg (by simp), if_neg (Ne.symm (hbhead j))]
    exact h.pPre_head j
  · intro j
    rw [pNext_without, if_neg (by simp), if_neg (Ne.symm (hatail j))]
    exact h.pNext_tail j

/-! ## What the operations do -/

/-- The last object in front of `m_tail` or of a node. -/
theorem exists_last (k : κ) (is : List ℕ) :
    ∃ front a, head k :: is.map node = front ++ [a] := by
  rcases List.eq_nil_or_concat' (head k :: is.map (node : ℕ → LinkPtr κ)) with h | h
  · cases h
  · exact h

/-- The first object behind `m_head` or a node. -/
theorem exists_first (k : κ) (is : List ℕ) :
    ∃ b back, is.map node ++ [tail k] = b :: back :=
  List.exists_cons_of_ne_nil (by simp)

/-- A node of a list with its two neighbours. -/
theorem exists_neighbours (hlink : L.link id = some k) :
    ∃ s t front a b back, L.list k = s ++ id :: t ∧ id ∉ s ∧
      head k :: s.map node = front ++ [a] ∧ t.map node ++ [tail k] = b :: back ∧
      line L k = front ++ a :: node id :: b :: back := by
  obtain ⟨s, t, hlist, hs⟩ := List.eq_append_cons_of_mem ((L.mem_list k id).mpr hlink)
  obtain ⟨front, a, hfront⟩ := exists_last k s
  obtain ⟨b, back, hback⟩ := exists_first k t
  refine ⟨s, t, front, a, b, back, hlist, hs, hfront, hback, ?_⟩
  calc
    line L k = (head k :: s.map node) ++ node id :: (t.map node ++ [tail k]) := by
      rw [line, hlist]
      simp
    _ = front ++ a :: node id :: b :: back := by
      rw [hfront, hback]
      simp

/-- The pointers of two neighbours. -/
theorem Represents.joined (h : Represents H L) (hline : line L k = front ++ a :: b :: back) :
    H.Joined a b := by
  have hlaid := h.laid k
  rw [hline] at hlaid
  exact (laid_append_iff.mp hlaid).2.1

theorem Represents.joined_right (h : Represents H L)
    (hline : line L k = front ++ a :: p :: b :: back) : H.Joined p b := by
  rw [← List.singleton_append, ← List.append_assoc] at hline
  exact h.joined hline

theorem Represents.isLink_node (h : Represents H L) (id : ℕ) :
    TLinkNode.isLink H (node id) = (L.link id).isSome := by
  cases hlink : L.link id with
  | none =>
      obtain ⟨hnext, hpre⟩ := h.free id hlink
      rw [TLinkNode.isLink, hnext, hpre]
      rfl
  | some k =>
      obtain ⟨s, t, front, a, b, back, -, -, -, -, hline⟩ := exists_neighbours hlink
      have hleft := h.joined hline
      have hright := h.joined_right hline
      rw [TLinkNode.isLink, hleft.2, hright.1]
      rfl

theorem Represents.remove (h : Represents H L) (id : ℕ) :
    Represents (TLinkNode.remove H (node id)) (L.remove id) := by
  cases hlink : L.link id with
  | none =>
      obtain ⟨hnext, hpre⟩ := h.free id hlink
      have hheap : TLinkNode.remove H (node id) = H := by
        rw [TLinkNode.remove, hnext]
        have hpre' : Function.update H.pPre (node id) none = H.pPre := by
          rw [← hpre, Function.update_eq_self]
        have hnext' : Function.update H.pNext (node id) none = H.pNext := by
          rw [← hnext, Function.update_eq_self]
        simp only [setPre, setNext, hpre', hnext']
      rw [hheap, LinkLists.remove_of_not_linked hlink]
      exact h
  | some k =>
      obtain ⟨s, t, front, a, b, back, hlist, hs, hfront, hback, hline⟩ :=
        exists_neighbours hlink
      have hleft := h.joined hline
      have hright := h.joined_right hline
      have hheap : TLinkNode.remove H (node id) = H.without a (node id) b := by
        rw [TLinkNode.remove, hright.1, hleft.2]
        rfl
      have hlists : (L.remove id).list = Function.update L.list k (s ++ t) := by
        rw [LinkLists.list_remove hlink, hlist, List.erase_append_right _ hs,
          List.erase_cons_head]
      rw [hheap]
      refine h.without hline ?_ ?_ fun i => LinkLists.link_remove i
      · calc
          line (L.remove id) k = (head k :: s.map node) ++ (t.map node ++ [tail k]) := by
            rw [line, hlists, Function.update_self]
            simp
          _ = front ++ a :: b :: back := by
            rw [hfront, hback]
            simp
      · intro j hj
        rw [hlists, Function.update_of_ne hj]

/-- A linked node is pushed or inserted nowhere. -/
theorem Represents.pushTail (h : Represents H L) (k : κ) (id : ℕ) :
    ∃ H', TLink.pushTail k (node id) H = some (H', (L.link id).isNone) ∧
      Represents H' (L.pushTail k id) := by
  rw [TLink.pushTail, h.isLink_node]
  cases hlink : L.link id with
  | some j =>
      have hlists : L.pushTail k id = L := by
        rw [LinkLists.pushTail, dif_neg (by simp [hlink])]
      refine ⟨H, rfl, ?_⟩
      rw [hlists]
      exact h
  | none =>
      obtain ⟨front, a, hfront⟩ := exists_last k (L.list k)
      have hline : line L k = front ++ a :: tail k :: [] := by
        rw [line, ← List.cons_append, hfront]
        simp
      have hjoined := h.joined hline
      have hpre : ((H.setNext (node id) (some (tail k))).setPre (node id)
          (H.pPre (tail k))).pPre (tail k) = some a := by
        rw [pPre_setPre, if_neg (by simp), pPre_setNext, hjoined.2]
      refine ⟨H.between a (node id) (tail k), ?_, ?_⟩
      · simp only [Option.isSome_none, Bool.false_eq_true, if_false, pPre_setNext, hpre]
        rw [hjoined.2]
        rfl
      · refine h.between hline hlink ?_ ?_ fun i => LinkLists.link_pushTail hlink i
        · rw [line, LinkLists.list_pushTail hlink, Function.update_self, List.map_append,
            List.append_assoc, ← List.cons_append, hfront]
          simp
        · intro j hj
          rw [LinkLists.list_pushTail hlink, Function.update_of_ne hj]

theorem Represents.pushHead (h : Represents H L) (k : κ) (id : ℕ) :
    ∃ H', TLink.pushHead k (node id) H = some (H', (L.link id).isNone) ∧
      Represents H' (L.pushHead k id) := by
  rw [TLink.pushHead, h.isLink_node]
  cases hlink : L.link id with
  | some j =>
      have hlists : L.pushHead k id = L := by
        rw [LinkLists.pushHead, dif_neg (by simp [hlink])]
      refine ⟨H, rfl, ?_⟩
      rw [hlists]
      exact h
  | none =>
      obtain ⟨b, back, hback⟩ := exists_first k (L.list k)
      have hline : line L k = [] ++ head k :: b :: back := by
        rw [line, hback, List.nil_append]
      have hjoined := h.joined hline
      have hnext : ((H.setPre (node id) (some (head k))).setNext (node id)
          (H.pNext (head k))).pNext (head k) = some b := by
        rw [pNext_setNext, if_neg (by simp), pNext_setPre, hjoined.1]
      have hlists : L.pushHead k id = L.add k id (id :: L.list k) hlink (.refl _) := by
        rw [LinkLists.pushHead, dif_pos hlink]
      refine ⟨H.between (head k) (node id) b, ?_, ?_⟩
      · simp only [Option.isSome_none, Bool.false_eq_true, if_false, pNext_setPre, hnext]
        rw [hjoined.1]
        rfl
      · rw [hlists]
        refine h.between hline hlink ?_ ?_ fun i => LinkLists.link_add hlink _ i
        · rw [line, LinkLists.list_add, Function.update_self, List.map_cons, List.cons_append,
            hback, List.nil_append]
        · intro j hj
          rw [LinkLists.list_add, Function.update_of_ne hj]

/-- Nothing is inserted behind a node that is not linked. -/
theorem Represents.insert (h : Represents H L) (i id : ℕ) :
    ∃ H', TLink.insert (node i) (node id) H =
        some (H', (L.link id).isNone && (L.link i).isSome) ∧
      Represents H' (L.insertAfter i id) := by
  rw [TLink.insert, h.isLink_node, h.isLink_node]
  cases hlink : L.link id with
  | some j =>
      have hlists : L.insertAfter i id = L := by
        rw [LinkLists.insertAfter, dif_neg (by simp [hlink])]
      refine ⟨H, rfl, ?_⟩
      rw [hlists]
      exact h
  | none =>
      cases hi : L.link i with
      | none =>
          have hlists : L.insertAfter i id = L := by
            rw [LinkLists.insertAfter, dif_pos hlink]
            split
            · rfl
            · rename_i hsome
              rw [hi] at hsome
              cases hsome
          refine ⟨H, rfl, ?_⟩
          rw [hlists]
          exact h
      | some k =>
          obtain ⟨s, t, front, a, b, back, hlist, hs, hfront, hback, hline⟩ :=
            exists_neighbours hi
          have hjoined := h.joined_right hline
          have hne : i ≠ id := by
            rintro rfl
            rw [hlink] at hi
            cases hi
          have hnext : ((H.setNext (node id) (H.pNext (node i))).setPre (node id)
              (some (node i))).pNext (node i) = some b := by
            rw [pNext_setPre, pNext_setNext, if_neg (by simpa using hne), hjoined.1]
          have hmem : i ∈ L.list k := (L.mem_list k i).mpr hi
          have hlists : L.insertAfter i id = L.add k id (LinkLists.insertBehind i id (L.list k))
              hlink (LinkLists.insertBehind_perm hmem id) := by
            rw [LinkLists.insertAfter, dif_pos hlink]
            split
            · rename_i hnone
              rw [hi] at hnone
              cases hnone
            · rename_i k' hsome
              rw [hi] at hsome
              cases hsome
              rfl
          have hshift : line L k = (front ++ [a]) ++ node i :: b :: back := by
            rw [hline, List.append_assoc, List.singleton_append]
          refine ⟨H.between (node i) (node id) b, ?_, ?_⟩
          · simp only [Option.isSome_none, Option.isSome_some, Bool.not_true, Bool.or_self,
              Bool.false_eq_true, if_false, hnext]
            rw [hjoined.1]
            rfl
          · rw [hlists]
            refine h.between hshift hlink ?_ ?_ fun i => LinkLists.link_add hlink _ i
            · rw [line, LinkLists.list_add, Function.update_self, hlist,
                LinkLists.insertBehind_append hs, ← hfront, ← hback]
              simp
            · intro j hj
              rw [LinkLists.list_add, Function.update_of_ne hj]

theorem Represents.pNext_head (h : Represents H L) (k : κ) :
    H.pNext (head k) = some (((L.list k).head?.map node).getD (tail k)) := by
  obtain ⟨b, back, hback⟩ := exists_first k (L.list k)
  have hline : line L k = [] ++ head k :: b :: back := by
    rw [line, hback, List.nil_append]
  rw [(h.joined hline).1]
  cases hlist : L.list k with
  | nil =>
      rw [hlist] at hback
      exact congrArg some (List.cons.inj hback).1.symm
  | cons i is =>
      rw [hlist] at hback
      exact congrArg some (List.cons.inj hback).1.symm

theorem Represents.empty (h : Represents H L) (k : κ) :
    TLink.empty k H = (L.list k).isEmpty := by
  rw [TLink.empty, h.pNext_head]
  cases L.list k with
  | nil => simp
  | cons i is => simp

theorem Represents.getHead (h : Represents H L) (k : κ) :
    TLink.getHead k H = (L.list k).head?.map node := by
  rw [TLink.getHead, h.empty, h.pNext_head]
  cases L.list k with
  | nil => rfl
  | cons i is => rfl

theorem Represents.getTail (h : Represents H L) (k : κ) :
    TLink.getTail k H = (L.list k).getLast?.map node := by
  rw [TLink.getTail, h.empty]
  rcases List.eq_nil_or_concat' (L.list k) with hlist | ⟨is, i, hlist⟩
  · rw [hlist]
    rfl
  · have hline : line L k = (head k :: is.map node) ++ node i :: tail k :: [] := by
      rw [line, hlist]
      simp
    rw [(h.joined hline).2, hlist]
    simp

/-- The nodes that `splice` hands over still point to the list they come from. -/
theorem Represents.not_splice (h : Represents H L) {rhs : κ} (hne : k ≠ rhs)
    (L' : LinkLists κ) : ¬ Represents (TLink.splice k rhs H) L' := by
  intro h'
  obtain ⟨b, back, hback⟩ := exists_first k (L.list k)
  have hline : line L k = [] ++ head k :: b :: back := by
    rw [line, hback, List.nil_append]
  have hjoined := h.joined hline
  have hbhead := (not_sentinel hline).2
  have hmem := (mem_of_line_eq hline).2
  have hbtail : b ≠ tail rhs := by
    rintro rfl
    rcases mem_line hmem with heq | heq | ⟨id, heq, -⟩
    · cases heq
    · exact hne (LinkPtr.tail.inj heq).symm
    · cases heq
  have hpre : (TLink.splice k rhs H).pPre b = some (head k) := by
    simp only [TLink.splice, pPre_setPre, pPre_setNext, if_neg (hbhead k), if_neg hbtail,
      if_neg (hbhead rhs), hjoined.2, ite_self]
  have hnext : (TLink.splice k rhs H).pNext (head rhs) = some b := by
    have hhead : ¬ head rhs = head k := fun heq => hne (LinkPtr.head.inj heq).symm
    simp only [TLink.splice, pNext_setPre, pNext_setNext, if_neg hhead, reduceCtorEq, if_false,
      if_true, hjoined.1]
  obtain ⟨b', back', hback'⟩ := exists_first rhs (L'.list rhs)
  have hline' : line L' rhs = [] ++ head rhs :: b' :: back' := by
    rw [line, hback', List.nil_append]
  obtain ⟨hnext', hpre'⟩ := h'.joined hline'
  rw [hnext] at hnext'
  rw [← Option.some.inj hnext', hpre] at hpre'
  exact hne (LinkPtr.head.inj (Option.some.inj hpre'))

end

/-! ## Runs -/

/-- A call of a program that uses the lists. -/
inductive LinkCall (κ : Type*)
  | pushTail (k : κ) (id : ℕ)
  | pushHead (k : κ) (id : ℕ)
  | insert (pWhere id : ℕ)
  | remove (id : ℕ)
  | getHead (k : κ)
  | getTail (k : κ)
  | empty (k : κ)
  | isLink (id : ℕ)

/-- What a call returns. -/
inductive LinkResult (κ : Type*)
  | done
  | flag (b : Bool)
  | pointer (p : Option (LinkPtr κ))

/-- A call, pointer by pointer. -/
def TLink.call (H : Links κ) : LinkCall κ → Option (Links κ × LinkResult κ)
  | .pushTail k id => (pushTail k (node id) H).map fun (H, b) => (H, .flag b)
  | .pushHead k id => (pushHead k (node id) H).map fun (H, b) => (H, .flag b)
  | .insert pWhere id => (insert (node pWhere) (node id) H).map fun (H, b) => (H, .flag b)
  | .remove id => some (TLinkNode.remove H (node id), .done)
  | .getHead k => some (H, .pointer (getHead k H))
  | .getTail k => some (H, .pointer (getTail k H))
  | .empty k => some (H, .flag (empty k H))
  | .isLink id => some (H, .flag (TLinkNode.isLink H (node id)))

/-- A call, as far as the lists are concerned. -/
def listCall (L : LinkLists κ) : LinkCall κ → LinkLists κ × LinkResult κ
  | .pushTail k id => (L.pushTail k id, .flag (L.link id).isNone)
  | .pushHead k id => (L.pushHead k id, .flag (L.link id).isNone)
  | .insert pWhere id =>
      (L.insertAfter pWhere id, .flag ((L.link id).isNone && (L.link pWhere).isSome))
  | .remove id => (L.remove id, .done)
  | .getHead k => (L, .pointer ((L.list k).head?.map node))
  | .getTail k => (L, .pointer ((L.list k).getLast?.map node))
  | .empty k => (L, .flag (L.list k).isEmpty)
  | .isLink id => (L, .flag (L.link id).isSome)

/-- The calls of a run, and what they have returned. -/
def TLink.run : List (LinkCall κ) → Links κ → Option (Links κ × List (LinkResult κ))
  | [], H => some (H, [])
  | c :: cs, H => do
      let (H, r) ← call H c
      let (H, rs) ← run cs H
      return (H, r :: rs)

def listRun : List (LinkCall κ) → LinkLists κ → LinkLists κ × List (LinkResult κ)
  | [], L => (L, [])
  | c :: cs, L =>
      ((listRun cs (listCall L c).1).1, (listCall L c).2 :: (listRun cs (listCall L c).1).2)

theorem Represents.initial : Represents (TLink.initial : Links κ) LinkLists.empty where
  laid _ := .cons_cons ⟨rfl, rfl⟩ (.singleton _)
  free _ _ := ⟨rfl, rfl⟩
  pPre_head _ := rfl
  pNext_tail _ := rfl

/-- A call follows no null pointer, returns what it returns of the lists, and leaves their
pointers behind. -/
theorem Represents.call {H : Links κ} {L : LinkLists κ} (h : Represents H L)
    (c : LinkCall κ) :
    ∃ H', TLink.call H c = some (H', (listCall L c).2) ∧ Represents H' (listCall L c).1 := by
  cases c with
  | pushTail k id =>
      obtain ⟨H', hcall, h'⟩ := h.pushTail k id
      exact ⟨H', by rw [TLink.call, hcall]; rfl, h'⟩
  | pushHead k id =>
      obtain ⟨H', hcall, h'⟩ := h.pushHead k id
      exact ⟨H', by rw [TLink.call, hcall]; rfl, h'⟩
  | insert pWhere id =>
      obtain ⟨H', hcall, h'⟩ := h.insert pWhere id
      exact ⟨H', by rw [TLink.call, hcall]; rfl, h'⟩
  | remove id => exact ⟨_, rfl, h.remove id⟩
  | getHead k => exact ⟨H, by rw [TLink.call, h.getHead]; rfl, h⟩
  | getTail k => exact ⟨H, by rw [TLink.call, h.getTail]; rfl, h⟩
  | empty k => exact ⟨H, by rw [TLink.call, h.empty]; rfl, h⟩
  | isLink id => exact ⟨H, by rw [TLink.call, h.isLink_node]; rfl, h⟩

theorem Represents.run {H : Links κ} {L : LinkLists κ} (h : Represents H L)
    (cs : List (LinkCall κ)) :
    ∃ H', TLink.run cs H = some (H', (listRun cs L).2) ∧ Represents H' (listRun cs L).1 := by
  induction cs generalizing H L with
  | nil => exact ⟨H, rfl, h⟩
  | cons c cs ih =>
      obtain ⟨H₁, hcall, h₁⟩ := h.call c
      obtain ⟨H₂, hrun, h₂⟩ := ih h₁
      refine ⟨H₂, ?_, h₂⟩
      rw [TLink.run, hcall]
      simp only [Option.bind_eq_bind, Option.bind_some, hrun]
      rfl

/-- Whatever is called in whatever order, for any number of lists and nodes: no null pointer
is followed, every call returns what it returns of the lists, and the pointers are those of
the lists at the end, forwards and backwards. -/
theorem TLink.run_represents (cs : List (LinkCall κ)) :
    ∃ H, TLink.run cs initial = some (H, (listRun cs LinkLists.empty).2) ∧
      Represents H (listRun cs LinkLists.empty).1 :=
  Represents.initial.run cs

end RealtimeEx.Base
