import RealtimeEx.Support.History
import RealtimeEx.Support.IndexTable

/-!
# The tables of `CNetEventLoop`

The sockets of a loop stand in one vector, and the connecters that have something to send in
another one.  Every object knows its places in them.  The loop releases the sockets that have
been closed at the beginning of a round; handlers may call it at any point of the round.
-/

namespace RealtimeEx.Network.EventLoop

/-- `ENetSocketType`. -/
inductive ENetSocketType
  | eNST_Acceptor
  | eNST_Connector
  deriving DecidableEq

/-- Where `update` is.  While a socket is released and while a connecter is flushed, its handler
is called; between rounds and while the events of a round are handled, the loop is idle. -/
inductive Phase
  | idle
  | closing (nNext : ℕ)
  | releasing (nNext pNetSocket : ℕ)
  | flushing (nNext : ℕ)
  | sending (nNext pNetConnecter : ℕ)

/-- `CNetEventLoop`, with the members of the objects that it handles.  A pointer is a number,
`none` is `nullptr`, `_Invalid_SocketID`, `_Invalid_SocketIndex` or
`_Invalid_SendConnecterIndex`. -/
structure CNetEventLoop where
  vecSocket : List (Option ℕ) := []
  nSocketCount : ℕ := 0
  vecSendConnecter : List (Option ℕ) := []
  nSendConnecterCount : ℕ := 0
  listCloseSocket : List ℕ := []
  bExists : ℕ → Bool := fun _ => false
  eSocketType : ℕ → ENetSocketType := fun _ => .eNST_Acceptor
  nSocketID : ℕ → Option ℕ := fun _ => none
  nSocketIndex : ℕ → Option ℕ := fun _ => none
  nSendConnecterIndex : ℕ → Option ℕ := fun _ => none
  bWaitClose : ℕ → Bool := fun _ => false
  phase : Phase := .idle

/-- `resize` of a vector of pointers. -/
def resize (vec : List (Option ℕ)) (nSize : ℕ) : List (Option ℕ) :=
  vec.take nSize ++ List.replicate (nSize - vec.length) none

/-- The entry in front of `nCount`. -/
def lastEntry (vec : List (Option ℕ)) (nCount : ℕ) : Option ℕ := vec[nCount - 1]?.join

namespace CNetEventLoop

variable (l : CNetEventLoop)

/-! ## The calls -/

def setSocketIndex (pNetSocket : ℕ) (nIndex : Option ℕ) : CNetEventLoop :=
  { l with nSocketIndex := Function.update l.nSocketIndex pNetSocket nIndex }

def setSendConnecterIndex (pNetConnecter : ℕ) (nIndex : Option ℕ) : CNetEventLoop :=
  { l with nSendConnecterIndex := Function.update l.nSendConnecterIndex pNetConnecter nIndex }

/-- `addSocket`, without the calls of `epoll`. -/
def addSocket (pNetSocket : ℕ) : Bool × CNetEventLoop :=
  if l.nSocketIndex pNetSocket ≠ none then
    (false, l)
  else if l.nSocketID pNetSocket = none then
    (false, l)
  else
    let vecSocket :=
      if l.nSocketCount ≥ l.vecSocket.length then resize l.vecSocket (l.nSocketCount + 1)
      else l.vecSocket
    (true, { l.setSocketIndex pNetSocket (some l.nSocketCount) with
      vecSocket := vecSocket.set l.nSocketCount (some pNetSocket)
      nSocketCount := l.nSocketCount + 1 })

/-- `delSocket`. -/
def delSocket (pNetSocket : ℕ) : CNetEventLoop :=
  match l.nSocketIndex pNetSocket with
  | none => l
  | some nIndex =>
      if l.nSocketID pNetSocket = none then
        l
      else if nIndex ≥ l.nSocketCount then
        l
      else
        let pLast := lastEntry l.vecSocket l.nSocketCount
        let vecSocket := l.vecSocket.set nIndex pLast
        let moved :=
          match pLast with
          | none => l
          | some pLast => l.setSocketIndex pLast (some nIndex)
        { moved.setSocketIndex pNetSocket none with
          vecSocket := vecSocket.set (l.nSocketCount - 1) none
          nSocketCount := l.nSocketCount - 1 }

/-- `addSendConnecter`. -/
def addSendConnecter (pNetConnecter : ℕ) : CNetEventLoop :=
  if l.nSendConnecterIndex pNetConnecter ≠ none then
    l
  else
    let vecSendConnecter :=
      if l.nSendConnecterCount ≥ l.vecSendConnecter.length then
        resize l.vecSendConnecter (l.nSendConnecterCount + 1)
      else
        l.vecSendConnecter
    { l.setSendConnecterIndex pNetConnecter (some l.nSendConnecterCount) with
      vecSendConnecter := vecSendConnecter.set l.nSendConnecterCount (some pNetConnecter)
      nSendConnecterCount := l.nSendConnecterCount + 1 }

/-- `delSendConnecter`.  The connecter keeps its index. -/
def delSendConnecter (pNetConnecter : ℕ) : CNetEventLoop :=
  match l.nSendConnecterIndex pNetConnecter with
  | none => l
  | some nIndex =>
      if nIndex ≥ l.nSendConnecterCount then
        l
      else
        let pLast := lastEntry l.vecSendConnecter l.nSendConnecterCount
        let vecSendConnecter := l.vecSendConnecter.set nIndex pLast
        let moved :=
          match pLast with
          | none => l
          | some pLast => l.setSendConnecterIndex pLast (some nIndex)
        { moved with
          vecSendConnecter := vecSendConnecter.set (l.nSendConnecterCount - 1) none
          nSendConnecterCount := l.nSendConnecterCount - 1 }

/-- `addCloseSocket`. -/
def addCloseSocket (pNetSocket : ℕ) : CNetEventLoop :=
  { l with listCloseSocket := l.listCloseSocket ++ [pNetSocket] }

/-- `CNetSocket::close`. -/
def close (pNetSocket : ℕ) : CNetEventLoop :=
  if l.bWaitClose pNetSocket = true then
    l
  else
    { l.addCloseSocket pNetSocket with
      bWaitClose := Function.update l.bWaitClose pNetSocket true }

/-! ## Objects -/

/-- A new object, with what its socket is. -/
def create (pNetSocket : ℕ) (eSocketType : ENetSocketType) (nSocketID : Option ℕ) :
    CNetEventLoop :=
  { l with
    bExists := Function.update l.bExists pNetSocket true
    eSocketType := Function.update l.eSocketType pNetSocket eSocketType
    nSocketID := Function.update l.nSocketID pNetSocket nSocketID }

/-- `delete`: another object at its place starts as a new one. -/
def delete (pNetSocket : ℕ) : CNetEventLoop :=
  { l with
    bExists := Function.update l.bExists pNetSocket false
    nSocketID := Function.update l.nSocketID pNetSocket none
    nSocketIndex := Function.update l.nSocketIndex pNetSocket none
    nSendConnecterIndex := Function.update l.nSendConnecterIndex pNetSocket none
    bWaitClose := Function.update l.bWaitClose pNetSocket false }

/-- `CNetSocket::release`, with the `delete this` behind it. -/
def releaseSocket (pNetSocket : ℕ) : CNetEventLoop :=
  if l.nSocketIndex pNetSocket ≠ none then (l.delSocket pNetSocket).delete pNetSocket
  else l.delete pNetSocket

/-- `release` of a `CNetConnecter`, behind its callback, and of a `CNetAccepter`. -/
def release (pNetSocket : ℕ) : CNetEventLoop :=
  match l.eSocketType pNetSocket with
  | .eNST_Connector => (l.delSendConnecter pNetSocket).releaseSocket pNetSocket
  | .eNST_Acceptor => l.releaseSocket pNetSocket

/-! ## Runs -/

/-- `update` goes on. -/
def proceed : CNetEventLoop :=
  match l.phase with
  | .idle => { l with phase := .closing 0 }
  | .closing nNext =>
      match l.listCloseSocket[nNext]? with
      | some pNetSocket => { l with phase := .releasing nNext pNetSocket }
      | none => { l with listCloseSocket := [], phase := .flushing 0 }
  | .releasing nNext pNetSocket => { l.release pNetSocket with phase := .closing (nNext + 1) }
  | .flushing nNext =>
      if nNext < l.nSendConnecterCount then
        match l.vecSendConnecter[nNext]?.join with
        | some pNetConnecter => { l with phase := .sending nNext pNetConnecter }
        | none => { l with phase := .flushing (nNext + 1) }
      else
        { l with nSendConnecterCount := 0, phase := .idle }
  | .sending nNext pNetConnecter =>
      { l.setSendConnecterIndex pNetConnecter none with phase := .flushing (nNext + 1) }

end CNetEventLoop

/-- What happens: objects are made, somebody calls the loop, or its round goes on.  A call from
a handler is one that stands where its callback runs. -/
inductive LoopEvent
  | create (pNetSocket : ℕ) (eSocketType : ENetSocketType) (nSocketID : Option ℕ)
  | addSocket (pNetSocket : ℕ)
  | delSocket (pNetSocket : ℕ)
  | addSendConnecter (pNetConnecter : ℕ)
  | delSendConnecter (pNetConnecter : ℕ)
  | close (pNetSocket : ℕ)
  | proceed

/-- Objects are made where there is none, and are called while they exist. -/
def step (l : CNetEventLoop) : LoopEvent → CNetEventLoop
  | .create pNetSocket eSocketType nSocketID =>
      if l.bExists pNetSocket then l else l.create pNetSocket eSocketType nSocketID
  | .addSocket pNetSocket =>
      if l.bExists pNetSocket then (l.addSocket pNetSocket).2 else l
  | .delSocket pNetSocket =>
      if l.bExists pNetSocket then l.delSocket pNetSocket else l
  | .addSendConnecter pNetConnecter =>
      if l.bExists pNetConnecter ∧ l.eSocketType pNetConnecter = .eNST_Connector then
        l.addSendConnecter pNetConnecter
      else
        l
  | .delSendConnecter pNetConnecter =>
      if l.bExists pNetConnecter ∧ l.eSocketType pNetConnecter = .eNST_Connector then
        l.delSendConnecter pNetConnecter
      else
        l
  | .close pNetSocket =>
      if l.bExists pNetSocket then l.close pNetSocket else l
  | .proceed => l.proceed

/-- How many connecters the running round has flushed.  They have left the list. -/
def Phase.nFlushed : Phase → ℕ
  | .flushing nNext => nNext
  | .sending nNext _ => nNext
  | _ => 0

/-- How many of the sockets in the close list the running round has released. -/
def Phase.nReleased : Phase → ℕ
  | .closing nNext => nNext
  | .releasing nNext _ => nNext
  | _ => 0

/-- From a position on, the `i`-th entry of a table has the index `i`, and an object that is not
in the table has no index. -/
structure Indexes (vec : List (Option ℕ)) (nCount : ℕ) (nIndex : ℕ → Option ℕ)
    (nFrom : ℕ) : Prop where
  entry : ∀ i, nFrom ≤ i → i < nCount → ∃ p, vec[i]? = some (some p) ∧ nIndex p = some i
  absent : ∀ p, (∀ i, nFrom ≤ i → i < nCount → vec[i]? ≠ some (some p)) → nIndex p = none

/-- The indices of the objects are right in both tables. -/
structure CNetEventLoop.Indexed (l : CNetEventLoop) : Prop where
  sockets : Indexes l.vecSocket l.nSocketCount l.nSocketIndex 0
  sendConnecters : Indexes l.vecSendConnecter l.nSendConnecterCount l.nSendConnecterIndex
    l.phase.nFlushed

/-- A connecter is taken out of the send list only when it is released. -/
def OutOfList (l : CNetEventLoop) : LoopEvent → Prop
  | .delSendConnecter pNetConnecter =>
      l.bExists pNetConnecter → l.nSendConnecterIndex pNetConnecter = none
  | _ => True

/-! ## Vectors -/

/-- The entries of a vector that are in use. -/
structure Holds (vec : List (Option ℕ)) (nCount : ℕ) (entries : List ℕ) : Prop where
  length : entries.length = nCount
  used : vec.take nCount = entries.map some

namespace Holds

variable {vec : List (Option ℕ)} {nCount : ℕ} {entries : List ℕ}

theorem empty (vec : List (Option ℕ)) : Holds vec 0 [] := ⟨rfl, List.take_zero⟩

theorem le (h : Holds vec nCount entries) : nCount ≤ vec.length := by
  have hlength := congrArg List.length h.used
  rw [List.length_take, List.length_map, h.length] at hlength
  omega

theorem getElem?_iff (h : Holds vec nCount entries) (i p : ℕ) :
    entries[i]? = some p ↔ i < nCount ∧ vec[i]? = some (some p) := by
  have hentry := congrArg (·[i]?) h.used
  simp only [List.getElem?_map, List.getElem?_take] at hentry
  split at hentry
  · rename_i hlt
    rw [and_iff_right hlt, hentry, Option.map_eq_some_iff]
    simp
  · rename_i hge
    have hnone := Option.map_eq_none_iff.mp hentry.symm
    rw [hnone]
    exact iff_of_false (fun h => by cases h) fun h => hge h.1

/-- An entry is put behind the end, where there may have to be made room. -/
theorem push (h : Holds vec nCount entries) (p : ℕ) :
    Holds ((if nCount ≥ vec.length then resize vec (nCount + 1) else vec).set nCount (some p))
      (nCount + 1) (entries ++ [p]) := by
  have hle := h.le
  refine ⟨by rw [List.length_append, h.length, List.length_singleton], ?_⟩
  have hroom : ∃ large, (if nCount ≥ vec.length then resize vec (nCount + 1) else vec) = large ∧
      large.take nCount = entries.map some ∧ nCount < large.length := by
    refine ⟨_, rfl, ?_⟩
    split
    · rename_i hge
      obtain rfl : nCount = vec.length := Nat.le_antisymm hle hge
      have hused := h.used
      rw [List.take_length] at hused
      rw [resize, List.take_of_length_le (Nat.le_succ _), Nat.add_sub_cancel_left,
        List.take_left, List.length_append]
      exact ⟨hused, Nat.lt_succ_self _⟩
    · rename_i hlt
      exact ⟨h.used, Nat.lt_of_not_le hlt⟩
  obtain ⟨large, hlarge, hused, hlt⟩ := hroom
  rw [hlarge, List.take_add_one, List.getElem?_set_self hlt, List.take_set_of_le (Nat.le_refl _),
    hused, List.map_append]
  rfl

/-- An entry is removed as from a list. -/
theorem remove (h : Holds vec nCount entries) {i : ℕ} (hi : i < nCount) :
    ∃ last, lastEntry vec nCount = some last ∧ entries.getLast? = some last ∧
      Holds ((vec.set i (some last)).set (nCount - 1) none) (nCount - 1)
        (swapRemove entries i) := by
  have hlength := h.length
  have hne : entries ≠ [] := by
    rintro rfl
    exact absurd hi (hlength ▸ Nat.not_lt_zero i)
  have hlast := List.getLast?_eq_some_getLast hne
  have hentry := (List.getLast?_eq_getElem? (l := entries)).symm.trans hlast
  rw [hlength] at hentry
  have hvec := ((h.getElem?_iff _ _).mp hentry).2
  refine ⟨_, by rw [lastEntry, hvec]; rfl, hlast, ?_, ?_⟩
  · rw [length_swapRemove, hlength]
  · have hle := h.le
    have hmin : min (min nCount vec.length - 1) nCount = nCount - 1 := by omega
    rw [swapRemove, hlast]
    dsimp only
    rw [List.take_set_of_le (Nat.le_refl _), List.map_dropLast, List.map_set, ← h.used,
      ← List.take_set, List.dropLast_eq_take, List.take_take, List.length_take, List.length_set,
      hmin]

end Holds

/-- A table of which the entries in use are a list whose elements know their positions. -/
def Table (vec : List (Option ℕ)) (nCount : ℕ) (nIndex : ℕ → Option ℕ) (nFrom : ℕ) : Prop :=
  ∃ entries, Holds vec nCount entries ∧ IndexedFrom entries nIndex nFrom

namespace Table

variable {vec : List (Option ℕ)} {nCount : ℕ} {nIndex : ℕ → Option ℕ} {nFrom p : ℕ}

theorem empty : Table [] 0 (fun _ => none) 0 := ⟨[], .empty [], .nil⟩

theorem index_iff (h : Table vec nCount nIndex nFrom) (p i : ℕ) :
    nIndex p = some i ↔ nFrom ≤ i ∧ i < nCount ∧ vec[i]? = some (some p) := by
  obtain ⟨entries, hholds, hindexed⟩ := h
  rw [hindexed.index_iff, hholds.getElem?_iff]

theorem indexes (h : Table vec nCount nIndex nFrom) : Indexes vec nCount nIndex nFrom := by
  constructor
  · intro i hle hlt
    obtain ⟨entries, hholds, hindexed⟩ := h
    have hi : i < entries.length := hholds.length.symm ▸ hlt
    have hentry := List.getElem?_eq_getElem hi
    exact ⟨_, ((hholds.getElem?_iff _ _).mp hentry).2, hindexed.index_of_getElem? hle hentry⟩
  · intro p habsent
    by_contra hsome
    obtain ⟨i, hindex⟩ := Option.ne_none_iff_exists'.mp hsome
    obtain ⟨hle, hlt, hentry⟩ := (h.index_iff p i).mp hindex
    exact habsent i hle hlt hentry

theorem push (h : Table vec nCount nIndex nFrom) (hp : nIndex p = none) :
    Table ((if nCount ≥ vec.length then resize vec (nCount + 1) else vec).set nCount (some p))
      (nCount + 1) (Function.update nIndex p (some nCount)) nFrom := by
  obtain ⟨entries, hholds, hindexed⟩ := h
  refine ⟨_, hholds.push p, ?_⟩
  rw [← hholds.length]
  exact hindexed.push hp

theorem remove (h : Table vec nCount nIndex nFrom) {i : ℕ} (hp : nIndex p = some i) :
    ∃ last, lastEntry vec nCount = some last ∧ nIndex last = some (nCount - 1) ∧
      Table ((vec.set i (some last)).set (nCount - 1) none) (nCount - 1)
        (Function.update (Function.update nIndex last (some i)) p none) nFrom := by
  obtain ⟨hle, hlt, -⟩ := (h.index_iff p i).mp hp
  obtain ⟨entries, hholds, hindexed⟩ := h
  obtain ⟨last, hentry, hlast, hremoved⟩ := hholds.remove hlt
  refine ⟨last, hentry, ?_, _, hremoved, hindexed.swapRemove hp hlast⟩
  rw [List.getLast?_eq_getElem?, hholds.length] at hlast
  exact hindexed.index_of_getElem? (by omega) hlast

/-- The entry at the position leaves the table. -/
theorem advance (h : Table vec nCount nIndex nFrom) (hp : nIndex p = some nFrom) :
    Table vec nCount (Function.update nIndex p none) (nFrom + 1) := by
  obtain ⟨entries, hholds, hindexed⟩ := h
  exact ⟨entries, hholds, hindexed.advance ((hindexed.index_iff p nFrom).mp hp).2⟩

theorem reset (h : Table vec nCount nIndex nFrom) (hend : nCount ≤ nFrom) :
    Table vec 0 nIndex 0 := by
  obtain ⟨entries, hholds, hindexed⟩ := h
  exact ⟨[], .empty vec, hindexed.reset (hholds.length.trans_le hend)⟩

/-- Nothing gets an index that had none. -/
theorem ne_none_of_update {last q : ℕ} {i j : Option ℕ} (hlast : nIndex last ≠ none)
    (hp : i ≠ none → nIndex p ≠ none)
    (hq : Function.update (Function.update nIndex last j) p i q ≠ none) : nIndex q ≠ none := by
  by_cases hself : q = p
  · subst hself
    rw [Function.update_self] at hq
    exact hp hq
  rw [Function.update_of_ne hself] at hq
  by_cases hmoved : q = last
  · subst hmoved
    exact hlast
  · rwa [Function.update_of_ne hmoved] at hq

end Table

/-! ## What the calls do -/

namespace CNetEventLoop

variable {l : CNetEventLoop} {p : ℕ}

theorem addSocket_spec (h : Table l.vecSocket l.nSocketCount l.nSocketIndex 0) (p : ℕ) :
    (l.addSocket p).2 = l ∨ l.nSocketID p ≠ none ∧ ∃ vecSocket nSocketCount nSocketIndex,
      (l.addSocket p).2 = { l with vecSocket, nSocketCount, nSocketIndex } ∧
        Table vecSocket nSocketCount nSocketIndex 0 ∧
          ∀ q, nSocketIndex q ≠ none → q = p ∨ l.nSocketIndex q ≠ none := by
  rw [addSocket]
  split
  · exact .inl rfl
  split
  · exact .inl rfl
  · rename_i hnone hid
    refine .inr ⟨hid, _, _, _, rfl, h.push (not_not.mp hnone), fun q hq => ?_⟩
    by_cases hself : q = p
    · exact .inl hself
    · dsimp only [setSocketIndex] at hq
      exact .inr (by rwa [Function.update_of_ne hself] at hq)

/-- A socket that is taken out of the table has no index any more. -/
theorem delSocket_spec (h : Table l.vecSocket l.nSocketCount l.nSocketIndex 0)
    (hid : l.nSocketIndex p ≠ none → l.nSocketID p ≠ none) :
    ∃ vecSocket nSocketCount nSocketIndex,
      l.delSocket p = { l with vecSocket, nSocketCount, nSocketIndex } ∧
        Table vecSocket nSocketCount nSocketIndex 0 ∧ nSocketIndex p = none ∧
          ∀ q, nSocketIndex q ≠ none → l.nSocketIndex q ≠ none := by
  rw [delSocket]
  split
  · rename_i hnone
    exact ⟨_, _, _, rfl, h, hnone, fun q hq => hq⟩
  · rename_i i hindex
    have hlt := ((h.index_iff p i).mp hindex).2.1
    obtain ⟨last, hentry, hlast, htable⟩ := h.remove hindex
    have hsome : l.nSocketIndex last ≠ none := hlast ▸ Option.some_ne_none _
    rw [if_neg (hid (hindex ▸ Option.some_ne_none i)), if_neg (Nat.not_le_of_lt hlt), hentry]
    refine ⟨_, _, _, rfl, htable, Function.update_self .., fun q hq => ?_⟩
    exact Table.ne_none_of_update hsome (fun hnone => absurd rfl hnone) hq

theorem addSendConnecter_spec {nFrom : ℕ}
    (h : Table l.vecSendConnecter l.nSendConnecterCount l.nSendConnecterIndex nFrom) (p : ℕ) :
    l.addSendConnecter p = l ∨ ∃ vecSendConnecter nSendConnecterCount nSendConnecterIndex,
      l.addSendConnecter p =
          { l with vecSendConnecter, nSendConnecterCount, nSendConnecterIndex } ∧
        Table vecSendConnecter nSendConnecterCount nSendConnecterIndex nFrom ∧
          ∀ q, (q ≠ p → nSendConnecterIndex q = l.nSendConnecterIndex q) ∧
            (l.nSendConnecterIndex q ≠ none →
              nSendConnecterIndex q = l.nSendConnecterIndex q) := by
  rw [addSendConnecter]
  split
  · exact .inl rfl
  · rename_i hnone
    rw [not_not] at hnone
    refine .inr ⟨_, _, _, rfl, h.push hnone, fun q => ?_⟩
    have hother (hself : q ≠ p) : Function.update l.nSendConnecterIndex p
        (some l.nSendConnecterCount) q = l.nSendConnecterIndex q :=
      Function.update_of_ne hself _ _
    refine ⟨hother, fun hsome => hother ?_⟩
    rintro rfl
    exact hsome hnone

/-- Only the index of the connecter itself is not right after it has been taken out. -/
theorem delSendConnecter_spec {nFrom : ℕ}
    (h : Table l.vecSendConnecter l.nSendConnecterCount l.nSendConnecterIndex nFrom) (p : ℕ) :
    ∃ vecSendConnecter nSendConnecterCount nSendConnecterIndex,
      l.delSendConnecter p =
          { l with vecSendConnecter, nSendConnecterCount, nSendConnecterIndex } ∧
        Table vecSendConnecter nSendConnecterCount
          (Function.update nSendConnecterIndex p none) nFrom ∧
          ∀ q, nSendConnecterIndex q ≠ none → l.nSendConnecterIndex q ≠ none := by
  rw [delSendConnecter]
  split
  · rename_i hnone
    refine ⟨_, _, _, rfl, ?_, fun q hq => hq⟩
    rwa [← hnone, Function.update_eq_self]
  · rename_i i hindex
    have hlt := ((h.index_iff p i).mp hindex).2.1
    obtain ⟨last, hentry, hlast, htable⟩ := h.remove hindex
    rw [if_neg (Nat.not_le_of_lt hlt), hentry]
    refine ⟨_, _, _, rfl, htable, fun q hq => ?_⟩
    dsimp only [setSendConnecterIndex] at hq
    by_cases hmoved : q = last
    · rw [hmoved, hlast]
      exact Option.some_ne_none _
    · rwa [Function.update_of_ne hmoved] at hq

/-- A connecter that is taken out of the list has an index that is not right. -/
theorem not_indexes_of_delSendConnecter {nFrom i : ℕ}
    (h : Table l.vecSendConnecter l.nSendConnecterCount l.nSendConnecterIndex nFrom)
    (hindex : l.nSendConnecterIndex p = some i) :
    ¬ Indexes (l.delSendConnecter p).vecSendConnecter
      (l.delSendConnecter p).nSendConnecterCount
      (l.delSendConnecter p).nSendConnecterIndex nFrom := by
  intro hafter
  obtain ⟨hle, hlt, hold⟩ := (h.index_iff p i).mp hindex
  obtain ⟨last, hentry, hlast, -⟩ := h.remove hindex
  rw [delSendConnecter, hindex, hentry] at hafter
  dsimp only at hafter
  rw [if_neg (Nat.not_le_of_lt hlt)] at hafter
  dsimp only [setSendConnecterIndex] at hafter
  -- its index stays what it was
  have hkept : Function.update l.nSendConnecterIndex last (some i) p = some i := by
    by_cases hself : p = last
    · rw [hself, Function.update_self]
    · rw [Function.update_of_ne hself, hindex]
  have hnone := hafter.absent p fun j hj hjlt hthere => ?_
  · rw [hkept] at hnone
    cases hnone
  -- at its index stands the entry that has been moved there
  obtain ⟨q, hq, hqindex⟩ := hafter.entry j hj hjlt
  obtain rfl : p = q := Option.some.inj (Option.some.inj (hthere.symm.trans hq))
  obtain rfl : i = j := Option.some.inj (hkept.symm.trans hqindex)
  have hi := (List.getElem?_eq_some_iff.mp hold).1
  rw [List.getElem?_set_ne (by omega), List.getElem?_set_self hi] at hthere
  obtain rfl : last = p := Option.some.inj (Option.some.inj hthere)
  have heq := Option.some.inj (hindex.symm.trans hlast)
  omega


end CNetEventLoop

/-! ## The invariant -/

/-- The tables are right, and who stands in one of them exists: as a socket with an id, or as a
connecter.  The connecter that is being flushed is the next one of the list. -/
structure Inv (l : CNetEventLoop) : Prop where
  sockets : Table l.vecSocket l.nSocketCount l.nSocketIndex 0
  sendConnecters : Table l.vecSendConnecter l.nSendConnecterCount l.nSendConnecterIndex
    l.phase.nFlushed
  socket : ∀ p, l.nSocketIndex p ≠ none → l.bExists p = true ∧ l.nSocketID p ≠ none
  connecter : ∀ p, l.nSendConnecterIndex p ≠ none →
    l.bExists p = true ∧ l.eSocketType p = .eNST_Connector
  sending : ∀ n p, l.phase = .sending n p → l.nSendConnecterIndex p = some n

namespace Inv

variable {l : CNetEventLoop}

theorem indexed (h : Inv l) : l.Indexed := ⟨h.sockets.indexes, h.sendConnecters.indexes⟩

theorem empty : Inv {} where
  sockets := .empty
  sendConnecters := .empty
  socket := fun p hp => absurd rfl hp
  connecter := fun p hp => absurd rfl hp
  sending := fun n p hphase => by cases hphase

theorem create (h : Inv l) {p : ℕ} (hnew : l.bExists p ≠ true) (eSocketType : ENetSocketType)
    (nSocketID : Option ℕ) : Inv (l.create p eSocketType nSocketID) where
  sockets := h.sockets
  sendConnecters := h.sendConnecters
  socket := by
    intro q hq
    obtain ⟨hexists, hid⟩ := h.socket q hq
    have hne : q ≠ p := fun heq => hnew (heq ▸ hexists)
    dsimp only [CNetEventLoop.create]
    rw [Function.update_of_ne hne, Function.update_of_ne hne]
    exact ⟨hexists, hid⟩
  connecter := by
    intro q hq
    obtain ⟨hexists, htype⟩ := h.connecter q hq
    have hne : q ≠ p := fun heq => hnew (heq ▸ hexists)
    dsimp only [CNetEventLoop.create]
    rw [Function.update_of_ne hne, Function.update_of_ne hne]
    exact ⟨hexists, htype⟩
  sending := h.sending

theorem addSocket (h : Inv l) {p : ℕ} (hexists : l.bExists p = true) :
    Inv (l.addSocket p).2 := by
  obtain heq | ⟨hid, vecSocket, nSocketCount, nSocketIndex, heq, htable, hothers⟩ :=
    l.addSocket_spec h.sockets p
  · rwa [heq]
  · rw [heq]
    refine ⟨htable, h.sendConnecters, fun q hq => ?_, h.connecter, h.sending⟩
    obtain rfl | hold := hothers q hq
    · exact ⟨hexists, hid⟩
    · exact h.socket q hold

theorem delSocket (h : Inv l) (p : ℕ) : Inv (l.delSocket p) := by
  obtain ⟨vecSocket, nSocketCount, nSocketIndex, heq, htable, -, hothers⟩ :=
    l.delSocket_spec h.sockets fun hp => (h.socket p hp).2
  rw [heq]
  exact ⟨htable, h.sendConnecters, fun q hq => h.socket q (hothers q hq), h.connecter,
    h.sending⟩

theorem addSendConnecter (h : Inv l) {p : ℕ} (hexists : l.bExists p = true)
    (htype : l.eSocketType p = .eNST_Connector) : Inv (l.addSendConnecter p) := by
  obtain heq | ⟨vecSendConnecter, nSendConnecterCount, nSendConnecterIndex, heq, htable,
    hothers⟩ := l.addSendConnecter_spec h.sendConnecters p
  · rwa [heq]
  · rw [heq]
    refine ⟨h.sockets, htable, h.socket, fun q hq => ?_, fun n q hphase => ?_⟩
    · by_cases hself : q = p
      · exact hself ▸ ⟨hexists, htype⟩
      · exact h.connecter q ((hothers q).1 hself ▸ hq)
    · have hindex := h.sending n q hphase
      exact ((hothers q).2 (hindex ▸ Option.some_ne_none n)).trans hindex

theorem close (h : Inv l) (p : ℕ) : Inv (l.close p) := by
  rw [CNetEventLoop.close]
  split
  · exact h
  · exact ⟨h.sockets, h.sendConnecters, h.socket, h.connecter, h.sending⟩

/-- A socket is deleted when it is in no table and only its index in the send list is left. -/
theorem delete {p : ℕ} (hsockets : Table l.vecSocket l.nSocketCount l.nSocketIndex 0)
    (hsendConnecters : Table l.vecSendConnecter l.nSendConnecterCount
      (Function.update l.nSendConnecterIndex p none) l.phase.nFlushed)
    (hsocket : ∀ q, l.nSocketIndex q ≠ none → l.bExists q = true ∧ l.nSocketID q ≠ none)
    (hconnecter : ∀ q, l.nSendConnecterIndex q ≠ none →
      l.bExists q = true ∧ l.eSocketType q = .eNST_Connector)
    (hnone : l.nSocketIndex p = none) (hphase : ∀ n q, l.phase ≠ .sending n q) :
    Inv (l.delete p) where
  sockets := by
    rw [CNetEventLoop.delete, ← hnone, Function.update_eq_self]
    exact hsockets
  sendConnecters := hsendConnecters
  socket := by
    intro q hq
    dsimp only [CNetEventLoop.delete] at hq ⊢
    by_cases hself : q = p
    · rw [hself, Function.update_self] at hq
      exact absurd rfl hq
    · rw [Function.update_of_ne hself] at hq ⊢
      rw [Function.update_of_ne hself]
      exact hsocket q hq
  connecter := by
    intro q hq
    dsimp only [CNetEventLoop.delete] at hq ⊢
    by_cases hself : q = p
    · rw [hself, Function.update_self] at hq
      exact absurd rfl hq
    · rw [Function.update_of_ne hself] at hq ⊢
      exact hconnecter q hq
  sending := fun n q hsending => absurd hsending (hphase n q)

theorem releaseSocket {p : ℕ} (hsockets : Table l.vecSocket l.nSocketCount l.nSocketIndex 0)
    (hsendConnecters : Table l.vecSendConnecter l.nSendConnecterCount
      (Function.update l.nSendConnecterIndex p none) l.phase.nFlushed)
    (hsocket : ∀ q, l.nSocketIndex q ≠ none → l.bExists q = true ∧ l.nSocketID q ≠ none)
    (hconnecter : ∀ q, l.nSendConnecterIndex q ≠ none →
      l.bExists q = true ∧ l.eSocketType q = .eNST_Connector)
    (hphase : ∀ n q, l.phase ≠ .sending n q) : Inv (l.releaseSocket p) := by
  rw [CNetEventLoop.releaseSocket]
  split
  · obtain ⟨vecSocket, nSocketCount, nSocketIndex, heq, htable, hnone, hothers⟩ :=
      l.delSocket_spec hsockets fun hp => (hsocket p hp).2
    rw [heq]
    exact delete htable hsendConnecters (fun q hq => hsocket q (hothers q hq)) hconnecter hnone
      hphase
  · rename_i hnone
    exact delete hsockets hsendConnecters hsocket hconnecter (not_not.mp hnone) hphase

/-- A released connecter leaves both tables, with its indices. -/
theorem release (h : Inv l) (p : ℕ) (hphase : ∀ n q, l.phase ≠ .sending n q) :
    Inv (l.release p) := by
  rw [CNetEventLoop.release]
  split
  · obtain ⟨vecSendConnecter, nSendConnecterCount, nSendConnecterIndex, heq, htable, hothers⟩ :=
      l.delSendConnecter_spec h.sendConnecters p
    rw [heq]
    exact releaseSocket h.sockets htable h.socket (fun q hq => h.connecter q (hothers q hq))
      hphase
  · rename_i htype
    have hnone : l.nSendConnecterIndex p = none := by
      by_contra hsome
      rw [(h.connecter p hsome).2] at htype
      cases htype
    refine releaseSocket h.sockets ?_ h.socket h.connecter hphase
    rw [← hnone, Function.update_eq_self]
    exact h.sendConnecters

theorem setPhase (h : Inv l) {phase : Phase} (hflushed : phase.nFlushed = l.phase.nFlushed)
    (hsending : ∀ n p, phase = .sending n p → l.nSendConnecterIndex p = some n) :
    Inv { l with phase } :=
  ⟨h.sockets, hflushed.symm ▸ h.sendConnecters, h.socket, h.connecter, hsending⟩

end Inv

/-- What the calls on the tables leave alone. -/
structure SameObjects (l l' : CNetEventLoop) : Prop where
  phase : l'.phase = l.phase
  listCloseSocket : l'.listCloseSocket = l.listCloseSocket
  bExists : l'.bExists = l.bExists
  bWaitClose : l'.bWaitClose = l.bWaitClose

theorem sameObjects_addSocket (l : CNetEventLoop) (p : ℕ) : SameObjects l (l.addSocket p).2 := by
  unfold CNetEventLoop.addSocket
  split
  · exact ⟨rfl, rfl, rfl, rfl⟩
  split
  · exact ⟨rfl, rfl, rfl, rfl⟩
  · exact ⟨rfl, rfl, rfl, rfl⟩

theorem sameObjects_delSocket (l : CNetEventLoop) (p : ℕ) : SameObjects l (l.delSocket p) := by
  unfold CNetEventLoop.delSocket
  split
  · exact ⟨rfl, rfl, rfl, rfl⟩
  split
  · exact ⟨rfl, rfl, rfl, rfl⟩
  split
  · exact ⟨rfl, rfl, rfl, rfl⟩
  · cases lastEntry l.vecSocket l.nSocketCount with
    | none => exact ⟨rfl, rfl, rfl, rfl⟩
    | some last => exact ⟨rfl, rfl, rfl, rfl⟩

theorem sameObjects_addSendConnecter (l : CNetEventLoop) (p : ℕ) :
    SameObjects l (l.addSendConnecter p) := by
  unfold CNetEventLoop.addSendConnecter
  split
  · exact ⟨rfl, rfl, rfl, rfl⟩
  · exact ⟨rfl, rfl, rfl, rfl⟩

theorem sameObjects_delSendConnecter (l : CNetEventLoop) (p : ℕ) :
    SameObjects l (l.delSendConnecter p) := by
  unfold CNetEventLoop.delSendConnecter
  split
  · exact ⟨rfl, rfl, rfl, rfl⟩
  split
  · exact ⟨rfl, rfl, rfl, rfl⟩
  · cases lastEntry l.vecSendConnecter l.nSendConnecterCount with
    | none => exact ⟨rfl, rfl, rfl, rfl⟩
    | some last => exact ⟨rfl, rfl, rfl, rfl⟩

/-- A release deletes the object and leaves the others alone. -/
theorem sameObjects_release (l : CNetEventLoop) (p : ℕ) :
    SameObjects (l.delete p) (l.release p) := by
  have hdelete {l l' : CNetEventLoop} (h : SameObjects l l') :
      SameObjects (l.delete p) (l'.delete p) :=
    ⟨h.phase, h.listCloseSocket,
      congrArg (fun f : ℕ → Bool => Function.update f p false) h.bExists,
      congrArg (fun f : ℕ → Bool => Function.update f p false) h.bWaitClose⟩
  have hsocket (l : CNetEventLoop) : SameObjects (l.delete p) (l.releaseSocket p) := by
    unfold CNetEventLoop.releaseSocket
    split
    · exact hdelete (sameObjects_delSocket l p)
    · exact ⟨rfl, rfl, rfl, rfl⟩
  unfold CNetEventLoop.release
  split
  · have hfirst := hdelete (sameObjects_delSendConnecter l p)
    have hsecond := hsocket (l.delSendConnecter p)
    exact ⟨hsecond.phase.trans hfirst.phase,
      hsecond.listCloseSocket.trans hfirst.listCloseSocket,
      hsecond.bExists.trans hfirst.bExists, hsecond.bWaitClose.trans hfirst.bWaitClose⟩
  · exact hsocket l

theorem Inv.proceed {l : CNetEventLoop} (h : Inv l) : Inv l.proceed := by
  rw [CNetEventLoop.proceed]
  split
  · rename_i hphase
    refine h.setPhase ?_ fun n p hsending => by cases hsending
    rw [hphase]
    rfl
  · rename_i nNext hphase
    split
    · refine h.setPhase ?_ fun n p hsending => by cases hsending
      rw [hphase]
      rfl
    · have hcleared : Inv { l with listCloseSocket := [] } :=
        ⟨h.sockets, h.sendConnecters, h.socket, h.connecter, h.sending⟩
      refine hcleared.setPhase ?_ fun n p hsending => by cases hsending
      rw [hphase]
      rfl
  · rename_i nNext p hphase
    have hreleased := h.release p fun n q hsending => by
      rw [hphase] at hsending
      cases hsending
    refine hreleased.setPhase ?_ fun n q hsending => by cases hsending
    rw [(sameObjects_release l p).phase]
    change 0 = l.phase.nFlushed
    rw [hphase]
    rfl
  · rename_i nNext hphase
    have htable := h.sendConnecters
    rw [hphase] at htable
    split
    · rename_i hlt
      obtain ⟨p, hentry, hindex⟩ := htable.indexes.entry nNext (Nat.le_refl _) hlt
      rw [hentry]
      refine h.setPhase ?_ fun n q hsending => ?_
      · rw [hphase]
        rfl
      · cases hsending
        exact hindex
    · rename_i hge
      exact ⟨h.sockets, htable.reset (Nat.le_of_not_lt hge), h.socket, h.connecter,
        fun n q hsending => by cases hsending⟩
  · rename_i nNext p hphase
    have htable := h.sendConnecters
    rw [hphase] at htable
    refine ⟨h.sockets, htable.advance (h.sending nNext p hphase), h.socket, fun q hq => ?_,
      fun n q hsending => by cases hsending⟩
    by_cases hself : q = p
    · dsimp only [CNetEventLoop.setSendConnecterIndex] at hq
      rw [hself, Function.update_self] at hq
      exact absurd rfl hq
    · dsimp only [CNetEventLoop.setSendConnecterIndex] at hq
      rw [Function.update_of_ne hself] at hq
      exact h.connecter q hq

/-! ## The result -/

/-- What is no removal from the send list keeps the tables right. -/
theorem Inv.step {l : CNetEventLoop} (h : Inv l) {e : LoopEvent} (hout : OutOfList l e) :
    Inv (step l e) := by
  cases e with
  | create p eSocketType nSocketID =>
      rw [EventLoop.step]
      split
      · exact h
      · rename_i hnew
        exact h.create hnew eSocketType nSocketID
  | addSocket p =>
      rw [EventLoop.step]
      split
      · rename_i hexists
        exact h.addSocket hexists
      · exact h
  | delSocket p =>
      rw [EventLoop.step]
      split
      · exact h.delSocket p
      · exact h
  | addSendConnecter p =>
      rw [EventLoop.step]
      split
      · rename_i hconnecter
        exact h.addSendConnecter hconnecter.1 hconnecter.2
      · exact h
  | delSendConnecter p =>
      rw [EventLoop.step]
      split
      · rename_i hconnecter
        have hnone : l.nSendConnecterIndex p = none := hout hconnecter.1
        rwa [CNetEventLoop.delSendConnecter, hnone]
      · exact h
  | close p =>
      rw [EventLoop.step]
      split
      · exact h.close p
      · exact h
  | proceed => exact h.proceed

/-- The indices are right throughout if and only if no connecter is taken out of the send list
and goes on. -/
theorem indexed_throughout_iff (events : List LoopEvent) :
    (∀ es, es <+: events → (es.foldl step {}).Indexed) ↔ Meets step OutOfList {} events := by
  refine throughout_iff_of_kept (I := Inv) ?_ ?_ Inv.empty Inv.empty.indexed events
  · intro l e h _ hout
    exact h.step hout
  · intro l e h _
    refine ⟨fun hafter => ?_, fun hout => (h.step hout).indexed⟩
    cases e with
    | delSendConnecter p =>
        intro hexists
        by_contra hsome
        obtain ⟨i, hindex⟩ := Option.ne_none_iff_exists'.mp hsome
        have hstep : step l (.delSendConnecter p) = l.delSendConnecter p :=
          if_pos ⟨hexists, (h.connecter p hsome).2⟩
        have hbad := hafter.sendConnecters
        rw [hstep, (sameObjects_delSendConnecter l p).phase] at hbad
        exact CNetEventLoop.not_indexes_of_delSendConnecter h.sendConnecters hindex hbad
    | _ => trivial

/-- A connecter that is taken out of the send list keeps its index. -/
theorem not_indexed_delSendConnecter :
    ¬ ∀ es, es <+: [.create 0 .eNST_Connector (some 5), .addSendConnecter 0,
      .delSendConnecter 0] → (es.foldl step {}).Indexed := by
  intro h
  have hindexed := (h _ (List.prefix_refl _)).sendConnecters
  have hnone := hindexed.absent 0 fun i _ hlt => absurd hlt (Nat.not_lt_zero i)
  cases hnone

/-! ## The objects that are called -/

/-- The sockets that wait to be released exist, and each of them stands in the list once. -/
structure Waiting (l : CNetEventLoop) : Prop where
  le : l.phase.nReleased ≤ l.listCloseSocket.length
  nodup : (l.listCloseSocket.drop l.phase.nReleased).Nodup
  exists_of_mem : ∀ p ∈ l.listCloseSocket.drop l.phase.nReleased,
    l.bExists p = true ∧ l.bWaitClose p = true
  releasing : ∀ n p, l.phase = .releasing n p → l.listCloseSocket[n]? = some p

namespace Waiting

variable {l l' : CNetEventLoop}

theorem empty : Waiting {} where
  le := Nat.le_refl 0
  nodup := List.nodup_nil
  exists_of_mem := fun p hp => absurd hp List.not_mem_nil
  releasing := fun n p hphase => by cases hphase

theorem of_sameObjects (h : Waiting l) (hsame : SameObjects l l') : Waiting l' := by
  obtain ⟨hphase, hlist, hexists, hwait⟩ := hsame
  refine ⟨?_, ?_, ?_, ?_⟩
  · rw [hphase, hlist]
    exact h.le
  · rw [hphase, hlist]
    exact h.nodup
  · rw [hphase, hlist, hexists, hwait]
    exact h.exists_of_mem
  · rw [hphase, hlist]
    exact h.releasing

theorem create (h : Waiting l) (p : ℕ) (eSocketType : ENetSocketType) (nSocketID : Option ℕ) :
    Waiting (l.create p eSocketType nSocketID) := by
  refine ⟨h.le, h.nodup, fun q hq => ?_, h.releasing⟩
  obtain ⟨hexists, hwait⟩ := h.exists_of_mem q hq
  refine ⟨?_, hwait⟩
  dsimp only [CNetEventLoop.create]
  rw [Function.update_apply]
  split
  · rfl
  · exact hexists

theorem close (h : Waiting l) {p : ℕ} (hexists : l.bExists p = true) : Waiting (l.close p) := by
  rw [CNetEventLoop.close]
  split
  · exact h
  · rename_i hnot
    have hdrop : (l.listCloseSocket ++ [p]).drop l.phase.nReleased =
        l.listCloseSocket.drop l.phase.nReleased ++ [p] := List.drop_append_of_le_length h.le
    refine ⟨?_, ?_, fun q hq => ?_, fun n q hphase => ?_⟩
    · exact h.le.trans (by simp [CNetEventLoop.addCloseSocket])
    · change ((l.listCloseSocket ++ [p]).drop l.phase.nReleased).Nodup
      rw [hdrop, List.nodup_append]
      refine ⟨h.nodup, List.pairwise_singleton _ p, fun q hq r hr heq => ?_⟩
      rw [heq, List.mem_singleton.mp hr] at hq
      exact hnot (h.exists_of_mem p hq).2
    · change q ∈ (l.listCloseSocket ++ [p]).drop l.phase.nReleased at hq
      rw [hdrop, List.mem_append, List.mem_singleton] at hq
      dsimp only [CNetEventLoop.addCloseSocket]
      by_cases hself : q = p
      · rw [hself, Function.update_self]
        exact ⟨hexists, rfl⟩
      · rw [Function.update_of_ne hself]
        exact h.exists_of_mem q (hq.resolve_right hself)
    · have hentry := h.releasing n q hphase
      have hlt := (List.getElem?_eq_some_iff.mp hentry).1
      exact (List.getElem?_append_left hlt).trans hentry

/-- The socket at the position is deleted. -/
theorem release (h : Waiting l) {n p : ℕ} (hphase : l.phase = .releasing n p) :
    Waiting { l.release p with phase := .closing (n + 1) } := by
  obtain ⟨-, hlist, hexists, hwait⟩ := sameObjects_release l p
  have hentry := h.releasing n p hphase
  obtain ⟨hlt, hget⟩ := List.getElem?_eq_some_iff.mp hentry
  have hnodup := h.nodup
  have hwaiting := h.exists_of_mem
  rw [hphase] at hnodup hwaiting
  dsimp only [Phase.nReleased] at hnodup hwaiting
  rw [List.drop_eq_getElem_cons hlt, hget] at hnodup hwaiting
  obtain ⟨hfree, hrest⟩ := List.nodup_cons.mp hnodup
  refine ⟨?_, ?_, fun q hq => ?_, fun m q hreleasing => by cases hreleasing⟩
  · dsimp only [Phase.nReleased]
    rw [hlist]
    exact hlt
  · dsimp only [Phase.nReleased]
    rw [hlist]
    exact hrest
  · dsimp only [Phase.nReleased] at hq
    rw [hlist] at hq
    have hne : q ≠ p := fun heq => hfree (heq ▸ hq)
    dsimp only
    rw [hexists, hwait]
    dsimp only [CNetEventLoop.delete]
    rw [Function.update_of_ne hne, Function.update_of_ne hne]
    exact hwaiting q (List.mem_cons_of_mem _ hq)

/-- A phase in which as many sockets have been released. -/
theorem setPhase (h : Waiting l) {phase : Phase} (hreleased : phase.nReleased = l.phase.nReleased)
    (hreleasing : ∀ n p, phase = .releasing n p → l.listCloseSocket[n]? = some p) :
    Waiting { l with phase } :=
  ⟨hreleased.symm ▸ h.le, hreleased.symm ▸ h.nodup, hreleased.symm ▸ h.exists_of_mem,
    hreleasing⟩

theorem proceed (h : Waiting l) : Waiting l.proceed := by
  rw [CNetEventLoop.proceed]
  split
  · rename_i hphase
    refine h.setPhase ?_ fun n p hreleasing => by cases hreleasing
    rw [hphase]
    rfl
  · rename_i nNext hphase
    split
    · rename_i p hentry
      refine h.setPhase ?_ fun n q hreleasing => ?_
      · rw [hphase]
        rfl
      · cases hreleasing
        exact hentry
    · exact ⟨Nat.le_refl 0, List.nodup_nil, fun p hp => absurd hp List.not_mem_nil,
        fun n p hreleasing => by cases hreleasing⟩
  · rename_i nNext p hphase
    exact h.release hphase
  · rename_i nNext hphase
    have hnone : l.phase.nReleased = 0 := by
      rw [hphase]
      rfl
    split
    · split
      · exact h.setPhase hnone.symm fun n q hreleasing => by cases hreleasing
      · exact h.setPhase hnone.symm fun n q hreleasing => by cases hreleasing
    · have hcleared : Waiting { l with nSendConnecterCount := 0 } :=
        h.of_sameObjects ⟨rfl, rfl, rfl, rfl⟩
      exact hcleared.setPhase hnone.symm fun n q hreleasing => by cases hreleasing
  · rename_i nNext p hphase
    have hset : Waiting (l.setSendConnecterIndex p none) :=
      h.of_sameObjects ⟨rfl, rfl, rfl, rfl⟩
    refine hset.setPhase ?_ fun n q hreleasing => by cases hreleasing
    change 0 = l.phase.nReleased
    rw [hphase]
    rfl

theorem step (h : Waiting l) (e : LoopEvent) : Waiting (step l e) := by
  cases e with
  | create p eSocketType nSocketID =>
      rw [EventLoop.step]
      split
      · exact h
      · exact h.create p eSocketType nSocketID
  | addSocket p =>
      rw [EventLoop.step]
      split
      · exact h.of_sameObjects (sameObjects_addSocket l p)
      · exact h
  | delSocket p =>
      rw [EventLoop.step]
      split
      · exact h.of_sameObjects (sameObjects_delSocket l p)
      · exact h
  | addSendConnecter p =>
      rw [EventLoop.step]
      split
      · exact h.of_sameObjects (sameObjects_addSendConnecter l p)
      · exact h
  | delSendConnecter p =>
      rw [EventLoop.step]
      split
      · exact h.of_sameObjects (sameObjects_delSendConnecter l p)
      · exact h
  | close p =>
      rw [EventLoop.step]
      split
      · rename_i hexists
        exact h.close hexists
      · exact h
  | proceed => exact h.proceed

end Waiting

/-- As long as no connecter is taken out of the send list and goes on, the loop calls only
objects that exist: the sockets that it releases and the connecters that it flushes. -/
theorem exists_of_called {events : List LoopEvent} (hmeets : Meets step OutOfList {} events)
    {n p : ℕ} (hphase : (events.foldl step {}).phase = .releasing n p ∨
      (events.foldl step {}).phase = .sending n p) :
    (events.foldl step {}).bExists p = true := by
  have hboth := throughout_of_meets (I := Waiting) (P := Inv) (fun l e h => h.step e)
    (fun l e _ h hout => h.step hout) Waiting.empty Inv.empty hmeets events (List.prefix_refl _)
  obtain hreleasing | hsending := hphase
  · have hwaiting : Waiting (events.foldl step {}) :=
      foldl_invariant (fun l e h => h.step e) Waiting.empty events
    refine (hwaiting.exists_of_mem p ?_).1
    have hentry := hwaiting.releasing n p hreleasing
    rw [hreleasing]
    refine List.mem_of_getElem? (i := 0) ?_
    rw [List.getElem?_drop]
    exact hentry
  · have hindex := hboth.sending n p hsending
    exact (hboth.connecter p (hindex ▸ Option.some_ne_none n)).1

end RealtimeEx.Network.EventLoop
