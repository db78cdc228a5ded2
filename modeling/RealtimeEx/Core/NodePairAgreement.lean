import RealtimeEx.Core.NodePairSteps

/-!
# The two nodes agree on their link

Every run of two nodes is a run of the arbitration.  Once nothing is under way, both nodes
have stored the sockets of the same link, or neither has stored one and all links are
closed.  Without disturbances the latter does not happen.
-/

namespace RealtimeEx.Core

open Base Arbitration

namespace NodePair

variable {config : Side → NodeConfig} {S : NodePair} {l : ℕ} {k : OtherNodeLink}
  {e : LinkEnd}

/-! ## The other events -/

/-- A step of the nodes is one step of the arbitration, or none. -/
def Moves (S S' : NodePair) (undisturbed : Prop) : Prop :=
  S'.view = S.view ∨ ∃ act, Step S.view act S'.view ∧
    (undisturbed → (∀ v ∈ S.view, v.calm = true) → Calm S.view act)

theorem Moves.refl (S : NodePair) (undisturbed : Prop) : Moves S S undisturbed :=
  .inl rfl

section SetApp

variable {X : Side} {app' : CCoreApp}

theorem standing_setApp (hstanding : ∀ s, app'.standing s = (S.app X).standing s) :
    (S.setApp X app').standing k e = S.standing k e := by
  rw [standing, standing]
  cases k.phase e with
  | connecting => rfl
  | disconnected => rfl
  | connected =>
      by_cases hX : k.side e = X
      · rw [hX, app_setApp_self]
        exact hstanding _
      · rw [app_setApp_of_ne S hX]

theorem standing_setApp_drop (hdrops : CCoreApp.DropsKept (S.app X) app') :
    (S.setApp X app').standing k e =
      if k.side e = X ∧ S.standing k e = .kept then .closing else S.standing k e := by
  rw [standing, standing]
  cases k.phase e with
  | connecting => simp
  | disconnected => simp
  | connected =>
      by_cases hX : k.side e = X
      · rw [hX, app_setApp_self]
        simpa using hdrops (k.nSocketID e)
      · rw [app_setApp_of_ne S hX, if_neg fun h => hX h.1]

/-- A node changes, but none of its connections comes or goes. -/
theorem Wired.setApp (h : Wired config S) (hid : app'.nNodeID = (S.app X).nNodeID)
    (hstored : app'.Stored (config X.other).nNodeID)
    (hgone : ∀ s, app'.standing s = .gone ↔ (S.app X).standing s = .gone)
    (hsound : Sound (S.setApp X app').view) : Wired config (S.setApp X app') := by
  have hsome : ∀ (Y : Side) (s : UInt64),
      (((S.setApp X app').app Y).mapBaseConnectionByID s).isSome = true ↔
        ((S.app Y).mapBaseConnectionByID s).isSome = true := by
    intro Y s
    by_cases hY : Y = X
    · subst hY
      rw [app_setApp_self, CCoreApp.isSome_iff_standing, CCoreApp.isSome_iff_standing]
      exact (hgone s).not
    · rw [app_setApp_of_ne S hY]
  refine { id := ?_, socket := h.socket, stored := ?_, unique := h.unique, connected := ?_,
           linked := ?_, message := h.message, sound := hsound }
  · intro Y
    by_cases hY : Y = X
    · subst hY
      rw [app_setApp_self, hid]
      exact h.id Y
    · rw [app_setApp_of_ne S hY]
      exact h.id Y
  · intro Y
    by_cases hY : Y = X
    · subst hY
      rw [app_setApp_self]
      exact hstored
    · rw [app_setApp_of_ne S hY]
      exact h.stored Y
  · intro l k e hl
    rw [h.connected e hl, connection, connection, hsome]
  · intro Y s hs
    exact h.linked ((hsome Y s).mp hs)

/-- The table of a node changes: its connections stay, or it gives up its link. -/
theorem Wired.changeTable (h : Wired config S) (hid : app'.nNodeID = (S.app X).nNodeID)
    (hstored : app'.Stored (config X.other).nNodeID) {drops undisturbed : Prop}
    (hundisturbed : undisturbed → ¬ drops)
    (hstanding : CCoreApp.SameStanding (S.app X) app' ∨
      drops ∧ CCoreApp.DropsKept (S.app X) app') :
    Wired config (S.setApp X app') ∧ Moves S (S.setApp X app') undisturbed := by
  rcases hstanding with hsame | ⟨hdropped, hdrops⟩
  · have hview : (S.setApp X app').view = S.view := by
      apply List.map_congr_left
      intro k _
      simp only [viewLink, standing_setApp hsame]
    refine ⟨h.setApp hid hstored (fun s => by rw [hsame s]) ?_, .inl hview⟩
    rw [hview]
    exact h.sound
  · have hview : (S.setApp X app').view = S.view.map fun v => v.drop X := by
      rw [view, view, List.map_map]
      apply List.map_congr_left
      intro k _
      simp only [viewLink, standing_setApp_drop hdrops, Function.comp_apply, LinkView.drop]
      rfl
    have hstep : Step S.view (.drop X) (S.setApp X app').view := by
      rw [hview]
      exact Step.drop X
    refine ⟨h.setApp hid hstored (fun s => ?_) (h.sound.step hstep), .inr ⟨_, hstep, ?_⟩⟩
    · rw [hdrops s]
      split
      · rename_i hkept
        rw [hkept]
        simp
      · rfl
    · intro hun
      exact absurd hdropped (hundisturbed hun)

end SetApp

/-- A link that fails. -/
theorem Wired.fail (h : Wired config S) (hl : S.links[l]? = some k) :
    Wired config (S.setLink l { k with bFailed := true }) ∧
      Step S.view (.fail l) (S.setLink l { k with bFailed := true }).view := by
  have hview : (S.setLink l { k with bFailed := true }).view =
      S.view.set l { S.viewLink k with bFailed := true } := List.map_set
  have hstep : Step S.view (.fail l) (S.setLink l { k with bFailed := true }).view := by
    rw [hview]
    exact Step.fail (getElem?_view hl)
  -- But for the failure the links are the same.
  have hold : ∀ {i : ℕ} {j : OtherNodeLink},
      (S.setLink l { k with bFailed := true }).links[i]? = some j →
        ∃ j₀, S.links[i]? = some j₀ ∧ j = { j₀ with bFailed := j.bFailed } := by
    intro i j hget
    rw [links_setLink, List.getElem?_set] at hget
    by_cases hi : l = i
    · subst hi
      rw [if_pos rfl, if_pos (List.getElem?_eq_some_iff.mp hl).1] at hget
      obtain rfl := Option.some.inj hget
      exact ⟨k, hl, rfl⟩
    · rw [if_neg hi] at hget
      exact ⟨j, hget, rfl⟩
  refine ⟨?_, hstep⟩
  refine { id := h.id, socket := ?_, stored := h.stored, unique := ?_, connected := ?_,
           linked := ?_, message := ?_, sound := h.sound.step hstep }
  · intro j hj
    obtain ⟨i, hi, hget⟩ := List.getElem_of_mem hj
    obtain ⟨j₀, hj₀, heq⟩ := hold (List.getElem?_eq_some_iff.mpr ⟨hi, hget⟩)
    rw [heq]
    exact h.socket j₀ (List.mem_of_getElem? hj₀)
  · intro i i' j j' e₁ e₂ hj hj' hside hsocket
    obtain ⟨j₀, hj₀, heq⟩ := hold hj
    obtain ⟨j₀', hj₀', heq'⟩ := hold hj'
    rw [heq, heq'] at hside hsocket
    exact h.unique hj₀ hj₀' hside hsocket
  · intro i j e' hj
    obtain ⟨j₀, hj₀, heq⟩ := hold hj
    have hconnected := h.connected e' hj₀
    rw [heq]
    exact hconnected
  · intro X s hs
    obtain ⟨i, j, e', hget, hside, hsocket⟩ := h.linked hs
    by_cases hi : l = i
    · subst hi
      obtain rfl := Option.some.inj (hl.symm.trans hget)
      refine ⟨l, { k with bFailed := true }, e', ?_, hside, hsocket⟩
      rw [links_setLink, List.getElem?_set, if_pos rfl,
        if_pos (List.getElem?_eq_some_iff.mp hl).1]
    · refine ⟨i, j, e', ?_, hside, hsocket⟩
      rw [links_setLink, List.getElem?_set, if_neg hi]
      exact hget
  · intro i j e' hj
    obtain ⟨j₀, hj₀, heq⟩ := hold hj
    have hmessage := h.message e' hj₀
    rw [heq]
    exact hmessage

/-- A new link, with sockets of its own. -/
theorem Wired.establish (h : Wired config S) {X : Side} {nSocketID : LinkEnd → UInt64}
    (hinitiative : S.Unused X (nSocketID .initiative))
    (hpassive : S.Unused X.other (nSocketID .passive)) (n : Side → ℕ) :
    Wired config { S with connecting := n, links := S.links ++ [{ initiator := X, nSocketID }] } ∧
      Step S.view (.establish X)
        ({ S with connecting := n, links := S.links ++ [{ initiator := X, nSocketID }] } :
          NodePair).view := by
  have hview : ({ S with connecting := n, links := S.links ++ [{ initiator := X, nSocketID }] } :
      NodePair).view = S.view ++ [{ initiator := X }] := List.map_append
  have hstep : Step S.view (.establish X)
      ({ S with connecting := n, links := S.links ++ [{ initiator := X, nSocketID }] } :
        NodePair).view := by
    rw [hview]
    exact Step.establish X
  have hunused : ∀ e, S.Unused (OtherNodeLink.side { initiator := X, nSocketID } e)
      (nSocketID e) := by
    intro e
    cases e with
    | initiative => exact hinitiative
    | passive => exact hpassive
  have hcases : ∀ {i : ℕ} {j : OtherNodeLink},
      (S.links ++ [{ initiator := X, nSocketID }])[i]? = some j →
        S.links[i]? = some j ∨ i = S.links.length ∧ j = { initiator := X, nSocketID } := by
    intro i j hget
    rw [List.getElem?_append] at hget
    split at hget
    · exact .inl hget
    · rename_i hlt
      have hi := (List.getElem?_eq_some_iff.mp hget).1
      rw [List.length_singleton] at hi
      obtain rfl : i = S.links.length := by omega
      rw [Nat.sub_self] at hget
      exact .inr ⟨rfl, (Option.some.inj hget).symm⟩
  refine ⟨?_, hstep⟩
  refine { id := h.id, socket := ?_, stored := h.stored, unique := ?_, connected := ?_,
           linked := ?_, message := ?_, sound := h.sound.step hstep }
  · intro j hj e'
    rcases List.mem_append.mp hj with hj | hj
    · exact h.socket j hj e'
    · obtain rfl := List.mem_singleton.mp hj
      exact (hunused e').1
  · intro i i' j j' e₁ e₂ hj hj' hside hsocket
    rcases hcases hj with hj | ⟨rfl, rfl⟩
    · rcases hcases hj' with hj' | ⟨rfl, rfl⟩
      · exact h.unique hj hj' hside hsocket
      · exact absurd ⟨e₁, hside, hsocket⟩ ((hunused e₂).2 j (List.mem_of_getElem? hj))
    · rcases hcases hj' with hj' | ⟨rfl, rfl⟩
      · exact absurd ⟨e₂, hside.symm, hsocket.symm⟩
          ((hunused e₁).2 j' (List.mem_of_getElem? hj'))
      · rfl
  · intro i j e' hj
    rcases hcases hj with hj | ⟨rfl, rfl⟩
    · exact h.connected e' hj
    · -- The sockets of the new link have no connections.
      refine iff_of_false EndPhase.noConfusion fun hsome => ?_
      obtain ⟨i, j, e'', hget, hside, hsocket⟩ := h.linked hsome
      exact (hunused e').2 j (List.mem_of_getElem? hget) ⟨e'', hside, hsocket⟩
  · intro Y s hs
    obtain ⟨i, j, e', hget, hside, hsocket⟩ := h.linked hs
    refine ⟨i, j, e', ?_, hside, hsocket⟩
    show (S.links ++ _)[i]? = some j
    rw [List.getElem?_append_left (List.getElem?_eq_some_iff.mp hget).1]
    exact hget
  · intro i j e' hj
    rcases hcases hj with hj | ⟨rfl, rfl⟩
    · exact h.message e' hj
    · exact .inl rfl

/-! ## Runs -/

/-- Nothing disturbs the handshakes: no link fails, the master does not take the other node
away from a node, every handshake message reaches a node that knows the other one, and no
response reaches a node whose link the other one has given up. -/
def Event.Undisturbed (S : NodePair) : Event → Prop
  | .fail _ => False
  | .recvData l e => ∀ k ∈ S.links[l]?,
      (S.app (k.side e)).KnowsNode (S.peerID (k.side e)) ∧
        (e = .initiative → ¬ S.GivenUp (k.side e))
  | .delNodeProxyInfo X nNodeID => nNodeID ≠ S.peerID X
  | .setNodeProxyInfo X mapNodeInfo _ => S.peerID X ∈ mapNodeInfo
  | _ => True

theorem Wired.atLink (h : Wired config S) {f : OtherNodeLink → NodePair} {undisturbed : Prop}
    (hf : ∀ k, S.links[l]? = some k → Wired config (f k) ∧ Moves S (f k) undisturbed) :
    Wired config (S.atLink l f) ∧ Moves S (S.atLink l f) undisturbed := by
  rw [NodePair.atLink]
  split
  · exact ⟨h, Moves.refl S undisturbed⟩
  · rename_i k hk
    exact hf k hk

/-- Every event is one step of the arbitration, or none, and keeps the nodes wired. -/
theorem Wired.step (h : Wired config S) (hids : ∀ X, (config X).nNodeID ≠ 0) (event : Event) :
    Wired config (S.step event) ∧ Moves S (S.step event) (event.Undisturbed S) := by
  cases event with
  | onTicker X =>
      simp only [NodePair.step, NodePair.onTicker]
      split
      · exact ⟨⟨h.id, h.socket, h.stored, h.unique, h.connected, h.linked, h.message, h.sound⟩,
          .inl rfl⟩
      · exact ⟨h, Moves.refl S _⟩
  | onConnectFail X =>
      exact ⟨⟨h.id, h.socket, h.stored, h.unique, h.connected, h.linked, h.message, h.sound⟩,
        .inl rfl⟩
  | onEstablished X nSocketID =>
      simp only [NodePair.step, NodePair.onEstablished]
      split
      · rename_i hnew
        obtain ⟨hwired, hstep⟩ := h.establish hnew.2.1 hnew.2.2 _
        exact ⟨hwired, .inr ⟨_, hstep, fun _ _ => trivial⟩⟩
      · exact ⟨h, Moves.refl S _⟩
  | notifyConnect l e =>
      apply h.atLink
      intro k hk
      split
      · rename_i hphase
        obtain ⟨hwired, hstep⟩ := h.notifyConnect hids hk hphase
        exact ⟨hwired, .inr ⟨_, hstep, fun _ _ => trivial⟩⟩
      · exact ⟨h, Moves.refl S _⟩
  | recvData l e =>
      apply h.atLink
      intro k hk
      split
      · exact ⟨h, Moves.refl S _⟩
      · rename_i m ms hqueue
        split
        · rename_i hphase
          obtain ⟨hwired, act, hstep, hcalm⟩ := h.recvData hids hk hphase hqueue
          refine ⟨hwired, .inr ⟨act, hstep, fun hundisturbed => ?_⟩⟩
          obtain ⟨hknows, hgiven⟩ := hundisturbed k hk
          exact hcalm hknows hgiven
        · exact ⟨h, Moves.refl S _⟩
  | notifyDisconnect l e =>
      apply h.atLink
      intro k hk
      split
      · rename_i hmay
        obtain ⟨hwired, hstep⟩ := h.notifyDisconnect hids hk hmay.1 hmay.2
        exact ⟨hwired, .inr ⟨_, hstep, fun _ _ => trivial⟩⟩
      · exact ⟨h, Moves.refl S _⟩
  | fail l =>
      apply h.atLink
      intro k hk
      obtain ⟨hwired, hstep⟩ := h.fail hk
      exact ⟨hwired, .inr ⟨_, hstep, fun hundisturbed => hundisturbed.elim⟩⟩
  | addNodeProxyInfo X base vec bExcludeConnect =>
      have hid : ((S.app X).addNodeProxyInfo base vec bExcludeConnect).nNodeID =
          (S.app X).nNodeID := rfl
      have hsame : CCoreApp.SameStanding (S.app X)
          ((S.app X).addNodeProxyInfo base vec bExcludeConnect) := fun _ => rfl
      exact h.changeTable hid ((h.stored X).addNodeProxyInfo base vec bExcludeConnect)
        (fun _ hfalse => hfalse) (.inl hsame)
  | setNodeProxyInfo X mapNodeInfo setExcludeConnectNodeID =>
      obtain ⟨hstored, hstanding⟩ := (h.stored X).setNodeProxyInfo (hids _) mapNodeInfo
        setExcludeConnectNodeID
      apply h.changeTable (CCoreApp.nNodeID_setNodeProxyInfo _ _) hstored _ hstanding
      intro hmem hnot
      rw [← h.peerID_eq] at hnot
      exact hnot hmem
  | delNodeProxyInfo X nNodeID =>
      obtain ⟨hstored, hstanding⟩ := (h.stored X).delNodeProxyInfo (hids _) nNodeID
      apply h.changeTable (CCoreApp.nNodeID_delNodeProxyInfo _) hstored _ hstanding
      intro hne heq
      rw [← h.peerID_eq] at heq
      exact hne heq

theorem wired_start (config : Side → NodeConfig) : Wired config (start config) where
  id _ := rfl
  socket k hk := by simp [start] at hk
  stored X := CCoreApp.stored_init (config X) _
  unique hl := by simp [start] at hl
  connected e hl := by simp [start] at hl
  linked hs := by cases hs
  message e hl := by simp [start] at hl
  sound := sound_nil

theorem wired_run (hids : ∀ X, (config X).nNodeID ≠ 0) (events : List Event) :
    Wired config (run config events) :=
  foldl_invariant (fun _ event h => (h.step hids event).1) (wired_start config) events

/-! ## The end of a run -/

/-- Nothing is under way: every node has been told of its ends, no message and no disconnect
is due. -/
def Drained (S : NodePair) : Prop :=
  ∀ k ∈ S.links, ∀ e, k.phase e ≠ .connecting ∧
    (k.phase e = .connected → k.queue e = [] ∧ S.mayDisconnect k e = false)

/-- Both nodes have stored the sockets of this link, and all others are closed. -/
def Records (S : NodePair) (l : ℕ) : Prop :=
  ∃ k, S.links[l]? = some k ∧
    (∀ e, k.phase e = .connected ∧
      (S.app (k.side e)).proxy.socketID (S.peerID (k.side e)) = k.nSocketID e) ∧
    ∀ i j, S.links[i]? = some j → i ≠ l → ∀ e, j.phase e = .disconnected

/-- Neither node has stored a socket, and all links are closed. -/
def RecordsNone (S : NodePair) : Prop :=
  (∀ X, (S.app X).proxy.socketID (S.peerID X) = 0) ∧
    ∀ k ∈ S.links, ∀ e, k.phase e = .disconnected

theorem Records.eq {i : ℕ} (h : S.Records l) (h' : S.Records i) : i = l := by
  obtain ⟨k, hk, hconnected, -⟩ := h
  obtain ⟨j, hj, -, hclosed⟩ := h'
  by_contra hne
  have hphase := hclosed l k hk (Ne.symm hne) .initiative
  rw [(hconnected .initiative).1] at hphase
  cases hphase

/-- Each node has an end of every link. -/
theorem exists_side (k : OtherNodeLink) (X : Side) : ∃ e, k.side e = X := by
  by_cases hX : k.initiator = X
  · exact ⟨.initiative, hX⟩
  · refine ⟨.passive, ?_⟩
    show k.initiator.other = X
    cases hi : k.initiator with
    | left => cases X with
      | left => exact absurd hi hX
      | right => rfl
    | right => cases X with
      | left => rfl
      | right => exact absurd hi hX

theorem Wired.drained_view (h : Wired config S) (hdrained : S.Drained) :
    Arbitration.Drained S.view := by
  intro v hv e
  obtain ⟨k, hk, rfl⟩ := List.mem_map.mp hv
  obtain ⟨l, hl⟩ := List.getElem?_of_mem hk
  obtain ⟨hconnecting, hconnected⟩ := hdrained k hk e
  constructor
  · rw [standing_viewLink, Ne, standing_eq_waiting_iff]
    exact hconnecting
  · intro hgone
    rw [standing_viewLink, Ne, h.standing_eq_gone_iff hl] at hgone
    have hphase : k.phase e = .connected := by
      cases hphase : k.phase e with
      | connecting => exact absurd hphase hconnecting
      | connected => rfl
      | disconnected => exact absurd hphase hgone
    obtain ⟨hqueue, hmay⟩ := hconnected hphase
    constructor
    · rw [inbox_viewLink, hqueue]
      rfl
    · rw [← Bool.not_eq_true, h.mayDisconnect_iff hl, hmay]
      exact Bool.false_ne_true

section Ends

variable (hids : ∀ X, (config X).nNodeID ≠ 0)
include hids

/-- A link is kept by both nodes or closed at both ends. -/
theorem Wired.kept_or_closed (h : Wired config S) (hdrained : S.Drained)
    (hl : S.links[l]? = some k) :
    (∀ e, k.phase e = .connected ∧
      (S.app (k.side e)).proxy.socketID (S.peerID (k.side e)) = k.nSocketID e) ∨
      ∀ e, k.phase e = .disconnected := by
  rcases h.sound.of_drained (h.drained_view hdrained)
    (List.mem_of_getElem? (getElem?_view hl)) with hkept | hgone
  · refine .inl fun e => ?_
    rw [h.peerID_eq, ← h.standing_eq_kept_iff hids hl, ← standing_viewLink]
    exact hkept e
  · refine .inr fun e => ?_
    rw [← h.standing_eq_gone_iff hl, ← standing_viewLink]
    exact hgone e

/-- If one link is kept, all the others are closed. -/
theorem Wired.records (h : Wired config S) (hdrained : S.Drained) (hl : S.links[l]? = some k)
    (hkept : ∀ e, k.phase e = .connected ∧
      (S.app (k.side e)).proxy.socketID (S.peerID (k.side e)) = k.nSocketID e) :
    S.Records l := by
  refine ⟨k, hl, hkept, fun i j hj hne => ?_⟩
  refine (h.kept_or_closed hids hdrained hj).resolve_left fun hkept' => hne ?_
  obtain ⟨e, he⟩ := exists_side k (j.side .initiative)
  apply h.sound.single (j.side .initiative)
  · rw [h.keptAt_iff hids, ← h.peerID_eq]
    exact ⟨j, .initiative, hj, rfl, hkept' .initiative⟩
  · rw [h.keptAt_iff hids, ← h.peerID_eq, ← he]
    exact ⟨k, e, hl, rfl, hkept e⟩

theorem Wired.recordsNone_or_records (h : Wired config S) (hdrained : S.Drained) :
    S.RecordsNone ∨ ∃ l, S.Records l := by
  by_cases hsome : ∃ (l : ℕ) (k : OtherNodeLink), S.links[l]? = some k ∧
      ∀ e, k.phase e = .connected ∧
        (S.app (k.side e)).proxy.socketID (S.peerID (k.side e)) = k.nSocketID e
  · obtain ⟨l, k, hl, hkept⟩ := hsome
    exact .inr ⟨l, h.records hids hdrained hl hkept⟩
  · have hclosed : ∀ {l : ℕ} {k : OtherNodeLink}, S.links[l]? = some k →
        ∀ e, k.phase e = .disconnected := by
      intro l k hl
      exact (h.kept_or_closed hids hdrained hl).resolve_left fun hkept => hsome ⟨l, k, hl, hkept⟩
    refine .inl ⟨fun X => ?_, fun k hk => ?_⟩
    · by_contra hsocket
      rw [h.peerID_eq] at hsocket
      obtain ⟨i, hi⟩ := h.exists_keptAt hids hsocket
      obtain ⟨k, e, hk, -, hphase, -⟩ := (h.keptAt_iff hids).mp hi
      rw [hclosed hk e] at hphase
      cases hphase
    · obtain ⟨l, hl⟩ := List.getElem?_of_mem hk
      exact hclosed hl

/-- Without disturbances some link survives. -/
theorem surviving_run {events : List Event}
    (hundisturbed : ∀ ks event, ks ++ [event] <+: events → event.Undisturbed (run config ks)) :
    Surviving (run config events).view := by
  induction events using List.reverseRecOn with
  | nil => exact surviving_nil
  | append_singleton events event ih =>
      have hbefore := ih fun ks event' hks =>
        hundisturbed ks event' (hks.trans (List.prefix_append events [event]))
      have hmoves := ((wired_run hids events).step hids event).2
      rw [run, List.foldl_append]
      rcases hmoves with hsame | ⟨act, hstep, hcalm⟩
      · show Surviving ((run config events).step event).view
        rw [hsame]
        exact hbefore
      · exact hbefore.step hstep
          (hcalm (hundisturbed events event (List.prefix_refl _)) hbefore.calm)

end Ends

/-- Node ids being nonzero: once nothing is under way, both nodes have stored the sockets of
the same link and all others are closed, or neither has stored one and all links are
closed.  If nothing disturbed the handshakes and some link was opened, exactly one
survives. -/
theorem records_of_drained (config : Side → NodeConfig) (hids : ∀ X, (config X).nNodeID ≠ 0)
    (events : List Event) (hdrained : (run config events).Drained) :
    ((run config events).RecordsNone ∨ ∃! l, (run config events).Records l) ∧
      ((∀ ks event, ks ++ [event] <+: events → event.Undisturbed (run config ks)) →
        (run config events).links ≠ [] → ∃! l, (run config events).Records l) := by
  have hwired := wired_run hids events
  constructor
  · apply (hwired.recordsNone_or_records hids hdrained).imp_right
    rintro ⟨l, hl⟩
    exact ⟨l, hl, fun i hi => hl.eq hi⟩
  · intro hundisturbed hne
    have hview : (run config events).view ≠ [] := fun hnil => hne (List.map_eq_nil_iff.mp hnil)
    obtain ⟨l, v, hv, hkept⟩ := (surviving_run hids hundisturbed).exists_kept
      (hwired.drained_view hdrained) hview
    rw [view, List.getElem?_map, Option.map_eq_some_iff] at hv
    obtain ⟨k, hk, rfl⟩ := hv
    have hl : (run config events).Records l := by
      apply hwired.records hids hdrained hk
      intro e
      rw [hwired.peerID_eq, ← hwired.standing_eq_kept_iff hids hk, ← standing_viewLink]
      exact hkept e
    exact ⟨l, hl, fun i hi => hl.eq hi⟩

/-! ## Two nodes that connect to each other -/

instance {P : LinkEnd → Prop} [DecidablePred P] : Decidable (∀ e, P e) :=
  decidable_of_iff (P .initiative ∧ P .passive)
    ⟨fun h e => LinkEnd.casesOn e h.1 h.2, fun h => ⟨h .initiative, h .passive⟩⟩

instance {P : LinkEnd → Prop} [DecidablePred P] : Decidable (∃ e, P e) :=
  decidable_of_iff (P .initiative ∨ P .passive)
    ⟨fun h => h.elim (fun hi => ⟨.initiative, hi⟩) fun hp => ⟨.passive, hp⟩,
      fun h => h.elim fun e => LinkEnd.casesOn e Or.inl Or.inr⟩

instance {P : Side → Prop} [DecidablePred P] : Decidable (∀ X, P X) :=
  decidable_of_iff (P .left ∧ P .right)
    ⟨fun h X => Side.casesOn X h.1 h.2, fun h => ⟨h .left, h .right⟩⟩

instance (S : NodePair) : Decidable S.Drained :=
  inferInstanceAs (Decidable (∀ k ∈ S.links, ∀ _ : LinkEnd, _ ∧ (_ → _ ∧ _)))

instance (S : NodePair) (X : Side) : Decidable (S.GivenUp X) :=
  inferInstanceAs (Decidable (∃ k ∈ S.links, ∃ _ : LinkEnd, _ ∧ _ ∧ (_ ∨ _)))

instance (app : CCoreApp) (nNodeID : UInt32) : Decidable (app.KnowsNode nNodeID) :=
  inferInstanceAs (Decidable (_ = true))

instance (S : NodePair) : (event : Event) → Decidable (event.Undisturbed S)
  | .onTicker _ => inferInstanceAs (Decidable True)
  | .onConnectFail _ => inferInstanceAs (Decidable True)
  | .onEstablished _ _ => inferInstanceAs (Decidable True)
  | .notifyConnect _ _ => inferInstanceAs (Decidable True)
  | .recvData l _ => inferInstanceAs (Decidable (∀ _ ∈ S.links[l]?, _ ∧ (_ → ¬ _)))
  | .notifyDisconnect _ _ => inferInstanceAs (Decidable True)
  | .fail _ => inferInstanceAs (Decidable False)
  | .addNodeProxyInfo _ _ _ _ => inferInstanceAs (Decidable True)
  | .setNodeProxyInfo _ _ _ => inferInstanceAs (Decidable (_ ∈ _))
  | .delNodeProxyInfo _ _ => inferInstanceAs (Decidable (_ ≠ _))

/-- Two nodes that want a service of each other. -/
def bothConfig : Side → NodeConfig
  | .left =>
      { nNodeID := 1
        setConnectServiceName := (∅ : StdSet StdString).insert [98]
        vecServiceBaseInfo := [{ nID := 11, szType := [116], szName := [97] }] }
  | .right =>
      { nNodeID := 2
        setConnectServiceName := (∅ : StdSet StdString).insert [97]
        vecServiceBaseInfo := [{ nID := 22, szType := [116], szName := [98] }] }

/-- Both learn of each other and connect; both are told of both links. -/
def bothConnect : List Event :=
  [.addNodeProxyInfo .left { (default : SNodeBaseInfo) with nID := 2, szHost := [104], nPort := 1 }
     [{ nID := 22, szType := [116], szName := [98] }] false,
   .addNodeProxyInfo .right { (default : SNodeBaseInfo) with nID := 1, szHost := [104], nPort := 1 }
     [{ nID := 11, szType := [116], szName := [97] }] false,
   .onTicker .left, .onTicker .right,
   .onEstablished .left fun _ => 7, .onEstablished .right fun _ => 8,
   .notifyConnect 0 .initiative, .notifyConnect 1 .initiative,
   .notifyConnect 0 .passive, .notifyConnect 1 .passive]

/-- The left node gets its response before the request of the right one. -/
def responseFirst : List Event :=
  bothConnect ++ [.recvData 0 .passive, .recvData 0 .initiative, .recvData 1 .passive,
    .notifyDisconnect 1 .passive, .notifyDisconnect 1 .initiative]

theorem records_of_drained_responseFirst :
    ∃! l, (run bothConfig responseFirst).Records l := by
  have hundisturbed : Meets NodePair.step (fun S event => event.Undisturbed S)
      (start bothConfig) responseFirst := by decide
  exact (records_of_drained bothConfig (by decide) responseFirst (by decide)).2
    (meets_iff.mp hundisturbed) (by decide)

/-- Each node gets the request of the other one before its own response. -/
def requestsCross : List Event :=
  bothConnect ++ [.recvData 0 .passive, .recvData 1 .passive,
    .recvData 0 .initiative, .recvData 1 .initiative,
    .notifyDisconnect 0 .initiative, .notifyDisconnect 1 .initiative,
    .notifyDisconnect 0 .passive, .notifyDisconnect 1 .passive]

/-- The right node has not been told of the left one. -/
def requestTooEarly : List Event :=
  [.addNodeProxyInfo .left { (default : SNodeBaseInfo) with nID := 2, szHost := [104], nPort := 1 }
     [{ nID := 22, szType := [116], szName := [98] }] false,
   .onTicker .left, .onEstablished .left fun _ => 7,
   .notifyConnect 0 .passive, .notifyConnect 0 .initiative, .recvData 0 .passive,
   .notifyDisconnect 0 .passive, .notifyDisconnect 0 .initiative]

/-- The right node has the id zero. -/
def zeroConfig : Side → NodeConfig
  | .left => bothConfig .left
  | .right => { bothConfig .right with nNodeID := 0 }

/-- The link of the two nodes fails. -/
def zeroFails : List Event :=
  [.addNodeProxyInfo .left { (default : SNodeBaseInfo) with nID := 0, szHost := [104], nPort := 1 }
     [{ nID := 22, szType := [116], szName := [98] }] false,
   .addNodeProxyInfo .right { (default : SNodeBaseInfo) with nID := 1, szHost := [104], nPort := 1 }
     [{ nID := 11, szType := [116], szName := [97] }] false,
   .onTicker .left, .onEstablished .left fun _ => 7,
   .notifyConnect 0 .passive, .notifyConnect 0 .initiative,
   .recvData 0 .passive, .recvData 0 .initiative, .fail 0,
   .notifyDisconnect 0 .passive, .notifyDisconnect 0 .initiative]

theorem not_records (h : ∀ k ∈ S.links, k.phase .initiative = .disconnected) :
    ¬ ∃ l, S.Records l := by
  rintro ⟨l, k, hl, hkept, -⟩
  have hphase := (hkept .initiative).1
  rw [h k (List.mem_of_getElem? hl)] at hphase
  cases hphase

/-- No link fails and none survives; and the socket of a closed link stays stored for the
node zero. -/
theorem not_records_of_drained :
    ((run bothConfig requestsCross).Drained ∧ (∀ l, .fail l ∉ requestsCross) ∧
        (run bothConfig requestsCross).links ≠ [] ∧
          ¬ ∃ l, (run bothConfig requestsCross).Records l) ∧
      ((run bothConfig requestTooEarly).Drained ∧ (∀ l, .fail l ∉ requestTooEarly) ∧
        (run bothConfig requestTooEarly).links ≠ [] ∧
          ¬ ∃ l, (run bothConfig requestTooEarly).Records l) ∧
      (run zeroConfig zeroFails).Drained ∧ ¬ (run zeroConfig zeroFails).RecordsNone ∧
        ¬ ∃ l, (run zeroConfig zeroFails).Records l := by
  refine ⟨⟨by decide, ?_, by decide, not_records (by decide)⟩,
    ⟨by decide, ?_, by decide, not_records (by decide)⟩, by decide, ?_, not_records (by decide)⟩
  · simp [requestsCross, bothConnect]
  · simp [requestTooEarly]
  · rintro ⟨hsocket, -⟩
    have hleft := hsocket .left
    revert hleft
    decide

end NodePair

end RealtimeEx.Core
