import RealtimeEx.Core.LinkArbitrationSurvivor
import RealtimeEx.Core.NodePairLinks

/-!
# The steps of two nodes as steps of the arbitration

For every event: what it does to the links as the arbitration sees them, and that it keeps
the invariant.
-/

namespace RealtimeEx.Core

open Base Arbitration

theorem CCoreApp.isSome_iff_standing {app : CCoreApp} {s : UInt64} :
    (app.mapBaseConnectionByID s).isSome = true ↔ app.standing s ≠ .gone := by
  rw [Ne, CCoreApp.standing_eq_gone_iff, Option.isSome_iff_ne_none]

/-- A message is only under way to an end that waits for it. -/
theorem LinkView.waiting_or_fresh_of_inbox {v : LinkView} {e : LinkEnd} (h : v.ok = true)
    (hin : v.inbox e = true) : v.standing e = .waiting ∨ v.standing e = .fresh := by
  obtain ⟨X, i, p, rq, rs, f⟩ := v
  cases e with
  | initiative =>
      obtain rfl : rs = true := hin
      cases i <;> cases p <;> cases rq <;>
        first | exact .inl rfl | exact .inr rfl | cases h
  | passive =>
      obtain rfl : rq = true := hin
      cases i <;> cases p <;> cases rs <;>
        first | exact .inl rfl | exact .inr rfl | cases h

/-- Nothing is under way in return before the message has been answered. -/
theorem LinkView.inbox_other {v : LinkView} {e : LinkEnd} (h : v.ok = true)
    (he : v.standing e = .waiting ∨ v.inbox e = true) : v.inbox e.other = false := by
  obtain ⟨X, i, p, rq, rs, f⟩ := v
  cases e with
  | initiative =>
      rcases he with he | he
      · obtain rfl : i = .waiting := he
        cases p <;> cases rq <;> cases rs <;> first | rfl | cases h
      · obtain rfl : rs = true := he
        cases i <;> cases p <;> cases rq <;> first | rfl | cases h
  | passive =>
      rcases he with he | he
      · obtain rfl : p = .waiting := he
        cases i <;> cases rq <;> cases rs <;> first | rfl | cases h
      · obtain rfl : rq = true := he
        cases i <;> cases p <;> cases rs <;> first | rfl | cases h

namespace NodePair

variable {config : Side → NodeConfig} {S : NodePair} {l : ℕ} {k k' : OtherNodeLink}
  {e : LinkEnd} {app' : CCoreApp}

/-! ## The invariant after a step at one end -/

/-- An end changes as an action of the arbitration says. -/
structure EndAction (config : Side → NodeConfig) (S : NodePair) (l : ℕ)
    (k k' : OtherNodeLink) (e : LinkEnd) (app' : CCoreApp) (v : LinkView) : Prop
    extends EndStep S l k k' e app' where
  id : app'.nNodeID = (S.app (k.side e)).nNodeID
  stored : app'.Stored (config (k.side e).other).nNodeID
  phase_iff : k'.phase e = .connected ↔ app'.standing (k.nSocketID e) ≠ .gone
  message : ∀ e', k'.queue e' = [] ∨
    k'.queue e' = [CCoreApp.handshakeMessage (config (k.side e').other).nNodeID e']
  viewInitiator : v.initiator = k.initiator
  viewFailed : v.bFailed = k.bFailed
  viewSelf : ((S.setApp (k.side e) app').setLink l k').standing k' e = v.standing e
  viewOther : v.standing e.other = S.standing k e.other
  viewInbox : ∀ e', v.inbox e' = !(k'.queue e').isEmpty

section EndAction

variable {v : LinkView} {act : Act}

/-- A link is the changed one or one of the others. -/
theorem EndStep.links (h : EndStep S l k k' e app') {i : ℕ} {j : OtherNodeLink}
    (hget : ((S.setApp (k.side e) app').setLink l k').links[i]? = some j) :
    (i = l ∧ j = k') ∨ (i ≠ l ∧ S.links[i]? = some j) := by
  rw [links_setLink, links_setApp, List.getElem?_set] at hget
  have hlt := (List.getElem?_eq_some_iff.mp h.get).1
  by_cases hi : l = i
  · rw [if_pos hi, if_pos hlt] at hget
    exact .inl ⟨hi.symm, (Option.some.inj hget).symm⟩
  · rw [if_neg hi] at hget
    exact .inr ⟨Ne.symm hi, hget⟩

/-- The sockets of a link stay. -/
theorem EndStep.links_socket (h : EndStep S l k k' e app') {i : ℕ} {j : OtherNodeLink}
    (hget : ((S.setApp (k.side e) app').setLink l k').links[i]? = some j) :
    ∃ j₀, S.links[i]? = some j₀ ∧ (∀ e', j.side e' = j₀.side e') ∧
      j.nSocketID = j₀.nSocketID := by
  rcases h.links hget with ⟨rfl, rfl⟩ | ⟨-, hget⟩
  · exact ⟨k, h.get, h.side, h.socket⟩
  · exact ⟨j, hget, fun _ => rfl, rfl⟩

/-- The changed link. -/
theorem EndStep.links_self (h : EndStep S l k k' e app') :
    ((S.setApp (k.side e) app').setLink l k').links[l]? = some k' := by
  rw [links_setLink, links_setApp, List.getElem?_set, if_pos rfl,
    if_pos (List.getElem?_eq_some_iff.mp h.get).1]

theorem getElem?_links_of_ne {X : Side} {i : ℕ} (hi : l ≠ i) :
    ((S.setApp X app').setLink l k').links[i]? = S.links[i]? := by
  rw [links_setLink, links_setApp, List.getElem?_set, if_neg hi]

/-- The connections of the nodes stay those of the connected ends. -/
theorem EndAction.connected (h : EndAction config S l k k' e app' v)
    (hwired : Wired config S) {i : ℕ} {j : OtherNodeLink} (e' : LinkEnd)
    (hj : ((S.setApp (k.side e) app').setLink l k').links[i]? = some j) :
    j.phase e' = .connected ↔
      (((S.setApp (k.side e) app').setLink l k').connection j e').isSome = true := by
  rw [connection, app_setLink, CCoreApp.isSome_iff_standing]
  rcases h.links hj with ⟨rfl, rfl⟩ | ⟨hi, hget⟩
  · rw [h.side, h.socket]
    rcases end_cases e e' with rfl | rfl
    · rw [app_setApp_self]
      exact h.phase_iff
    · rw [h.phase, h.standing_app, hwired.connected _ h.get, connection,
        CCoreApp.isSome_iff_standing]
      intro hside
      rw [OtherNodeLink.side_other] at hside
      exact absurd hside (by cases k.side e <;> exact Side.noConfusion)
  · rw [h.standing_app, hwired.connected e' hget, connection, CCoreApp.isSome_iff_standing]
    intro hside hsocket
    exact hi (hwired.unique hget h.get hside hsocket)

/-- Every connection still belongs to an end. -/
theorem EndAction.linked (h : EndAction config S l k k' e app' v) (hwired : Wired config S)
    {X : Side} {s : UInt64}
    (hs : ((((S.setApp (k.side e) app').setLink l k').app X).mapBaseConnectionByID s).isSome =
      true) :
    ∃ (i : ℕ) (j : OtherNodeLink) (e' : LinkEnd),
      ((S.setApp (k.side e) app').setLink l k').links[i]? = some j ∧ j.side e' = X ∧
        j.nSocketID e' = s := by
  rw [app_setLink, CCoreApp.isSome_iff_standing] at hs
  by_cases hown : X = k.side e ∧ s = k.nSocketID e
  · obtain ⟨rfl, rfl⟩ := hown
    exact ⟨l, k', e, h.links_self, h.side e, congrFun h.socket e⟩
  · rw [h.standing_app fun hX hs' => hown ⟨hX, hs'⟩, ← CCoreApp.isSome_iff_standing] at hs
    obtain ⟨i, j, e', hget, hside, hsocket⟩ := hwired.linked hs
    by_cases hi : l = i
    · subst hi
      obtain rfl := Option.some.inj (h.get.symm.trans hget)
      exact ⟨l, k', e', h.links_self, (h.side e').trans hside,
        (congrFun h.socket e').trans hsocket⟩
    · exact ⟨i, j, e', (getElem?_links_of_ne hi).trans hget, hside, hsocket⟩

/-- An end changes: this is one step of the arbitration, and the nodes stay wired. -/
theorem EndAction.step (h : EndAction config S l k k' e app' v) (hwired : Wired config S)
    (hstep : Step S.view act (S.view.set l v)) :
    Wired config ((S.setApp (k.side e) app').setLink l k') ∧
      Step S.view act ((S.setApp (k.side e) app').setLink l k').view := by
  have hview : ((S.setApp (k.side e) app').setLink l k').view = S.view.set l v := by
    rw [h.view hwired, h.viewLink_eq h.viewInitiator h.viewFailed h.viewSelf h.viewOther
      h.viewInbox]
  rw [← hview] at hstep
  refine ⟨?_, hstep⟩
  refine { id := ?_, socket := ?_, stored := ?_, unique := ?_,
           connected := h.connected hwired, linked := h.linked hwired, message := ?_,
           sound := hwired.sound.step hstep }
  · intro X
    rw [app_setLink]
    by_cases hX : X = k.side e
    · subst hX
      rw [app_setApp_self, h.id]
      exact hwired.id (k.side e)
    · rw [app_setApp_of_ne S hX]
      exact hwired.id X
  · intro j hj
    obtain ⟨i, hi, hget⟩ := List.getElem_of_mem hj
    obtain ⟨j₀, hj₀, -, hsocket⟩ := h.links_socket (List.getElem?_eq_some_iff.mpr ⟨hi, hget⟩)
    rw [hsocket]
    exact hwired.socket j₀ (List.mem_of_getElem? hj₀)
  · intro X
    rw [app_setLink]
    by_cases hX : X = k.side e
    · subst hX
      rw [app_setApp_self]
      exact h.stored
    · rw [app_setApp_of_ne S hX]
      exact hwired.stored X
  · intro i i' j j' e₁ e₂ hj hj' hside hsocket
    obtain ⟨j₀, hget, hside₀, hsocket₀⟩ := h.links_socket hj
    obtain ⟨j₀', hget', hside₀', hsocket₀'⟩ := h.links_socket hj'
    rw [hside₀, hside₀'] at hside
    rw [hsocket₀, hsocket₀'] at hsocket
    exact hwired.unique hget hget' hside hsocket
  · intro i j e' hj
    rcases h.links hj with ⟨rfl, rfl⟩ | ⟨-, hget⟩
    · rw [h.side]
      exact h.message e'
    · exact hwired.message e' hget

end EndAction

/-! ## The packets of a link -/

/-- The messages of a link behind a packet for one end: what is left for this end, and what
its node has sent. -/
theorem queue_send_other {messages : List NodeMessage} (hother : k.queue e.other = [])
    (e' : LinkEnd) : (k.send e.other messages).queue e' =
      if e' = e then k.queue e
      else if k.phase e.other = .disconnected then [] else messages := by
  rcases end_cases e e' with rfl | rfl
  · rw [if_pos rfl, OtherNodeLink.queue_send_of_ne (other_ne e').symm]
  · rw [if_neg (other_ne e), OtherNodeLink.queue_send_self, hother, List.nil_append]

@[simp] theorem bFailed_send {messages : List NodeMessage} :
    (k.send e messages).bFailed = k.bFailed := by
  rw [OtherNodeLink.send]
  split
  · rfl
  · rfl

@[simp] theorem initiator_send {messages : List NodeMessage} :
    (k.send e messages).initiator = k.initiator := by
  rw [OtherNodeLink.send]
  split
  · rfl
  · rfl

/-- A link whose end waits, or has a message before it, has none before the other end. -/
theorem Wired.queue_other (h : Wired config S) (hl : S.links[l]? = some k)
    (he : S.standing k e = .waiting ∨ k.queue e ≠ []) : k.queue e.other = [] := by
  have hinbox := LinkView.inbox_other (h.ok hl) (e := e) (by simpa using he)
  simpa using hinbox

section Packets

variable (hids : ∀ X, (config X).nNodeID ≠ 0)
include hids

/-- The node of an end has a connection for it, has taken its message or not, and sends
messages to the other end. -/
structure Handled (k b : OtherNodeLink) (e : LinkEnd) : Prop where
  initiator : b.initiator = k.initiator
  socket : b.nSocketID = k.nSocketID
  failed : b.bFailed = k.bFailed
  phase : b.phase e = .connected
  phaseOther : b.phase e.other = k.phase e.other
  queue : b.queue e = [] ∨ b.queue e = k.queue e
  queueOther : b.queue e.other = []

omit hids in
/-- What the node of an end sends is the handshake message for the other end. -/
theorem Wired.endAction_send (h : Wired config S) (hl : S.links[l]? = some k)
    {b : OtherNodeLink} (hb : Handled k b e) {messages : List NodeMessage} {v : LinkView}
    (hid : app'.nNodeID = (S.app (k.side e)).nNodeID)
    (hstored : app'.Stored (config (k.side e).other).nNodeID)
    (hstanding : ∀ s, app'.standing s =
      if s = k.nSocketID e then v.standing e else (S.app (k.side e)).standing s)
    (hgone : v.standing e ≠ .gone)
    (hmessages : messages = [] ∨
      messages = [CCoreApp.handshakeMessage (config (k.side e)).nNodeID e.other])
    (hinitiator : v.initiator = k.initiator) (hfailed : v.bFailed = k.bFailed)
    (hother : v.standing e.other = S.standing k e.other)
    (hinbox : v.inbox e = !(b.queue e).isEmpty)
    (hinboxOther : v.inbox e.other =
      (decide (S.standing k e.other ≠ .gone) && !messages.isEmpty)) :
    EndAction config S l k (b.send e.other messages) e app' v := by
  have hside : ∀ e', b.side e' = k.side e' := by
    intro e'
    cases e' with
    | initiative => exact hb.initiator
    | passive => exact congrArg Side.other hb.initiator
  refine { get := hl, initiator := ?_, socket := ?_, failed := ?_, phase := ?_, standing := ?_,
           id := hid, stored := hstored, phase_iff := ?_, message := ?_,
           viewInitiator := hinitiator, viewFailed := hfailed, viewSelf := ?_,
           viewOther := hother, viewInbox := ?_ }
  · rw [initiator_send, hb.initiator]
  · rw [OtherNodeLink.nSocketID_send, hb.socket]
  · rw [bFailed_send, hb.failed]
  · rw [OtherNodeLink.phase_send, hb.phaseOther]
  · intro s hs
    rw [hstanding, if_neg hs]
  · rw [OtherNodeLink.phase_send, hb.phase, hstanding, if_pos rfl]
    exact iff_of_true rfl hgone
  · intro e'
    rw [queue_send_other hb.queueOther]
    rcases end_cases e e' with rfl | rfl
    · rw [if_pos rfl]
      rcases hb.queue with hnil | hsame
      · exact .inl hnil
      · rw [hsame]
        exact h.message e' hl
    · rw [if_neg (other_ne e), OtherNodeLink.side_other, Side.other_other]
      split
      · exact .inl rfl
      · exact hmessages
  · rw [standing_of_connected]
    · rw [OtherNodeLink.side_send, hside, OtherNodeLink.nSocketID_send, hb.socket, app_setLink,
        app_setApp_self, hstanding, if_pos rfl]
    · rw [OtherNodeLink.phase_send, hb.phase]
  · intro e'
    rw [queue_send_other hb.queueOther]
    rcases end_cases e e' with rfl | rfl
    · rw [if_pos rfl, hinbox]
    · rw [if_neg (other_ne e), hinboxOther, hb.phaseOther]
      by_cases hdisconnected : k.phase e.other = .disconnected
      · have hstandingOther := (h.standing_eq_gone_iff hl).mpr hdisconnected
        simp [hdisconnected, hstandingOther]
      · have hstandingOther := (h.standing_eq_gone_iff hl).not.mpr hdisconnected
        simp [hdisconnected, hstandingOther]

theorem Wired.notifyConnect (h : Wired config S) (hl : S.links[l]? = some k)
    (hphase : k.phase e = .connecting) :
    Wired config (S.notifyConnect l k e) ∧
      Step S.view (.connect l e) (S.notifyConnect l k e).view := by
  have hnone : (S.app (k.side e)).mapBaseConnectionByID (k.nSocketID e) = none := by
    have hnot := (h.connected e hl).not.mp (by rw [hphase]; exact EndPhase.noConfusion)
    rw [connection, Option.not_isSome_iff_eq_none] at hnot
    exact hnot
  have hwaiting : S.standing k e = .waiting := (standing_eq_waiting_iff S k e).mpr hphase
  have hqueue : k.queue e.other = [] := h.queue_other hl (.inl hwaiting)
  have hhandled : Handled k (k.setPhase e .connected) e :=
    { initiator := rfl
      socket := rfl
      failed := rfl
      phase := OtherNodeLink.phase_setPhase_self
      phaseOther := OtherNodeLink.phase_setPhase_of_ne (other_ne e)
      queue := .inr (congrFun (OtherNodeLink.queue_setPhase_of_ne EndPhase.noConfusion) e)
      queueOther :=
        (congrFun (OtherNodeLink.queue_setPhase_of_ne EndPhase.noConfusion) e.other).trans hqueue }
  have haction : EndAction config S l k ((k.setPhase e .connected).send e.other
        ((S.app (k.side e)).onConnect (k.nSocketID e) e.mode).2) e
      ((S.app (k.side e)).onConnect (k.nSocketID e) e.mode).1
      ((S.viewLink k).connect e) := by
    refine h.endAction_send hl hhandled rfl ?_ ?_ ?_ ?_ ?_ ?_ ?_ ?_ ?_
    · exact (h.stored _).onConnect (hids _) (h.socket k (List.mem_of_getElem? hl) e) hnone e.mode
    · intro s
      rw [CCoreApp.standing_onConnect, LinkView.standing_connect, if_pos rfl]
    · rw [LinkView.standing_connect, if_pos rfl]
      exact Standing.noConfusion
    · rw [← h.id]
      cases e with
      | initiative => exact .inr rfl
      | passive => exact .inl rfl
    · exact LinkView.initiator_connect
    · exact LinkView.bFailed_connect
    · rw [LinkView.standing_connect, if_neg (other_ne e), standing_viewLink]
    · rw [OtherNodeLink.queue_setPhase_of_ne EndPhase.noConfusion, ← inbox_viewLink (S := S)]
      cases e with
      | initiative => rfl
      | passive => rfl
    · cases e with
      | initiative => exact (Bool.and_true _).symm
      | passive =>
          have hinitiative : k.queue .initiative = [] := hqueue
          show (!(k.queue .initiative).isEmpty) = (_ && false)
          rw [hinitiative, Bool.and_false]
          rfl
  apply haction.step h
  apply Step.connect (getElem?_view hl)
  rw [standing_viewLink, hwaiting]

/-- A handshake message has reached its end: the node accepts it or refuses it. -/
theorem Wired.endAction_recvData (h : Wired config S) (hl : S.links[l]? = some k)
    (hphase : k.phase e = .connected) {m : NodeMessage} {ms : List NodeMessage}
    (hqueue : k.queue e = m :: ms) :
    S.standing k e = .fresh ∧
      (CCoreApp.Accepted (config (k.side e).other).nNodeID (k.nSocketID e) (S.app (k.side e))
          ((S.app (k.side e)).onDispatch (k.nSocketID e) m).1 ∧
        EndAction config S l k ((k.setQueue e ms).send e.other
          ((S.app (k.side e)).onDispatch (k.nSocketID e) m).2) e
          ((S.app (k.side e)).onDispatch (k.nSocketID e) m).1 ((S.viewLink k).accept e) ∨
      CCoreApp.Refused (config (k.side e).other).nNodeID (k.nSocketID e) (S.app (k.side e))
          ((S.app (k.side e)).onDispatch (k.nSocketID e) m).1 ∧
        EndAction config S l k ((k.setQueue e ms).send e.other
          ((S.app (k.side e)).onDispatch (k.nSocketID e) m).2) e
          ((S.app (k.side e)).onDispatch (k.nSocketID e) m).1 ((S.viewLink k).refuse e)) := by
  obtain ⟨rfl, rfl⟩ : m = CCoreApp.handshakeMessage (config (k.side e).other).nNodeID e ∧
      ms = [] := by
    rcases h.message e hl with hnil | hone
    · rw [hnil] at hqueue
      cases hqueue
    · rw [hone] at hqueue
      cases hqueue
      exact ⟨rfl, rfl⟩
  have hfresh : S.standing k e = .fresh := by
    have hinbox : (S.viewLink k).inbox e = true := by
      rw [inbox_viewLink, hqueue]
      rfl
    rcases LinkView.waiting_or_fresh_of_inbox (h.ok hl) hinbox with hwaiting | hfresh
    · rw [standing_viewLink, standing_eq_waiting_iff, hphase] at hwaiting
      cases hwaiting
    · rw [standing_viewLink] at hfresh
      exact hfresh
  have happ : (S.app (k.side e)).standing (k.nSocketID e) = .fresh := by
    rw [← standing_of_connected hphase, hfresh]
  have hother : k.queue e.other = [] :=
    h.queue_other hl (.inr (by rw [hqueue]; exact List.cons_ne_nil _ _))
  have hhandled : Handled k (k.setQueue e []) e :=
    { initiator := rfl
      socket := rfl
      failed := rfl
      phase := hphase
      phaseOther := rfl
      queue := .inl OtherNodeLink.queue_setQueue_self
      queueOther := (OtherNodeLink.queue_setQueue_of_ne (other_ne e)).trans hother }
  have hid : ((S.app (k.side e)).onDispatch (k.nSocketID e)
      (CCoreApp.handshakeMessage (config (k.side e).other).nNodeID e)).1.nNodeID =
        (S.app (k.side e)).nNodeID := CCoreApp.nNodeID_onDispatch _ _
  refine ⟨hfresh, ?_⟩
  rcases CCoreApp.onDispatch_fresh (h.stored (k.side e)) (hids _) happ e with
    ⟨haccepted, hanswer⟩ | ⟨hrefused, hanswer⟩
  · refine .inl ⟨haccepted, ?_⟩
    refine h.endAction_send hl hhandled hid haccepted.stored ?_ ?_ ?_ ?_ ?_ ?_ ?_ ?_
    · intro s
      rw [haccepted.standing, LinkView.standing_accept, if_pos rfl]
    · rw [LinkView.standing_accept, if_pos rfl]
      exact Standing.noConfusion
    · rw [hanswer, h.id]
      cases e with
      | initiative => exact .inl rfl
      | passive => exact .inr rfl
    · exact LinkView.initiator_accept
    · exact LinkView.bFailed_accept
    · rw [LinkView.standing_accept, if_neg (other_ne e), standing_viewLink]
    · rw [OtherNodeLink.queue_setQueue_self]
      cases e with
      | initiative => rfl
      | passive => rfl
    · rw [hanswer]
      cases e with
      | initiative =>
          have hpassive : k.queue .passive = [] := hother
          show (!(k.queue .passive).isEmpty) = (_ && false)
          rw [hpassive, Bool.and_false]
          rfl
      | passive => exact (Bool.and_true _).symm
  · refine .inr ⟨hrefused, ?_⟩
    refine h.endAction_send hl hhandled hid hrefused.stored ?_ ?_ (.inl hanswer) ?_ ?_ ?_ ?_ ?_
    · intro s
      rw [hrefused.standing, LinkView.standing_refuse, if_pos rfl]
    · rw [LinkView.standing_refuse, if_pos rfl]
      exact Standing.noConfusion
    · exact LinkView.initiator_refuse
    · exact LinkView.bFailed_refuse
    · rw [LinkView.standing_refuse, if_neg (other_ne e), standing_viewLink]
    · rw [OtherNodeLink.queue_setQueue_self]
      cases e with
      | initiative => rfl
      | passive => rfl
    · rw [hanswer, List.isEmpty_nil, Bool.not_true, Bool.and_false]
      have hinbox : (S.viewLink k).inbox e.other = false := by
        rw [inbox_viewLink, hother]
        rfl
      cases e with
      | initiative => exact hinbox
      | passive => exact hinbox

end Packets

/-! ## The link that a node keeps -/

section Kept

variable (hids : ∀ X, (config X).nNodeID ≠ 0)
include hids

/-- A node keeps the link whose socket is stored for the other node. -/
theorem Wired.standing_eq_kept_iff (h : Wired config S) (hl : S.links[l]? = some k) :
    S.standing k e = .kept ↔ k.phase e = .connected ∧
      (S.app (k.side e)).proxy.socketID (config (k.side e).other).nNodeID = k.nSocketID e := by
  constructor
  · intro hkept
    have hphase : k.phase e = .connected := by
      cases hphase : k.phase e with
      | connected => rfl
      | connecting =>
          rw [(standing_eq_waiting_iff S k e).mpr hphase] at hkept
          cases hkept
      | disconnected =>
          rw [(h.standing_eq_gone_iff hl).mpr hphase] at hkept
          cases hkept
    rw [standing_of_connected hphase,
      CCoreApp.standing_eq_kept_iff (h.stored _) (hids _)] at hkept
    exact ⟨hphase, hkept.2⟩
  · rintro ⟨hphase, hsocket⟩
    rw [standing_of_connected hphase, CCoreApp.standing_eq_kept_iff (h.stored _) (hids _)]
    exact ⟨h.socket k (List.mem_of_getElem? hl) e, hsocket⟩

theorem Wired.keptAt_iff (h : Wired config S) {X : Side} {i : ℕ} :
    KeptAt S.view X i ↔ ∃ (k : OtherNodeLink) (e : LinkEnd), S.links[i]? = some k ∧
      k.side e = X ∧ k.phase e = .connected ∧
        (S.app X).proxy.socketID (config X.other).nNodeID = k.nSocketID e := by
  constructor
  · rintro ⟨v, hv, e, hside, hkept⟩
    rw [view, List.getElem?_map, Option.map_eq_some_iff] at hv
    obtain ⟨k, hk, rfl⟩ := hv
    rw [side_viewLink] at hside
    subst hside
    rw [standing_viewLink, h.standing_eq_kept_iff hids hk] at hkept
    exact ⟨k, e, hk, rfl, hkept⟩
  · rintro ⟨k, e, hk, rfl, hkept⟩
    refine ⟨S.viewLink k, getElem?_view hk, e, side_viewLink, ?_⟩
    rw [standing_viewLink, h.standing_eq_kept_iff hids hk]
    exact hkept

theorem Wired.not_keptAt (h : Wired config S) {X : Side}
    (hfree : (S.app X).proxy.socketID (config X.other).nNodeID = 0) (i : ℕ) :
    ¬ KeptAt S.view X i := by
  rw [h.keptAt_iff hids]
  rintro ⟨k, e, hk, -, -, hsocket⟩
  exact h.socket k (List.mem_of_getElem? hk) e (hsocket.symm.trans hfree)

/-- A stored socket is that of a link. -/
theorem Wired.exists_keptAt (h : Wired config S) {X : Side}
    (hsocket : (S.app X).proxy.socketID (config X.other).nNodeID ≠ 0) :
    ∃ i, KeptAt S.view X i := by
  obtain ⟨-, c, hc, -⟩ := (h.stored X).stored hsocket
  obtain ⟨i, k, e, hk, rfl, hs⟩ := h.linked (by rw [hc]; rfl)
  refine ⟨i, (h.keptAt_iff hids).mpr ⟨k, e, hk, rfl, ?_, hs.symm⟩⟩
  rw [h.connected e hk, connection, hs, hc]
  rfl

end Kept

/-! ## Disconnects -/

theorem Wired.isClosing_iff (h : Wired config S) (hl : S.links[l]? = some k) :
    S.isClosing k e = true ↔ S.standing k e = .closing := by
  have hconnected := h.connected e hl
  rw [isClosing, standing]
  cases hphase : k.phase e with
  | connected => exact (CCoreApp.standing_eq_closing_iff (h.stored _)).symm
  | connecting =>
      have hnone := hconnected.not.mp (by rw [hphase]; exact EndPhase.noConfusion)
      rw [Option.not_isSome_iff_eq_none.mp hnone]
      simp
  | disconnected =>
      have hnone := hconnected.not.mp (by rw [hphase]; exact EndPhase.noConfusion)
      rw [Option.not_isSome_iff_eq_none.mp hnone]
      simp

/-- The arbitration sees which ends can be disconnected. -/
theorem Wired.mayDisconnect_iff (h : Wired config S) (hl : S.links[l]? = some k) :
    (S.viewLink k).mayDisconnect e = true ↔ S.mayDisconnect k e = true := by
  simp only [LinkView.mayDisconnect, NodePair.mayDisconnect, Bool.or_eq_true, decide_eq_true_eq,
    standing_viewLink, h.isClosing_iff hl, h.standing_eq_gone_iff hl]
  exact Iff.rfl

theorem Wired.notifyDisconnect (h : Wired config S) (hids : ∀ X, (config X).nNodeID ≠ 0)
    (hl : S.links[l]? = some k) (hphase : k.phase e = .connected)
    (hmay : S.mayDisconnect k e = true) :
    Wired config (S.notifyDisconnect l k e) ∧
      Step S.view (.disconnect l e) (S.notifyDisconnect l k e).view := by
  have hqueue : ∀ e', (k.setPhase e .disconnected).queue e' =
      if e' = e then [] else k.queue e' := by
    intro e'
    rw [OtherNodeLink.queue_setPhase_disconnected, Function.update_apply]
  have hgone : ((S.app (k.side e)).onDisconnect (k.nSocketID e)).standing (k.nSocketID e) =
      .gone := by
    rw [CCoreApp.standing_onDisconnect, if_pos rfl]
  have haction : EndAction config S l k (k.setPhase e .disconnected) e
      ((S.app (k.side e)).onDisconnect (k.nSocketID e)) ((S.viewLink k).disconnect e) := by
    refine { get := hl, initiator := rfl, socket := rfl, failed := rfl,
             phase := OtherNodeLink.phase_setPhase_of_ne (other_ne e), standing := ?_,
             id := CCoreApp.nNodeID_onDisconnect _,
             stored := (h.stored _).onDisconnect (hids _), phase_iff := ?_, message := ?_,
             viewInitiator := LinkView.initiator_disconnect,
             viewFailed := LinkView.bFailed_disconnect, viewSelf := ?_, viewOther := ?_,
             viewInbox := ?_ }
    · intro s hs
      rw [CCoreApp.standing_onDisconnect, if_neg hs]
    · rw [OtherNodeLink.phase_setPhase_self, hgone]
      exact iff_of_false EndPhase.noConfusion fun hne => hne rfl
    · intro e'
      rw [hqueue]
      split
      · exact .inl rfl
      · exact h.message e' hl
    · rw [standing, OtherNodeLink.phase_setPhase_self, LinkView.standing_disconnect, if_pos rfl]
    · rw [LinkView.standing_disconnect, if_neg (other_ne e), standing_viewLink]
    · intro e'
      rw [hqueue]
      cases e with
      | initiative =>
          cases e' with
          | initiative => rfl
          | passive => rfl
      | passive =>
          cases e' with
          | initiative => rfl
          | passive => rfl
  apply haction.step h
  apply Step.disconnect (getElem?_view hl)
  · rw [standing_viewLink, Ne, standing_eq_waiting_iff, hphase]
    exact EndPhase.noConfusion
  · exact (h.mayDisconnect_iff hl).mpr hmay

/-! ## Handshake messages -/

/-- The other node has given up the link that a node keeps. -/
def GivenUp (S : NodePair) (X : Side) : Prop :=
  ∃ k ∈ S.links, ∃ e, k.side e = X ∧ (S.app X).proxy.socketID (S.peerID X) = k.nSocketID e ∧
    (S.isClosing k e.other = true ∨ k.phase e.other = .disconnected)

theorem Wired.peerID_eq (h : Wired config S) (X : Side) :
    S.peerID X = (config X.other).nNodeID :=
  h.id X.other

/-- A handshake message is accepted or refused.  It is refused for a link that the node
keeps, if it knows the other node at all. -/
theorem Wired.recvData (h : Wired config S) (hids : ∀ X, (config X).nNodeID ≠ 0)
    (hl : S.links[l]? = some k) (hphase : k.phase e = .connected) {m : NodeMessage}
    {ms : List NodeMessage} (hqueue : k.queue e = m :: ms) :
    Wired config (S.recvData l k e m ms) ∧
      ∃ act, Step S.view act (S.recvData l k e m ms).view ∧
        ((S.app (k.side e)).KnowsNode (S.peerID (k.side e)) →
          (e = .initiative → ¬ S.GivenUp (k.side e)) → (∀ v ∈ S.view, v.calm = true) →
            Calm S.view act) := by
  obtain ⟨hfresh, haccept | hrefuse⟩ := h.endAction_recvData hids hl hphase hqueue
  · obtain ⟨haccepted, haction⟩ := haccept
    have hstep : Step S.view (.accept l e) (S.view.set l ((S.viewLink k).accept e)) := by
      apply Step.accept (getElem?_view hl)
      · rw [standing_viewLink, hfresh]
      · rw [inbox_viewLink, hqueue]
        rfl
      · rw [side_viewLink]
        exact h.not_keptAt hids haccepted.free
    obtain ⟨hwired, hview⟩ := haction.step h hstep
    exact ⟨hwired, _, hview, fun _ _ _ => trivial⟩
  · obtain ⟨hrefused, haction⟩ := hrefuse
    have hstep : ∀ favour : Option ℕ, (∀ i ∈ favour, KeptAt S.view (k.side e) i) →
        Step S.view (.refuse l e favour) (S.view.set l ((S.viewLink k).refuse e)) := by
      intro favour hfavour
      apply Step.refuse (getElem?_view hl)
      · rw [standing_viewLink, hfresh]
      · rw [inbox_viewLink, hqueue]
        rfl
      · rw [side_viewLink]
        exact hfavour
    by_cases hknows : (S.app (k.side e)).KnowsNode (S.peerID (k.side e))
    · rw [h.peerID_eq] at hknows
      obtain ⟨j, hj⟩ := h.exists_keptAt hids (hrefused.taken hknows)
      obtain ⟨hwired, hview⟩ := haction.step h (hstep (some j) fun i hi => by
        obtain rfl := Option.some.inj hi
        exact hj)
      refine ⟨hwired, _, hview, fun _ hgiven hcalm => ?_⟩
      obtain ⟨w, e', hw, hside, hphase', hsocket⟩ := (h.keptAt_iff hids).mp hj
      refine ⟨j, S.viewLink w, rfl, getElem?_view hw, fun he => ?_⟩
      have hmem := List.mem_of_getElem? hw
      have hnot := hgiven he
      rw [← h.peerID_eq] at hsocket
      apply LinkView.alive_of_kept (e := e')
        (hcalm _ (List.mem_of_getElem? (getElem?_view hw)))
      · obtain ⟨v, hv, e'', hside', hkept⟩ := hj
        obtain rfl := Option.some.inj ((getElem?_view hw).symm.trans hv)
        obtain rfl := LinkView.eq_of_side_eq ((side_viewLink.trans hside).trans hside'.symm)
        exact hkept
      · rw [standing_viewLink, Ne, ← h.isClosing_iff hw]
        exact fun hclosing => hnot ⟨w, hmem, e', hside, hsocket, .inl hclosing⟩
      · rw [standing_viewLink, Ne, h.standing_eq_gone_iff hw]
        exact fun hgone => hnot ⟨w, hmem, e', hside, hsocket, .inr hgone⟩
    · obtain ⟨hwired, hview⟩ := haction.step h (hstep none fun i hi => by cases hi)
      exact ⟨hwired, _, hview, fun hknows' => absurd hknows' hknows⟩

end NodePair

end RealtimeEx.Core
