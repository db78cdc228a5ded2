import RealtimeEx.Core.BaseConnectionOtherNodeStanding
import RealtimeEx.Core.NodePairNotices

/-!
# The links of two nodes as the arbitration sees them

Every step of two nodes is at most one step of the abstract arbitration, so what holds of
all its runs holds of the links of the two nodes.
-/

namespace RealtimeEx.Core

open Base Arbitration

namespace NodePair

variable {config : Side → NodeConfig} {S : NodePair} {l : ℕ} {k : OtherNodeLink}
  {e : LinkEnd}

/-! ## The abstract links -/

/-- What the node of an end thinks of a link. -/
def standing (S : NodePair) (k : OtherNodeLink) (e : LinkEnd) : Standing :=
  match k.phase e with
  | .connecting => .waiting
  | .connected => (S.app (k.side e)).standing (k.nSocketID e)
  | .disconnected => .gone

/-- A link as the arbitration sees it. -/
def viewLink (S : NodePair) (k : OtherNodeLink) : LinkView where
  initiator := k.initiator
  initiative := S.standing k .initiative
  passive := S.standing k .passive
  bRequest := !(k.queue .passive).isEmpty
  bResponse := !(k.queue .initiative).isEmpty
  bFailed := k.bFailed

/-- All links as the arbitration sees them. -/
def view (S : NodePair) : List LinkView :=
  S.links.map S.viewLink

@[simp] theorem side_viewLink : (S.viewLink k).side e = k.side e := by
  cases e with
  | initiative => rfl
  | passive => rfl

@[simp] theorem standing_viewLink : (S.viewLink k).standing e = S.standing k e := by
  cases e with
  | initiative => rfl
  | passive => rfl

@[simp] theorem inbox_viewLink : (S.viewLink k).inbox e = !(k.queue e).isEmpty := by
  cases e with
  | initiative => rfl
  | passive => rfl

theorem getElem?_view (hl : S.links[l]? = some k) : S.view[l]? = some (S.viewLink k) := by
  rw [view, List.getElem?_map, hl]
  rfl

/-! ## The invariant -/

/-- The sockets of the links are distinct, the connections of the nodes are those of the
connected ends, an end has at most the one message of the handshake before it, and the
arbitration is sound. -/
structure Wired (config : Side → NodeConfig) (S : NodePair) : Prop where
  id : ∀ X, (S.app X).nNodeID = (config X).nNodeID
  socket : ∀ k ∈ S.links, ∀ e, k.nSocketID e ≠ 0
  stored : ∀ X, (S.app X).Stored (config X.other).nNodeID
  unique : ∀ {l l' : ℕ} {k k' : OtherNodeLink} {e e' : LinkEnd}, S.links[l]? = some k →
    S.links[l']? = some k' → k.side e = k'.side e' → k.nSocketID e = k'.nSocketID e' → l = l'
  connected : ∀ {l : ℕ} {k : OtherNodeLink} (e : LinkEnd), S.links[l]? = some k →
    (k.phase e = .connected ↔ (S.connection k e).isSome = true)
  linked : ∀ {X : Side} {s : UInt64}, ((S.app X).mapBaseConnectionByID s).isSome = true →
    ∃ (l : ℕ) (k : OtherNodeLink) (e : LinkEnd), S.links[l]? = some k ∧ k.side e = X ∧
      k.nSocketID e = s
  message : ∀ {l : ℕ} {k : OtherNodeLink} (e : LinkEnd), S.links[l]? = some k →
    k.queue e = [] ∨
      k.queue e = [CCoreApp.handshakeMessage (config (k.side e).other).nNodeID e]
  sound : Sound S.view

/-- The standing of an end as far as its phase says it. -/
theorem Wired.standing_eq_gone_iff (h : Wired config S) (hl : S.links[l]? = some k) :
    S.standing k e = .gone ↔ k.phase e = .disconnected := by
  rw [standing]
  cases hphase : k.phase e with
  | connecting => simp
  | disconnected => simp
  | connected =>
      have hsome := (h.connected e hl).mp hphase
      simp only [reduceCtorEq, iff_false]
      rw [CCoreApp.standing_eq_gone_iff]
      intro hnone
      rw [connection, hnone] at hsome
      cases hsome

theorem standing_eq_waiting_iff (S : NodePair) (k : OtherNodeLink) (e : LinkEnd) :
    S.standing k e = .waiting ↔ k.phase e = .connecting := by
  rw [standing]
  cases k.phase e with
  | connecting => simp
  | disconnected => simp
  | connected =>
      simp only [reduceCtorEq, iff_false]
      rw [CCoreApp.standing]
      split
      · simp
      · split
        · simp
        · split
          · simp
          · simp

theorem standing_of_connected (hphase : k.phase e = .connected) :
    S.standing k e = (S.app (k.side e)).standing (k.nSocketID e) := by
  rw [standing, hphase]

theorem Wired.ok (h : Wired config S) (hl : S.links[l]? = some k) :
    (S.viewLink k).ok = true :=
  h.sound.ok _ (List.mem_of_getElem? (getElem?_view hl))

/-! ## A step at one end -/

theorem end_cases (e e' : LinkEnd) : e' = e ∨ e' = e.other := by
  cases e with
  | initiative =>
      cases e' with
      | initiative => exact .inl rfl
      | passive => exact .inr rfl
  | passive =>
      cases e' with
      | initiative => exact .inr rfl
      | passive => exact .inl rfl

theorem other_ne (e : LinkEnd) : e.other ≠ e := by
  cases e with
  | initiative => exact LinkEnd.noConfusion
  | passive => exact LinkEnd.noConfusion

/-- The node of one end changes the connection of the end, and the link with it. -/
structure EndStep (S : NodePair) (l : ℕ) (k k' : OtherNodeLink) (e : LinkEnd)
    (app' : CCoreApp) : Prop where
  get : S.links[l]? = some k
  initiator : k'.initiator = k.initiator
  socket : k'.nSocketID = k.nSocketID
  failed : k'.bFailed = k.bFailed
  phase : k'.phase e.other = k.phase e.other
  standing : ∀ s, s ≠ k.nSocketID e → app'.standing s = (S.app (k.side e)).standing s

section EndStep

variable {k' : OtherNodeLink} {app' : CCoreApp}

theorem EndStep.side (h : EndStep S l k k' e app') (e' : LinkEnd) : k'.side e' = k.side e' := by
  cases e' with
  | initiative => exact h.initiator
  | passive => exact congrArg Side.other h.initiator

/-- The connection of another end. -/
theorem EndStep.standing_app (h : EndStep S l k k' e app') {X : Side} {s : UInt64}
    (hs : X = k.side e → s ≠ k.nSocketID e) :
    ((S.setApp (k.side e) app').app X).standing s = (S.app X).standing s := by
  by_cases hX : X = k.side e
  · subst hX
    rw [app_setApp_self]
    exact h.standing s (hs rfl)
  · rw [app_setApp_of_ne S hX]

theorem EndStep.standing_other (h : EndStep S l k k' e app') :
    ((S.setApp (k.side e) app').setLink l k').standing k' e.other =
      S.standing k e.other := by
  rw [NodePair.standing, NodePair.standing, h.phase, h.side, h.socket, app_setLink]
  cases k.phase e.other with
  | connecting => rfl
  | disconnected => rfl
  | connected =>
      apply h.standing_app
      intro hside
      rw [OtherNodeLink.side_other] at hside
      cases hX : k.side e with
      | left => rw [hX] at hside; cases hside
      | right => rw [hX] at hside; cases hside

/-- Only the one link changes. -/
theorem EndStep.view (h : EndStep S l k k' e app') (hwired : Wired config S) :
    ((S.setApp (k.side e) app').setLink l k').view =
      S.view.set l (((S.setApp (k.side e) app').setLink l k').viewLink k') := by
  apply List.ext_getElem?
  intro i
  have hlt := (List.getElem?_eq_some_iff.mp h.get).1
  rw [NodePair.view, links_setLink, links_setApp, List.getElem?_map, List.getElem?_set,
    List.getElem?_set]
  by_cases hi : l = i
  · subst hi
    rw [if_pos rfl, if_pos rfl, if_pos hlt, if_pos (by rw [NodePair.view, List.length_map]; exact hlt)]
    rfl
  · rw [if_neg hi, if_neg hi, NodePair.view, List.getElem?_map]
    cases hget : S.links[i]? with
    | none => rfl
    | some j =>
        have hstanding : ∀ e', ((S.setApp (k.side e) app').setLink l k').standing j e' =
            S.standing j e' := by
          intro e'
          rw [NodePair.standing, NodePair.standing, app_setLink]
          cases j.phase e' with
          | connecting => rfl
          | disconnected => rfl
          | connected =>
              apply h.standing_app
              intro hside hsocket
              exact hi (hwired.unique h.get hget hside.symm hsocket.symm)
        simp only [Option.map_some, viewLink, hstanding]

/-- The two ends of the changed link. -/
theorem EndStep.viewLink_eq (h : EndStep S l k k' e app') {v : LinkView}
    (hinitiator : v.initiator = k.initiator) (hfailed : v.bFailed = k.bFailed)
    (hstanding : ((S.setApp (k.side e) app').setLink l k').standing k' e = v.standing e)
    (hother : v.standing e.other = S.standing k e.other)
    (hinbox : ∀ e', v.inbox e' = !(k'.queue e').isEmpty) :
    ((S.setApp (k.side e) app').setLink l k').viewLink k' = v := by
  have hstandings : ∀ e', ((S.setApp (k.side e) app').setLink l k').standing k' e' =
      v.standing e' := by
    intro e'
    rcases end_cases e e' with rfl | rfl
    · exact hstanding
    · exact h.standing_other.trans hother.symm
  obtain ⟨X, i, p, rq, rs, f⟩ := v
  simp only [viewLink, LinkView.mk.injEq]
  refine ⟨h.initiator.trans hinitiator.symm, hstandings .initiative, hstandings .passive,
    (hinbox .passive).symm, (hinbox .initiative).symm, h.failed.trans hfailed.symm⟩

end EndStep

end NodePair

end RealtimeEx.Core
