import RealtimeEx.Core.NodePair
import RealtimeEx.Support.Transition

/-!
# Which link two nodes keep

An abstract view of the links between two nodes.  Each node keeps the first link whose
handshake message it gets while it has none; what it refuses it closes.  The nodes look at
nothing but their own choice.

Without disturbances a link that one node has kept may still be refused by the other one.
The links then agree only if this other one keeps a link that lives; it does unless the
two refuse each other's link.
-/

namespace RealtimeEx.Core

/-- What the node of an end thinks of a link: not told of it, waiting for the handshake,
its link to the other node, shut down, disconnected. -/
inductive Standing
  | waiting
  | fresh
  | kept
  | closing
  | gone
  deriving DecidableEq

/-- A link with the standing of its two ends and the handshake messages under way. -/
structure LinkView where
  initiator : Side
  initiative : Standing := .waiting
  passive : Standing := .waiting
  bRequest : Bool := false
  bResponse : Bool := false
  bFailed : Bool := false
  deriving DecidableEq

namespace LinkView

variable (v : LinkView)

/-- The node of an end. -/
def side : LinkEnd → Side
  | .initiative => v.initiator
  | .passive => v.initiator.other

/-- The standing of an end. -/
def standing : LinkEnd → Standing
  | .initiative => v.initiative
  | .passive => v.passive

/-- A message is under way to an end. -/
def inbox : LinkEnd → Bool
  | .initiative => v.bResponse
  | .passive => v.bRequest

/-- The node of an end is told of the link; the initiative end sends the request. -/
def connect : LinkEnd → LinkView
  | .initiative => { v with initiative := .fresh, bRequest := v.passive ≠ .gone }
  | .passive => { v with passive := .fresh }

/-- The node of an end keeps the link; the passive end sends the response. -/
def accept : LinkEnd → LinkView
  | .initiative => { v with initiative := .kept, bResponse := false }
  | .passive =>
      { v with passive := .kept, bRequest := false, bResponse := v.initiative ≠ .gone }

/-- The node of an end refuses the link. -/
def refuse : LinkEnd → LinkView
  | .initiative => { v with initiative := .closing, bResponse := false }
  | .passive => { v with passive := .closing, bRequest := false }

/-- An end is disconnected. -/
def disconnect : LinkEnd → LinkView
  | .initiative => { v with initiative := .gone, bResponse := false }
  | .passive => { v with passive := .gone, bRequest := false }

/-- A node gives up the link that it keeps. -/
def drop (X : Side) : LinkView :=
  { v with
    initiative := if v.initiator = X ∧ v.initiative = .kept then .closing else v.initiative
    passive := if v.initiator.other = X ∧ v.passive = .kept then .closing else v.passive }

/-- An end can be disconnected. -/
def mayDisconnect (e : LinkEnd) : Bool :=
  v.bFailed || v.standing e = .closing || v.standing e.other = .closing ||
    v.standing e.other = .gone

/-- How far the two ends can be with each other and with the messages under way. -/
def ok : Bool :=
  match v.initiative, v.passive, v.bRequest, v.bResponse with
  | .waiting, .waiting, false, false => true
  | .waiting, .fresh, false, false => true
  | .waiting, .gone, false, false => true
  | .fresh, .waiting, true, false => true
  | .fresh, .fresh, true, false => true
  | .fresh, .kept, false, true => true
  | .fresh, .closing, false, _ => true
  | .fresh, .gone, false, _ => true
  | .kept, .kept, false, false => true
  | .kept, .closing, false, false => true
  | .kept, .gone, false, false => true
  | .closing, .kept, false, false => true
  | .closing, .closing, false, false => true
  | .closing, .gone, false, false => true
  | .gone, .waiting, true, false => true
  | .gone, .fresh, true, false => true
  | .gone, .kept, false, false => true
  | .gone, .closing, false, false => true
  | .gone, .gone, false, false => true
  | _, _, _, _ => false

/-- A link that the node of this side keeps. -/
def keeps (X : Side) : Prop :=
  ∃ e, v.side e = X ∧ v.standing e = .kept

/-! ## What an action changes at a link -/

section Actions

variable {v : LinkView} {e e' : LinkEnd} {X : Side}

@[simp] theorem side_connect : (v.connect e).side e' = v.side e' := by
  cases e <;> cases e' <;> rfl

@[simp] theorem side_accept : (v.accept e).side e' = v.side e' := by
  cases e <;> cases e' <;> rfl

@[simp] theorem side_refuse : (v.refuse e).side e' = v.side e' := by
  cases e <;> cases e' <;> rfl

@[simp] theorem side_disconnect : (v.disconnect e).side e' = v.side e' := by
  cases e <;> cases e' <;> rfl

@[simp] theorem side_drop : (v.drop X).side e = v.side e := by
  cases e <;> rfl

@[simp] theorem initiator_connect : (v.connect e).initiator = v.initiator := by
  cases e <;> rfl

@[simp] theorem initiator_accept : (v.accept e).initiator = v.initiator := by
  cases e <;> rfl

@[simp] theorem initiator_refuse : (v.refuse e).initiator = v.initiator := by
  cases e <;> rfl

@[simp] theorem initiator_disconnect : (v.disconnect e).initiator = v.initiator := by
  cases e <;> rfl

@[simp] theorem bFailed_connect : (v.connect e).bFailed = v.bFailed := by
  cases e <;> rfl

@[simp] theorem bFailed_accept : (v.accept e).bFailed = v.bFailed := by
  cases e <;> rfl

@[simp] theorem bFailed_refuse : (v.refuse e).bFailed = v.bFailed := by
  cases e <;> rfl

@[simp] theorem bFailed_disconnect : (v.disconnect e).bFailed = v.bFailed := by
  cases e <;> rfl

theorem standing_connect :
    (v.connect e).standing e' = if e' = e then .fresh else v.standing e' := by
  cases e <;> cases e' <;> rfl

theorem standing_accept :
    (v.accept e).standing e' = if e' = e then .kept else v.standing e' := by
  cases e <;> cases e' <;> rfl

theorem standing_refuse :
    (v.refuse e).standing e' = if e' = e then .closing else v.standing e' := by
  cases e <;> cases e' <;> rfl

theorem standing_disconnect :
    (v.disconnect e).standing e' = if e' = e then .gone else v.standing e' := by
  cases e <;> cases e' <;> rfl

theorem standing_drop : (v.drop X).standing e =
    if v.side e = X ∧ v.standing e = .kept then .closing else v.standing e := by
  cases e <;> rfl

theorem forall_standing_eq {st : Standing} :
    (∀ e, v.standing e = st) ↔ v.initiative = st ∧ v.passive = st := by
  constructor
  · intro h
    exact ⟨h .initiative, h .passive⟩
  · rintro ⟨hi, hp⟩ e
    cases e with
    | initiative => exact hi
    | passive => exact hp

/-- The two ends belong to different nodes. -/
theorem eq_of_side_eq (h : v.side e = v.side e') : e = e' := by
  obtain ⟨X, i, p, rq, rs, f⟩ := v
  cases X <;> cases e <;> cases e' <;> first | rfl | cases h

theorem keeps_accept : (v.accept e).keeps X ↔ v.side e = X ∨ v.keeps X := by
  constructor
  · rintro ⟨e', hside, hkept⟩
    rw [side_accept] at hside
    rw [standing_accept] at hkept
    split at hkept
    · rename_i he
      exact .inl (he ▸ hside)
    · exact .inr ⟨e', hside, hkept⟩
  · rintro (hside | ⟨e', hside, hkept⟩)
    · exact ⟨e, side_accept.trans hside, standing_accept.trans (if_pos rfl)⟩
    · refine ⟨e', side_accept.trans hside, ?_⟩
      rw [standing_accept]
      split
      · rfl
      · exact hkept

/-- An action that makes no end kept. -/
theorem keeps_of_standing {v' : LinkView} (hside : ∀ e, v'.side e = v.side e)
    (hstanding : ∀ e, v'.standing e = .kept → v.standing e = .kept) (h : v'.keeps X) :
    v.keeps X := by
  obtain ⟨e, he, hkept⟩ := h
  exact ⟨e, (hside e).symm.trans he, hstanding e hkept⟩

/-- An action that changes one end, which is not kept then. -/
theorem keeps_of_standing_ite {v' : LinkView} {st : Standing} (hst : st ≠ .kept)
    (hside : ∀ e', v'.side e' = v.side e')
    (hstanding : ∀ e', v'.standing e' = if e' = e then st else v.standing e')
    (h : v'.keeps X) : v.keeps X := by
  apply keeps_of_standing hside (fun e' hkept => ?_) h
  rw [hstanding] at hkept
  split at hkept
  · exact absurd hkept hst
  · exact hkept

theorem keeps_of_connect (h : (v.connect e).keeps X) : v.keeps X :=
  keeps_of_standing_ite (e := e) (by decide) (fun _ => side_connect)
    (fun _ => standing_connect) h

theorem keeps_of_refuse (h : (v.refuse e).keeps X) : v.keeps X :=
  keeps_of_standing_ite (e := e) (by decide) (fun _ => side_refuse)
    (fun _ => standing_refuse) h

theorem keeps_of_disconnect (h : (v.disconnect e).keeps X) : v.keeps X :=
  keeps_of_standing_ite (e := e) (by decide) (fun _ => side_disconnect)
    (fun _ => standing_disconnect) h

theorem keeps_of_drop {Y : Side} (h : (v.drop Y).keeps X) : v.keeps X := by
  apply keeps_of_standing (fun _ => side_drop) (fun e' hkept => ?_) h
  rw [standing_drop] at hkept
  split at hkept
  · cases hkept
  · exact hkept

theorem ok_connect (h : v.ok = true) (he : v.standing e = .waiting) :
    (v.connect e).ok = true := by
  obtain ⟨X, i, p, rq, rs, f⟩ := v
  cases e with
  | initiative =>
      obtain rfl : i = .waiting := he
      cases p <;> cases rq <;> cases rs <;> first | rfl | cases h
  | passive =>
      obtain rfl : p = .waiting := he
      cases i <;> cases rq <;> cases rs <;> first | rfl | cases h

theorem ok_accept (h : v.ok = true) (he : v.standing e = .fresh) (hin : v.inbox e = true) :
    (v.accept e).ok = true := by
  obtain ⟨X, i, p, rq, rs, f⟩ := v
  cases e with
  | initiative =>
      obtain rfl : i = .fresh := he
      obtain rfl : rs = true := hin
      cases p <;> cases rq <;> first | rfl | cases h
  | passive =>
      obtain rfl : p = .fresh := he
      obtain rfl : rq = true := hin
      cases i <;> cases rs <;> first | rfl | cases h

theorem ok_refuse (h : v.ok = true) (he : v.standing e = .fresh) (hin : v.inbox e = true) :
    (v.refuse e).ok = true := by
  obtain ⟨X, i, p, rq, rs, f⟩ := v
  cases e with
  | initiative =>
      obtain rfl : i = .fresh := he
      obtain rfl : rs = true := hin
      cases p <;> cases rq <;> first | rfl | cases h
  | passive =>
      obtain rfl : p = .fresh := he
      obtain rfl : rq = true := hin
      cases i <;> cases rs <;> first | rfl | cases h

theorem ok_disconnect (h : v.ok = true) (he : v.standing e ≠ .waiting) :
    (v.disconnect e).ok = true := by
  obtain ⟨X, i, p, rq, rs, f⟩ := v
  cases e with
  | initiative =>
      have hi : i ≠ .waiting := he
      cases i <;> cases p <;> cases rq <;> cases rs <;>
        first | rfl | exact absurd rfl hi | cases h
  | passive =>
      have hp : p ≠ .waiting := he
      cases i <;> cases p <;> cases rq <;> cases rs <;>
        first | rfl | exact absurd rfl hp | cases h

theorem ok_drop (h : v.ok = true) : (v.drop X).ok = true := by
  obtain ⟨Y, i, p, rq, rs, f⟩ := v
  cases X <;> cases Y <;> cases i <;> cases p <;> cases rq <;> cases rs <;>
    first | rfl | cases h

end Actions

end LinkView

/-! ## The system -/

namespace Arbitration

/-- What happens: a link is opened, a node is told of its end, keeps it, refuses it in
favour of a link that it keeps or for another reason, an end is disconnected, a link fails
on its own, a node gives up what it keeps. -/
inductive Act
  | establish (X : Side)
  | connect (l : ℕ) (e : LinkEnd)
  | accept (l : ℕ) (e : LinkEnd)
  | refuse (l : ℕ) (e : LinkEnd) (favour : Option ℕ)
  | disconnect (l : ℕ) (e : LinkEnd)
  | fail (l : ℕ)
  | drop (X : Side)

/-- The node of this side keeps the link of this number. -/
def KeptAt (vs : List LinkView) (X : Side) (l : ℕ) : Prop :=
  ∃ v, vs[l]? = some v ∧ v.keeps X

/-- One step. -/
inductive Step : List LinkView → Act → List LinkView → Prop
  | establish {vs : List LinkView} (X : Side) :
      Step vs (.establish X) (vs ++ [{ initiator := X }])
  | connect {vs : List LinkView} {l : ℕ} {e : LinkEnd} {v : LinkView} :
      vs[l]? = some v → v.standing e = .waiting →
        Step vs (.connect l e) (vs.set l (v.connect e))
  | accept {vs : List LinkView} {l : ℕ} {e : LinkEnd} {v : LinkView} :
      vs[l]? = some v → v.standing e = .fresh → v.inbox e = true →
        (∀ i, ¬ KeptAt vs (v.side e) i) → Step vs (.accept l e) (vs.set l (v.accept e))
  | refuse {vs : List LinkView} {l : ℕ} {e : LinkEnd} {v : LinkView} {favour : Option ℕ} :
      vs[l]? = some v → v.standing e = .fresh → v.inbox e = true →
        (∀ i ∈ favour, KeptAt vs (v.side e) i) →
          Step vs (.refuse l e favour) (vs.set l (v.refuse e))
  | disconnect {vs : List LinkView} {l : ℕ} {e : LinkEnd} {v : LinkView} :
      vs[l]? = some v → v.standing e ≠ .waiting → v.mayDisconnect e = true →
        Step vs (.disconnect l e) (vs.set l (v.disconnect e))
  | fail {vs : List LinkView} {l : ℕ} {v : LinkView} :
      vs[l]? = some v → Step vs (.fail l) (vs.set l { v with bFailed := true })
  | drop {vs : List LinkView} (X : Side) :
      Step vs (.drop X) (vs.map fun v => v.drop X)

/-- The links of two nodes that have not opened any yet. -/
def system : TransitionSystem (List LinkView) Act where
  init vs := vs = []
  step := Step

/-! ## Every run -/

/-- The ends of every link fit together, and no node keeps two links. -/
structure Sound (vs : List LinkView) : Prop where
  ok : ∀ v ∈ vs, v.ok = true
  single : ∀ X i j, KeptAt vs X i → KeptAt vs X j → i = j

variable {vs vs' : List LinkView} {l : ℕ} {v v' : LinkView} {X : Side}

theorem keptAt_set (hl : vs[l]? = some v) {i : ℕ} :
    KeptAt (vs.set l v') X i ↔ if l = i then v'.keeps X else KeptAt vs X i := by
  have hlt := (List.getElem?_eq_some_iff.mp hl).1
  rw [KeptAt, List.getElem?_set, if_pos hlt]
  split
  · simp
  · rfl

/-- A link changes and no node keeps a second one. -/
theorem Sound.set (h : Sound vs) (hl : vs[l]? = some v) (hok : v'.ok = true)
    (hkeeps : ∀ X, v'.keeps X → v.keeps X ∨ ∀ i, ¬ KeptAt vs X i) : Sound (vs.set l v') := by
  constructor
  · intro w hw
    rcases List.mem_or_eq_of_mem_set hw with hw | rfl
    · exact h.ok w hw
    · exact hok
  · -- The link itself was kept before, or nothing was.
    have hbefore : ∀ X i, KeptAt (vs.set l v') X i → KeptAt vs X i ∨
        i = l ∧ ∀ j, ¬ KeptAt vs X j := by
      intro X i hi
      rw [keptAt_set hl] at hi
      split at hi
      · rename_i hli
        subst hli
        rcases hkeeps X hi with hkept | hfree
        · exact .inl ⟨v, hl, hkept⟩
        · exact .inr ⟨rfl, hfree⟩
      · exact .inl hi
    intro X i j hi hj
    rcases hbefore X i hi with hi' | ⟨hil, hfree⟩
    · rcases hbefore X j hj with hj' | ⟨-, hfree⟩
      · exact h.single X i j hi' hj'
      · exact absurd hi' (hfree i)
    · rcases hbefore X j hj with hj' | ⟨hjl, -⟩
      · exact absurd hj' (hfree j)
      · rw [hil, hjl]

theorem Sound.step {act : Act} (h : Sound vs) (hstep : Step vs act vs') : Sound vs' := by
  cases hstep with
  | establish X =>
      have hbefore : ∀ Y i, KeptAt (vs ++ [{ initiator := X }]) Y i → KeptAt vs Y i := by
        rintro Y i ⟨w, hw, e, hside, hkept⟩
        rw [List.getElem?_append] at hw
        split at hw
        · exact ⟨w, hw, e, hside, hkept⟩
        · obtain rfl := List.mem_singleton.mp (List.mem_of_getElem? hw)
          cases e with
          | initiative => cases hkept
          | passive => cases hkept
      constructor
      · intro w hw
        rcases List.mem_append.mp hw with hw | hw
        · exact h.ok w hw
        · obtain rfl := List.mem_singleton.mp hw
          rfl
      · intro Y i j hi hj
        exact h.single Y i j (hbefore Y i hi) (hbefore Y j hj)
  | connect hl hwaiting =>
      exact h.set hl (LinkView.ok_connect (h.ok _ (List.mem_of_getElem? hl)) hwaiting)
        fun Y hY => .inl (LinkView.keeps_of_connect hY)
  | accept hl hfresh hinbox hfree =>
      refine h.set hl (LinkView.ok_accept (h.ok _ (List.mem_of_getElem? hl)) hfresh hinbox)
        fun Y hY => ?_
      rcases LinkView.keeps_accept.mp hY with rfl | hY
      · exact .inr hfree
      · exact .inl hY
  | refuse hl hfresh hinbox _ =>
      exact h.set hl (LinkView.ok_refuse (h.ok _ (List.mem_of_getElem? hl)) hfresh hinbox)
        fun Y hY => .inl (LinkView.keeps_of_refuse hY)
  | disconnect hl hwaiting _ =>
      exact h.set hl (LinkView.ok_disconnect (h.ok _ (List.mem_of_getElem? hl)) hwaiting)
        fun Y hY => .inl (LinkView.keeps_of_disconnect hY)
  | fail hl =>
      have hok := h.ok _ (List.mem_of_getElem? hl)
      refine h.set hl hok fun Y hY => .inl ?_
      exact LinkView.keeps_of_standing (fun e => by cases e <;> rfl)
        (fun e he => by cases e <;> exact he) hY
  | drop X =>
      have hbefore : ∀ Y i, KeptAt (vs.map fun v => v.drop X) Y i → KeptAt vs Y i := by
        rintro Y i ⟨w, hw, hkeeps⟩
        rw [List.getElem?_map, Option.map_eq_some_iff] at hw
        obtain ⟨v, hv, rfl⟩ := hw
        exact ⟨v, hv, LinkView.keeps_of_drop hkeeps⟩
      constructor
      · intro w hw
        obtain ⟨v, hv, rfl⟩ := List.mem_map.mp hw
        exact LinkView.ok_drop (h.ok v hv)
      · intro Y i j hi hj
        exact h.single Y i j (hbefore Y i hi) (hbefore Y j hj)

theorem sound_nil : Sound [] := by
  constructor
  · intro v hv
    cases hv
  · rintro X i j ⟨v, hv, -⟩
    simp at hv

/-- Nothing is under way: every node has been told of its ends, no message and no
disconnect is due. -/
def Drained (vs : List LinkView) : Prop :=
  ∀ v ∈ vs, ∀ e, v.standing e ≠ .waiting ∧
    (v.standing e ≠ .gone → v.inbox e = false ∧ v.mayDisconnect e = false)

/-- Then a link is kept at both ends or gone at both. -/
theorem Sound.of_drained (h : Sound vs) (hdrained : Drained vs) (hv : v ∈ vs) :
    (∀ e, v.standing e = .kept) ∨ ∀ e, v.standing e = .gone := by
  have hinitiative := hdrained v hv .initiative
  have hpassive := hdrained v hv .passive
  have hok := h.ok v hv
  rw [LinkView.forall_standing_eq, LinkView.forall_standing_eq]
  obtain ⟨X, i, p, rq, rs, f⟩ := v
  simp only [LinkView.standing, LinkView.inbox, LinkView.mayDisconnect, LinkEnd.other]
    at hinitiative hpassive
  cases i <;> cases p <;> cases rq <;> cases rs <;> simp_all [LinkView.ok]

end Arbitration

end RealtimeEx.Core
