import RealtimeEx.Core.LinkArbitration

/-!
# The link that survives

In a run without disturbances no link fails, no node gives up its link, and a link is only
refused in favour of another one.  If in addition no node refuses a response in favour of
a link that the other node has given up, some link survives: a node that keeps a link
given up by the other one knows that the other one keeps a link that lives.
-/

namespace RealtimeEx.Core

namespace LinkView

/-! ## Links that live and links that are given up -/

/-- No end has refused the link. -/
def alive (v : LinkView) : Bool :=
  match v.initiative, v.passive, v.bRequest, v.bResponse, v.bFailed with
  | .waiting, .waiting, false, false, false => true
  | .waiting, .fresh, false, false, false => true
  | .fresh, .waiting, true, false, false => true
  | .fresh, .fresh, true, false, false => true
  | .fresh, .kept, false, true, false => true
  | .kept, .kept, false, false, false => true
  | _, _, _, _, _ => false

/-- One end has refused the link. -/
def refused (v : LinkView) : Bool :=
  match v.initiative, v.passive, v.bRequest, v.bResponse, v.bFailed with
  | .fresh, .closing, false, false, false => true
  | .fresh, .gone, false, false, false => true
  | .closing, .kept, false, false, false => true
  | .closing, .gone, false, false, false => true
  | .gone, .kept, false, false, false => true
  | .gone, .closing, false, false, false => true
  | .gone, .gone, false, false, false => true
  | _, _, _, _, _ => false

/-- The links of a run without disturbances. -/
def calm (v : LinkView) : Bool :=
  v.alive || v.refused

variable {v : LinkView} {e : LinkEnd} {X : Side}

theorem alive_connect (h : v.calm = true) (he : v.standing e = .waiting) :
    v.alive = true ∧ (v.connect e).alive = true := by
  obtain ⟨X, i, p, rq, rs, f⟩ := v
  cases e with
  | initiative =>
      obtain rfl : i = .waiting := he
      cases p <;> cases rq <;> cases rs <;> cases f <;> first | exact ⟨rfl, rfl⟩ | cases h
  | passive =>
      obtain rfl : p = .waiting := he
      cases i <;> cases rq <;> cases rs <;> cases f <;> first | exact ⟨rfl, rfl⟩ | cases h

/-- A link whose handshake goes on lives, whether it is accepted ... -/
theorem alive_accept (h : v.calm = true) (he : v.standing e = .fresh)
    (hin : v.inbox e = true) : v.alive = true ∧ (v.accept e).alive = true := by
  obtain ⟨X, i, p, rq, rs, f⟩ := v
  cases e with
  | initiative =>
      obtain rfl : i = .fresh := he
      obtain rfl : rs = true := hin
      cases p <;> cases rq <;> cases f <;> first | exact ⟨rfl, rfl⟩ | cases h
  | passive =>
      obtain rfl : p = .fresh := he
      obtain rfl : rq = true := hin
      cases i <;> cases rs <;> cases f <;> first | exact ⟨rfl, rfl⟩ | cases h

/-- ... or refused. -/
theorem refused_refuse (h : v.calm = true) (he : v.standing e = .fresh)
    (hin : v.inbox e = true) :
    v.alive = true ∧ (v.refuse e).alive = false ∧ (v.refuse e).refused = true := by
  obtain ⟨X, i, p, rq, rs, f⟩ := v
  cases e with
  | initiative =>
      obtain rfl : i = .fresh := he
      obtain rfl : rs = true := hin
      cases p <;> cases rq <;> cases f <;> first | exact ⟨rfl, rfl, rfl⟩ | cases h
  | passive =>
      obtain rfl : p = .fresh := he
      obtain rfl : rq = true := hin
      cases i <;> cases rs <;> cases f <;> first | exact ⟨rfl, rfl, rfl⟩ | cases h

theorem mayDisconnect_of_alive (h : v.alive = true) (e : LinkEnd) :
    v.mayDisconnect e = false := by
  obtain ⟨X, i, p, rq, rs, f⟩ := v
  cases i <;> cases p <;> cases rq <;> cases rs <;> cases f <;>
    first | cases e <;> rfl | cases h

theorem refused_disconnect (h : v.refused = true) (e : LinkEnd) :
    v.alive = false ∧ (v.disconnect e).alive = false ∧ (v.disconnect e).refused = true := by
  obtain ⟨X, i, p, rq, rs, f⟩ := v
  cases i <;> cases p <;> cases rq <;> cases rs <;> cases f <;>
    first | cases e <;> exact ⟨rfl, rfl, rfl⟩ | cases h

/-- A node that is asked for a handshake does not keep the link, nor does the node that
asks. -/
theorem not_keeps_of_request (h : v.calm = true) (he : v.standing .passive = .fresh)
    (hin : v.inbox .passive = true) : ¬ v.keeps X := by
  rintro ⟨e, -, hkept⟩
  cases e with
  | initiative =>
      obtain ⟨X, i, p, rq, rs, f⟩ := v
      obtain rfl : i = .kept := hkept
      obtain rfl : rq = true := hin
      cases p <;> cases rs <;> cases f <;> cases h
  | passive =>
      rw [he] at hkept
      cases hkept

/-- A node that keeps the link it has opened is not alone. -/
theorem alive_of_initiative (h : v.calm = true) (he : v.initiative = .kept) :
    v.alive = true := by
  obtain ⟨X, i, p, rq, rs, f⟩ := v
  obtain rfl : i = .kept := he
  cases p <;> cases rq <;> cases rs <;> cases f <;> first | rfl | cases h

/-- A kept link lives unless the other end has given it up. -/
theorem alive_of_kept (h : v.calm = true) (he : v.standing e = .kept)
    (hclosing : v.standing e.other ≠ .closing) (hgone : v.standing e.other ≠ .gone) :
    v.alive = true := by
  cases e with
  | initiative => exact alive_of_initiative h he
  | passive =>
      obtain ⟨X, i, p, rq, rs, f⟩ := v
      obtain rfl : p = .kept := he
      cases i <;> cases rq <;> cases rs <;> cases f <;>
        first | rfl | exact absurd rfl hclosing | exact absurd rfl hgone | cases h

end LinkView

namespace Arbitration

/-! ## Runs without disturbances -/

/-- Nothing disturbs the step: a link is refused only in favour of a kept one, and a
response only in favour of one that lives. -/
def Calm (vs : List LinkView) : Act → Prop
  | .refuse _ e favour => ∃ (j : ℕ) (w : LinkView), favour = some j ∧ vs[j]? = some w ∧
      (e = .initiative → w.alive = true)
  | .fail _ => False
  | .drop _ => False
  | _ => True

/-- Some link lives, and a node whose link the other node has given up knows that the
other node keeps one that lives. -/
structure Surviving (vs : List LinkView) : Prop extends Sound vs where
  calm : ∀ v ∈ vs, v.calm = true
  other : ∀ {X : Side} {i : ℕ} {w : LinkView}, vs[i]? = some w → w.keeps X →
    w.alive = false →
      ∃ (j : ℕ) (u : LinkView), vs[j]? = some u ∧ u.keeps X.other ∧ u.alive = true
  survivor : vs ≠ [] → ∃ (j : ℕ) (u : LinkView), vs[j]? = some u ∧ u.alive = true

variable {vs vs' : List LinkView} {l : ℕ} {v v' : LinkView} {X : Side}

theorem getElem?_set_self (hl : vs[l]? = some v) : (vs.set l v')[l]? = some v' := by
  rw [List.getElem?_set, if_pos rfl, if_pos (List.getElem?_eq_some_iff.mp hl).1]

theorem ne_nil_of_set (h : vs.set l v' ≠ []) : vs ≠ [] := by
  rintro rfl
  exact h rfl

theorem calm_set (h : ∀ v ∈ vs, v.calm = true) (hv' : v'.calm = true) :
    ∀ w ∈ vs.set l v', w.calm = true := by
  intro w hw
  rcases List.mem_or_eq_of_mem_set hw with hw | rfl
  · exact h w hw
  · exact hv'

/-- A link that lives still lives and is kept at least where it was; a link that is given
up is kept at most where it was. -/
theorem Surviving.set (h : Surviving vs) (hl : vs[l]? = some v) (hsound : Sound (vs.set l v'))
    (hcalm : v'.calm = true)
    (halive : v.alive = true → v'.alive = true ∧ ∀ X, v.keeps X → v'.keeps X)
    (hgiven : v'.alive = false → v.alive = false ∧ ∀ X, v'.keeps X → v.keeps X) :
    Surviving (vs.set l v') := by
  -- A link that lived before.
  have hkeep : ∀ (j : ℕ) (u : LinkView), vs[j]? = some u → u.alive = true →
      ∃ u' : LinkView, (vs.set l v')[j]? = some u' ∧ u'.alive = true ∧
        ∀ X, u.keeps X → u'.keeps X := by
    intro j u hu hlive
    by_cases hj : l = j
    · subst hj
      obtain rfl := Option.some.inj (hl.symm.trans hu)
      exact ⟨v', getElem?_set_self hl, halive hlive⟩
    · exact ⟨u, (List.getElem?_set_ne hj).trans hu, hlive, fun X => id⟩
  refine { toSound := hsound, calm := calm_set h.calm hcalm, other := ?_, survivor := ?_ }
  · intro X i w hw hkeeps hdead
    have hbefore : ∃ w' : LinkView, vs[i]? = some w' ∧ w'.keeps X ∧ w'.alive = false := by
      by_cases hi : l = i
      · subst hi
        obtain rfl := Option.some.inj ((getElem?_set_self hl).symm.trans hw)
        obtain ⟨hdead', hkeeps'⟩ := hgiven hdead
        exact ⟨v, hl, hkeeps' X hkeeps, hdead'⟩
      · exact ⟨w, (List.getElem?_set_ne hi).symm.trans hw, hkeeps, hdead⟩
    obtain ⟨w', hw', hkeeps', hdead'⟩ := hbefore
    obtain ⟨j, u, hu, hother, hlive⟩ := h.other hw' hkeeps' hdead'
    obtain ⟨u', hu', hlive', hmore⟩ := hkeep j u hu hlive
    exact ⟨j, u', hu', hmore _ hother, hlive'⟩
  · intro hne
    obtain ⟨j, u, hu, hlive⟩ := h.survivor (ne_nil_of_set hne)
    obtain ⟨u', hu', hlive', -⟩ := hkeep j u hu hlive
    exact ⟨j, u', hu', hlive'⟩

theorem Surviving.mem (h : Surviving vs) (hl : vs[l]? = some v) : v.calm = true :=
  h.calm v (List.mem_of_getElem? hl)

/-- A request is refused: neither node kept the link. -/
theorem Surviving.refuse_passive (h : Surviving vs) (hl : vs[l]? = some v)
    (hfresh : v.standing .passive = .fresh) (hinbox : v.inbox .passive = true) {j : ℕ}
    (hj : KeptAt vs (v.side .passive) j) (hsound : Sound (vs.set l (v.refuse .passive))) :
    Surviving (vs.set l (v.refuse .passive)) := by
  have hnot : ∀ X, ¬ v.keeps X := fun X =>
    LinkView.not_keeps_of_request (h.mem hl) hfresh hinbox
  obtain ⟨-, -, hrefused⟩ := LinkView.refused_refuse (h.mem hl) hfresh hinbox
  -- A link that lives and is kept somewhere is another one.
  have hkeep : ∀ {X : Side} {i : ℕ} {u : LinkView}, vs[i]? = some u → u.keeps X →
      (vs.set l (v.refuse .passive))[i]? = some u := by
    intro X i u hu hkeeps
    rw [List.getElem?_set_ne]
    · exact hu
    · rintro rfl
      obtain rfl := Option.some.inj (hl.symm.trans hu)
      exact hnot X hkeeps
  have hother : ∀ {X : Side} {i : ℕ} {w : LinkView}, vs[i]? = some w → w.keeps X →
      w.alive = false → ∃ (j : ℕ) (u : LinkView),
        (vs.set l (v.refuse .passive))[j]? = some u ∧ u.keeps X.other ∧ u.alive = true := by
    intro X i w hw hkeeps hdead
    obtain ⟨j, u, hu, hu', hlive⟩ := h.other hw hkeeps hdead
    exact ⟨j, u, hkeep hu hu', hu', hlive⟩
  refine { toSound := hsound, calm := ?_, other := ?_, survivor := ?_ }
  · apply calm_set h.calm
    rw [LinkView.calm, hrefused, Bool.or_true]
  · intro X i w hw hkeeps hdead
    by_cases hi : l = i
    · subst hi
      obtain rfl := Option.some.inj ((getElem?_set_self hl).symm.trans hw)
      exact absurd (LinkView.keeps_of_refuse hkeeps) (hnot X)
    · exact hother ((List.getElem?_set_ne hi).symm.trans hw) hkeeps hdead
  · intro _
    obtain ⟨w, hw, hkeeps⟩ := hj
    cases hlive : w.alive with
    | true => exact ⟨j, w, hkeep hw hkeeps, hlive⟩
    | false =>
        obtain ⟨i, u, hu, -, hlive'⟩ := hother hw hkeeps hlive
        exact ⟨i, u, hu, hlive'⟩

/-- A response is refused in favour of a link that lives: the other node keeps the refused
link, and learns of this one. -/
theorem Surviving.refuse_initiative (h : Surviving vs) (hl : vs[l]? = some v)
    (hfresh : v.standing .initiative = .fresh) (hinbox : v.inbox .initiative = true) {j : ℕ}
    {w : LinkView} (hw : vs[j]? = some w) (hkeeps : w.keeps (v.side .initiative))
    (hlive : w.alive = true) (hsound : Sound (vs.set l (v.refuse .initiative))) :
    Surviving (vs.set l (v.refuse .initiative)) := by
  obtain ⟨-, -, hrefused⟩ := LinkView.refused_refuse (h.mem hl) hfresh hinbox
  have hside : ∀ X, v.keeps X → X.other = v.side .initiative := by
    rintro X ⟨e, rfl, hkept⟩
    cases e with
    | initiative =>
        rw [hfresh] at hkept
        cases hkept
    | passive => exact Side.other_other _
  have hne : l ≠ j := by
    rintro rfl
    obtain rfl := Option.some.inj (hl.symm.trans hw)
    obtain ⟨e, heq, hkept⟩ := hkeeps
    rw [LinkView.eq_of_side_eq heq, hfresh] at hkept
    cases hkept
  have hw' : (vs.set l (v.refuse .initiative))[j]? = some w :=
    (List.getElem?_set_ne hne).trans hw
  refine { toSound := hsound, calm := ?_, other := ?_, survivor := fun _ => ⟨j, w, hw', hlive⟩ }
  · apply calm_set h.calm
    rw [LinkView.calm, hrefused, Bool.or_true]
  · intro X i u hu hkeepsX hdead
    by_cases hi : l = i
    · subst hi
      obtain rfl := Option.some.inj ((getElem?_set_self hl).symm.trans hu)
      refine ⟨j, w, hw', ?_, hlive⟩
      rw [hside X (LinkView.keeps_of_refuse hkeepsX)]
      exact hkeeps
    · have hu' := (List.getElem?_set_ne hi).symm.trans hu
      obtain ⟨j', u', hget, hother, hlive'⟩ := h.other hu' hkeepsX hdead
      by_cases hj' : l = j'
      · -- The refused link was the other node's: then the node keeps two links.
        subst hj'
        obtain rfl := Option.some.inj (hl.symm.trans hget)
        have hX : X = v.side .initiative := by
          rw [← hside X.other hother, Side.other_other]
        subst hX
        obtain rfl := h.single _ i j ⟨u, hu', hkeepsX⟩ ⟨w, hw, hkeeps⟩
        obtain rfl := Option.some.inj (hu'.symm.trans hw)
        rw [hlive] at hdead
        cases hdead
      · exact ⟨j', u', (List.getElem?_set_ne hj').trans hget, hother, hlive'⟩

theorem Surviving.step {act : Act} (h : Surviving vs) (hstep : Step vs act vs')
    (hcalm : Calm vs act) : Surviving vs' := by
  have hsound := h.toSound.step hstep
  cases hstep with
  | establish X =>
      refine { toSound := hsound, calm := ?_, other := ?_, survivor := ?_ }
      · intro v hv
        rcases List.mem_append.mp hv with hv | hv
        · exact h.calm v hv
        · obtain rfl := List.mem_singleton.mp hv
          rfl
      · intro Y i w hw hkeeps hdead
        rw [List.getElem?_append] at hw
        split at hw
        · obtain ⟨j, u, hu, hother, hlive⟩ := h.other hw hkeeps hdead
          refine ⟨j, u, ?_, hother, hlive⟩
          rw [List.getElem?_append_left (List.getElem?_eq_some_iff.mp hu).1, hu]
        · obtain rfl := List.mem_singleton.mp (List.mem_of_getElem? hw)
          cases hdead
      · intro _
        exact ⟨vs.length, { initiator := X }, by simp, rfl⟩
  | connect hl hwaiting =>
      obtain ⟨-, hlive⟩ := LinkView.alive_connect (h.mem hl) hwaiting
      refine h.set hl hsound ?_ (fun _ => ⟨hlive, fun X hX => ?_⟩) fun hdead => ?_
      · rw [LinkView.calm, hlive, Bool.true_or]
      · obtain ⟨e', hside, hkept⟩ := hX
        refine ⟨e', LinkView.side_connect.trans hside, ?_⟩
        rw [LinkView.standing_connect, if_neg]
        · exact hkept
        · rintro rfl
          rw [hwaiting] at hkept
          cases hkept
      · rw [hlive] at hdead
        cases hdead
  | accept hl hfresh hinbox hfree =>
      obtain ⟨-, hlive⟩ := LinkView.alive_accept (h.mem hl) hfresh hinbox
      refine h.set hl hsound ?_ (fun _ => ⟨hlive, fun X hX => ?_⟩) fun hdead => ?_
      · rw [LinkView.calm, hlive, Bool.true_or]
      · exact LinkView.keeps_accept.mpr (.inr hX)
      · rw [hlive] at hdead
        cases hdead
  | @refuse l e v favour hl hfresh hinbox hfavour =>
      obtain ⟨j, w, rfl, hw, hlive⟩ := hcalm
      have hj := hfavour j rfl
      cases e with
      | passive => exact h.refuse_passive hl hfresh hinbox hj hsound
      | initiative =>
          obtain ⟨w', hw', hkeeps⟩ := hj
          obtain rfl := Option.some.inj (hw.symm.trans hw')
          exact h.refuse_initiative hl hfresh hinbox hw hkeeps (hlive rfl) hsound
  | disconnect hl hwaiting hmay =>
      have hdisturbed := h.mem hl
      rw [LinkView.calm, Bool.or_eq_true] at hdisturbed
      -- Only a link that is given up is disconnected.
      have hgiven := hdisturbed.resolve_left fun hlive => by
        rw [LinkView.mayDisconnect_of_alive hlive] at hmay
        cases hmay
      obtain ⟨hdead, -, hrefused⟩ := LinkView.refused_disconnect hgiven _
      refine h.set hl hsound ?_ (fun hlive => ?_) fun _ => ⟨hdead, fun X hX => ?_⟩
      · rw [LinkView.calm, hrefused, Bool.or_true]
      · rw [hdead] at hlive
        cases hlive
      · exact LinkView.keeps_of_disconnect hX
  | fail hl => exact absurd hcalm id
  | drop X => exact absurd hcalm id

theorem surviving_nil : Surviving [] where
  toSound := sound_nil
  calm v hv := by cases hv
  other hw := by simp at hw
  survivor h := absurd rfl h

/-- Once nothing is under way, a link survives, kept by both nodes. -/
theorem Surviving.exists_kept (h : Surviving vs) (hdrained : Drained vs) (hne : vs ≠ []) :
    ∃ (j : ℕ) (v : LinkView), vs[j]? = some v ∧ ∀ e, v.standing e = .kept := by
  obtain ⟨j, v, hv, hlive⟩ := h.survivor hne
  refine ⟨j, v, hv, ?_⟩
  rcases h.toSound.of_drained hdrained (List.mem_of_getElem? hv) with hkept | hgone
  · exact hkept
  · have hi := hgone .initiative
    obtain ⟨X, i, p, rq, rs, f⟩ := v
    obtain rfl : i = .gone := hi
    simp [LinkView.alive] at hlive

end Arbitration

end RealtimeEx.Core
