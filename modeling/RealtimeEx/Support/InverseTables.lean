import Mathlib.Algebra.Order.Ring.Int
import Mathlib.Logic.Function.Basic

/-!
# Two tables that are inverse to each other

One table finds the holder of a key, the other the key of a holder.  Binding a key to
a holder writes both entries and touches no others, so that an entry that one of the
two had before stays behind.
-/

namespace RealtimeEx

/-- A table from keys to holders and a table from holders to keys. -/
@[ext] structure Tables (κ π : Type*) where
  holder : κ → Option π
  key : π → Option κ

namespace Tables

variable {κ π : Type*} {t : Tables κ π} {k : κ} {p : π}

/-- A key is held by a holder exactly when the holder has that key. -/
def Inverse (t : Tables κ π) : Prop :=
  ∀ k p, t.holder k = some p ↔ t.key p = some k

/-- In inverse tables no two holders have the same key. -/
theorem Inverse.key_injective (h : t.Inverse) {p' : π} (hp : t.key p = some k)
    (hp' : t.key p' = some k) : p = p' := by
  rw [← h] at hp hp'
  rw [hp] at hp'
  exact Option.some.inj hp'

variable [DecidableEq κ] [DecidableEq π]

/-- Both entries are written. -/
def bind (t : Tables κ π) (p : π) (k : κ) : Tables κ π where
  holder := Function.update t.holder k (some p)
  key := Function.update t.key p (some k)

/-- A holder gives up its key. -/
def release (t : Tables κ π) (p : π) : Tables κ π :=
  match t.key p with
  | none => t
  | some k =>
      { holder := Function.update t.holder k none
        key := Function.update t.key p none }

/-- Neither the holder nor the key is bound elsewhere. -/
def Free (t : Tables κ π) (p : π) (k : κ) : Prop :=
  (∀ k', t.key p = some k' → k' = k) ∧ ∀ p', t.holder k = some p' → p' = p

theorem holder_bind : (t.bind p k).holder = Function.update t.holder k (some p) := rfl

theorem key_bind : (t.bind p k).key = Function.update t.key p (some k) := rfl

theorem key_release (t : Tables κ π) (p : π) :
    (t.release p).key = Function.update t.key p none := by
  rw [release]
  split
  · rename_i hnone
    rw [← hnone, Function.update_eq_self]
  · rfl

theorem Inverse.release (h : t.Inverse) (p : π) : (t.release p).Inverse := by
  intro k' p'
  rw [key_release, Tables.release]
  split
  · rename_i hnone
    rw [h]
    by_cases hp : p' = p
    · subst hp
      rw [hnone, Function.update_self]
    · rw [Function.update_of_ne hp]
  · rename_i k hk
    dsimp only
    by_cases hp : p' = p
    · subst hp
      rw [Function.update_self]
      by_cases hkey : k' = k
      · simp [hkey]
      · rw [Function.update_of_ne hkey, h, hk]
        simp [Ne.symm hkey]
    · rw [Function.update_of_ne hp]
      by_cases hkey : k' = k
      · subst hkey
        rw [Function.update_self]
        have hne : t.key p' ≠ some k' := fun hp' => hp (h.key_injective hp' hk)
        simp [hne]
      · rw [Function.update_of_ne hkey, h]

/-- For a holder that gave up its key, only the new key can be bound elsewhere. -/
theorem Inverse.free_release_iff (h : t.Inverse) :
    (t.release p).Free p k ↔ ∀ p', t.holder k = some p' → p' = p := by
  have hholder : ∀ p', (t.release p).holder k = some p' ↔
      p' ≠ p ∧ t.holder k = some p' := by
    intro p'
    rw [h.release p k p', key_release]
    by_cases hp : p' = p
    · subst hp
      simp
    · rw [Function.update_of_ne hp, ← h]
      simp [hp]
  simp only [Free, key_release, Function.update_self, hholder]
  constructor
  · rintro ⟨-, hfree⟩ p' hp'
    by_contra hne
    exact hne (hfree p' ⟨hne, hp'⟩)
  · intro hfree
    refine ⟨by simp, fun p' hp' => hfree p' hp'.2⟩

/-! ## Holders that give up their keys -/

/-- Some holders give up their keys. -/
def Releases (t t' : Tables κ π) : Prop :=
  ∃ ps : List π, t' = ps.foldl Tables.release t

theorem Releases.refl (t : Tables κ π) : t.Releases t :=
  ⟨[], rfl⟩

theorem releases_release (t : Tables κ π) (p : π) : t.Releases (t.release p) :=
  ⟨[p], rfl⟩

theorem Releases.trans {t₁ t₂ t₃ : Tables κ π} (h : t₁.Releases t₂) (h' : t₂.Releases t₃) :
    t₁.Releases t₃ := by
  obtain ⟨ps, rfl⟩ := h
  obtain ⟨ps', rfl⟩ := h'
  exact ⟨ps ++ ps', List.foldl_append.symm⟩

theorem Inverse.releases {t' : Tables κ π} (h : t.Inverse) (ht : t.Releases t') :
    t'.Inverse := by
  obtain ⟨ps, rfl⟩ := ht
  induction ps generalizing t with
  | nil => exact h
  | cons p ps ih => exact ih (h.release p)

/-- Every holder is found by its key. -/
def Finds (t : Tables κ π) : Prop :=
  ∀ p k, t.key p = some k → t.holder k = some p

theorem Finds.release (h : t.Finds) (p : π) : (t.release p).Finds := by
  intro p' k' hkey
  have hne : p' ≠ p := by
    rintro rfl
    rw [key_release, Function.update_self] at hkey
    cases hkey
  rw [key_release, Function.update_of_ne hne] at hkey
  have hholder := h p' k' hkey
  rw [Tables.release]
  split
  · exact hholder
  · rename_i k hk
    dsimp only
    rw [Function.update_of_ne]
    · exact hholder
    · rintro rfl
      rw [h p k' hk] at hholder
      exact hne (Option.some.inj hholder).symm

theorem Finds.releases {t' : Tables κ π} (h : t.Finds) (ht : t.Releases t') : t'.Finds := by
  obtain ⟨ps, rfl⟩ := ht
  induction ps generalizing t with
  | nil => exact h
  | cons p ps ih => exact ih (h.release p)

/-- A key that nobody else has can be bound. -/
theorem Finds.bind (h : t.Finds) (hfree : ∀ p', t.key p' = some k → p' = p) :
    (t.bind p k).Finds := by
  intro p' k' hkey
  rw [key_bind] at hkey
  rw [holder_bind]
  by_cases hp : p' = p
  · subst hp
    rw [Function.update_self] at hkey
    rw [Option.some.inj hkey, Function.update_self]
  · rw [Function.update_of_ne hp] at hkey
    rw [Function.update_of_ne]
    · exact h p' k' hkey
    · rintro rfl
      exact hp (hfree p' hkey)

/-! ## Bindings of inverse tables -/

/-- Binding keeps the tables inverse just if nothing stays behind. -/
theorem Inverse.bind_iff (h : t.Inverse) : (t.bind p k).Inverse ↔ t.Free p k := by
  constructor
  · intro hbind
    constructor
    · intro k' hk'
      by_contra hne
      have hold := (hbind k' p).mp (by
        rw [holder_bind, Function.update_of_ne hne]
        exact (h k' p).mpr hk')
      rw [key_bind, Function.update_self] at hold
      exact hne (Option.some.inj hold).symm
    · intro p' hp'
      by_contra hne
      have hnew := (hbind k p').mpr (by
        rw [key_bind, Function.update_of_ne hne]
        exact (h k p').mp hp')
      rw [holder_bind, Function.update_self] at hnew
      exact hne (Option.some.inj hnew).symm
  · rintro ⟨hkey, hholder⟩ k' p'
    rw [holder_bind, key_bind]
    by_cases hk : k' = k
    · subst hk
      rw [Function.update_self]
      by_cases hp : p' = p
      · simp [hp]
      · rw [Function.update_of_ne hp, ← h]
        constructor
        · intro heq
          exact absurd (Option.some.inj heq).symm hp
        · intro heq
          exact absurd (hholder p' heq) hp
    · rw [Function.update_of_ne hk, h]
      by_cases hp : p' = p
      · subst hp
        rw [Function.update_self]
        constructor
        · intro heq
          exact absurd (hkey k' heq) hk
        · intro heq
          exact absurd (Option.some.inj heq).symm hk
      · rw [Function.update_of_ne hp]

/-- What a binding leaves behind is still there when the holder gives up the key. -/
theorem Inverse.release_bind_iff (h : t.Inverse) :
    ((t.bind p k).release p).Inverse ↔ t.Free p k := by
  have hkey : ((t.bind p k).release p).key = Function.update t.key p none := by
    rw [key_release, key_bind, Function.update_idem]
  have hholder : ((t.bind p k).release p).holder = Function.update t.holder k none := by
    simp only [Tables.release, Tables.bind, Function.update_self]
    rw [Function.update_idem]
  constructor
  · intro hrelease
    constructor
    · intro k' hk'
      by_contra hne
      have hold := (hrelease k' p).mp (by
        rw [hholder, Function.update_of_ne hne]
        exact (h k' p).mpr hk')
      rw [hkey, Function.update_self] at hold
      cases hold
    · intro p' hp'
      by_contra hne
      have hnew := (hrelease k p').mpr (by
        rw [hkey, Function.update_of_ne hne]
        exact (h k p').mp hp')
      rw [hholder, Function.update_self] at hnew
      cases hnew
  · intro hfree
    exact (h.bind_iff.mpr hfree).release p

end Tables

end RealtimeEx
