import Mathlib.Data.List.Forall2
import RealtimeEx.Support.Framing

/-!
# Readers and writers of byte buffers

A reader moves a cursor over a buffer, a writer appends to what has been
written so far.  `Reads` and `Writes` say which bytes a reader consumes and a
writer produces; both relations follow the sequencing of the programs, so a
reader that mirrors a writer step by step reads back what was written.
-/

namespace RealtimeEx

universe u v

/-! ## Reading -/

/-- A buffer and the position up to which it has been read. -/
structure Cursor (β : Type u) where
  content : List β
  pos : ℕ := 0
  deriving DecidableEq

namespace Cursor

variable {β : Type u}

/-- The next `n` elements, when there are as many. -/
def next? (n : ℕ) (c : Cursor β) : Option (List β) :=
  if c.pos + n ≤ c.content.length then
    some ((c.content.drop c.pos).take n)
  else
    none

/-- Move the position. -/
def advance (n : ℕ) (c : Cursor β) : Cursor β := { c with pos := c.pos + n }

theorem next?_append (before bs after : List β) :
    next? bs.length ⟨before ++ bs ++ after, before.length⟩ = some bs := by
  simp [next?]

end Cursor

/-- Wherever `bs` stand in a buffer, `m` consumes them and returns `a`. -/
def Reads {β : Type} {α : Type} (m : StateM (Cursor β) α) (bs : List β) (a : α) :
    Prop :=
  ∀ before after : List β,
    m.run ⟨before ++ bs ++ after, before.length⟩ =
      (a, ⟨before ++ bs ++ after, (before ++ bs).length⟩)

namespace Reads

variable {β α γ : Type}

theorem pure (a : α) : Reads (Pure.pure a : StateM (Cursor β) α) [] a := by
  intro before after
  rw [List.append_nil]
  rfl

theorem bind {m : StateM (Cursor β) α} {f : α → StateM (Cursor β) γ}
    {bs cs : List β} {a : α} {c : γ}
    (hm : Reads m bs a) (hf : Reads (f a) cs c) :
    Reads (m >>= f) (bs ++ cs) c := by
  intro before after
  have hfirst := hm before (cs ++ after)
  have hsecond := hf (before ++ bs) after
  simp only [List.append_assoc] at hfirst hsecond ⊢
  rw [StateT.run_bind, hfirst]
  exact hsecond

theorem map {m : StateM (Cursor β) α} {bs : List β} {a : α} (g : α → γ)
    (hm : Reads m bs a) : Reads (g <$> m) bs (g a) := by
  intro before after
  rw [StateT.run_map, hm before after]
  rfl

theorem bind_pure {m : StateM (Cursor β) α} {bs : List β} {a : α}
    (hm : Reads m bs a) (g : α → γ) :
    Reads (m >>= fun a => Pure.pure (g a)) bs (g a) :=
  hm.map g

/-- A reader that is run over a list consumes what it consumes for each
element. -/
theorem mapM {f : α → StateM (Cursor β) γ} {encode : γ → List β}
    {olds : List α} {news : List γ}
    (h : List.Forall₂ (fun old new => Reads (f old) (encode new) new) olds news) :
    Reads (olds.mapM f) (news.flatMap encode) news := by
  induction h with
  | nil => exact Reads.pure []
  | @cons old new olds news hhead _ ih =>
      rw [List.mapM_cons, List.flatMap_cons]
      refine hhead.bind ?_
      simpa using ih.map (List.cons new)

/-- A whole buffer is read to its end. -/
theorem run_eq {m : StateM (Cursor β) α} {bs : List β} {a : α}
    (h : Reads m bs a) : m.run ⟨bs, 0⟩ = (a, ⟨bs, bs.length⟩) := by
  simpa using h [] []

end Reads

/-- Run `f` the given number of times, each time on the last result. -/
def repeatM {m : Type u → Type v} [Monad m] {α : Type u} (f : α → m α) :
    ℕ → α → m α
  | 0, a => pure a
  | n + 1, a => f a >>= repeatM f n

/-- A reader that collects what it reads consumes the encodings of the
collected values one after the other. -/
theorem Reads.repeatM {β α γ : Type} {f : α → StateM (Cursor β) α}
    {encode : γ → List β} {add : α → γ → α}
    {cs : List γ} (hf : ∀ a, ∀ c ∈ cs, Reads (f a) (encode c) (add a c)) (a : α) :
    Reads (RealtimeEx.repeatM f cs.length a) (cs.flatMap encode)
      (cs.foldl add a) := by
  induction cs generalizing a with
  | nil => exact Reads.pure a
  | cons c cs ih =>
      rw [List.flatMap_cons]
      exact (hf a c List.mem_cons_self).bind
        (ih (fun a d hd => hf a d (List.mem_cons_of_mem c hd)) (add a c))

/-- Whatever it reads, `m` returns a value with `P`. -/
def Returns {σ α : Type} (m : StateM σ α) (P : α → Prop) : Prop :=
  ∀ s, P (m.run s).1

namespace Returns

variable {σ α γ : Type}

theorem pure {P : α → Prop} {a : α} (h : P a) :
    Returns (Pure.pure a : StateM σ α) P :=
  fun _ => h

theorem bind {m : StateM σ α} {f : α → StateM σ γ} {P : γ → Prop}
    (h : ∀ a, Returns (f a) P) : Returns (m >>= f) P :=
  fun s => h (m.run s).1 (m.run s).2

end Returns

/-- Over a buffer with `P`, `m` returns a value with `Q`, and the buffer stays. -/
def ReturnsOver {β α : Type} (P : List β → Prop) (m : StateM (Cursor β) α) (Q : α → Prop) :
    Prop :=
  ∀ c, P c.content → Q (m.run c).1 ∧ (m.run c).2.content = c.content

namespace ReturnsOver

variable {β α γ : Type} {P : List β → Prop}

theorem pure {Q : α → Prop} {a : α} (h : Q a) :
    ReturnsOver P (Pure.pure a : StateM (Cursor β) α) Q :=
  fun _ _ => ⟨h, rfl⟩

theorem bind {m : StateM (Cursor β) α} {f : α → StateM (Cursor β) γ} {Q : α → Prop}
    {R : γ → Prop} (hm : ReturnsOver P m Q) (hf : ∀ a, Q a → ReturnsOver P (f a) R) :
    ReturnsOver P (m >>= f) R := by
  intro c hc
  obtain ⟨hfirst, hcontent⟩ := hm c hc
  obtain ⟨hsecond, hcontent'⟩ := hf _ hfirst (m.run c).2 (by rwa [hcontent])
  exact ⟨hsecond, hcontent'.trans hcontent⟩

theorem map {m : StateM (Cursor β) α} {Q : α → Prop} {R : γ → Prop} {g : α → γ}
    (hm : ReturnsOver P m Q) (hg : ∀ a, Q a → R (g a)) : ReturnsOver P (g <$> m) R := by
  intro c hc
  obtain ⟨hfirst, hcontent⟩ := hm c hc
  exact ⟨hg _ hfirst, hcontent⟩

theorem mapM {f : α → StateM (Cursor β) γ} {as : List α} {Q : γ → Prop}
    (hf : ∀ a ∈ as, ReturnsOver P (f a) Q) :
    ReturnsOver P (as.mapM f) fun cs => cs.length = as.length ∧ ∀ c ∈ cs, Q c := by
  induction as with
  | nil => exact pure ⟨rfl, by simp⟩
  | cons a as ih =>
      rw [List.mapM_cons]
      refine (hf a List.mem_cons_self).bind fun c hc => ?_
      refine (ih fun b hb => hf b (List.mem_cons_of_mem a hb)).bind fun cs hcs => pure ?_
      refine ⟨congrArg (· + 1) hcs.1, ?_⟩
      intro d hd
      rcases List.mem_cons.mp hd with rfl | hd
      · exact hc
      · exact hcs.2 d hd

end ReturnsOver

/-! ## Writing -/

/-- What has been written to a buffer, and how much it holds before it has to
grow. -/
structure Output (σ : Type) (β : Type) where
  written : σ → List β
  capacity : σ → ℕ
  length_written_le : ∀ s, (written s).length ≤ capacity s

/-- `m` appends `bs`, and the buffer grows only as far as it must. -/
def Writes {σ β : Type} (O : Output σ β) (m : StateM σ Unit) (bs : List β) : Prop :=
  ∀ s, O.written (m.run s).2 = O.written s ++ bs ∧
    O.capacity (m.run s).2 =
      max (O.capacity s) ((O.written s).length + bs.length)

namespace Writes

variable {σ β γ : Type} {O : Output σ β}

theorem pure : Writes O (Pure.pure ()) [] := by
  intro s
  have hle := O.length_written_le s
  constructor
  · exact (List.append_nil (O.written s)).symm
  · exact (Nat.max_eq_left hle).symm

theorem bind {m : StateM σ Unit} {f : Unit → StateM σ Unit} {bs cs : List β}
    (hm : Writes O m bs) (hf : Writes O (f ()) cs) :
    Writes O (m >>= f) (bs ++ cs) := by
  intro s
  obtain ⟨hwritten, hcapacity⟩ := hm s
  obtain ⟨hwritten', hcapacity'⟩ := hf (m.run s).2
  constructor
  · calc
      O.written ((m >>= f).run s).2 = O.written ((f ()).run (m.run s).2).2 := rfl
      _ = O.written s ++ (bs ++ cs) := by
        rw [hwritten', hwritten, List.append_assoc]
  · calc
      O.capacity ((m >>= f).run s).2 = O.capacity ((f ()).run (m.run s).2).2 := rfl
      _ = max (O.capacity s) ((O.written s).length + (bs ++ cs).length) := by
        rw [hcapacity', hcapacity, hwritten]
        simp only [List.length_append]
        omega

/-- A writer that is run over a list appends one encoding after the other. -/
theorem forM {f : γ → StateM σ Unit} {encode : γ → List β} {cs : List γ}
    (hf : ∀ c ∈ cs, Writes O (f c) (encode c)) :
    Writes O (cs.forM f) (cs.flatMap encode) := by
  induction cs with
  | nil => exact Writes.pure
  | cons c cs ih =>
      rw [List.flatMap_cons]
      exact (hf c List.mem_cons_self).bind
        (ih fun d hd => hf d (List.mem_cons_of_mem c hd))

end Writes

end RealtimeEx
