import Mathlib.Algebra.Order.Ring.Int
import Mathlib.Data.List.Basic

/-!
# Tokens

A text is cut into words, marks and quoted literals.  What separates tokens ends a word or a
literal, so that the tokens of a text can be read off its parts.
-/

namespace RealtimeEx

/-- What the characters of a text are.  Inside of a literal a quote is written twice, or behind
the escape character, which `unescape` is the meaning of. -/
structure Lexicon (β : Type*) where
  blank : β → Bool
  mark : β → Bool
  quote : β
  escape : β
  unescape : β → β
  quote_plain : blank quote = false ∧ mark quote = false
  mark_not_blank : ∀ b, mark b = true → blank b = false

inductive Token (β : Type*)
  | word (w : List β)
  | mark (b : β)
  | literal (v : List β)
  deriving DecidableEq

namespace Lexicon

variable {β : Type*} [DecidableEq β] (L : Lexicon β)

/-- Where the lexer is: between tokens, in a word, in a literal, behind the escape character
of a literal, or behind a quote that may be its end. -/
inductive State (β : Type*)
  | between
  | word (w : List β)
  | literal (v : List β)
  | escaped (v : List β)
  | closing (v : List β)

/-- A character of a word. -/
def plain (b : β) : Bool := !L.blank b && !L.mark b && !decide (b = L.quote)

/-- A token starts. -/
def opened (b : β) : List (Token β) × State β :=
  if L.blank b then ([], .between)
  else if L.mark b then ([.mark b], .between)
  else if b = L.quote then ([], .literal [])
  else ([], .word [b])

/-- The tokens that end with a character, and where the lexer is behind it. -/
def step : State β → β → List (Token β) × State β
  | .between, b => L.opened b
  | .word w, b =>
      if L.plain b then ([], .word (w ++ [b]))
      else (.word w :: (L.opened b).1, (L.opened b).2)
  | .literal v, b =>
      if b = L.quote then ([], .closing v)
      else if b = L.escape then ([], .escaped v)
      else ([], .literal (v ++ [b]))
  | .escaped v, b => ([], .literal (v ++ [L.unescape b]))
  | .closing v, b =>
      if b = L.quote then ([], .literal (v ++ [b]))
      else (.literal v :: (L.opened b).1, (L.opened b).2)

def run : State β → List β → List (Token β) × State β
  | s, [] => ([], s)
  | s, b :: bs =>
      ((L.step s b).1 ++ (run (L.step s b).2 bs).1, (run (L.step s b).2 bs).2)

/-- What is still to come at the end of a text; a literal must have been closed. -/
def finish : State β → Option (List (Token β))
  | .between => some []
  | .word w => some [.word w]
  | .closing v => some [.literal v]
  | .literal _ => none
  | .escaped _ => none

/-- The tokens of a text. -/
def lex (text : List β) : Option (List (Token β)) :=
  (finish (L.run .between text).2).map ((L.run .between text).1 ++ ·)

/-! ## Parts of a text -/

variable {L}

theorem run_append (s : State β) (front back : List β) :
    L.run s (front ++ back) =
      ((L.run s front).1 ++ (L.run (L.run s front).2 back).1,
        (L.run (L.run s front).2 back).2) := by
  induction front generalizing s with
  | nil => rfl
  | cons b front ih =>
      rw [List.cons_append, run, ih, run, List.append_assoc]

/-- The tokens `ts` of a text end with it. -/
def Separates (L : Lexicon β) (text : List β) (ts : List (Token β)) : Prop :=
  L.run .between text = (ts, .between)

/-- The text behind ends whatever token there is in front of it. -/
def Ends (L : Lexicon β) (back : List β) : Prop :=
  ∀ b, back.head? = some b → (L.blank b || L.mark b) = true

omit [DecidableEq β] in
theorem ends_append {front back : List β}
    (h : (front.head?.any fun b => L.blank b || L.mark b) = true) : L.Ends (front ++ back) := by
  intro b hb
  cases front with
  | nil => cases h
  | cons c front =>
      obtain rfl := Option.some.inj hb
      exact h

theorem lex_append_of_separates {front back : List β} {ts : List (Token β)}
    (h : L.Separates front ts) : L.lex (front ++ back) = (L.lex back).map (ts ++ ·) := by
  have hrun : L.run .between front = (ts, .between) := h
  rw [lex, run_append, hrun, lex, Option.map_map]
  congr 1
  funext more
  exact List.append_assoc ..

/-- A mark or a blank ends a token as the end of the text does. -/
theorem step_of_ends {s : State β} {ts : List (Token β)} (h : finish s = some ts) {b : β}
    (hb : (L.blank b || L.mark b) = true) :
    L.step s b = (ts ++ (L.opened b).1, (L.opened b).2) := by
  have hquote : b ≠ L.quote := by
    rintro rfl
    rw [L.quote_plain.1, L.quote_plain.2] at hb
    cases hb
  have hplain : L.plain b = false := by
    rw [plain]
    revert hb
    cases L.blank b <;> cases L.mark b <;> simp
  cases s with
  | between =>
      obtain rfl := Option.some.inj h
      rfl
  | word w =>
      obtain rfl := Option.some.inj h
      rw [step, hplain]
      rfl
  | closing v =>
      obtain rfl := Option.some.inj h
      rw [step, if_neg hquote]
      rfl
  | literal v => cases h
  | escaped v => cases h

theorem lex_append_of_ends {front back : List β} {ts : List (Token β)}
    (h : L.lex front = some ts) (hback : L.Ends back) :
    L.lex (front ++ back) = (L.lex back).map (ts ++ ·) := by
  obtain ⟨pending, hpending, rfl⟩ := Option.map_eq_some_iff.mp h
  cases back with
  | nil =>
      rw [List.append_nil, h]
      simp [lex, run, finish]
  | cons b back =>
      have hstep := step_of_ends hpending (hback b rfl)
      rw [lex, run_append, run, hstep, lex, run, Option.map_map]
      congr 1
      funext more
      simp only [Function.comp_apply, step, List.append_assoc]

/-! ## Tokens as text -/

/-- A word can be written as it is. -/
def IsWord (L : Lexicon β) (w : List β) : Prop := w ≠ [] ∧ ∀ b ∈ w, L.plain b = true

/-- Inside of a literal the text is read as the value. -/
def Escapes (L : Lexicon β) (text v : List β) : Prop :=
  ∀ front, L.run (.literal front) text = ([], .literal (front ++ v))

theorem run_word {w : List β} (hw : ∀ b ∈ w, L.plain b = true) (front : List β) :
    L.run (.word front) w = ([], .word (front ++ w)) := by
  induction w generalizing front with
  | nil => rw [List.append_nil]; rfl
  | cons b w ih =>
      have hrest := ih (fun c hc => hw c (List.mem_cons_of_mem b hc)) (front ++ [b])
      rw [run, step, if_pos (hw b List.mem_cons_self), hrest, List.append_assoc]
      rfl

theorem lex_word {w : List β} (h : L.IsWord w) : L.lex w = some [.word w] := by
  obtain ⟨hne, hplain⟩ := h
  obtain ⟨b, w, rfl⟩ := List.exists_cons_of_ne_nil hne
  have hfirst := hplain b List.mem_cons_self
  have hrest := run_word (fun c hc => hplain c (List.mem_cons_of_mem b hc)) [b]
  have hopened : L.opened b = ([], .word [b]) := by
    rw [plain] at hfirst
    simp only [Bool.and_eq_true, Bool.not_eq_true', decide_eq_false_iff_not] at hfirst
    simp only [opened, hfirst.1.1, hfirst.1.2, hfirst.2, if_false, Bool.false_eq_true]
  rw [lex, run, step, hopened, hrest]
  rfl

theorem lex_literal {text v : List β} (h : L.Escapes text v) :
    L.lex ([L.quote] ++ text ++ [L.quote]) = some [.literal v] := by
  have hopened : L.opened L.quote = ([], .literal []) := by
    simp only [opened, L.quote_plain.1, L.quote_plain.2, if_true, if_false, Bool.false_eq_true]
  have hbody := h []
  have hopen : L.run .between [L.quote] = ([], .literal []) := by
    rw [run, step, hopened]
    rfl
  have hclose : L.run (.literal v) [L.quote] = ([], .closing v) := by
    rw [run, step, if_pos rfl]
    rfl
  rw [List.nil_append] at hbody
  rw [lex, run_append, run_append, hopen, hbody, hclose]
  rfl

theorem Escapes.nil : L.Escapes [] [] := by
  intro front
  rw [List.append_nil]
  rfl

theorem Escapes.append {text text' v v' : List β} (h : L.Escapes text v)
    (h' : L.Escapes text' v') : L.Escapes (text ++ text') (v ++ v') := by
  intro front
  rw [run_append, h, h', List.append_assoc]
  rfl

/-- Texts with a mark between them. -/
theorem lex_intercalate {c : β} (hc : L.mark c = true) {items : List (List β)}
    {tokens : List (List (Token β))}
    (h : List.Forall₂ (fun text ts => L.lex text = some ts) items tokens) :
    L.lex ([c].intercalate items) = some ([Token.mark c].intercalate tokens) := by
  have hmark : L.Separates [c] [Token.mark c] := by
    have hopened : L.opened c = ([.mark c], .between) := by
      rw [opened, L.mark_not_blank c hc, hc]
      rfl
    rw [Separates, run, step, hopened]
    rfl
  induction h with
  | nil => rfl
  | @cons text ts items tokens hfirst hrest ih =>
      cases hrest with
      | nil =>
          rw [List.intercalate_singleton, List.intercalate_singleton]
          exact hfirst
      | @cons text' ts' items tokens hsecond hrest =>
          have hends : L.Ends ([c] ++ [c].intercalate (text' :: items)) :=
            ends_append (by simp [hc])
          rw [List.intercalate_cons_cons, List.intercalate_cons_cons, List.append_assoc,
            lex_append_of_ends hfirst hends, lex_append_of_separates hmark, ih,
            Option.map_some, Option.map_some, List.append_assoc]

end Lexicon

end RealtimeEx
