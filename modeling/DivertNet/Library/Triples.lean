import Mathlib.Data.List.Basic

/-!
# Preconditions and postconditions of programs that throw

A program of type `Triples.Prog σ ε α` changes a state `σ`, and either returns an `α` or throws
an `ε`; what it did to the state before it threw is done. So a statement about it has two
postconditions, one for each way out:

`Triple P x Q E` – started in a state with `P`, the program `x` returns an `a` in a state with
`Q a`, or throws an `e` in a state with `E e`.

| program | rule |
|---|---|
| `pure a` | `Triples.triple_pure` |
| `throw e` | `Triples.triple_throw` |
| `x >>= f` | `Triples.triple_bind` |
| `if c then x else y` | `Triples.triple_ite` |
| a program in a `try` | `Triples.triple_attempt` |
| a loop over a list | `Triples.triple_forEach` |

Postconditions are weakened and preconditions strengthened by `Triples.Triple.mono`; the part of
a precondition that is not about the state is taken out by `Triples.triple_of_known`.
-/

namespace Triples

variable {σ ε α β ι : Type}

/-- A program over a state that may throw. -/
abbrev Prog (σ ε α : Type) := ExceptT ε (StateM σ) α

/-- How a run ends: with a value that has one property, or with an exception that has the
other. -/
def Ends (Q : α → σ → Prop) (E : ε → σ → Prop) : Except ε α × σ → Prop
  | (.ok a, t) => Q a t
  | (.error e, t) => E e t

/-- **The triple**, with a postcondition for returning and one for throwing. -/
structure Triple (P : σ → Prop) (x : Prog σ ε α) (Q : α → σ → Prop) (E : ε → σ → Prop) : Prop where
  ends : ∀ s, P s → Ends Q E (x s)

/-- Running a program whose failure the program around it catches. -/
def attempt (x : Prog σ ε α) : Prog σ ε (Except ε α) := fun s =>
  let (result, t) := x s
  (.ok result, t)

/-- Running a program for each element of a list, with a value carried along. -/
def forEach (f : ι → β → Prog σ ε β) : List ι → β → Prog σ ε β
  | [], b => pure b
  | i :: is, b => do
    let b ← f i b
    forEach f is b

variable {P P' : σ → Prop} {Q Q' : α → σ → Prop} {E E' : ε → σ → Prop} {x y : Prog σ ε α}

/-- What a triple says of a run that returns. -/
theorem Triple.returns (h : Triple P x Q E) {s t : σ} {a : α} (hs : P s)
    (hx : x s = (.ok a, t)) : Q a t := by
  have hrun := h.ends s hs
  rwa [hx] at hrun

/-- What it says of a run that throws. -/
theorem Triple.throws (h : Triple P x Q E) {s t : σ} {e : ε} (hs : P s)
    (hx : x s = (.error e, t)) : E e t := by
  have hrun := h.ends s hs
  rwa [hx] at hrun

/-- **Consequence.** -/
theorem Triple.mono (h : Triple P x Q E) (hP : ∀ s, P' s → P s) (hQ : ∀ a s, Q a s → Q' a s)
    (hE : ∀ e s, E e s → E' e s) : Triple P' x Q' E' := by
  refine ⟨fun s hs => ?_⟩
  rcases hx : x s with ⟨e | a, t⟩
  · exact hE e t (h.throws (hP s hs) hx)
  · exact hQ a t (h.returns (hP s hs) hx)

/-- **What is kept beside the rest.** -/
theorem Triple.and {P₂ : σ → Prop} {Q₂ : α → σ → Prop} {E₂ : ε → σ → Prop} (h : Triple P x Q E)
    (h₂ : Triple P₂ x Q₂ E₂) :
    Triple (fun s => P s ∧ P₂ s) x (fun a s => Q a s ∧ Q₂ a s) (fun e s => E e s ∧ E₂ e s) := by
  refine ⟨fun s hs => ?_⟩
  rcases hx : x s with ⟨e | a, t⟩
  · exact ⟨h.throws hs.1 hx, h₂.throws hs.2 hx⟩
  · exact ⟨h.returns hs.1 hx, h₂.returns hs.2 hx⟩

/-- What a precondition says of other things than the state is known from the start. -/
theorem triple_of_known {p : Prop} (h : p → Triple P x Q E) :
    Triple (fun s => p ∧ P s) x Q E := ⟨fun s hs => (h hs.1).ends s hs.2⟩

/-- Something that is known to exist may be given a name. -/
theorem triple_exists {κ : Sort*} {R : κ → σ → Prop} (h : ∀ k, Triple (R k) x Q E) :
    Triple (fun s => ∃ k, R k s) x Q E := by
  refine ⟨?_⟩
  rintro s ⟨k, hk⟩
  exact (h k).ends s hk

theorem triple_pure {a : α} (h : ∀ s, P s → Q a s) : Triple P (pure a) Q E := ⟨h⟩

theorem triple_throw {e : ε} (h : ∀ s, P s → E e s) : Triple P (throw e : Prog σ ε α) Q E := ⟨h⟩

/-- What one program after another does. -/
theorem bind_run (z : Prog σ ε β) (f : β → Prog σ ε α) (s : σ) :
    (z >>= f) s =
      match z s with
      | (.ok b, t) => f b t
      | (.error e, t) => (.error e, t) := by
  change (ExceptT.bind z f) s = _
  simp only [ExceptT.bind, ExceptT.mk, bind, StateT.bind]
  rcases z s with ⟨_ | _, t⟩ <;> rfl

/-- **One program after another**: what the first returns, and the state it leaves, go to the
second. -/
theorem triple_bind {z : Prog σ ε β} {f : β → Prog σ ε α} {R : β → σ → Prop}
    (hz : Triple P z R E) (hf : ∀ b, Triple (R b) (f b) Q E) : Triple P (z >>= f) Q E := by
  refine ⟨fun s hs => ?_⟩
  rw [bind_run]
  rcases hrun : z s with ⟨e | b, t⟩
  · exact hz.throws hs hrun
  · exact (hf b).ends t (hz.returns hs hrun)

theorem triple_ite {c : Prop} [Decidable c] (hthen : c → Triple P x Q E)
    (helse : ¬c → Triple P y Q E) : Triple P (if c then x else y) Q E := by
  split
  · exact hthen ‹_›
  · exact helse ‹_›

/-- **A program in a `try`** returns either way. -/
theorem triple_attempt {R : Except ε α → σ → Prop} (h : Triple P x Q E)
    (hQ : ∀ a s, Q a s → R (.ok a) s) (hE : ∀ e s, E e s → R (.error e) s) :
    Triple P (attempt x) R E' := by
  refine ⟨fun s hs => ?_⟩
  rw [attempt]
  rcases hx : x s with ⟨e | a, t⟩
  · exact hE e t (h.throws hs hx)
  · exact hQ a t (h.returns hs hx)

/-- **A loop** keeps what its body keeps: the value carried along, and the state, are related to
the elements done so far. The body is asked for it at every place of the list, and the way it
throws may depend on the place. -/
theorem triple_forEach {f : ι → β → Prog σ ε β} {I : List ι → β → σ → Prop} {l : List ι} {b : β}
    (hf : ∀ done i rest b, l = done ++ i :: rest →
      Triple (I done b) (f i b) (fun b' => I (done ++ [i]) b') E) :
    Triple (I [] b) (forEach f l b) (fun b' => I l b') E := by
  -- from any place of the list on
  have hfrom : ∀ done rest b, l = done ++ rest →
      Triple (I done b) (forEach f rest b) (fun b' => I l b') E := by
    intro done rest b hl
    induction rest generalizing done b with
    | nil =>
      rw [List.append_nil] at hl
      subst hl
      exact triple_pure fun s hs => hs
    | cons i is ih =>
      refine triple_bind (hf done i is b hl) fun b' => ih (done ++ [i]) b' ?_
      rw [hl, List.append_assoc, List.singleton_append]
  exact hfrom [] l b rfl

end Triples
