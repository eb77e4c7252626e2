import Mathlib.Data.List.Basic
import Mathlib.Data.Nat.Basic
import Mathlib.Logic.Function.Basic
import Mathlib.Order.Basic

/-!
# Names that are released once

A system issues *names* of several kinds, and takes them back; a name that it has taken back
may then stand for something else. A program keeps each name in a *holder*, uses it from
there, and gives it back from there, in the way its kind asks for. Giving a name back may
fail, and then it is still the program's.

What happened to the names is a *trace* of `Holders.Event`, and it is **orderly**
(`Holders.Orderly`) if no event mentions a name that has been released before, and every
release is made in the kind in which the name was issued.

The discipline that makes a trace orderly: a name is put into one holder, when it is issued,
and the holder forgets it when its release succeeds. The moves that follow it are
`Holders.Move`; `Holders.Inv` is kept by all of them, as long as the names issued are new
(`Holders.Inv.apply`, `Holders.Inv.foldl`).

Whether every name is released in the end is another matter. It can be as long as somebody has
it (`Holders.AllHeld`), and the one move that loses a name is to empty a holder that has one
(`Holders.not_allHeld_forget`).
-/

namespace Holders

open Function

universe u v

variable {κ : Type u} {ν : Type v}

/-! ### Traces -/

/-- What can happen to a name. -/
inductive Event (κ : Type u) (ν : Type v) where
  | issue (k : κ) (x : ν)
  | use (x : ν)
  /-- Its release in the kind `k`, which succeeds or not. -/
  | release (k : κ) (x : ν) (ok : Bool)
  deriving DecidableEq, Repr

/-- The name an event is about. -/
def Event.name : Event κ ν → ν
  | .issue _ x => x
  | .use x => x
  | .release _ x _ => x

/-- The name was issued in the kind `k`. -/
def Issued (k : κ) (x : ν) (tr : List (Event κ ν)) : Prop := .issue k x ∈ tr

/-- The name was released, and the release succeeded. -/
def Released (x : ν) (tr : List (Event κ ν)) : Prop := ∃ k, .release k x true ∈ tr

/-- **An orderly trace**: what was released is not mentioned again, and what is released was
issued, in the same kind and in no other. -/
structure Orderly (tr : List (Event κ ν)) : Prop where
  spent : ∀ pre e post, tr = pre ++ e :: post → ¬Released e.name pre
  kind : ∀ pre k x ok post, tr = pre ++ .release k x ok :: post →
    ∀ k', Issued k' x pre ↔ k' = k

theorem orderly_nil : Orderly ([] : List (Event κ ν)) where
  spent pre e post h := by simp at h
  kind pre k x ok post h := by simp at h

/-- **One more event.** -/
theorem Orderly.snoc {tr : List (Event κ ν)} {e : Event κ ν} (h : Orderly tr)
    (hlive : ¬Released e.name tr)
    (hkind : ∀ k x ok, e = .release k x ok → ∀ k', Issued k' x tr ↔ k' = k) :
    Orderly (tr ++ [e]) := by
  -- the event asked about is an old one, or the new one
  have hsplit : ∀ pre e' post, tr ++ [e] = pre ++ e' :: post →
      (pre = tr ∧ e' = e) ∨ ∃ post', tr = pre ++ e' :: post' := by
    intro pre e' post heq
    rcases List.eq_nil_or_concat post with rfl | ⟨post', y, rfl⟩
    · obtain ⟨rfl, hlast⟩ := List.append_inj' heq rfl
      exact Or.inl ⟨rfl, (List.cons.inj hlast).1.symm⟩
    · rw [List.concat_eq_append, ← List.cons_append, ← List.append_assoc] at heq
      exact Or.inr ⟨post', List.append_inj_left' heq rfl⟩
  constructor
  · intro pre e' post heq
    rcases hsplit pre e' post heq with ⟨rfl, rfl⟩ | ⟨post', rfl⟩
    · exact hlive
    · exact h.spent pre e' post' rfl
  · intro pre k x ok post heq
    rcases hsplit pre _ post heq with ⟨rfl, he⟩ | ⟨post', rfl⟩
    · exact hkind k x ok he.symm
    · exact h.kind pre k x ok post' rfl

/-! ### Holders and their moves -/

/-- The holders, by number: their kinds, the names in them, and the trace so far. -/
@[ext]
structure State (κ : Type u) (ν : Type v) where
  next : ℕ
  kind : ℕ → κ
  name : ℕ → Option ν
  trace : List (Event κ ν)

/-- What a program that keeps to the discipline does. -/
inductive Move (κ : Type u) (ν : Type v) where
  /-- Put a name just issued into a new holder. -/
  | hold (k : κ) (x : ν)
  /-- Use the name in a holder, if there is one. -/
  | use (h : ℕ)
  /-- Release the name in a holder, if there is one. -/
  | release (h : ℕ) (ok : Bool)
  /-- Empty a holder without releasing its name. -/
  | forget (h : ℕ)

/-- The state after a move. -/
def Move.apply (s : State κ ν) : Move κ ν → State κ ν
  | .hold k x =>
    { next := s.next + 1, kind := update s.kind s.next k, name := update s.name s.next (some x)
      trace := s.trace ++ [.issue k x] }
  | .use h =>
    match s.name h with
    | none => s
    | some x => { s with trace := s.trace ++ [.use x] }
  | .release h ok =>
    match s.name h with
    | none => s
    | some x =>
      { s with
        name := if ok then update s.name h none else s.name
        trace := s.trace ++ [.release (s.kind h) x ok] }
  | .forget h => { s with name := update s.name h none }

/-- A name that is put into a holder is new. -/
def Move.Fresh (s : State κ ν) : Move κ ν → Prop
  | .hold _ x => ∀ e ∈ s.trace, e.name ≠ x
  | _ => True

/-- **The invariant**: the trace is orderly, every name is in one holder at most, and a name in
a holder was issued in the kind of the holder and has not been released. -/
structure Inv (s : State κ ν) : Prop where
  orderly : Orderly s.trace
  lt : ∀ h x, s.name h = some x → h < s.next
  inj : ∀ h h' x, s.name h = some x → s.name h' = some x → h = h'
  issued : ∀ h x, s.name h = some x → ∀ k, Issued k x s.trace ↔ k = s.kind h
  live : ∀ h x, s.name h = some x → ¬Released x s.trace

variable {s : State κ ν} {m : Move κ ν}

/-- No holder yet. -/
theorem Inv.start {kind : ℕ → κ} {name : ℕ → Option ν} (hname : ∀ h, name h = none) :
    Inv (⟨0, kind, name, []⟩ : State κ ν) where
  orderly := orderly_nil
  lt h x hx := absurd ((hname h).symm.trans hx) (Option.some_ne_none x).symm
  inj h _ x hx := absurd ((hname h).symm.trans hx) (Option.some_ne_none x).symm
  issued h x hx := absurd ((hname h).symm.trans hx) (Option.some_ne_none x).symm
  live h x hx := absurd ((hname h).symm.trans hx) (Option.some_ne_none x).symm

/-- An event about a name that is neither issued nor released by it. -/
theorem issued_snoc {k : κ} {x : ν} {tr : List (Event κ ν)} {e : Event κ ν}
    (h : ∀ k', e ≠ .issue k' x) : Issued k x (tr ++ [e]) ↔ Issued k x tr := by
  simp [Issued, (h k).symm]

theorem released_snoc {x : ν} {tr : List (Event κ ν)} {e : Event κ ν}
    (h : ∀ k, e ≠ .release k x true) : Released x (tr ++ [e]) ↔ Released x tr := by
  constructor
  · rintro ⟨k, hk⟩
    rcases List.mem_append.mp hk with hk | hk
    · exact ⟨k, hk⟩
    · exact absurd (List.mem_singleton.mp hk).symm (h k)
  · rintro ⟨k, hk⟩
    exact ⟨k, List.mem_append_left _ hk⟩

/-- Putting a new name into a new holder. -/
theorem Inv.hold (inv : Inv s) {k : κ} {x : ν} (hfresh : (Move.hold k x).Fresh s) :
    Inv ((Move.hold k x).apply s) := by
  have hissued : ∀ k', ¬Issued k' x s.trace := fun k' h => hfresh _ h rfl
  have hreleased : ¬Released x s.trace := fun ⟨k', h⟩ => hfresh _ h rfl
  -- a holder is the new one, or an old one, which holds another name
  have hcases : ∀ h y, update s.name s.next (some x) h = some y →
      (h = s.next ∧ y = x) ∨ (h < s.next ∧ s.name h = some y ∧ y ≠ x) := by
    intro h y hy
    rcases eq_or_ne h s.next with rfl | hne
    · rw [update_self] at hy
      exact Or.inl ⟨rfl, (Option.some.inj hy).symm⟩
    · rw [update_of_ne hne] at hy
      refine Or.inr ⟨inv.lt h y hy, hy, ?_⟩
      rintro rfl
      exact hissued (s.kind h) ((inv.issued h y hy (s.kind h)).mpr rfl)
  refine ⟨inv.orderly.snoc hreleased nofun, fun h y hy => ?_, fun h h' y hy hy' => ?_,
    fun h y hy k' => ?_, fun h y hy => ?_⟩
  · rcases hcases h y hy with ⟨rfl, -⟩ | ⟨hlt, -, -⟩
    · exact Nat.lt_succ_self _
    · exact Nat.lt_succ_of_lt hlt
  · rcases hcases h y hy with ⟨rfl, rfl⟩ | ⟨-, hold, hne⟩ <;>
      rcases hcases h' _ hy' with ⟨rfl, heq⟩ | ⟨-, hold', hne'⟩
    · rfl
    · exact absurd rfl hne'
    · exact absurd heq hne
    · exact inv.inj h h' y hold hold'
  · rcases hcases h y hy with ⟨rfl, rfl⟩ | ⟨hlt, hold, hne⟩
    · simp only [Move.apply, update_self]
      constructor
      · intro h
        rcases List.mem_append.mp h with h | h
        · exact absurd h (hissued k')
        · exact (Event.issue.inj (List.mem_singleton.mp h)).1
      · rintro rfl
        exact List.mem_append_right _ (List.mem_singleton_self _)
    · simp only [Move.apply, update_of_ne hlt.ne]
      rw [issued_snoc fun k'' h => hne (Event.issue.inj h).2.symm]
      exact inv.issued h y hold k'
  · rw [Move.apply, released_snoc (by simp)]
    rcases hcases h y hy with ⟨-, rfl⟩ | ⟨-, hold, -⟩
    · exact hreleased
    · exact inv.live h y hold

/-- Using the name in a holder. -/
theorem Inv.use (inv : Inv s) (h : ℕ) : Inv ((Move.use h).apply s) := by
  rw [Move.apply]
  cases hx : s.name h with
  | none => exact inv
  | some x =>
    refine ⟨inv.orderly.snoc (inv.live h x hx) nofun, inv.lt, inv.inj, fun h' y hy k => ?_,
      fun h' y hy => ?_⟩
    · rw [issued_snoc (by simp)]
      exact inv.issued h' y hy k
    · rw [released_snoc (by simp)]
      exact inv.live h' y hy

/-- Emptying a holder. -/
theorem Inv.forget (inv : Inv s) (h : ℕ) : Inv ((Move.forget h).apply s) := by
  have hold : ∀ h' x, update s.name h none h' = some x → s.name h' = some x := by
    intro h' x hx
    rcases eq_or_ne h' h with rfl | hne
    · rw [update_self] at hx
      cases hx
    · rwa [update_of_ne hne] at hx
  exact ⟨inv.orderly, fun h' x hx => inv.lt h' x (hold h' x hx),
    fun h₁ h₂ x hx hx' => inv.inj h₁ h₂ x (hold h₁ x hx) (hold h₂ x hx'),
    fun h' x hx => inv.issued h' x (hold h' x hx), fun h' x hx => inv.live h' x (hold h' x hx)⟩

/-- **Releasing the name in a holder**: if it succeeds, the name is in no holder any more. -/
theorem Inv.release (inv : Inv s) (h : ℕ) (ok : Bool) : Inv ((Move.release h ok).apply s) := by
  rw [Move.apply]
  cases hx : s.name h with
  | none => exact inv
  | some x =>
    have horderly : Orderly (s.trace ++ [.release (s.kind h) x ok]) := by
      refine inv.orderly.snoc (inv.live h x hx) ?_
      rintro k y ok' ⟨⟩
      exact inv.issued h x hx
    cases ok with
    | false =>
      refine ⟨horderly, inv.lt, inv.inj, fun h' y hy k => ?_, fun h' y hy => ?_⟩
      · rw [issued_snoc (by simp)]
        exact inv.issued h' y hy k
      · rw [released_snoc (by simp)]
        exact inv.live h' y hy
    | true =>
      have hforget := inv.forget h
      refine ⟨horderly, hforget.lt, hforget.inj, fun h' y hy k => ?_, fun h' y hy => ?_⟩
      · rw [issued_snoc (by simp)]
        exact hforget.issued h' y hy k
      · -- another holder has another name
        have hne : h' ≠ h := by
          rintro rfl
          simp at hy
        have hy' : s.name h' = some y := by simpa [hne] using hy
        rw [released_snoc]
        · exact inv.live h' y hy'
        · rintro k heq
          obtain ⟨-, rfl, -⟩ := Event.release.inj heq
          exact hne (inv.inj h' h x hy' hx)

/-- **Every move keeps the invariant**, if it is fresh. -/
theorem Inv.apply (inv : Inv s) (hfresh : m.Fresh s) : Inv (m.apply s) := by
  cases m with
  | hold k x => exact inv.hold hfresh
  | use h => exact inv.use h
  | release h ok => exact inv.release h ok
  | forget h => exact inv.forget h

/-- A move that puts no new name into a holder. -/
def Move.Old : Move κ ν → Prop
  | .hold _ _ => False
  | _ => True

/-- **Moves that bring no new name** keep the invariant, however many. -/
theorem Inv.foldl {ms : List (Move κ ν)} (inv : Inv s) (hms : ∀ m ∈ ms, m.Old) :
    Inv (ms.foldl Move.apply s) := by
  induction ms generalizing s with
  | nil => exact inv
  | cons m ms ih =>
    have hfresh : m.Fresh s := by
      cases m with
      | hold k x => exact (hms _ List.mem_cons_self).elim
      | _ => trivial
    exact ih (inv.apply hfresh) fun m' hm' => hms m' (List.mem_cons_of_mem _ hm')

/-! ### Names that nobody holds -/

/-- **Every name is held**: what was issued and not released is in a holder of its kind. -/
def AllHeld (s : State κ ν) : Prop :=
  ∀ k x, Issued k x s.trace → ¬Released x s.trace → ∃ h, s.name h = some x ∧ s.kind h = k

/-- A move that puts no new name into a holder and empties none without a release. -/
def Move.Quiet : Move κ ν → Prop
  | .use _ | .release _ _ => True
  | .hold _ _ | .forget _ => False

/-- A quiet move brings no new name. -/
theorem Move.Quiet.old (h : m.Quiet) : m.Old := by
  cases m with
  | hold k x => exact h.elim
  | _ => trivial

/-- A new name is held by its new holder, the others by theirs. -/
theorem AllHeld.hold (hall : AllHeld s) (inv : Inv s) (k : κ) (x : ν) :
    AllHeld ((Move.hold k x).apply s) := by
  intro k' y hissued hlive
  rcases List.mem_append.mp hissued with hold | hnew
  · rw [Move.apply, released_snoc (by simp)] at hlive
    obtain ⟨h, hname, hkind⟩ := hall k' y hold hlive
    have hne : h ≠ s.next := (inv.lt h y hname).ne
    exact ⟨h, (update_of_ne hne _ _).trans hname, (update_of_ne hne _ _).trans hkind⟩
  · obtain ⟨rfl, rfl⟩ := Event.issue.inj (List.mem_singleton.mp hnew)
    exact ⟨s.next, update_self .., update_self ..⟩

/-- **Quiet moves leave every name held.** -/
theorem AllHeld.quiet (hall : AllHeld s) (hm : m.Quiet) : AllHeld (m.apply s) := by
  cases m with
  | hold k x => exact hm.elim
  | forget h => exact hm.elim
  | use h =>
    rw [Move.apply]
    cases s.name h with
    | none => exact hall
    | some x =>
      intro k y hissued hlive
      rw [issued_snoc (by simp)] at hissued
      rw [released_snoc (by simp)] at hlive
      exact hall k y hissued hlive
  | release h ok =>
    rw [Move.apply]
    cases hx : s.name h with
    | none => exact hall
    | some x =>
      intro k y hissued hlive
      rw [issued_snoc (by simp)] at hissued
      have hbefore : ¬Released y s.trace := by
        rintro ⟨k', hk'⟩
        exact hlive ⟨k', List.mem_append_left _ hk'⟩
      obtain ⟨h', hname, hkind⟩ := hall k y hissued hbefore
      refine ⟨h', ?_, hkind⟩
      cases ok with
      | false => exact hname
      | true =>
        -- the name just released is another one
        have hne : h' ≠ h := by
          rintro rfl
          obtain rfl : x = y := Option.some.inj (hx.symm.trans hname)
          exact hlive ⟨s.kind h', List.mem_append_right _ (List.mem_singleton_self _)⟩
        simpa [hne] using hname

/-- **So do any number of them.** -/
theorem AllHeld.foldl {ms : List (Move κ ν)} (hall : AllHeld s) (hms : ∀ m ∈ ms, m.Quiet) :
    AllHeld (ms.foldl Move.apply s) := by
  induction ms generalizing s with
  | nil => exact hall
  | cons m ms ih =>
    exact ih (hall.quiet (hms m List.mem_cons_self)) fun m' hm' =>
      hms m' (List.mem_cons_of_mem _ hm')

/-- Emptying a holder that is empty. -/
theorem AllHeld.forget_of_none (hall : AllHeld s) {h : ℕ} (hx : s.name h = none) :
    AllHeld ((Move.forget h).apply s) := by
  rw [Move.apply, ← hx, update_eq_self]
  exact hall

/-- **A name that is forgotten is nobody's**: it was issued, it has not been released, and no
other holder has it. -/
theorem not_allHeld_forget (inv : Inv s) {h : ℕ} {x : ν} (hx : s.name h = some x) :
    ¬AllHeld ((Move.forget h).apply s) := by
  intro hall
  obtain ⟨h', hname, -⟩ :=
    hall (s.kind h) x ((inv.issued h x hx _).mpr rfl) (inv.live h x hx)
  have hne : h' ≠ h := by
    rintro rfl
    simp [Move.apply] at hname
  have hname' : s.name h' = some x := (update_of_ne hne _ _).symm.trans hname
  exact hne (inv.inj h' h x hname' hx)

end Holders
