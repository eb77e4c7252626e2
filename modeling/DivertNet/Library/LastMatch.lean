import Mathlib.Data.List.Basic

/-!
# Loops that assign on every match

A loop over a table that assigns a variable whenever the current row passes a test,
and goes on, ends with the **last** match: `LastMatch.scan` is that loop. The test may
fault, which ends the loop where it stands; the variable keeps what was assigned so
far. The loop also records the rows it assigned from, in order, so that “the variable
was set from this row” is a property of the outcome and not of a coincidence between
two rows that carry the same value.

What such a loop is for is *attribution*: the rows it should have assigned from are
those of a predicate `L`, and the loop attributes soundly when it never assigns from
another row, completely when it assigns from one as soon as there is one. Two readings
are needed, and both come with the exact condition on the table:

* `LastMatch.AttributesRow` – every assignment is made *from a row* of `L`, and the variable
  ends as it was or with the value of one (`LastMatch.attributesRow_scan_iff`);
* `LastMatch.AttributesValue` – every assignment *writes the value* of some row of `L`, and the
  variable ends as it was or with such a value (`LastMatch.attributesValue_scan_iff`).

The first is the stronger one; they differ on a table in which a row outside `L`
carries the value of a row inside. Who looks at the variable after the loop only sees the
outcome, and for that reader a third one is enough:

* `LastMatch.EndsAttributed` – the variable *ends* as it was or with the value of some row
  of `L`, and with one as soon as there is one (`LastMatch.endsAttributed_scan_iff`).

It depends on one row of the table, `LastMatch.lastMatch`. The loop a reader takes it for
would stop at `List.find?`, the first match.
-/

namespace LastMatch

universe u v w

variable {ρ : Type u} {β : Type v} {ε : Type w}

/-- The state of the loop: the variable, the rows it was assigned from so far, and the
fault that ended the loop, if one did. -/
structure Scan (ρ : Type u) (β : Type v) (ε : Type w) where
  value : β
  setFrom : List ρ
  fault : Option ε

/-- **The loop**: assign the variable from every row that passes the test, to the end
of the table. -/
def scan (test : ρ → Except ε Bool) (out : ρ → β) : List ρ → Scan ρ β ε → Scan ρ β ε
  | [], st => st
  | r :: rs, st =>
    match test r with
    | .error e => { st with fault := some e }
    | .ok true => scan test out rs { st with value := out r, setFrom := st.setFrom ++ [r] }
    | .ok false => scan test out rs st

/-- The state a loop starts in. -/
def start (b : β) : Scan ρ β ε := ⟨b, [], none⟩

/-- **What the loop computes**, where the test never faults: it assigns from the rows
that pass, in order, so the last of them decides. -/
theorem scan_ok (p : ρ → Bool) (out : ρ → β) (rows : List ρ) (st : Scan ρ β ε) :
    scan (fun r => .ok (p r)) out rows st =
      { st with
        value := ((rows.filter p).getLast?.map out).getD st.value
        setFrom := st.setFrom ++ rows.filter p } := by
  -- induction on the rows not seen yet, over the state reached so far
  induction rows generalizing st with
  | nil => simp [scan]
  | cons r rs ih =>
    cases hp : p r with
    | false =>
      simp only [scan, hp]
      rw [ih, List.filter_cons_of_neg (by simp [hp])]
    | true =>
      simp only [scan, hp]
      rw [ih, List.filter_cons_of_pos hp]
      cases hl : (rs.filter p).getLast? with
      | none => simp [List.getLast?_eq_none_iff.mp hl]
      | some x => simp [List.getLast?_cons, hl]

/-! ### The deciding row -/

section LastRow

variable (p : ρ → Bool) (out : ρ → β) (rows : List ρ)

/-- The last row that passes the test. -/
def lastMatch : Option ρ := (rows.filter p).getLast?

variable {p rows}

theorem lastMatch_spec {r : ρ} (h : lastMatch p rows = some r) : r ∈ rows ∧ p r = true :=
  List.mem_filter.mp (List.mem_of_getLast? h)

theorem lastMatch_eq_none_iff : lastMatch p rows = none ↔ ∀ r ∈ rows, ¬p r = true := by
  rw [lastMatch, List.getLast?_eq_none_iff, List.filter_eq_nil_iff]

/-- The last match in a table of images comes from the last row whose image passes. -/
theorem lastMatch_map {ρ' : Type u} (p : ρ' → Bool) (f : ρ → ρ') (rows : List ρ) :
    lastMatch p (rows.map f) = (lastMatch (fun r => p (f r)) rows).map f := by
  rw [lastMatch, lastMatch, List.filter_map, List.getLast?_map]
  rfl

/-- **The last match decides** what the loop ends with. -/
theorem value_scan (b : β) :
    (scan (fun r => .ok (p r)) out rows (start b : Scan ρ β ε)).value =
      ((lastMatch p rows).map out).getD b := by
  rw [scan_ok]
  rfl

/-- **When the first match decides as well**: exactly when the last one has its value. -/
theorem value_scan_eq_first_iff {first : ρ} (h : rows.find? p = some first) (b : β) :
    (scan (fun r => .ok (p r)) out rows (start b : Scan ρ β ε)).value = out first ↔
      ∀ last, lastMatch p rows = some last → out last = out first := by
  rw [value_scan]
  cases hlast : lastMatch p rows with
  | none =>
    have hmem := List.mem_of_find?_eq_some h
    exact absurd (List.find?_some h) (lastMatch_eq_none_iff.mp hlast _ hmem)
  | some last => simp

end LastRow

/-! ### Tests that may fault -/

/-- A row passes a test that may fault. -/
def passes (test : ρ → Except ε Bool) (r : ρ) : Bool :=
  match test r with
  | .ok b => b
  | .error _ => false

theorem test_of_passes {test : ρ → Except ε Bool} {r : ρ} (h : passes test r = true) :
    test r = .ok true := by
  rw [passes] at h
  cases ht : test r with
  | error e =>
    rw [ht] at h
    cases h
  | ok b =>
    rw [ht] at h
    exact congrArg Except.ok h

/-! ### Tables compared, and faults -/

section Compared

variable {ρ' : Type u} {test : ρ → Except ε Bool} {out : ρ → β} {rows : List ρ}

/-- The rows of a state seen through a map. -/
def Scan.map (f : ρ → ρ') (s : Scan ρ β ε) : Scan ρ' β ε :=
  { s with setFrom := s.setFrom.map f }

/-- **A loop over a table of images** is the loop over the table, with the test and the value
of the images. -/
theorem scan_map (f : ρ → ρ') (test : ρ' → Except ε Bool) (out : ρ' → β) (rows : List ρ)
    (st : Scan ρ β ε) :
    scan test out (rows.map f) (st.map f) =
      (scan (fun r => test (f r)) (fun r => out (f r)) rows st).map f := by
  induction rows generalizing st with
  | nil => rfl
  | cons r rs ih =>
    rw [List.map_cons]
    cases ht : test (f r) with
    | error e => simp only [scan, ht, Scan.map]
    | ok b =>
      cases b with
      | false => simpa only [scan, ht] using ih st
      | true =>
        have hst : (Scan.map f { st with value := out (f r), setFrom := st.setFrom ++ [r] }) =
            { st.map f with value := out (f r), setFrom := (st.map f).setFrom ++ [f r] } := by
          simp only [Scan.map, List.map_append, List.map_singleton]
        simp only [scan, ht]
        rw [← hst, ih]

/-- A loop whose test and value do not tell a row from its image ends with the same value
over both tables. -/
theorem value_scan_map {f : ρ → ρ} (htest : ∀ r, test (f r) = test r)
    (hout : ∀ r, out (f r) = out r) (b : β) :
    (scan test out (rows.map f) (start b)).value = (scan test out rows (start b)).value := by
  have h := scan_map f test out rows (start b)
  simp only [htest, hout] at h
  have hvalue := congrArg Scan.value h
  exact hvalue

/-- **Nothing passes, nothing is assigned**, also where the loop faults. -/
theorem value_scan_of_not_passes (h : ∀ r ∈ rows, ¬passes test r = true) (st : Scan ρ β ε) :
    (scan test out rows st).value = st.value := by
  induction rows with
  | nil => rfl
  | cons r rs ih =>
    have hr := h r List.mem_cons_self
    rw [passes] at hr
    cases ht : test r with
    | error e => simp only [scan, ht]
    | ok b =>
      obtain rfl : b = false := by
        rw [ht] at hr
        exact Bool.eq_false_iff.mpr hr
      simp only [scan, ht]
      exact ih fun r' hr' => h r' (List.mem_cons_of_mem r hr')

/-- **How a loop faults**: on a row whose test does, and it faults if there is one. -/
theorem fault_scan {st : Scan ρ β ε} (hst : st.fault = none) :
    ((scan test out rows st).fault = none ∧ ∀ r ∈ rows, ∃ b, test r = .ok b) ∨
      ∃ r ∈ rows, ∃ e, test r = .error e ∧ (scan test out rows st).fault = some e := by
  induction rows generalizing st with
  | nil => exact Or.inl ⟨hst, fun r hr => absurd hr List.not_mem_nil⟩
  | cons r rs ih =>
    cases ht : test r with
    | error e =>
      refine Or.inr ⟨r, List.mem_cons_self, e, ht, ?_⟩
      simp only [scan, ht]
    | ok b =>
      -- the loop goes on, from a state without a fault in either case
      obtain ⟨st', hst', hscan⟩ : ∃ st' : Scan ρ β ε, st'.fault = none ∧
          scan test out (r :: rs) st = scan test out rs st' := by
        cases b with
        | false => exact ⟨st, hst, by simp only [scan, ht]⟩
        | true =>
          exact ⟨{ st with value := out r, setFrom := st.setFrom ++ [r] }, hst,
            by simp only [scan, ht]⟩
      rw [hscan]
      rcases ih hst' with ⟨hnone, hok⟩ | ⟨r', hr', e, he, hfault⟩
      · refine Or.inl ⟨hnone, fun r' hr' => ?_⟩
        rcases List.mem_cons.mp hr' with rfl | hr'
        · exact ⟨b, ht⟩
        · exact hok r' hr'
      · exact Or.inr ⟨r', List.mem_cons_of_mem r hr', e, he, hfault⟩

end Compared

/-! ### Attribution -/

section Attribution

variable (L : ρ → Prop) (out : ρ → β) (rows : List ρ)

/-- **Attribution to the rows of `L`**, for a variable that was `b`: it was set from no row
of the table but those; if it ends otherwise than it was, it ends with the value of one it was
set from; and it was set from one, and ends with its value, as soon as the table has one. -/
def AttributesRow (b : β) (s : Scan ρ β ε) : Prop :=
  (∀ r ∈ s.setFrom, r ∈ rows ∧ L r) ∧
    (s.value ≠ b → ∃ r ∈ s.setFrom, L r ∧ s.value = out r) ∧
    ((∃ r ∈ rows, L r) → ∃ r ∈ s.setFrom, L r ∧ s.value = out r)

/-- **Attribution to the values of `L`**, for a variable that was `b`: it was only ever set to
the value of a row of `L`; if it ends otherwise than it was, it ends with such a value; and it
was set, and ends with such a value, as soon as the table has such a row. -/
def AttributesValue (b : β) (s : Scan ρ β ε) : Prop :=
  (∀ r ∈ s.setFrom, ∃ l ∈ rows, L l ∧ out r = out l) ∧
    (s.value ≠ b → ∃ l ∈ rows, L l ∧ s.value = out l) ∧
    ((∃ l ∈ rows, L l) → s.setFrom ≠ [] ∧ ∃ l ∈ rows, L l ∧ s.value = out l)

/-- **Attribution of the outcome** to the values of `L`, for a variable that was `b`. -/
def EndsAttributed (b : β) (s : Scan ρ β ε) : Prop :=
  (s.value ≠ b → ∃ l ∈ rows, L l ∧ s.value = out l) ∧
    ((∃ l ∈ rows, L l) → ∃ l ∈ rows, L l ∧ s.value = out l)

variable {L out rows} {p : ρ → Bool}

/-- A loop that assigned from some row ends with the value of one it assigned from. -/
theorem exists_value_scan (out : ρ → β) (b : β) (h : ∃ r ∈ rows, p r = true) :
    ∃ r ∈ rows, p r = true ∧
      (scan (fun r => .ok (p r)) out rows (start b : Scan ρ β ε)).value = out r := by
  obtain ⟨r, hr, hpr⟩ := h
  have hne : rows.filter p ≠ [] := List.ne_nil_of_mem (List.mem_filter.mpr ⟨hr, hpr⟩)
  have hlast := List.mem_filter.mp (List.getLast_mem hne)
  refine ⟨_, hlast.1, hlast.2, ?_⟩
  rw [scan_ok, List.getLast?_eq_some_getLast hne]
  rfl

/-- A loop that changed the variable left it with the value of a row that passes. -/
theorem exists_of_value_scan_ne {b : β}
    (h : (scan (fun r => .ok (p r)) out rows (start b : Scan ρ β ε)).value ≠ b) :
    ∃ r ∈ rows, p r = true ∧
      (scan (fun r => .ok (p r)) out rows (start b : Scan ρ β ε)).value = out r := by
  rw [value_scan] at h ⊢
  cases hlast : lastMatch p rows with
  | none =>
    rw [hlast] at h
    exact absurd rfl h
  | some last =>
    obtain ⟨hmem, hpass⟩ := lastMatch_spec hlast
    exact ⟨last, hmem, hpass, rfl⟩

theorem mem_setFrom_scan (b : β) {r : ρ} :
    r ∈ (scan (fun r => .ok (p r)) out rows (start b : Scan ρ β ε)).setFrom ↔
      r ∈ rows ∧ p r = true := by
  simp [scan_ok, start]

/-- **When the loop attributes to rows**: exactly when every row that passes the test
is one of `L`, and some row passes if there is one of `L` at all. -/
theorem attributesRow_scan_iff (b : β) :
    AttributesRow L out rows b (scan (fun r => .ok (p r)) out rows (start b : Scan ρ β ε)) ↔
      (∀ r ∈ rows, p r = true → L r) ∧ ((∃ r ∈ rows, L r) → ∃ r ∈ rows, p r = true) := by
  constructor
  · rintro ⟨hsound, -, hcomplete⟩
    refine ⟨fun r hr hpr => (hsound r ((mem_setFrom_scan b).mpr ⟨hr, hpr⟩)).2, fun hL => ?_⟩
    obtain ⟨r, hr, -⟩ := hcomplete hL
    exact ⟨r, (mem_setFrom_scan b).mp hr⟩
  · rintro ⟨hsound, hcomplete⟩
    -- a row the loop assigned from, and whose value it ended with, is one of `L`
    have hvalue : ∀ r ∈ rows, p r = true →
        (scan (fun r => .ok (p r)) out rows (start b : Scan ρ β ε)).value = out r →
        ∃ r ∈ (scan (fun r => .ok (p r)) out rows (start b : Scan ρ β ε)).setFrom, L r ∧
          (scan (fun r => .ok (p r)) out rows (start b : Scan ρ β ε)).value = out r :=
      fun r hr hpr hval => ⟨r, (mem_setFrom_scan b).mpr ⟨hr, hpr⟩, hsound r hr hpr, hval⟩
    refine ⟨fun r hr => ?_, fun hne => ?_, fun hL => ?_⟩
    · obtain ⟨hmem, hpr⟩ := (mem_setFrom_scan b).mp hr
      exact ⟨hmem, hsound r hmem hpr⟩
    · obtain ⟨r, hr, hpr, hval⟩ := exists_of_value_scan_ne hne
      exact hvalue r hr hpr hval
    · obtain ⟨r, hr, hpr, hval⟩ := exists_value_scan (ε := ε) out b (hcomplete hL)
      exact hvalue r hr hpr hval

/-- **When the loop attributes to values**: exactly when every row that passes the test
carries the value of a row of `L`, and some row passes if there is one of `L` at all. -/
theorem attributesValue_scan_iff (b : β) :
    AttributesValue L out rows b (scan (fun r => .ok (p r)) out rows (start b : Scan ρ β ε)) ↔
      (∀ r ∈ rows, p r = true → ∃ l ∈ rows, L l ∧ out r = out l) ∧
        ((∃ l ∈ rows, L l) → ∃ r ∈ rows, p r = true) := by
  constructor
  · rintro ⟨hsound, -, hcomplete⟩
    refine ⟨fun r hr hpr => hsound r ((mem_setFrom_scan b).mpr ⟨hr, hpr⟩), fun hL => ?_⟩
    obtain ⟨r, hr⟩ := List.exists_mem_of_ne_nil _ (hcomplete hL).1
    exact ⟨r, (mem_setFrom_scan b).mp hr⟩
  · rintro ⟨hsound, hcomplete⟩
    refine ⟨fun r hr => ?_, fun hne => ?_, fun hL => ?_⟩
    · obtain ⟨hmem, hpr⟩ := (mem_setFrom_scan b).mp hr
      exact hsound r hmem hpr
    · obtain ⟨r, hr, hpr, hval⟩ := exists_of_value_scan_ne hne
      obtain ⟨l, hl, hLl, hout⟩ := hsound r hr hpr
      exact ⟨l, hl, hLl, hval.trans hout⟩
    · obtain ⟨r, hr, hpr, hval⟩ := exists_value_scan (ε := ε) out b (hcomplete hL)
      obtain ⟨l, hl, hLl, hout⟩ := hsound r hr hpr
      exact ⟨List.ne_nil_of_mem ((mem_setFrom_scan b).mpr ⟨hr, hpr⟩), l, hl, hLl,
        hval.trans hout⟩

/-- **When the outcome is attributed**, for a test that every row of `L` passes: exactly when
the last row to pass, if any does, has the value of a row of `L`, or there is no such row
and it has the value the variable had before. -/
theorem endsAttributed_scan_iff (hL : ∀ r, L r → p r = true) (b : β) :
    EndsAttributed L out rows b
        (scan (fun r => .ok (p r)) out rows (start b : Scan ρ β ε)) ↔
      ∀ last, lastMatch p rows = some last →
        (∃ l ∈ rows, L l ∧ out last = out l) ∨ (∀ l ∈ rows, ¬L l) ∧ out last = b := by
  rw [EndsAttributed, value_scan]
  cases hlast : lastMatch p rows with
  | none =>
    -- nothing passes, so nothing is in `L` either, and the variable is as it was
    have hnone : ¬∃ l ∈ rows, L l := by
      rintro ⟨l, hl, hLl⟩
      exact lastMatch_eq_none_iff.mp hlast l hl (hL l hLl)
    exact iff_of_true ⟨fun h => absurd rfl h, fun h => absurd h hnone⟩ nofun
  | some last =>
    simp only [Option.map_some, Option.getD_some, Option.some.injEq, forall_eq']
    constructor
    · rintro ⟨hsound, hcomplete⟩
      by_cases hex : ∃ l ∈ rows, L l
      · exact Or.inl (hcomplete hex)
      · by_cases hb : out last = b
        · exact Or.inr ⟨fun l hl hLl => hex ⟨l, hl, hLl⟩, hb⟩
        · exact Or.inl (hsound hb)
    · rintro (h | ⟨hnone, hb⟩)
      · exact ⟨fun _ => h, fun _ => h⟩
      · exact ⟨fun h => absurd hb h, fun ⟨l, hl, hLl⟩ => absurd hLl (hnone l hl)⟩

end Attribution

end LastMatch
