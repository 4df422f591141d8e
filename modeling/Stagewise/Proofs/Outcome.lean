/-! Outcomes that succeed: what a sequence of two steps, or a step with its value changed, tells about
the first one. -/

namespace Stagewise

namespace Outcome

variable {ε α β : Type} {x : Except ε α} {b : β}

theorem bind_eq_ok_iff {f : α → Except ε β} :
    (x >>= f) = .ok b ↔ ∃ a, x = .ok a ∧ f a = .ok b := by
  cases x with
  | error e => simp [bind, Except.bind]
  | ok a => simp [bind, Except.bind]

theorem map_eq_ok_iff {f : α → β} : x.map f = .ok b ↔ ∃ a, x = .ok a ∧ f a = b := by
  cases x with
  | error e => simp [Except.map]
  | ok a => simp [Except.map]

theorem mapM_nil_eq_ok_iff {f : α → Except ε β} {ys : List β} :
    [].mapM f = .ok ys ↔ ys = [] := by
  simp [pure, Except.pure, eq_comm]

theorem mapM_cons_eq_ok_iff {f : α → Except ε β} {a : α} {xs : List α} {ys : List β} :
    (a :: xs).mapM f = .ok ys ↔ ∃ y rest, f a = .ok y ∧ xs.mapM f = .ok rest ∧ ys = y :: rest := by
  rw [List.mapM_cons, bind_eq_ok_iff]
  constructor
  · rintro ⟨y, hy, h⟩
    obtain ⟨rest, hrest, h⟩ := bind_eq_ok_iff.mp h
    exact ⟨y, rest, hy, hrest, (Except.ok.inj h).symm⟩
  · rintro ⟨y, rest, hy, hrest, rfl⟩
    exact ⟨y, hy, bind_eq_ok_iff.mpr ⟨rest, hrest, rfl⟩⟩

/-- Item by item: each value is what its item leads to. -/
theorem mapM_eq_ok_iff {f : α → Except ε β} {xs : List α} {ys : List β} :
    xs.mapM f = .ok ys ↔
      ys.length = xs.length ∧
        ∀ (i : Nat) a y, xs[i]? = some a → ys[i]? = some y → f a = .ok y := by
  induction xs generalizing ys with
  | nil =>
    rw [mapM_nil_eq_ok_iff]
    constructor
    · rintro rfl
      simp
    · rintro ⟨h, -⟩
      exact List.eq_nil_of_length_eq_zero h
  | cons x xs ih =>
    rw [mapM_cons_eq_ok_iff]
    constructor
    · rintro ⟨y, rest, hy, hrest, rfl⟩
      obtain ⟨hlength, hitems⟩ := ih.mp hrest
      refine ⟨by simp [hlength], fun i a z ha hz => ?_⟩
      cases i with
      | zero =>
        obtain rfl : x = a := by simpa using ha
        obtain rfl : y = z := by simpa using hz
        exact hy
      | succ i => exact hitems i a z (by simpa using ha) (by simpa using hz)
    · rintro ⟨hlength, hitems⟩
      obtain ⟨y, rest, rfl⟩ := List.exists_cons_of_length_eq_add_one hlength
      refine ⟨y, rest, hitems 0 x y rfl rfl, ih.mpr ⟨by simpa using hlength, ?_⟩, rfl⟩
      exact fun i a z ha hz => hitems (i + 1) a z (by simpa using ha) (by simpa using hz)

theorem forM_eq_ok_iff {f : α → Except ε Unit} {xs : List α} :
    xs.forM f = .ok () ↔ ∀ a ∈ xs, f a = .ok () := by
  rw [List.forM_eq_forM]
  induction xs with
  | nil => simp [pure, Except.pure]
  | cons x xs ih =>
    rw [List.forM_cons, bind_eq_ok_iff, ih, List.forall_mem_cons]
    constructor
    · rintro ⟨⟨⟩, hx, hxs⟩
      exact ⟨hx, hxs⟩
    · rintro ⟨hx, hxs⟩
      exact ⟨(), hx, hxs⟩

theorem toOption_eq_some_iff {a : α} : x.toOption = some a ↔ x = .ok a := by
  cases x with
  | error e => simp [Except.toOption]
  | ok a => simp [Except.toOption]

end Outcome

end Stagewise
