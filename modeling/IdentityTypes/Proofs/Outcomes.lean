/-
# Computations that may fail

How a computation that is put together of others ends: it succeeds exactly if its parts
do, and what is made of a value afterwards may be made of it before the next part.

Over a list it ends with the first element that fails.

Key theorems: `bind_eq_ok`, `map_eq_ok`, `map_bind`, `bind_map`, `mapM_congr`,
`mapM_eq_ok_iff`, `mapM_eq_error_iff`.
-/

namespace IdentityTypes

variable {ε ε' α β γ : Type}

theorem bind_eq_ok {x : Except ε α} {f : α → Except ε β} {b : β} :
    x >>= f = .ok b ↔ ∃ a, x = .ok a ∧ f a = .ok b := by
  cases x <;> simp [bind, Except.bind]

theorem bind_eq_error {x : Except ε α} {f : α → Except ε β} {e : ε} :
    x >>= f = .error e ↔ x = .error e ∨ ∃ a, x = .ok a ∧ f a = .error e := by
  cases x <;> simp [bind, Except.bind]

theorem map_eq_ok {f : α → β} {x : Except ε α} {b : β} :
    x.map f = .ok b ↔ ∃ a, x = .ok a ∧ f a = b := by
  cases x <;> simp [Except.map]

theorem mapError_eq_ok {f : ε → ε'} {x : Except ε α} {a : α} :
    x.mapError f = .ok a ↔ x = .ok a := by
  cases x with
  | error e => exact ⟨nofun, nofun⟩
  | ok b => exact ⟨fun h => by cases h; rfl, fun h => by cases h; rfl⟩

theorem mapError_eq_error {f : ε → ε'} {x : Except ε α} {e' : ε'} :
    x.mapError f = .error e' ↔ ∃ e, x = .error e ∧ f e = e' := by
  cases x with
  | error e =>
    constructor
    · intro h
      cases h
      exact ⟨e, rfl, rfl⟩
    · rintro ⟨_, h, rfl⟩
      cases h
      rfl
  | ok a => exact ⟨nofun, nofun⟩

theorem toOption_map_eq_some {f : α → β} {x : Except ε α} {b : β} :
    x.toOption.map f = some b ↔ ∃ a, x = .ok a ∧ f a = b := by
  cases x <;> simp [Except.toOption]

theorem toOption_bind_eq_some {f : α → Option β} {x : Except ε α} {b : β} :
    x.toOption.bind f = some b ↔ ∃ a, x = .ok a ∧ f a = some b := by
  cases x <;> simp [Except.toOption]

theorem map_bind (x : Except ε α) (f : α → Except ε β) (g : β → γ) :
    (x >>= f).map g = x >>= fun a => (f a).map g := by
  cases x <;> rfl

theorem bind_map (x : Except ε α) (g : α → β) (f : β → Except ε γ) :
    x.map g >>= f = x >>= fun a => f (g a) := by
  cases x <;> rfl

theorem map_map (x : Except ε α) (g : α → β) (h : β → γ) :
    (x.map g).map h = x.map fun a => h (g a) := by
  cases x <;> rfl

theorem mapError_map (x : Except ε α) (f : α → β) (g : ε → ε') :
    (x.map f).mapError g = (x.mapError g).map f := by
  cases x <;> rfl

theorem mapM_congr {f g : α → Except ε β} : ∀ {xs : List α}, (∀ x ∈ xs, f x = g x) →
    xs.mapM f = xs.mapM g
  | [], _ => rfl
  | x :: xs, h => by
    obtain ⟨hx, hxs⟩ := List.forall_mem_cons.mp h
    rw [List.mapM_cons, List.mapM_cons, hx, mapM_congr hxs]

/-- A computation over a list gives what its elements give, in their order. -/
theorem mapM_eq_ok_iff {f : α → Except ε β} : ∀ {xs : List α} {ys : List β},
    xs.mapM f = .ok ys ↔ xs.map f = ys.map .ok
  | [], ys => by
    rw [List.mapM_nil, List.map_nil, eq_comm (b := List.map _ _), List.map_eq_nil_iff]
    exact ⟨fun h => (Except.ok.inj h).symm, fun h => h ▸ rfl⟩
  | x :: xs, ys => by
    have ih : ∀ ys, xs.mapM f = .ok ys ↔ xs.map f = ys.map .ok := fun _ => mapM_eq_ok_iff
    rw [List.mapM_cons]
    simp only [bind_eq_ok, ih]
    constructor
    · rintro ⟨y, hy, ys, hys, h⟩
      cases h
      rw [List.map_cons, List.map_cons, hy, hys]
    · intro h
      cases ys with
      | nil => cases h
      | cons y ys =>
        obtain ⟨hy, hys⟩ := List.cons.inj h
        exact ⟨y, hy, ys, hys, rfl⟩

/-- Where what is given tells the element it comes from, it tells the list. -/
theorem map_eq_of_map_ok {f : α → Except ε β} {g : β → α} : ∀ {xs : List α} {ys : List β},
    xs.map f = ys.map .ok → (∀ x ∈ xs, ∀ y, f x = .ok y → g y = x) → ys.map g = xs
  | [], [], _, _ => rfl
  | [], _ :: _, h, _ => nomatch h
  | _ :: _, [], h, _ => nomatch h
  | x :: xs, y :: ys, h, hg => by
    obtain ⟨hy, hys⟩ := List.cons.inj h
    obtain ⟨hx, hxs⟩ := List.forall_mem_cons.mp hg
    rw [List.map_cons, hx y hy, map_eq_of_map_ok hys hxs]

theorem exists_mapM_eq_ok_iff {f : α → Except ε β} : ∀ {xs : List α},
    (∃ ys, xs.mapM f = .ok ys) ↔ ∀ x ∈ xs, ∃ y, f x = .ok y
  | [] => ⟨fun _ => List.forall_mem_nil _, fun _ => ⟨[], rfl⟩⟩
  | x :: xs => by
    rw [List.forall_mem_cons, ← exists_mapM_eq_ok_iff]
    simp only [List.mapM_cons, bind_eq_ok]
    constructor
    · rintro ⟨_, y, hy, ys, hys, _⟩
      exact ⟨⟨y, hy⟩, ys, hys⟩
    · rintro ⟨⟨y, hy⟩, ys, hys⟩
      exact ⟨y :: ys, y, hy, ys, hys, rfl⟩

/-- A computation over a list fails as the first element does that fails. -/
theorem mapM_eq_error_iff {f : α → Except ε β} {e : ε} : ∀ {xs : List α},
    xs.mapM f = .error e ↔ ∃ before x after, xs = before ++ x :: after ∧
      (∀ y ∈ before, ∃ b, f y = .ok b) ∧ f x = .error e
  | [] => by
    constructor
    · exact nofun
    · rintro ⟨before, x, after, h, -⟩
      exact absurd h.symm (by simp)
  | x :: xs => by
    have hstep : (x :: xs).mapM f = .error e ↔
        f x = .error e ∨ ∃ b, f x = .ok b ∧ xs.mapM f = .error e := by
      rw [List.mapM_cons, bind_eq_error]
      refine or_congr_right (exists_congr fun b => and_congr_right fun _ => ?_)
      rw [bind_eq_error]
      exact or_iff_left (by simp [pure, Except.pure])
    rw [hstep, mapM_eq_error_iff]
    constructor
    · rintro (hx | ⟨b, hx, before, y, after, rfl, hbefore, hy⟩)
      · exact ⟨[], x, xs, rfl, List.forall_mem_nil _, hx⟩
      · exact ⟨x :: before, y, after, rfl, List.forall_mem_cons.mpr ⟨⟨b, hx⟩, hbefore⟩, hy⟩
    · rintro ⟨before, y, after, h, hbefore, hy⟩
      cases before with
      | nil =>
        obtain ⟨rfl, -⟩ := List.cons.inj h
        exact .inl hy
      | cons z before =>
        obtain ⟨rfl, rfl⟩ := List.cons.inj h
        obtain ⟨⟨b, hx⟩, hbefore⟩ := List.forall_mem_cons.mp hbefore
        exact .inr ⟨b, hx, before, y, after, rfl, hbefore, hy⟩

end IdentityTypes
