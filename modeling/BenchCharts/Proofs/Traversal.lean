import Mathlib.Data.List.Forall2

/-!
Lists whose elements are treated one after the other until one fails. A traversal succeeds if all
elements do, and otherwise fails as the first failing element does. Two traversals that differ in
their elements only are compared element by element.
-/
namespace BenchCharts

theorem exists_of_forall₂ {α β : Type} {R : α → β → Prop} {xs : List α} {ys : List β}
    (h : List.Forall₂ R xs ys) {x : α} (hx : x ∈ xs) : ∃ y ∈ ys, R x y := by
  induction h with
  | nil => contradiction
  | @cons a b as bs hab _ ih =>
    rcases List.mem_cons.mp hx with rfl | hrest
    · exact ⟨b, List.mem_cons_self, hab⟩
    · obtain ⟨y, hy, hxy⟩ := ih hrest
      exact ⟨y, List.mem_cons_of_mem b hy, hxy⟩

/-- A search finds the only element that it can find, or nothing if there is none. -/
theorem find?_eq_of_unique {α : Type} {xs : List α} {p : α → Bool} {o : Option α}
    (hfound : ∀ x ∈ xs, p x = true → o = some x) (hmem : ∀ x, o = some x → x ∈ xs ∧ p x = true) :
    xs.find? p = o := by
  cases hfind : xs.find? p with
  | some x =>
    exact (hfound x (List.mem_of_find?_eq_some hfind) (List.find?_some hfind)).symm
  | none =>
    rw [eq_comm, Option.eq_none_iff_forall_ne_some]
    intro x hx
    obtain ⟨hxs, hp⟩ := hmem x hx
    exact List.find?_eq_none.mp hfind x hxs hp

theorem bind_eq_error_iff {α β ε : Type} {x : Except ε α} {f : α → Except ε β} (e : ε) :
    x >>= f = .error e ↔ x = .error e ∨ ∃ a, x = .ok a ∧ f a = .error e := by
  cases x <;> simp [bind, Except.bind]

theorem bind_eq_ok_iff {α β ε : Type} {x : Except ε α} {f : α → Except ε β} (b : β) :
    x >>= f = .ok b ↔ ∃ a, x = .ok a ∧ f a = .ok b := by
  cases x <;> simp [bind, Except.bind]

theorem pure_eq_ok_iff {α ε : Type} (a b : α) : (pure a : Except ε α) = .ok b ↔ a = b := by
  simp [pure, Except.pure]

/-- A step whose result is turned into something. -/
theorem bind_pure_eq_ok_iff {α β ε : Type} {x : Except ε α} {f : α → β} (b : β) :
    (x >>= fun a => pure (f a)) = .ok b ↔ ∃ a, x = .ok a ∧ f a = b := by
  simp only [bind_eq_ok_iff, pure_eq_ok_iff]

theorem map_eq_ok_iff {α β ε : Type} {x : Except ε α} {f : α → β} (b : β) :
    x.map f = .ok b ↔ ∃ a, x = .ok a ∧ f a = b := by
  cases x <;> simp [Except.map]

theorem toOption_eq_some_iff {α ε : Type} {x : Except ε α} {a : α} :
    x.toOption = some a ↔ x = .ok a := by
  cases x <;> simp [Except.toOption]

theorem pure_ne_error {α ε : Type} (a : α) (e : ε) : (pure a : Except ε α) ≠ .error e := by
  simp [pure, Except.pure]

section
variable {α β ε : Type} {f : α → Except ε β}

theorem exists_mapM_eq_ok_iff (xs : List α) :
    (∃ ys, xs.mapM f = .ok ys) ↔ ∀ x ∈ xs, ∃ y, f x = .ok y := by
  induction xs with
  | nil => simp [pure, Except.pure]
  | cons x rest ih =>
    rw [List.forall_mem_cons, ← ih, List.mapM_cons]
    cases hx : f x with
    | error e => simp [bind, Except.bind]
    | ok y =>
      cases hrest : rest.mapM f with
      | error e => simp [bind, Except.bind]
      | ok ys => simp [bind, Except.bind, pure, Except.pure]

theorem mapM_nil_eq_ok_iff (ys : List β) : ([] : List α).mapM f = .ok ys ↔ ys = [] := by
  rw [List.mapM_nil, pure_eq_ok_iff, eq_comm]

theorem mapM_cons_eq_ok_iff (x : α) (rest : List α) (ys : List β) :
    (x :: rest).mapM f = .ok ys ↔
      ∃ y zs, f x = .ok y ∧ rest.mapM f = .ok zs ∧ ys = y :: zs := by
  rw [List.mapM_cons, bind_eq_ok_iff]
  simp only [bind_pure_eq_ok_iff, exists_and_left, @eq_comm _ ys]

/-- The results of a traversal, element by element. -/
theorem mapM_eq_ok_iff (xs : List α) (ys : List β) :
    xs.mapM f = .ok ys ↔ List.Forall₂ (fun x y => f x = .ok y) xs ys := by
  induction xs generalizing ys with
  | nil => rw [mapM_nil_eq_ok_iff, List.forall₂_nil_left_iff]
  | cons x rest ih =>
    simp only [mapM_cons_eq_ok_iff, List.forall₂_cons_left_iff, ih]

theorem forall₂_of_mapM {xs : List α} {ys : List β} (h : xs.mapM f = .ok ys) :
    List.Forall₂ (fun x y => f x = .ok y) xs ys :=
  (mapM_eq_ok_iff xs ys).mp h

theorem mapM_of_forall_ok {xs : List α} {k : α → β} (h : ∀ x ∈ xs, f x = .ok (k x)) :
    xs.mapM f = .ok (xs.map k) := by
  rw [mapM_eq_ok_iff, List.forall₂_map_right_iff]
  exact List.forall₂_same.mpr h

/-- What of each result is known from its element. -/
theorem map_of_mapM {γ : Type} {xs : List α} {ys : List β} (h : xs.mapM f = .ok ys) {g : β → γ}
    {k : α → γ} (hresult : ∀ x y, f x = .ok y → g y = k x) : ys.map g = xs.map k := by
  rw [← List.forall₂_eq_eq_eq, List.forall₂_map_left_iff, List.forall₂_map_right_iff]
  exact (forall₂_of_mapM h).flip.imp fun y x hxy => hresult x y hxy

/-- A traversal that makes something of each result of another one. -/
theorem mapM_of_mapM {γ : Type} {xs : List α} {ys : List β} (h : xs.mapM f = .ok ys)
    {g : α → Except ε γ} {k : β → γ} (hresult : ∀ x y, f x = .ok y → g x = .ok (k y)) :
    xs.mapM g = .ok (ys.map k) := by
  induction xs generalizing ys with
  | nil => rw [(mapM_nil_eq_ok_iff ys).mp h, List.map_nil, mapM_nil_eq_ok_iff]
  | cons x rest ih =>
    obtain ⟨y, zs, hy, hzs, rfl⟩ := (mapM_cons_eq_ok_iff x rest ys).mp h
    exact (mapM_cons_eq_ok_iff x rest _).mpr ⟨k y, zs.map k, hresult x y hy, ih hzs, rfl⟩

theorem mapM_eq_error_iff (xs : List α) (e : ε) :
    xs.mapM f = .error e ↔ ∃ before x after, xs = before ++ x :: after ∧
      (∀ b ∈ before, ∃ y, f b = .ok y) ∧ f x = .error e := by
  induction xs with
  | nil => simp [pure, Except.pure]
  | cons x rest ih =>
    rw [List.mapM_cons]
    cases hx : f x with
    | error e' =>
      -- The head is the first to fail, so nothing can stand before the element in question.
      constructor
      · intro h
        refine ⟨[], x, rest, rfl, by simp, ?_⟩
        rw [hx]
        simpa [bind, Except.bind] using h
      · rintro ⟨before, y, after, hsplit, hbefore, hy⟩
        cases before with
        | nil =>
          obtain ⟨rfl, -⟩ := List.cons.inj hsplit
          rw [hx] at hy
          rw [hy]
          rfl
        | cons b before =>
          obtain ⟨rfl, -⟩ := List.cons.inj hsplit
          obtain ⟨z, hz⟩ := hbefore x (by simp)
          rw [hx] at hz
          contradiction
    | ok y =>
      have hhead : (do let b ← Except.ok y; let bs ← rest.mapM f; pure (b :: bs)) = .error e ↔
          rest.mapM f = .error e := by
        cases hrest : rest.mapM f <;> simp [bind, Except.bind, pure, Except.pure]
      rw [hhead, ih]
      constructor
      · rintro ⟨before, z, after, rfl, hbefore, hz⟩
        refine ⟨x :: before, z, after, rfl, ?_, hz⟩
        rw [List.forall_mem_cons]
        exact ⟨⟨y, hx⟩, hbefore⟩
      · rintro ⟨before, z, after, hsplit, hbefore, hz⟩
        cases before with
        | nil =>
          obtain ⟨rfl, -⟩ := List.cons.inj hsplit
          rw [hx] at hz
          contradiction
        | cons b before =>
          obtain ⟨rfl, rfl⟩ := List.cons.inj hsplit
          rw [List.forall_mem_cons] at hbefore
          exact ⟨before, z, after, rfl, hbefore.2, hz⟩

end

/-- Both succeed, and with related results. -/
def Both {ε α β : Type} (R : α → β → Prop) (x : Except ε α) (y : Except ε β) : Prop :=
  ∃ a b, x = .ok a ∧ y = .ok b ∧ R a b

namespace Both

variable {ε α β γ δ : Type} {R : α → β → Prop} {S : γ → δ → Prop}

theorem pure {a : α} {b : β} (h : R a b) :
    Both R (Pure.pure a : Except ε α) (Pure.pure b : Except ε β) :=
  ⟨a, b, rfl, rfl, h⟩

theorem bind {x : Except ε α} {y : Except ε β} {f : α → Except ε γ} {g : β → Except ε δ}
    (h : Both R x y) (hfg : ∀ a b, R a b → Both S (f a) (g b)) : Both S (x >>= f) (y >>= g) := by
  obtain ⟨a, b, rfl, rfl, hab⟩ := h
  exact hfg a b hab

theorem singleton {x : Except ε α} {y : Except ε β} (h : Both R x y) :
    Both (List.Forall₂ R) (x.map fun a => [a]) (y.map fun b => [b]) := by
  obtain ⟨a, b, rfl, rfl, hab⟩ := h
  exact ⟨[a], [b], rfl, rfl, .cons hab .nil⟩

theorem mapM {ι κ : Type} {f : ι → Except ε α} {g : κ → Except ε β} {xs : List ι} {ys : List κ}
    (h : List.Forall₂ (fun x y => Both R (f x) (g y)) xs ys) :
    Both (List.Forall₂ R) (xs.mapM f) (ys.mapM g) := by
  induction h with
  | nil => exact pure .nil
  | cons hhead _ ih =>
    rw [List.mapM_cons, List.mapM_cons]
    apply bind hhead
    intro a b hab
    apply bind ih
    intro as bs habs
    exact pure (.cons hab habs)

/-- Two traversals of what one list is turned into. -/
theorem mapM_map {ι κ τ : Type} {f : ι → Except ε α} {g : κ → Except ε β} {p : τ → ι}
    {q : τ → κ} {xs : List τ} (h : ∀ x ∈ xs, Both R (f (p x)) (g (q x))) :
    Both (List.Forall₂ R) ((xs.map p).mapM f) ((xs.map q).mapM g) := by
  apply mapM
  rw [List.forall₂_map_left_iff, List.forall₂_map_right_iff]
  exact List.forall₂_same.mpr h

end Both

end BenchCharts
