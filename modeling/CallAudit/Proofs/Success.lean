import Mathlib.Data.List.Forall2

/-!
# Computations that yield a result

Inversion of successful computations, the computations that are sure to succeed, and what holds of
their results.
-/

namespace CallAudit

variable {ε ε' α β : Type}

@[simp] theorem ok_bind (a : α) (f : α → Except ε β) : (Except.ok a >>= f) = f a := rfl

@[simp] theorem mapError_ok (a : α) (f : ε → ε') : (Except.ok a).mapError f = .ok a := rfl

@[simp] theorem mapError_error (e : ε) (f : ε → ε') :
    (Except.error e : Except ε α).mapError f = .error (f e) := rfl

@[simp] theorem pure_eq_ok (a : α) : (pure a : Except ε α) = .ok a := rfl

theorem bind_eq_ok_iff {x : Except ε α} {f : α → Except ε β} {b : β} :
    x.bind f = .ok b ↔ ∃ a, x = .ok a ∧ f a = .ok b := by
  cases x with
  | error e => simp [Except.bind]
  | ok a => simp [Except.bind]

theorem map_eq_ok_iff {x : Except ε α} {f : α → β} {b : β} :
    x.map f = .ok b ↔ ∃ a, x = .ok a ∧ f a = b := by
  cases x with
  | error e => simp [Except.map]
  | ok a => simp [Except.map]

theorem mapError_eq_ok_iff {x : Except ε α} {f : ε → ε'} {a : α} :
    x.mapError f = .ok a ↔ x = .ok a := by
  cases x with
  | error e => simp
  | ok a => simp

theorem bind_eq_error_iff {x : Except ε α} {f : α → Except ε β} {e : ε} :
    x.bind f = .error e ↔ x = .error e ∨ ∃ a, x = .ok a ∧ f a = .error e := by
  cases x with
  | error e => simp [Except.bind]
  | ok a => simp [Except.bind]

theorem map_eq_error_iff {x : Except ε α} {f : α → β} {e : ε} :
    x.map f = .error e ↔ x = .error e := by
  cases x with
  | error e => simp [Except.map]
  | ok a => simp [Except.map]

theorem mapError_eq_error_iff {x : Except ε α} {f : ε → ε'} {e' : ε'} :
    x.mapError f = .error e' ↔ ∃ e, x = .error e ∧ f e = e' := by
  cases x with
  | error e => simp
  | ok a => simp

theorem map_map_eq {γ : Type} (x : Except ε α) (f : α → β) (g : β → γ) :
    (x.map f).map g = x.map fun a ↦ g (f a) := by
  cases x with
  | error e => rfl
  | ok a => rfl

/-- Results that are computed one after the other can be changed at the end. -/
theorem mapM_map_eq {γ : Type} (f : α → Except ε β) (g : β → γ) (as : List α) :
    (as.mapM fun a ↦ (f a).map g) = (as.mapM f).map (List.map g) := by
  induction as with
  | nil => rfl
  | cons a as ih =>
      rw [List.mapM_cons, List.mapM_cons, ih]
      cases f a with
      | error e => rfl
      | ok b =>
          cases as.mapM f with
          | error e => rfl
          | ok bs => rfl

/-- A list is computed if all its elements are. -/
theorem mapM_eq_ok_iff {f : α → Except ε β} {as : List α} {bs : List β} :
    as.mapM f = .ok bs ↔ List.Forall₂ (fun a b ↦ f a = .ok b) as bs := by
  induction as generalizing bs with
  | nil => simp [eq_comm]
  | cons a as ih =>
      rw [List.mapM_cons, List.forall₂_cons_left_iff]
      constructor
      · intro h
        obtain ⟨b, hb, h⟩ := bind_eq_ok_iff.mp h
        obtain ⟨bs, hbs, h⟩ := bind_eq_ok_iff.mp h
        cases h
        exact ⟨b, bs, hb, ih.mp hbs, rfl⟩
      · rintro ⟨b, bs, hb, hbs, rfl⟩
        rw [hb, ih.mpr hbs]
        rfl

theorem mapM_eq_ok_map {f : α → Except ε β} {g : α → β} {as : List α}
    (h : ∀ a ∈ as, f a = .ok (g a)) : as.mapM f = .ok (as.map g) :=
  mapM_eq_ok_iff.mpr (List.forall₂_map_right_iff.mpr (List.forall₂_same.mpr h))

theorem mapM_mapError (f : α → Except ε β) (g : ε → ε') (as : List α) :
    (as.mapM fun a ↦ (f a).mapError g) = (as.mapM f).mapError g := by
  induction as with
  | nil => rfl
  | cons a as ih =>
      rw [List.mapM_cons, List.mapM_cons, ih]
      cases f a with
      | error e => rfl
      | ok b =>
          cases as.mapM f with
          | error e => rfl
          | ok bs => rfl

def Succeeds (x : Except ε α) : Prop := ∃ a, x = .ok a

namespace Succeeds

@[simp] theorem ok (a : α) : Succeeds (.ok a : Except ε α) := ⟨a, rfl⟩

@[simp] theorem pure (a : α) : Succeeds (Pure.pure a : Except ε α) := ⟨a, rfl⟩

theorem bind {x : Except ε α} {f : α → Except ε β} (hx : Succeeds x) (hf : ∀ a, Succeeds (f a)) :
    Succeeds (x >>= f) := by
  obtain ⟨a, rfl⟩ := hx
  exact hf a

theorem map {x : Except ε α} (f : α → β) (hx : Succeeds x) : Succeeds (x.map f) := by
  obtain ⟨a, rfl⟩ := hx
  exact ok (f a)

theorem mapError {x : Except ε α} (f : ε → ε') (hx : Succeeds x) : Succeeds (x.mapError f) := by
  obtain ⟨a, rfl⟩ := hx
  exact ok a

/-- If what comes after a computation succeeds under a condition that does not depend on its result,
the two conditions add up. -/
theorem bind_iff_and {x : Except ε α} {f : α → Except ε β} {P : Prop}
    (hf : ∀ a, Succeeds (f a) ↔ P) :
    Succeeds (x >>= f) ↔ Succeeds x ∧ P := by
  cases x with
  | error e => exact ⟨by rintro ⟨b, ⟨⟩⟩, by rintro ⟨⟨a, ⟨⟩⟩, -⟩⟩
  | ok a => exact (hf a).trans (and_iff_right (ok a)).symm

theorem map_iff {x : Except ε α} {f : α → β} : Succeeds (x.map f) ↔ Succeeds x := by
  cases x with
  | error e => exact ⟨by rintro ⟨b, ⟨⟩⟩, by rintro ⟨a, ⟨⟩⟩⟩
  | ok a => exact ⟨fun _ ↦ ok a, fun _ ↦ ok (f a)⟩

theorem mapError_iff {x : Except ε α} {f : ε → ε'} : Succeeds (x.mapError f) ↔ Succeeds x := by
  cases x with
  | error e => exact ⟨by rintro ⟨b, ⟨⟩⟩, by rintro ⟨a, ⟨⟩⟩⟩
  | ok a => exact ⟨fun _ ↦ ok a, fun _ ↦ ok a⟩

theorem mapM_iff {f : α → Except ε β} {as : List α} :
    Succeeds (as.mapM f) ↔ ∀ a ∈ as, Succeeds (f a) := by
  induction as with
  | nil => exact iff_of_true (ok []) (List.forall_mem_nil _)
  | cons a as ih =>
      rw [List.mapM_cons, List.forall_mem_cons, ← ih]
      refine bind_iff_and fun b ↦ ?_
      rw [bind_iff_and fun bs ↦ iff_of_true (pure (b :: bs)) trivial, and_true]

end Succeeds

/-- Of the computations on the elements of a list, the first that fails is the one on `a`. -/
def FailsAt (f : α → Except ε β) (as : List α) (a : α) (e : ε) : Prop :=
  ∃ before after, as = before ++ a :: after ∧ (∀ b ∈ before, Succeeds (f b)) ∧ f a = .error e

namespace FailsAt

variable {f : α → Except ε β} {as : List α} {a : α}

theorem map_iff {γ : Type} {g : α → β → γ} {e : ε} :
    FailsAt (fun a ↦ (f a).map (g a)) as a e ↔ FailsAt f as a e := by
  simp only [FailsAt, Succeeds.map_iff, map_eq_error_iff]

theorem mapError_iff {g : α → ε → ε'} {e' : ε'} :
    FailsAt (fun a ↦ (f a).mapError (g a)) as a e' ↔ ∃ e, FailsAt f as a e ∧ g a e = e' := by
  simp only [FailsAt, Succeeds.mapError_iff, mapError_eq_error_iff]
  constructor
  · rintro ⟨before, after, rfl, hbefore, e, he, rfl⟩
    exact ⟨e, ⟨before, after, rfl, hbefore, he⟩, rfl⟩
  · rintro ⟨e, ⟨before, after, rfl, hbefore, he⟩, rfl⟩
    exact ⟨before, after, rfl, hbefore, e, he, rfl⟩

end FailsAt

/-- The computation of a list fails with its first element that fails. -/
theorem mapM_eq_error_iff {f : α → Except ε β} {as : List α} {e : ε} :
    as.mapM f = .error e ↔ ∃ a, FailsAt f as a e := by
  induction as with
  | nil =>
      constructor
      · rintro ⟨⟩
      · rintro ⟨a, before, after, h, -⟩
        exact absurd h.symm (by simp)
  | cons a as ih =>
      rw [List.mapM_cons]
      constructor
      · intro h
        rcases bind_eq_error_iff.mp h with ha | ⟨b, hb, h⟩
        · exact ⟨a, [], as, rfl, List.forall_mem_nil _, ha⟩
        · rcases bind_eq_error_iff.mp h with has | ⟨bs, -, h⟩
          · obtain ⟨a', before, after, rfl, hbefore, ha'⟩ := ih.mp has
            exact ⟨a', a :: before, after, rfl, List.forall_mem_cons.mpr ⟨⟨b, hb⟩, hbefore⟩, ha'⟩
          · cases h
      · rintro ⟨a', before, after, has, hbefore, ha'⟩
        -- either the first computation fails, or it succeeds and the failure is further on
        cases before with
        | nil =>
            obtain ⟨rfl, -⟩ := List.cons.inj has
            rw [ha']
            rfl
        | cons b before =>
            obtain ⟨rfl, htail⟩ := List.cons.inj has
            obtain ⟨⟨c, hc⟩, hbefore⟩ := List.forall_mem_cons.mp hbefore
            rw [hc, ok_bind, ih.mpr ⟨a', before, after, htail, hbefore, ha'⟩]
            rfl

/-- If some computations fail, and none of them otherwise than with `e`, the whole fails with
`e`. -/
theorem mapM_eq_error_of_exists {f : α → Except ε β} {as : List α} {e : ε}
    (he : ∀ a ∈ as, Succeeds (f a) ∨ f a = .error e) (h : ∃ a ∈ as, ¬ Succeeds (f a)) :
    as.mapM f = .error e := by
  cases hm : as.mapM f with
  | ok bs =>
      obtain ⟨a, ha, hfails⟩ := h
      exact absurd (Succeeds.mapM_iff.mp ⟨bs, hm⟩ a ha) hfails
  | error e' =>
      obtain ⟨a, before, after, rfl, -, hfails⟩ := mapM_eq_error_iff.mp hm
      rcases he a (by simp) with ⟨b, hb⟩ | hb
      · cases hfails.symm.trans hb
      · rw [Except.error.inj (hfails.symm.trans hb)]

theorem forM_eq_map_mapM (f : α → Except ε PUnit) (as : List α) :
    as.forM f = (as.mapM f).map fun _ ↦ () := by
  induction as with
  | nil => rfl
  | cons a as ih =>
      rw [List.forM, List.mapM_cons, ih]
      cases f a with
      | error e => rfl
      | ok u =>
          cases as.mapM f with
          | error e => rfl
          | ok us => rfl

/-- The first failure in a list whose elements stand in a strict order is the least. -/
theorem failsAt_iff_of_pairwise {f : α → Except ε β} {r : α → α → Prop} {as : List α} {a : α}
    {e : ε} (hasymm : ∀ x y, r x y → ¬ r y x) (h : as.Pairwise r) :
    FailsAt f as a e ↔ a ∈ as ∧ f a = .error e ∧ ∀ b ∈ as, r b a → Succeeds (f b) := by
  constructor
  · rintro ⟨before, after, rfl, hbefore, he⟩
    obtain ⟨-, hafter, -⟩ := List.pairwise_append.mp h
    refine ⟨List.mem_append_right _ List.mem_cons_self, he, ?_⟩
    intro b hb hlt
    rcases List.mem_append.mp hb with hb | hb
    · exact hbefore b hb
    · rcases List.mem_cons.mp hb with rfl | hb
      · exact absurd hlt (hasymm b b hlt)
      · exact absurd hlt (hasymm a b ((List.pairwise_cons.mp hafter).1 b hb))
  · rintro ⟨ha, he, hleast⟩
    obtain ⟨before, after, rfl⟩ := List.append_of_mem ha
    refine ⟨before, after, rfl, ?_, he⟩
    intro b hb
    have hlt := (List.pairwise_append.mp h).2.2 b hb a List.mem_cons_self
    exact hleast b (List.mem_append_left _ hb) hlt

/-- Of the elements of a list, the first that has a fault is `a`. -/
def FirstAt (fault : α → ε → Prop) (as : List α) (a : α) (e : ε) : Prop :=
  ∃ before after, as = before ++ a :: after ∧ (∀ b ∈ before, ∀ e, ¬ fault b e) ∧ fault a e

theorem succeeds_iff_forall_ne {x : Except ε α} : Succeeds x ↔ ∀ e, x ≠ .error e := by
  cases x with
  | error e => exact ⟨by rintro ⟨a, ⟨⟩⟩, fun h ↦ absurd rfl (h e)⟩
  | ok a => exact ⟨fun _ e ↦ by rintro ⟨⟩, fun _ ↦ .ok a⟩

/-- For computations whose failures are described by `fault`, the first failure is the first
fault. -/
theorem failsAt_iff_firstAt {f : α → Except ε β} {fault : α → ε → Prop} {as : List α} {a : α}
    {e : ε} (h : ∀ {a e}, f a = .error e ↔ fault a e) :
    FailsAt f as a e ↔ FirstAt fault as a e := by
  simp only [FailsAt, FirstAt, succeeds_iff_forall_ne, ne_eq, h]

/-- What the computation yields, if it yields a result, satisfies `P`. -/
def Yields (x : Except ε α) (P : α → Prop) : Prop := ∀ a, x = .ok a → P a

namespace Yields

variable {P : α → Prop} {Q : β → Prop}

theorem ok {a : α} (h : P a) : Yields (.ok a : Except ε α) P := by
  rintro b ⟨⟩
  exact h

theorem error (e : ε) : Yields (.error e : Except ε α) P := by
  rintro b ⟨⟩

theorem bind {x : Except ε α} {f : α → Except ε β} (hx : Yields x P)
    (hf : ∀ a, P a → Yields (f a) Q) :
    Yields (x >>= f) Q := by
  intro b hb
  obtain ⟨a, ha, hb⟩ := bind_eq_ok_iff.mp hb
  exact hf a (hx a ha) b hb

/-- What comes after a computation need not depend on what it yields. -/
theorem of_bind {x : Except ε α} {f : α → Except ε β} (hf : ∀ a, Yields (f a) Q) :
    Yields (x >>= f) Q :=
  bind (fun _ _ ↦ trivial) fun a (_ : True) ↦ hf a

theorem map {x : Except ε α} {f : α → β} (hx : Yields x (Q ∘ f)) : Yields (x.map f) Q := by
  intro b hb
  obtain ⟨a, ha, rfl⟩ := map_eq_ok_iff.mp hb
  exact hx a ha

theorem mapError {x : Except ε α} (f : ε → ε') (hx : Yields x P) : Yields (x.mapError f) P := by
  cases x with
  | error e => exact error (f e)
  | ok a => exact ok (hx a rfl)

theorem mapM {f : α → Except ε β} {as : List α} (h : ∀ a ∈ as, Yields (f a) Q) :
    Yields (as.mapM f) fun bs ↦ ∀ b ∈ bs, Q b := by
  induction as with
  | nil => exact ok (List.forall_mem_nil _)
  | cons a as ih =>
      obtain ⟨ha, has⟩ := List.forall_mem_cons.mp h
      rw [List.mapM_cons]
      refine bind ha fun b hb ↦ bind (ih has) fun bs hbs ↦ ?_
      exact ok (List.forall_mem_cons.mpr ⟨hb, hbs⟩)

/-- What every step of a repeated computation keeps holds at its end. -/
theorem foldlM {f : β → α → Except ε β} (hf : ∀ b a, Q b → Yields (f b a) Q) {as : List α} {b : β}
    (hb : Q b) :
    Yields (as.foldlM f b) Q := by
  induction as generalizing b with
  | nil => exact ok hb
  | cons a as ih =>
      rw [List.foldlM_cons]
      exact bind (hf b a hb) fun b' hb' ↦ ih hb'

end Yields

end CallAudit
