import Mathlib.Tactic.Lemma

/-!
Steps that can fail. A chain of steps that succeeds has succeeded at each step, and a step that is taken for all
elements of a list succeeds where it does for each; a chain fails in no other way than its steps.
-/
namespace TagRules

variable {ε ε' α β : Type}

lemma ok_of_bind {x : Except ε α} {f : α → Except ε β} {b : β} (h : x >>= f = .ok b) :
    ∃ a, x = .ok a ∧ f a = .ok b := by
  cases x with
  | error e => cases h
  | ok a => exact ⟨a, rfl, h⟩

lemma ok_of_map {x : Except ε α} {f : α → β} {b : β} (h : x.map f = .ok b) : ∃ a, x = .ok a ∧ f a = b := by
  cases x with
  | error e => cases h
  | ok a =>
    cases h
    exact ⟨a, rfl, rfl⟩

lemma ok_of_mapError {x : Except ε α} {f : ε → ε'} {a : α} (h : x.mapError f = .ok a) : x = .ok a := by
  cases x with
  | error e => cases h
  | ok b =>
    cases h
    rfl

lemma exists_of_isOk {x : Except ε α} (h : x.isOk = true) : ∃ a, x = .ok a := by
  cases x with
  | error e => cases h
  | ok a => exact ⟨a, rfl⟩

lemma exists_of_mapM_ok {f : α → Except ε β} {xs : List α} {ys : List β} (h : xs.mapM f = .ok ys) {y : β}
    (hy : y ∈ ys) : ∃ x ∈ xs, f x = .ok y := by
  induction xs generalizing ys with
  | nil =>
    cases h
    cases hy
  | cons x xs ih =>
    rw [List.mapM_cons] at h
    obtain ⟨b, hb, h⟩ := ok_of_bind h
    obtain ⟨bs, hbs, h⟩ := ok_of_bind h
    cases h
    obtain rfl | hy := List.mem_cons.1 hy
    · exact ⟨x, List.mem_cons_self, hb⟩
    · obtain ⟨x', hx', he⟩ := ih hbs hy
      exact ⟨x', List.mem_cons_of_mem _ hx', he⟩

lemma ok_of_mem_mapM {f : α → Except ε β} {xs : List α} {ys : List β} (h : xs.mapM f = .ok ys) {x : α}
    (hx : x ∈ xs) : ∃ y ∈ ys, f x = .ok y := by
  induction xs generalizing ys with
  | nil => cases hx
  | cons a xs ih =>
    rw [List.mapM_cons] at h
    obtain ⟨b, hb, h⟩ := ok_of_bind h
    obtain ⟨bs, hbs, h⟩ := ok_of_bind h
    cases h
    obtain rfl | hx := List.mem_cons.1 hx
    · exact ⟨b, List.mem_cons_self, hb⟩
    · obtain ⟨y, hm, hy⟩ := ih hbs hx
      exact ⟨y, List.mem_cons_of_mem _ hm, hy⟩

lemma ok_of_mem_foldlM {f : β → α → Except ε β} {xs : List α} {b b' : β} (h : xs.foldlM f b = .ok b') {x : α}
    (hx : x ∈ xs) : ∃ b₁ b₂, f b₁ x = .ok b₂ := by
  induction xs generalizing b with
  | nil => cases hx
  | cons a xs ih =>
    rw [List.foldlM_cons] at h
    obtain ⟨b₁, hb, h⟩ := ok_of_bind h
    obtain rfl | hx := List.mem_cons.1 hx
    · exact ⟨b, b₁, hb⟩
    · exact ih h hx

lemma ok_of_foldlM {P : β → Prop} {f : β → α → Except ε β} {xs : List α} {b b' : β} (h : xs.foldlM f b = .ok b')
    (hb : P b) (hf : ∀ a ∈ xs, ∀ b b', P b → f b a = .ok b' → P b') : P b' := by
  induction xs generalizing b with
  | nil =>
    cases h
    exact hb
  | cons a xs ih =>
    rw [List.foldlM_cons] at h
    obtain ⟨b₁, hb₁, h⟩ := ok_of_bind h
    exact ih h (hf a List.mem_cons_self b b₁ hb hb₁) fun a' ha => hf a' (List.mem_cons_of_mem _ ha)

lemma mapM_eq_ok {f : α → Except ε β} {g : α → β} {xs : List α} (h : ∀ x ∈ xs, f x = .ok (g x)) :
    xs.mapM f = .ok (xs.map g) := by
  induction xs with
  | nil => rfl
  | cons x xs ih =>
    rw [List.mapM_cons, h x List.mem_cons_self, ih fun y hy => h y (List.mem_cons_of_mem _ hy)]
    rfl

/-- Where a step succeeds with what another one gives, a step for all elements does. -/
lemma mapM_ok_of_imp {f g : α → Except ε β} (hfg : ∀ a b, f a = .ok b → g a = .ok b) {xs : List α} {ys : List β}
    (h : xs.mapM f = .ok ys) : xs.mapM g = .ok ys := by
  induction xs generalizing ys with
  | nil => exact h
  | cons a xs ih =>
    rw [List.mapM_cons] at h ⊢
    obtain ⟨b, hb, h⟩ := ok_of_bind h
    obtain ⟨bs, hbs, h⟩ := ok_of_bind h
    rw [hfg a b hb, ih hbs]
    exact h

/-- Errors may be turned into others before or after. -/
lemma mapM_mapError (g : ε → ε') (f : α → Except ε β) (xs : List α) :
    xs.mapM (fun a => (f a).mapError g) = (xs.mapM f).mapError g := by
  induction xs with
  | nil => rfl
  | cons a xs ih =>
    rw [List.mapM_cons, List.mapM_cons, ih]
    cases f a with
    | error e => rfl
    | ok b => cases xs.mapM f <;> rfl

lemma map_eq_of_mapM_ok {γ : Type} {f : α → Except ε β} {g : β → γ} {h : α → γ}
    (hf : ∀ a b, f a = .ok b → g b = h a) {xs : List α} {ys : List β} (hm : xs.mapM f = .ok ys) :
    ys.map g = xs.map h := by
  induction xs generalizing ys with
  | nil =>
    cases hm
    rfl
  | cons a xs ih =>
    rw [List.mapM_cons] at hm
    obtain ⟨b, hb, hm⟩ := ok_of_bind hm
    obtain ⟨bs, hbs, hm⟩ := ok_of_bind hm
    cases hm
    rw [List.map_cons, List.map_cons, hf a b hb, ih hbs]

lemma bind_eq_error {x : Except ε α} {f : α → Except ε β} {e : ε} :
    x >>= f = .error e ↔ x = .error e ∨ ∃ a, x = .ok a ∧ f a = .error e := by
  cases x with
  | error e' => simp [bind, Except.bind]
  | ok a => simp [bind, Except.bind]

lemma mapError_eq_error {x : Except ε α} {f : ε → ε'} {e' : ε'} :
    x.mapError f = .error e' ↔ ∃ e, x = .error e ∧ f e = e' := by
  constructor
  · intro h
    cases x with
    | error e =>
      cases h
      exact ⟨e, rfl, rfl⟩
    | ok a => cases h
  · rintro ⟨e, rfl, rfl⟩
    rfl

/-- A list fails at the first element that does. -/
lemma mapM_eq_error {f : α → Except ε β} {xs : List α} {e : ε} : xs.mapM f = .error e ↔
    ∃ front a back, xs = front ++ a :: back ∧ (∀ b ∈ front, ∃ c, f b = .ok c) ∧ f a = .error e := by
  induction xs with
  | nil => simp [pure, Except.pure]
  | cons x xs ih =>
    rw [List.mapM_cons, bind_eq_error]
    constructor
    · rintro (hx | ⟨c, hx, h⟩)
      · exact ⟨[], x, xs, rfl, by simp, hx⟩
      · obtain h | ⟨cs, -, h⟩ := bind_eq_error.1 h
        · obtain ⟨front, a, back, rfl, hf, ha⟩ := ih.1 h
          exact ⟨x :: front, a, back, rfl, List.forall_mem_cons.2 ⟨⟨c, hx⟩, hf⟩, ha⟩
        · cases h
    · rintro ⟨front, a, back, he, hf, ha⟩
      cases front with
      | nil =>
        cases he
        exact .inl ha
      | cons b front =>
        cases he
        obtain ⟨⟨c, hc⟩, hf⟩ := List.forall_mem_cons.1 hf
        exact .inr ⟨c, hc, bind_eq_error.2 (.inl (ih.2 ⟨front, a, back, rfl, hf, ha⟩))⟩

lemma exists_mapM_eq_error {f : α → Except ε β} {xs : List α} :
    (∃ e, xs.mapM f = .error e) ↔ ∃ a ∈ xs, ∃ e, f a = .error e := by
  constructor
  · rintro ⟨e, h⟩
    obtain ⟨front, a, back, rfl, -, ha⟩ := mapM_eq_error.1 h
    exact ⟨a, by simp, e, ha⟩
  · rintro ⟨a, hm, e, ha⟩
    cases h : xs.mapM f with
    | error e' => exact ⟨e', rfl⟩
    | ok ys =>
      obtain ⟨y, -, hy⟩ := ok_of_mem_mapM h hm
      rw [ha] at hy
      cases hy

lemma exists_error_iff {x : Except ε α} : (∃ e, x = .error e) ↔ ¬ ∃ a, x = .ok a := by
  cases x <;> simp

lemma filterMap_of_mapM_some {f : α → Option β} {xs : List α} {ys : List β} (h : xs.mapM f = some ys) :
    xs.filterMap f = ys := by
  induction xs generalizing ys with
  | nil =>
    cases h
    rfl
  | cons x xs ih =>
    simp only [List.mapM_cons, Option.pure_def, Option.bind_eq_bind, Option.bind_eq_some_iff, Option.some.injEq] at h
    obtain ⟨y, hy, zs, hzs, rfl⟩ := h
    rw [List.filterMap_cons_some hy, ih hzs]

/-- Whatever error a step ends with is one of a kind. -/
def FailsIn (P : ε → Prop) (x : Except ε α) : Prop := ∀ e, x = .error e → P e

section FailsIn

variable {P Q : ε → Prop}

lemma failsIn_ok (a : α) : FailsIn P (.ok a) := fun _ h => by cases h

lemma failsIn_error {e : ε} (h : P e) : FailsIn P (.error e : Except ε α) := by
  intro e' he
  cases he
  exact h

lemma FailsIn.mono {x : Except ε α} (h : FailsIn P x) (hPQ : ∀ e, P e → Q e) : FailsIn Q x :=
  fun e he => hPQ e (h e he)

lemma FailsIn.mapError {P : ε' → Prop} {x : Except ε α} {g : ε → ε'} (h : FailsIn (fun e => P (g e)) x) :
    FailsIn P (x.mapError g) := by
  cases x with
  | error e => exact failsIn_error (h e rfl)
  | ok a => exact failsIn_ok a

lemma FailsIn.bind {x : Except ε α} {f : α → Except ε β} (hx : FailsIn P x) (hf : ∀ a, x = .ok a → FailsIn P (f a)) :
    FailsIn P (x >>= f) := by
  cases x with
  | error e => exact failsIn_error (hx e rfl)
  | ok a => exact hf a rfl

lemma FailsIn.mapM {f : α → Except ε β} {xs : List α} (h : ∀ a ∈ xs, FailsIn P (f a)) : FailsIn P (xs.mapM f) := by
  induction xs with
  | nil => exact failsIn_ok []
  | cons a xs ih =>
    rw [List.mapM_cons]
    refine (h a List.mem_cons_self).bind fun b _ => ?_
    exact (ih fun a' ha' => h a' (List.mem_cons_of_mem _ ha')).bind fun bs _ => failsIn_ok (b :: bs)

lemma FailsIn.foldlM {f : β → α → Except ε β} {xs : List α} (h : ∀ b, ∀ a ∈ xs, FailsIn P (f b a)) (b : β) :
    FailsIn P (xs.foldlM f b) := by
  induction xs generalizing b with
  | nil => exact failsIn_ok b
  | cons a xs ih =>
    rw [List.foldlM_cons]
    exact (h b a List.mem_cons_self).bind fun b' _ => ih (fun b a ha => h b a (List.mem_cons_of_mem _ ha)) b'

end FailsIn

/-- A result, unless there is an error. -/
def okUnless (error : Option ε) (a : α) : Except ε α :=
  match error with
  | some e => .error e
  | none => .ok a

lemma okUnless_eq_ok {error : Option ε} {a b : α} : okUnless error a = .ok b ↔ error = none ∧ a = b := by
  cases error <;> simp [okUnless]

lemma okUnless_eq_error {error : Option ε} {a : α} {e : ε} : okUnless error a = .error e ↔ error = some e := by
  cases error <;> simp [okUnless]

/-- The first element that fails decides how a list does. -/
lemma mapM_eq_okUnless {f : α → Except ε β} {error : α → Option ε} {g : α → β}
    (h : ∀ a, f a = okUnless (error a) (g a)) (xs : List α) :
    xs.mapM f = okUnless (xs.findSome? error) (xs.map g) := by
  induction xs with
  | nil => rfl
  | cons a xs ih =>
    rw [List.mapM_cons, h a, ih, List.findSome?_cons]
    cases error a with
    | some e => rfl
    | none => cases xs.findSome? error <;> rfl

lemma findSome?_flatMap {γ : Type} (f : β → Option γ) (g : α → List β) (xs : List α) :
    (xs.flatMap g).findSome? f = xs.findSome? fun a => (g a).findSome? f := by
  induction xs with
  | nil => rfl
  | cons a xs ih =>
    rw [List.flatMap_cons, List.findSome?_append, List.findSome?_cons, ih]
    cases (g a).findSome? f <;> rfl

end TagRules
