import Mathlib.Data.List.Forall2
import DeckPress.Trace

/-!
Laws of computations that may fail. Traces compose associatively, so a walk over a list has the
outcome of the same walk without its messages; and a walk comes to a result exactly when every
step does, with the results in order.
-/

namespace DeckPress

variable {ε α β : Type}

namespace Trace

protected theorem id_map (x : Trace ε α) : id <$> x = x := by
  cases x with
  | mk messages outcome =>
    cases outcome with
    | ok a => exact congrArg (fun all => Trace.mk all (.ok a)) (List.append_nil messages)
    | error e => rfl

protected theorem bind_assoc {γ : Type} (x : Trace ε α) (f : α → Trace ε β) (g : β → Trace ε γ) :
    x >>= f >>= g = x >>= fun a => f a >>= g := by
  cases x with
  | mk messages outcome =>
    cases outcome with
    | error e => rfl
    | ok a =>
      change Trace.bind ⟨messages ++ (f a).messages, (f a).outcome⟩ g =
        ⟨messages ++ (Trace.bind (f a) g).messages, (Trace.bind (f a) g).outcome⟩
      cases f a with
      | mk later result =>
        cases result with
        | error e => rfl
        | ok b => exact congrArg (fun all => Trace.mk all (g b).outcome) (List.append_assoc ..)

instance : LawfulMonad (Trace ε) :=
  LawfulMonad.mk' (Trace ε) Trace.id_map (fun _ _ => rfl) Trace.bind_assoc

theorem outcome_mapM (f : α → Trace ε β) (xs : List α) :
    (xs.mapM f).outcome = xs.mapM fun x => (f x).outcome := by
  induction xs with
  | nil => rfl
  | cons x xs ih =>
    rw [List.mapM_cons, List.mapM_cons, outcome_bind]
    simp only [outcome_bind, ih, outcome_pure]
    rfl

end Trace

/-! ## Returning -/

/-- A computation that comes to a result. -/
def Returns (x : Except ε α) : Prop :=
  ∃ a, x = .ok a

theorem returns_ok (a : α) : Returns (.ok a : Except ε α) :=
  ⟨a, rfl⟩

theorem eq_ok_of_toOption {x : Except ε α} {a : α} (found : x.toOption = some a) : x = .ok a := by
  cases x with
  | error e => cases found
  | ok b => exact congrArg Except.ok (Option.some.inj found)

theorem not_returns_error (e : ε) : ¬ Returns (.error e : Except ε α) := by
  rintro ⟨a, h⟩
  cases h

theorem bind_eq_ok {x : Except ε α} {f : α → Except ε β} {b : β} :
    (x >>= f) = .ok b ↔ ∃ a, x = .ok a ∧ f a = .ok b := by
  constructor
  · intro h
    cases x with
    | error e => cases h
    | ok a => exact ⟨a, rfl, h⟩
  · rintro ⟨a, rfl, h⟩
    exact h

theorem map_eq_ok {x : Except ε α} {f : α → β} {b : β} :
    x.map f = .ok b ↔ ∃ a, x = .ok a ∧ f a = b := by
  cases x <;> simp [Except.map]

theorem map_eq_error {x : Except ε α} {f : α → β} {e : ε} :
    x.map f = .error e ↔ x = .error e := by
  cases x <;> simp [Except.map]

theorem returns_bind {x : Except ε α} {f : α → Except ε β} :
    Returns (x >>= f) ↔ ∃ a, x = .ok a ∧ Returns (f a) := by
  constructor
  · rintro ⟨b, h⟩
    obtain ⟨a, first, rest⟩ := bind_eq_ok.mp h
    exact ⟨a, first, b, rest⟩
  · rintro ⟨a, first, b, rest⟩
    exact ⟨b, bind_eq_ok.mpr ⟨a, first, rest⟩⟩

/-- A step after another one, when it does not matter for it what the first came to. -/
theorem returns_then {x : Except ε α} {f : α → Except ε β} {P : Prop}
    (next : ∀ a, Returns (f a) ↔ P) : Returns (x >>= f) ↔ Returns x ∧ P := by
  refine returns_bind.trans ?_
  constructor
  · rintro ⟨a, done, rest⟩
    exact ⟨⟨a, done⟩, (next a).mp rest⟩
  · rintro ⟨⟨a, done⟩, rest⟩
    exact ⟨a, done, (next a).mpr rest⟩

theorem returns_last {x : Except ε α} {f : α → Except ε β} (next : ∀ a, Returns (f a)) :
    Returns (x >>= f) ↔ Returns x :=
  (returns_then fun a => iff_true_intro (next a)).trans (and_iff_left trivial)

theorem mapM_eq_ok_iff {f : α → Except ε β} {xs : List α} {ys : List β} :
    xs.mapM f = .ok ys ↔ List.Forall₂ (fun x y => f x = .ok y) xs ys := by
  induction xs generalizing ys with
  | nil =>
    constructor
    · intro h
      cases h
      exact .nil
    · intro h
      cases h
      rfl
  | cons x xs ih =>
    rw [List.mapM_cons, bind_eq_ok]
    constructor
    · rintro ⟨y, first, h⟩
      obtain ⟨tail, rest, same⟩ := bind_eq_ok.mp h
      cases same
      exact .cons first (ih.mp rest)
    · intro h
      cases h with
      | cons first rest => exact ⟨_, first, bind_eq_ok.mpr ⟨_, ih.mpr rest, rfl⟩⟩

theorem mem_of_mapM {f : α → Except ε β} {xs : List α} {ys : List β} (walk : xs.mapM f = .ok ys)
    {y : β} (member : y ∈ ys) : ∃ x ∈ xs, f x = .ok y := by
  have steps := mapM_eq_ok_iff.mp walk
  clear walk
  induction steps with
  | nil => cases member
  | cons first rest ih =>
    rcases List.mem_cons.mp member with rfl | later
    · exact ⟨_, List.mem_cons_self, first⟩
    · obtain ⟨x, present, done⟩ := ih later
      exact ⟨x, List.mem_cons_of_mem _ present, done⟩

theorem forall_mem_of_mapM {P : β → Prop} {f : α → Except ε β} {xs : List α} {ys : List β}
    (walk : xs.mapM f = .ok ys) : (∀ y ∈ ys, P y) ↔ ∀ x ∈ xs, ∃ y, f x = .ok y ∧ P y := by
  have steps := mapM_eq_ok_iff.mp walk
  clear walk
  induction steps with
  | nil => simp
  | cons first _ ih => simp [ih, first]

theorem forall_of_walk {P : β → Prop} {f : α → Except ε (Option β)} {xs : List α}
    {found : List (Option β)} (walk : xs.mapM f = .ok found)
    (each : ∀ x ∈ xs, ∀ y, f x = .ok (some y) → P y) :
    ∀ y ∈ found.filterMap fun drawn => drawn, P y := by
  intro y member
  obtain ⟨drawn, present, same⟩ := List.mem_filterMap.mp member
  obtain ⟨x, inside, done⟩ := mem_of_mapM walk present
  exact each x inside y (same ▸ done)

theorem returns_mapM {f : α → Except ε β} {xs : List α} :
    Returns (xs.mapM f) ↔ ∀ x ∈ xs, Returns (f x) := by
  induction xs with
  | nil =>
    constructor
    · intro _ x member
      cases member
    · intro _
      exact returns_ok []
  | cons x xs ih =>
    rw [List.mapM_cons, List.forall_mem_cons, ← ih]
    exact returns_then fun y => returns_last fun ys => returns_ok _

/-- A walk that passes over some elements is the walk over the other ones. -/
theorem mapM_filterMap {γ : Type} {f : α → Except ε (Option γ)} {kept : α → Option β}
    {g : β → Except ε γ} (passed : ∀ x, kept x = none → f x = .ok none)
    (step : ∀ x y, kept x = some y → f x = do return some (← g y)) (xs : List α) :
    (do let found ← xs.mapM f; return found.filterMap fun z => z) = (xs.filterMap kept).mapM g := by
  induction xs with
  | nil => rfl
  | cons x xs ih =>
    cases keeps : kept x with
    | none =>
      rw [List.mapM_cons, passed x keeps, List.filterMap_cons_none keeps, ← ih]
      cases xs.mapM f <;> rfl
    | some y =>
      rw [List.mapM_cons, step x y keeps, List.filterMap_cons_some keeps, List.mapM_cons, ← ih]
      cases g y with
      | error e => rfl
      | ok z => cases xs.mapM f <;> rfl

/-- Elements whose step comes to nothing may be left out of a walk. -/
theorem mapM_filter {f : α → Except ε (Option β)} {keep : α → Bool} {xs : List α}
    (passed : ∀ x ∈ xs, keep x = false → f x = .ok none) :
    (do let found ← (xs.filter keep).mapM f; return found.filterMap fun z => z) =
      (do let found ← xs.mapM f; return found.filterMap fun z => z) := by
  induction xs with
  | nil => rfl
  | cons x xs ih =>
    have below := ih fun y member => passed y (List.mem_cons_of_mem x member)
    cases kept : keep x with
    | false =>
      rw [List.filter_cons_of_neg (by simp [kept]), below, List.mapM_cons,
        passed x List.mem_cons_self kept]
      cases xs.mapM f <;> rfl
    | true =>
      rw [List.filter_cons_of_pos kept, List.mapM_cons, List.mapM_cons]
      generalize (xs.filter keep).mapM f = shorter at below ⊢
      generalize xs.mapM f = whole at below ⊢
      cases f x with
      | error e => rfl
      | ok found =>
        cases shorter with
        | error e =>
          cases whole with
          | error other => cases below; rfl
          | ok all => cases below
        | ok some_found =>
          cases whole with
          | error other => cases below
          | ok all =>
            have same : some_found.filterMap (fun z => z) = all.filterMap fun z => z :=
              Except.ok.inj below
            exact congrArg Except.ok (by cases found <;> simp [same])

/-! ## In step -/

/-- Two computations in step: they fail in the same way, or come to results that are related. -/
inductive InStep {γ : Type} (R : α → γ → Prop) : Except ε α → Except ε γ → Prop where
  | error (e : ε) : InStep R (.error e) (.error e)
  | ok {a : α} {c : γ} (related : R a c) : InStep R (.ok a) (.ok c)

namespace InStep

variable {γ δ : Type} {R : α → γ → Prop}

theorem eq {x y : Except ε α} (steps : InStep Eq x y) : x = y := by
  cases steps with
  | error e => rfl
  | ok same => exact congrArg Except.ok same

theorem of_eq {x y : Except ε α} (same : x = y) : InStep Eq x y := by
  subst same
  cases x with
  | error e => exact .error e
  | ok a => exact .ok rfl

theorem toOption {x : Except ε α} {y : Except ε γ} (steps : InStep R x y) :
    Option.Rel R x.toOption y.toOption := by
  cases steps with
  | error e => exact .none
  | ok related => exact .some related

theorem bind {S : β → δ → Prop} {x : Except ε α} {y : Except ε γ} {f : α → Except ε β}
    {g : γ → Except ε δ} (first : InStep R x y) (next : ∀ a c, R a c → InStep S (f a) (g c)) :
    InStep S (x >>= f) (y >>= g) := by
  cases first with
  | error e => exact .error e
  | ok related => exact next _ _ related

theorem mapM {S : β → δ → Prop} {f : α → Except ε β} {g : γ → Except ε δ}
    (step : ∀ a c, R a c → InStep S (f a) (g c)) {xs : List α} {ys : List γ}
    (related : List.Forall₂ R xs ys) : InStep (List.Forall₂ S) (xs.mapM f) (ys.mapM g) := by
  induction related with
  | nil => exact .ok .nil
  | cons here _ ih =>
    rw [List.mapM_cons, List.mapM_cons]
    refine (step _ _ here).bind fun b d first => ih.bind fun bs ds rest => ?_
    exact .ok (.cons first rest)

end InStep

end DeckPress
