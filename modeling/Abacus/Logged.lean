/-! Computations that write lines as they go.  A logged computation is the list of the lines that it
wrote and its result, a value or an error.  The lines written before an error stay. -/

namespace Abacus

/-- The lines that a computation wrote, and its result. -/
structure Logged (ε α : Type) where
  log : List String
  result : Except ε α

namespace Logged

variable {ε α β : Type}

@[ext] theorem ext {x y : Logged ε α} (log : x.log = y.log) (result : x.result = y.result) :
    x = y := by
  cases x; cases y; simp_all

/-- The computation that fails at once. -/
def fail (e : ε) : Logged ε α := ⟨[], .error e⟩

/-- The computation that writes nothing and has the given result. -/
def ofExcept (result : Except ε α) : Logged ε α := ⟨[], result⟩

/-- The computation that writes lines. -/
def write (lines : List String) : Logged ε Unit := ⟨lines, .ok ()⟩

/-- Goes on with the value of `x`, if there is one, and joins the lines. -/
protected def bind (x : Logged ε α) (f : α → Logged ε β) : Logged ε β :=
  match x.result with
  | .ok a =>
    let y := f a
    ⟨x.log ++ y.log, y.result⟩
  | .error e => ⟨x.log, .error e⟩

/-- The computation with `f` applied to its value. -/
protected def map (f : α → β) (x : Logged ε α) : Logged ε β := ⟨x.log, x.result.map f⟩

instance : Monad (Logged ε) where
  pure a := ⟨[], .ok a⟩
  bind := Logged.bind

instance : MonadLift (Except ε) (Logged ε) where
  monadLift := ofExcept

/-- The computation with another name for its errors. -/
def mapError {δ : Type} (f : ε → δ) (x : Logged ε α) : Logged δ α := ⟨x.log, x.result.mapError f⟩

/-- The computation with the proof that its value is its result. -/
def attach : (x : Logged ε α) → Logged ε { a : α // x.result = .ok a }
  | ⟨log, .ok a⟩ => ⟨log, .ok ⟨a, rfl⟩⟩
  | ⟨log, .error e⟩ => ⟨log, .error e⟩

/-! ### Equations -/

theorem pure_def (a : α) : (pure a : Logged ε α) = ⟨[], .ok a⟩ := rfl

theorem bind_ok {x : Logged ε α} {a : α} (h : x.result = .ok a) (f : α → Logged ε β) :
    x >>= f = ⟨x.log ++ (f a).log, (f a).result⟩ := by
  change x.bind f = _
  simp only [Logged.bind, h]

theorem bind_error {x : Logged ε α} {e : ε} (h : x.result = .error e) (f : α → Logged ε β) :
    x >>= f = ⟨x.log, .error e⟩ := by
  change x.bind f = _
  simp only [Logged.bind, h]

instance : LawfulMonad (Logged ε) :=
  LawfulMonad.mk' (Logged ε)
    (fun ⟨log, result⟩ => by cases result <;> simp [Functor.map, Logged.bind])
    (fun _ _ => rfl)
    (fun ⟨log, result⟩ f g => by
      cases result with
      | error e => rfl
      | ok a => cases h : (f a).result <;> simp [bind, Logged.bind, h, List.append_assoc])

/-- To go on by a pure step is to map. -/
theorem bind_pure_eq_map (x : Logged ε α) (f : α → β) : (x >>= fun a => pure (f a)) = x.map f := by
  obtain ⟨log, result⟩ := x
  cases result <;> simp [bind, Logged.bind, pure, Logged.map, Except.map]

/-- The computation with `f` applied to its value and `m` to its error. -/
def bimap {δ : Type} (f : α → β) (m : ε → δ) (x : Logged ε α) : Logged δ β := (x.map f).mapError m

/-- A change of values and errors passes through a sequence that follows it step by step. -/
theorem bimap_bind {δ α' β' : Type} {k : α → α'} {l : β → β'} {m : ε → δ} {x : Logged ε α}
    {f : α → Logged ε β} {g : α' → Logged δ β'}
    (next : ∀ a, x.result = .ok a → g (k a) = (f a).bimap l m) :
    x.bimap k m >>= g = (x >>= f).bimap l m := by
  obtain ⟨log, result⟩ := x
  cases result with
  | error e => rfl
  | ok a =>
    have here := next a rfl
    change (⟨log ++ (g (k a)).log, (g (k a)).result⟩ : Logged δ β') = _
    rw [here]
    rfl

theorem bimap_id_right (f : α → β) (x : Logged ε α) : x.bimap f id = x.map f := by
  obtain ⟨log, result⟩ := x
  cases result <;> rfl

theorem bimap_id_left {δ : Type} (m : ε → δ) (x : Logged ε α) : x.bimap id m = x.mapError m := by
  obtain ⟨log, result⟩ := x
  cases result <;> rfl

theorem map_bind_of {α' β' : Type} {k : α → α'} {l : β → β'} {x : Logged ε α}
    {f : α → Logged ε β} {g : α' → Logged ε β'}
    (next : ∀ a, x.result = .ok a → g (k a) = (f a).map l) :
    x.map k >>= g = (x >>= f).map l := by
  have both := bimap_bind (m := id) fun a found => (next a found).trans (bimap_id_right l _).symm
  rwa [bimap_id_right, bimap_id_right] at both

theorem map_id (x : Logged ε α) : x.map id = x := by
  obtain ⟨log, result⟩ := x
  cases result <;> rfl

theorem map_map {γ : Type} (g : β → γ) (f : α → β) (x : Logged ε α) :
    (x.map f).map g = x.map fun a => g (f a) := by
  obtain ⟨log, result⟩ := x
  cases result <;> rfl

theorem map_bind {γ : Type} (k : β → γ) (x : Logged ε α) (f : α → Logged ε β) :
    (x >>= f).map k = x >>= fun a => (f a).map k := by
  obtain ⟨log, result⟩ := x
  cases result <;> rfl

/-- A sequence gives a value exactly when both of its parts do. -/
theorem result_bind_eq_ok_iff {x : Logged ε α} {f : α → Logged ε β} {b : β} :
    (x >>= f).result = .ok b ↔ ∃ a, x.result = .ok a ∧ (f a).result = .ok b := by
  cases h : x.result with
  | ok a => simp [bind_ok h]
  | error e => simp [bind_error h]

/-- A sequence fails where one of its parts does. -/
theorem result_bind_eq_error_iff {x : Logged ε α} {f : α → Logged ε β} {e : ε} :
    (x >>= f).result = .error e ↔
      x.result = .error e ∨ ∃ a, x.result = .ok a ∧ (f a).result = .error e := by
  cases h : x.result with
  | ok a => simp [bind_ok h]
  | error e => simp [bind_error h]

theorem result_map_eq_ok_iff {f : α → β} {x : Logged ε α} {b : β} :
    (x.map f).result = .ok b ↔ ∃ a, x.result = .ok a ∧ f a = b := by
  obtain ⟨log, result⟩ := x
  cases result <;> simp [Logged.map, Except.map]

@[simp] theorem mk_ok_bind (log : List String) (a : α) (f : α → Logged ε β) :
    ((⟨log, .ok a⟩ : Logged ε α) >>= f) = ⟨log ++ (f a).log, (f a).result⟩ := rfl

@[simp] theorem mk_error_bind (log : List String) (e : ε) (f : α → Logged ε β) :
    ((⟨log, .error e⟩ : Logged ε α) >>= f) = ⟨log, .error e⟩ := rfl

/-- The attached proof changes nothing. -/
@[simp] theorem attach_bind (x : Logged ε α) (f : α → Logged ε β) :
    (x.attach >>= fun a => f a.val) = x >>= f := by
  obtain ⟨log, result⟩ := x
  cases result <;> rfl

end Logged

end Abacus
