import Abacus.Phrase

/-! Reading without a limit on nesting.  Every phrase inside another starts at least one token
later, so no phrase of a list stands deeper than the list is long.  The main statement is that the
unlimited reader is its own reader of inner phrases: it follows the rules of a phrase at every
depth. -/

namespace Abacus

/-- A sequence depends on its second part only at the value of the first. -/
theorem Logged.bind_congr_ok {ε α β : Type} {x : Logged ε α} {f g : α → Logged ε β}
    (h : ∀ a, x.result = .ok a → f a = g a) : x >>= f = x >>= g := by
  cases result : x.result with
  | ok a => rw [bind_ok result, bind_ok result, h a result]
  | error e => rw [bind_error result, bind_error result]

namespace Reader

/-! ### Readers that agree on some lists -/

/-- What a reader leaves of a list in the class is in the class again, and so is the list without its
first token. -/
structure Keeps (r : Reader) (P : List Token → Prop) : Prop where
  tail : ∀ {t behind}, P (t :: behind) → P behind
  rest : ∀ {tokens v rest}, P tokens → (r.read tokens).result = .ok (v, rest) → P rest

theorem integer_congr {r s : Reader} {tokens : List Token} (h : r.read tokens = s.read tokens)
    (operation : String) (line : Nat) :
    r.integer operation line tokens = s.integer operation line tokens := by
  unfold integer
  rw [h]

section Agreement

variable {r s : Reader} {P : List Token → Prop} (keeps : r.Keeps P)
  (agree : ∀ tokens, P tokens → r.read tokens = s.read tokens)
include keeps agree

theorem fold_congr {tokens : List Token} (total : Int64) (h : P tokens) :
    r.fold total tokens = s.fold total tokens := by
  induction tokens, total using block_induction (r := r) with
  | nil total => rw [fold_nil, fold_nil]
  | closing t behind total role => rw [fold_closing role, fold_closing role]
  | operator t behind total op role ih =>
    have tail := keeps.tail h
    rw [fold_operator role, fold_operator role, ← integer_congr (agree behind tail)]
    refine Logged.bind_congr_ok fun (m, rest) read => Logged.bind_congr_ok fun sum _ => ?_
    exact ih m rest sum read (keeps.rest tail (integer_eq_ok read))
  | other t behind total closes operates =>
    rw [fold_other closes operates, fold_other closes operates]

/-- A phrase depends on the reader of its inner phrases only at the lists that the reader comes
to. -/
theorem phrase_congr (t : Token) {behind : List Token} (h : P behind) :
    r.phrase (t :: behind) = s.phrase (t :: behind) := by
  have first := agree behind h
  cases role : t.role with
  | call name =>
    rw [phrase_call role, phrase_call role, first]
  | operator op =>
    rw [phrase_operator role, phrase_operator role, ← integer_congr first]
    refine Logged.bind_congr_ok fun (left, rest) read => ?_
    simp only [integer_congr (agree rest (keeps.rest h (integer_eq_ok read)))]
  | opening =>
    rw [phrase_opening role, phrase_opening role, ← integer_congr first]
    refine Logged.bind_congr_ok fun (n, rest) read => ?_
    simp only [fold_congr keeps agree n (keeps.rest h (integer_eq_ok read))]
  | text content => rw [phrase_text role, phrase_text role]
  | number numeral => rw [phrase_number role, phrase_number role]
  | closing => rw [phrase_idle (.inl role), phrase_idle (.inl role)]
  | idle => rw [phrase_idle (.inr role), phrase_idle (.inr role)]

end Agreement

/-- A phrase depends on the reader of its inner phrases only at shorter lists. -/
theorem phrase_congr_of_shorter {r s : Reader} {tokens : List Token}
    (h : ∀ shorter : List Token, shorter.length < tokens.length → r.read shorter = s.read shorter) :
    r.phrase tokens = s.phrase tokens := by
  cases tokens with
  | nil => rfl
  | cons t behind =>
    have keeps : r.Keeps fun list => list.length < (t :: behind).length := by
      refine ⟨fun short => ?_, fun short read => Nat.lt_trans (r.shorter read) short⟩
      rw [List.length_cons] at short
      omega
    exact phrase_congr keeps h t (Nat.lt_succ_self _)

/-- A limit that no phrase of a list can reach makes no difference. -/
theorem within_congr : ∀ (d e : Nat) {tokens : List Token}, tokens.length ≤ d → tokens.length ≤ e →
    (within d).read tokens = (within e).read tokens
  | 0, 0, _, _, _ => rfl
  | 0, e + 1, tokens, hd, _ => by
    rw [List.eq_nil_of_length_eq_zero (Nat.le_zero.mp hd)]
    rfl
  | d + 1, 0, tokens, _, he => by
    rw [List.eq_nil_of_length_eq_zero (Nat.le_zero.mp he)]
    rfl
  | d + 1, e + 1, tokens, hd, he =>
    phrase_congr_of_shorter fun _ short => within_congr d e (by omega) (by omega)

/-! ### The unlimited reader -/

/-- The reader of phrases nested to any depth. -/
def unlimited : Reader where
  read tokens := (within tokens.length).read tokens
  shorter h := (within _).shorter h

theorem unlimited_read_eq {d : Nat} {tokens : List Token} (h : tokens.length ≤ d) :
    unlimited.read tokens = (within d).read tokens :=
  within_congr _ d (Nat.le_refl _) h

/-- The unlimited reader reads a phrase with itself for the phrases inside. -/
theorem unlimited_read (tokens : List Token) :
    unlimited.read tokens = unlimited.phrase tokens := by
  rw [unlimited_read_eq (Nat.le_succ tokens.length)]
  exact phrase_congr_of_shorter fun shorter short => (unlimited_read_eq (Nat.le_of_lt short)).symm

end Reader

end Abacus
