import Mathlib.Data.Nat.Notation
import Mathlib.Logic.Function.Basic

/-! A map from keys to the current entry of a list that only grows, by its place: what the
map holds after a new entry took over a key, and after an entry was taken out. -/
namespace BolterTrader.Foundations.Current

variable {κ:Type*} {map map':κ→Option ℕ} {key other:κ} {i k n:ℕ}

section
variable [DecidableEq κ]

theorem put_cases (h:Function.update map key (some n) other=some k):
 other=key∧k=n∨other≠key∧map other=some k:=by
 grind

theorem of_put (h:Function.update map key (some n) other=some k) (hk:k<n):map other=some k:=by
 grind

theorem put_of_some (hnone:map key=none) (h:map other=some k):
 Function.update map key (some n) other=some k:=by
 grind

theorem of_take (h:Function.update map key none other=some k):other≠key∧map other=some k:=by
 grind

end

def Shrinks (map map':κ→Option ℕ) (i:ℕ):Prop:=∀ key,map' key=map key∨map key=some i∧map' key=none

theorem Shrinks.refl (map:κ→Option ℕ) (i:ℕ):Shrinks map map i:=fun _=>.inl rfl

theorem Shrinks.take [DecidableEq κ] (h:map key=some i):Shrinks map (Function.update map key none) i:=by
 intro other
 grind

theorem Shrinks.eq_some_iff (h:Shrinks map map' i) (hk:k≠i):map' key=some k ↔ map key=some k:=by
 rcases h key with heq | ⟨hsome,hnone⟩
 all_goals grind

end BolterTrader.Foundations.Current
