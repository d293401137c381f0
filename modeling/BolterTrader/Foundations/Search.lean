import Mathlib.Logic.Function.Iterate
import Mathlib.Tactic.Common

/-! A loop that tries one candidate after another: what it returns, when two such
loops over the same candidates agree, and how far it can go before it repeats. -/
namespace BolterTrader.Foundations.Search

inductive Verdict (β:Type*) where
 | retry
 | accept (value:β)
 | abort

variable {α β γ:Type*} (next:α→α)

def search (attempt:α→Verdict β):ℕ→α→Option β
 | 0,_=>none
 | fuel+1,a=>
  match attempt a with
  | .accept value=>some value
  | .retry=>search attempt fuel (next a)
  | .abort=>none

variable {next} {attempt:α→Verdict β} {other:α→Verdict γ}

theorem search_eq_some {fuel:ℕ} {a:α} {value:β}:
 search next attempt fuel a=some value ↔
  ∃ n<fuel,attempt (next^[n] a)=.accept value∧∀ m<n,attempt (next^[m] a)=.retry:=by
 induction fuel generalizing a with
 | zero=>simp[search]
 | succ fuel ih=>
  constructor
  · intro h
    simp only[search] at h
    cases hfst : attempt a with
    | accept=>
     rw[hfst] at h
     cases h
     exact ⟨0,Nat.succ_pos fuel,hfst,fun m hm=>absurd hm (Nat.not_lt_zero m)⟩
    | abort=>
     rw[hfst] at h
     cases h
    | retry=>
     rw[hfst] at h
     obtain ⟨n,hn,hacc,hret⟩:=ih.mp h
     refine ⟨n+1,Nat.succ_lt_succ hn,hacc,?_⟩
     intro m hm
     cases m with
     | zero=>exact hfst
     | succ m=>exact hret m (Nat.lt_of_succ_lt_succ hm)
  · rintro ⟨n,hn,hacc,hret⟩
    simp only[search]
    cases n with
    | zero=>
     rw[Function.iterate_zero_apply] at hacc
     rw[hacc]
    | succ n=>
     have hfst:attempt a=.retry:=hret 0 (Nat.succ_pos n)
     rw[hfst]
     exact ih.mpr ⟨n,Nat.lt_of_succ_lt_succ hn,hacc,fun m hm=>hret (m+1) (Nat.succ_lt_succ hm)⟩

theorem search_follow {fuel:ℕ} {a:α} {value:β} {result:γ}
 (h:search next attempt fuel a=some value)
 (hacc:∀ c,attempt c=.accept value→ other c=.accept result)
 (hret:∀ c d,attempt c=.retry→ attempt d=.accept value→ other c=.retry):
 search next other fuel a=some result:=by
 grind [search_eq_some.mp,search_eq_some.mpr]

theorem search_period {fuel period:ℕ} {a:α} {value:β} (hposi:0<period)
 (hper:next^[period] a=a) (h:search next attempt fuel a=some value):
 search next attempt period a=some value:=by
 obtain ⟨n,hn,hlast,hbef⟩:=search_eq_some.mp h
 refine search_eq_some.mpr ⟨n,?_,hlast,hbef⟩
 by_contra hle
 obtain ⟨rest,rfl⟩:=Nat.exists_eq_add_of_le (Nat.le_of_not_lt hle)
 -- The accepted candidate was already tried one period earlier.
 rw[Nat.add_comm,Function.iterate_add_apply,hper] at hlast
 grind

end BolterTrader.Foundations.Search
