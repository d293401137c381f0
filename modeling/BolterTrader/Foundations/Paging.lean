import Mathlib.Data.List.Basic
import Mathlib.Data.Option.Basic

/-! Reading page after page: a call answers with the items of one page and, while there is
more, with the state of the next call. -/
namespace BolterTrader.Foundations.Paging

variable {σ ε α:Type*}

def follow (call:σ→Except ε (List α×Option σ)):ℕ→σ→Except ε (Option (List α))
 | 0,_=>.ok none
 | n+1,s=>
  match call s with
  | .error err=>.error err
  | .ok (items,none)=>.ok (some items)
  | .ok (items,some next)=>(follow call n next).map (Option.map (items ++ ·))

variable {call:σ→Except ε (List α×Option σ)} {s:σ}

theorem follow_last {items:List α} (h:call s=.ok (items,none)) (n:ℕ):
 follow call (n+1) s=.ok (some items):=by
 simp only[follow,h]

theorem follow_more {items:List α} {next:σ} (h:call s=.ok (items,some next)) (n:ℕ):
 follow call (n+1) s=(follow call n next).map (Option.map (items ++ ·)):=by
 simp only[follow,h]

theorem follow_complete (inv:σ→Prop) (rest:σ→List α) (weight:σ→ℕ)
 (hcall:∀ s,inv s→ call s=.ok (rest s,none)∨
  ∃ items next,call s=.ok (items,some next)∧inv next∧items++rest next=rest s∧weight next<weight s)
 (hs:inv s):∃ n,follow call n s=.ok (some (rest s)):=by
 induction hwei : weight s using Nat.strongRecOn generalizing s with
 | ind w ih=>
  obtain hlast | ⟨items,next,hmore,hnext,hrest,hless⟩:=hcall s hs
  · exact ⟨1,follow_last hlast 0⟩
  · obtain ⟨n,hn⟩:=ih (weight next) (hwei▸hless) hnext rfl
    refine ⟨n+1,?_⟩
    rw[follow_more hmore,hn,←hrest]
    rfl

theorem follow_stuck (bad:σ→Prop) (hcall:∀ s,bad s → ∃ items next,call s=.ok (items,some next)∧bad next)
 (hs:bad s) (n:ℕ):follow call n s=.ok none:=by
 induction n generalizing s with
 | zero=>rfl
 | succ n ih=>
  obtain ⟨items,next,hmore,hnext⟩:=hcall s hs
  rw[follow_more hmore,ih hnext]
  rfl

theorem follow_eq_some {n:ℕ} {items:List α} (h:follow call n s=.ok (some items)):
 call s=.ok (items,none)∨
  ∃ first next rest m,call s=.ok (first,some next)∧follow call m next=.ok (some rest)∧items=first++rest:=by
 cases n with
 | zero=>cases h
 | succ n=>
  cases hcall : call s with
  | error=>simp only[follow,hcall,reduceCtorEq] at h
  | ok page=>
   obtain ⟨first,next⟩:=page
   cases next with
   | none=>
    rw[follow_last hcall] at h
    cases h
    exact .inl rfl
   | some next=>
    rw[follow_more hcall] at h
    cases hnext : follow call n next with
    | error=>
     rw[hnext] at h
     cases h
    | ok rest=>
     rw[hnext] at h
     cases rest with
     | none=>cases h
     | some rest=>
      cases h
      grind

theorem follow_first {n:ℕ} {items first:List α} {next:Option σ} (hfst:call s=.ok (first,next))
 (h:follow call n s=.ok (some items)):first <+: items:=by
 obtain hlast | ⟨first',next',rest,m,hmore,-,heq⟩:=follow_eq_some h
 all_goals grind

theorem follow_refused {first items:List α} {next:σ} {err:ε} (hfst:call s=.ok (first,some next))
 (hnext:call next=.error err) (n:ℕ):follow call n s≠.ok (some items):=by
 intro h
 obtain hlast | ⟨first',next',rest,m,hmore,hrest,-⟩:=follow_eq_some h
 · grind
 · rw[hfst] at hmore
   cases hmore
   obtain hlast | ⟨_,_,_,_,hmore,-⟩:=follow_eq_some hrest
   all_goals grind

end BolterTrader.Foundations.Paging
